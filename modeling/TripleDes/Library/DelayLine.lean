import TripleDes.Library.Events
import Mathlib.Algebra.BigOperators.Group.Finset.Basic

/-!
# Resettable delay lines

A delay line of one-bit cells moves every bit one cell further in each cycle.
A reset clears the cells, except those marked as kept, which hold their bit
until the reset ends.  The last cell therefore shows either a bit that entered
exactly `length` cycles ago and met no reset, or a bit that a reset stranded
in a kept cell and that resumed its way after the reset.
-/

/-- `cell cycle position` is the history of a delay line of `length` cells
that is fed by `entering`. -/
structure DelayLine (length : Nat) (kept : Nat → Bool)
    (reset entering : Nat → Bool) (cell : Nat → Nat → Bool) : Prop where
  enter : ∀ cycle, reset cycle = false → cell (cycle + 1) 0 = entering cycle
  shift : ∀ cycle position, reset cycle = false → position + 1 < length →
    cell (cycle + 1) (position + 1) = cell cycle position
  clear : ∀ cycle position, reset cycle = true → position < length →
    cell (cycle + 1) position = (kept position && cell cycle position)

namespace DelayLine

variable {length : Nat} {kept reset entering : Nat → Bool}
  {cell : Nat → Nat → Bool}

/-- Two lines in series. -/
theorem append {length' : Nat} {kept' : Nat → Bool}
    {cell' : Nat → Nat → Bool} (positive : 0 < length)
    (front : DelayLine length kept reset entering cell)
    (back : DelayLine length' kept' reset
      (fun cycle => cell cycle (length - 1)) cell') :
    DelayLine (length + length')
      (fun position =>
        if position < length then kept position else kept' (position - length))
      reset entering
      (fun cycle position =>
        if position < length then cell cycle position
        else cell' cycle (position - length)) where
  enter cycle low := by
    rw [if_pos positive, front.enter cycle low]
  shift cycle position low bound := by
    by_cases inside : position + 1 < length
    · rw [if_pos inside, if_pos (by omega),
        front.shift cycle position low inside]
    by_cases crossing : position + 1 = length
    · have last : position = length - 1 := by omega
      rw [if_neg inside, if_pos (by omega), crossing, Nat.sub_self,
        back.enter cycle low, last]
    · have later : position + 1 - length = position - length + 1 := by omega
      rw [if_neg inside, if_neg (by omega), later,
        back.shift cycle (position - length) low (by omega)]
  clear cycle position high bound := by
    by_cases inside : position < length
    · simp only [if_pos inside]
      exact front.clear cycle position high inside
    · simp only [if_neg inside]
      exact back.clear cycle (position - length) high (by omega)

/-- The first cells of a line. -/
theorem take (line : DelayLine length kept reset entering cell)
    {shorter : Nat} (within : shorter ≤ length) :
    DelayLine shorter kept reset entering cell where
  enter := line.enter
  shift cycle position low bound :=
    line.shift cycle position low (Nat.lt_of_lt_of_le bound within)
  clear cycle position high bound :=
    line.clear cycle position high (Nat.lt_of_lt_of_le bound within)

section Positions

variable (line : DelayLine length kept reset entering cell)
include line

theorem advance (start position steps : Nat)
    (low : ∀ cycle, start ≤ cycle → cycle < start + steps →
      reset cycle = false)
    (bound : position + steps < length) :
    cell (start + steps) (position + steps) = cell start position := by
  induction steps with
  | zero => rfl
  | succ steps ih =>
      have moved := line.shift (start + steps) (position + steps)
        (low _ (by omega) (by omega)) (by omega)
      exact moved.trans
        (ih (fun cycle after before => low cycle after (by omega)) (by omega))

theorem arrival (start position : Nat)
    (low : ∀ cycle, start ≤ cycle → cycle < start + position + 1 →
      reset cycle = false)
    (bound : position < length) :
    cell (start + position + 1) position = entering start := by
  have moved := line.advance (start + 1) 0 position
    (fun cycle after before => low cycle (by omega) (by omega)) (by omega)
  rw [Nat.zero_add, Nat.add_right_comm] at moved
  rw [moved, line.enter start (low start (Nat.le_refl start) (by omega))]

theorem resumption (start position steps : Nat) (high : reset start = true)
    (low : ∀ cycle, start < cycle → cycle < start + 1 + steps →
      reset cycle = false)
    (bound : position + steps < length) :
    cell (start + 1 + steps) (position + steps) =
      (kept position && cell start position) := by
  rw [line.advance (start + 1) position steps
      (fun cycle after before => low cycle (by omega) before) bound,
    line.clear start position high (by omega)]

end Positions

section Outputs

/-- A bit entered exactly `length` cycles before `cycle` and has met no
reset. -/
def Accepted (length : Nat) (reset entering : Nat → Bool) (cycle : Nat) :
    Prop :=
  ∃ start, start + length = cycle ∧ entering start = true ∧
    ∀ between, start ≤ between → between < cycle → reset between = false

/-- The last reset before `cycle` found a bit in a kept cell that reaches the
last cell in `cycle`. -/
def Stranded (length : Nat) (kept reset : Nat → Bool)
    (cell : Nat → Nat → Bool) (cycle : Nat) : Prop :=
  ∃ position start, position < length ∧
    start + (length - position) = cycle ∧ reset start = true ∧
    (∀ between, start < between → between < cycle → reset between = false) ∧
    kept position = true ∧ cell start position = true

theorem Accepted.not_stranded {cycle : Nat}
    (accepted : Accepted length reset entering cycle) :
    ¬ Stranded length kept reset cell cycle := by
  rintro ⟨position, blocked, bound, reaches, high, -, -, -⟩
  obtain ⟨start, entered, -, low⟩ := accepted
  have met := low blocked (by omega) (by omega)
  rw [high] at met
  contradiction

/-- Once a first reset has cleared the line, its last cell shows the accepted
bits and the stranded ones, and nothing else. -/
theorem output_iff (line : DelayLine length kept reset entering cell)
    (positive : 0 < length) {first cycle : Nat} (high : reset first = true)
    (later : first < cycle) :
    cell cycle (length - 1) = true ↔
      Accepted length reset entering cycle ∨
        Stranded length kept reset cell cycle := by
  obtain ⟨last, -, before, lastHigh, low⟩ :=
    Events.exists_last_before reset high later
  by_cases whole : last + length < cycle
  · -- the whole line has been refilled since the last reset
    have shown := line.arrival (cycle - length) (length - 1)
      (fun between after upTo => low between (by omega) (by omega)) (by omega)
    have now : cycle - length + (length - 1) + 1 = cycle := by omega
    rw [now] at shown
    constructor
    · intro set
      exact .inl ⟨cycle - length, by omega, shown.symm.trans set,
        fun between after upTo => low between (by omega) upTo⟩
    · rintro (⟨start, entered, set, -⟩ |
        ⟨position, start, bound, reaches, again, -⟩)
      · rwa [shown, show cycle - length = start by omega]
      · rw [low start (by omega) (by omega)] at again
        contradiction
  · -- the last cell shows what the reset left in the line
    have shown := line.resumption last (last + length - cycle)
      (cycle - last - 1) lastHigh
      (fun between after upTo => low between after (by omega)) (by omega)
    have now : last + 1 + (cycle - last - 1) = cycle := by omega
    have cellLast : last + length - cycle + (cycle - last - 1) =
        length - 1 := by omega
    rw [now, cellLast] at shown
    rw [shown, Bool.and_eq_true]
    constructor
    · rintro ⟨isKept, set⟩
      exact .inr ⟨last + length - cycle, last, by omega, by omega, lastHigh,
        low, isKept, set⟩
    · rintro (⟨start, entered, -, quiet⟩ |
        ⟨position, start, bound, reaches, again, quiet, isKept, set⟩)
      · rw [quiet last (by omega) before] at lastHigh
        contradiction
      · have same : start = last := by
          rcases Nat.lt_trichotomy start last with less | same | more
          · rw [quiet last less before] at lastHigh
            contradiction
          · exact same
          · rw [low start more (by omega)] at again
            contradiction
        subst same
        rw [show start + length - cycle = position by omega]
        exact ⟨isKept, set⟩

/-- The last cell shows exactly the accepted bits in the cycles that no
stranded bit reaches. -/
theorem output_iff_accepted_iff
    (line : DelayLine length kept reset entering cell)
    (positive : 0 < length) {first cycle : Nat} (high : reset first = true)
    (later : first < cycle) :
    (cell cycle (length - 1) = true ↔ Accepted length reset entering cycle) ↔
      ¬ Stranded length kept reset cell cycle := by
  rw [line.output_iff positive high later]
  constructor
  · intro exact_ stranded
    exact (exact_.mp (.inr stranded)).not_stranded stranded
  · intro none
    exact ⟨fun shown => shown.resolve_right none, .inl⟩

end Outputs

section Counting

/-- Bits in the line. -/
def occupied (length : Nat) (cell : Nat → Nat → Bool) (cycle : Nat) : Nat :=
  ∑ position ∈ Finset.range length, (cell cycle position).toNat

theorem occupied_succ (line : DelayLine length kept reset entering cell)
    (positive : 0 < length) {cycle : Nat} (low : reset cycle = false) :
    occupied length cell (cycle + 1) + (cell cycle (length - 1)).toNat =
      occupied length cell cycle + (entering cycle).toNat := by
  obtain ⟨last, rfl⟩ : ∃ last, length = last + 1 :=
    ⟨length - 1, by omega⟩
  have moved : ∀ position ∈ Finset.range last,
      (cell (cycle + 1) (position + 1)).toNat =
        (cell cycle position).toNat := by
    intro position inside
    rw [Finset.mem_range] at inside
    rw [line.shift cycle position low (by omega)]
  rw [occupied, occupied, Finset.sum_range_succ', Finset.sum_range_succ,
    Finset.sum_congr rfl moved, line.enter cycle low, Nat.add_sub_cancel]
  omega

/-- Without resets every bit that entered is still in the line or has left
it. -/
theorem occupied_add_left (line : DelayLine length kept reset entering cell)
    (positive : 0 < length) (low : ∀ cycle, reset cycle = false)
    (cycle : Nat) :
    occupied length cell cycle +
        Nat.count (fun earlier => cell earlier (length - 1) = true) cycle =
      occupied length cell 0 +
        Nat.count (fun earlier => entering earlier = true) cycle := by
  induction cycle with
  | zero => simp
  | succ cycle ih =>
      have moved := line.occupied_succ positive (low cycle)
      rw [Nat.count_succ, Nat.count_succ]
      cases leaves : cell cycle (length - 1) <;>
        cases enters : entering cycle <;>
        simp only [leaves, enters, Bool.toNat_true, Bool.toNat_false,
          reduceIte, Bool.false_eq_true] at moved ⊢ <;>
        omega

end Counting

end DelayLine

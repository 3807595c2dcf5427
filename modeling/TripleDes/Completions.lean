import TripleDes.ValidChain

/-!
# Completions across resets

After a first reset the valid output of the cascade shows the blocks that were
accepted 57 cycles earlier and met no reset since, and besides these the ghosts
of bits that a reset found in one of the three input buffers.
-/

namespace TripleDes

open Clocked

namespace Des3

/-- In every cycle outside reset after the first one, the valid output is set
exactly when a block was accepted 57 cycles earlier and no reset came since. -/
def CompletesAccepted (initial : State) (inputs : Nat → Input) : Prop :=
  ∀ cycle, 0 < cycle → (inputs cycle).reset = false →
    ((run step inputs initial cycle).validOut = true ↔
      ∃ start, start + 57 = cycle ∧ (inputs start).validIn = true ∧
        ∀ between, start ≤ between → between < cycle →
          (inputs between).reset = false)

/-- Whenever a cycle in reset finds a bit in an input buffer, the next reset
comes before that bit can reach the valid output. -/
def StrandsNothing (initial : State) (inputs : Nat → Input) : Prop :=
  ∀ (cycle : Nat) (stage : Fin 3), (inputs cycle).reset = true →
    ((run step inputs initial cycle).stage stage).vBuf = true →
    ∃ later, cycle < later ∧ later ≤ cycle + (57 - 19 * stage) ∧
      (inputs later).reset = true

/-- A block is accepted in the cycle before a second reset. -/
def resetBehindBlock (cycle : Nat) : Input where
  reset := cycle == 0 || cycle == 2
  idata := 0
  key1 := 0
  key2 := 0
  key3 := 0
  decrypt := false
  validIn := cycle == 1

/-- The second reset does not clear the block out of the first input buffer:
its valid bit completes 57 cycles after that reset. -/
theorem not_completesAccepted_resetBehindBlock :
    ¬ CompletesAccepted default resetBehindBlock := by
  intro completes
  have buffered : (run step resetBehindBlock default 2).validCell 0 = true :=
    rfl
  have low (cycle : Nat) (after : 2 < cycle) :
      (resetBehindBlock cycle).reset = false := by
    have first : cycle ≠ 0 := by omega
    have second : cycle ≠ 2 := by omega
    simp [resetBehindBlock, first, second]
  have shown := (validLine (run_follows step resetBehindBlock
    default)).resumption 2 0 56 rfl (fun cycle after _ => low cycle after)
    (by omega)
  rw [buffered] at shown
  obtain ⟨start, reaches, -, quiet⟩ :=
    (completes 59 (by omega) (low 59 (by omega))).mp
      ((validCell_last _).symm.trans shown)
  have reset := quiet 2 (by omega) (by omega)
  simp [resetBehindBlock] at reset

theorem stranded_iff (initial : State) (inputs : Nat → Input)
    (cycle : Nat) :
    DelayLine.Stranded 57 bufferCell (fun cycle => (inputs cycle).reset)
        (fun cycle => (run step inputs initial cycle).validCell) cycle ↔
      ∃ (stage : Fin 3) (start : Nat),
        start + (57 - 19 * stage) = cycle ∧ (inputs start).reset = true ∧
        (∀ between, start < between → between < cycle →
          (inputs between).reset = false) ∧
        ((run step inputs initial start).stage stage).vBuf = true := by
  have buffer (stage : Fin 3) (start : Nat) :
      (run step inputs initial start).validCell (19 * stage) =
        ((run step inputs initial start).stage stage).vBuf :=
    validCell_stage (run step inputs initial start) stage
      (by omega : 0 < 19)
  constructor
  · rintro ⟨position, start, bound, reaches, high, low, kept, set⟩
    obtain ⟨stage, rfl⟩ := (bufferCell_iff bound).mp kept
    exact ⟨stage, start, reaches, high, low, (buffer stage start).symm.trans set⟩
  · rintro ⟨stage, start, reaches, high, low, set⟩
    have bound : 19 * (stage : Nat) < 57 := by omega
    exact ⟨19 * stage, start, bound, reaches, high, low,
      (bufferCell_iff bound).mpr ⟨stage, rfl⟩, (buffer stage start).trans set⟩

/-- In a run that begins with a reset, the completions are exactly those of
the accepted blocks if and only if no reset strands a bit in an input
buffer. -/
theorem completesAccepted_iff (initial : State) (inputs : Nat → Input)
    (begins : (inputs 0).reset = true) :
    CompletesAccepted initial inputs ↔ StrandsNothing initial inputs := by
  have shown (cycle : Nat) (later : 0 < cycle) :=
    (validLine (run_follows step inputs initial)).output_iff_accepted_iff
      (by omega) begins later
  simp only [show 57 - 1 = 56 from rfl, validCell_last] at shown
  constructor
  · intro completes cycle stage high set
    by_contra never
    push Not at never
    have low (between : Nat) (after : cycle < between)
        (before : between ≤ cycle + (57 - 19 * stage)) :
        (inputs between).reset = false :=
      Bool.eq_false_iff.mpr (never between after before)
    refine (shown (cycle + (57 - 19 * stage)) (by omega)).mp
      (completes _ (by omega) (low _ (by omega) (by omega))) ?_
    exact (stranded_iff initial inputs _).mpr ⟨stage, cycle, rfl, high,
      fun between after before => low between after (by omega), set⟩
  · intro strands cycle later low
    refine (shown cycle later).mpr fun stranded => ?_
    obtain ⟨stage, start, rfl, high, quiet, set⟩ :=
      (stranded_iff initial inputs cycle).mp stranded
    obtain ⟨again, after, before, reset⟩ := strands start stage high set
    rcases Nat.lt_or_eq_of_le before with earlier | last
    · rw [quiet again after earlier] at reset
      contradiction
    · rw [last, low] at reset
      contradiction

/-- A reset that finds the block between the rounds. -/
theorem completesAccepted_resetInRounds :
    CompletesAccepted default fun cycle =>
      { resetBehindBlock cycle with reset := cycle == 0 || cycle == 5 } := by
  refine (completesAccepted_iff default _ rfl).mpr ?_
  intro cycle stage high set
  obtain rfl | rfl : cycle = 0 ∨ cycle = 5 := by simpa using high
  · match stage with
    | 0 | 1 | 2 => contradiction
  · match stage with
    | 0 | 1 | 2 => contradiction

end Des3

end TripleDes

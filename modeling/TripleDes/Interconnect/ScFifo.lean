import TripleDes.Library.Clocked
import TripleDes.Library.Queue
import Mathlib.Data.BitVec

/-!
# The response queue

`altera_avalon_sc_fifo.v` in its register-based form, with an empty latency of
one cycle: a shift register of slots with an occupancy bit for each.  For every
depth and payload it is a queue that refuses values only when it is full.
-/

namespace TripleDes

open Clocked

namespace ScFifo

variable {depth : Nat} {Payload : Type*}

/-- Values at the input ports in one cycle. -/
structure Input (Payload : Type*) where
  reset : Bool
  inPayload : Payload
  inValid : Bool
  outReady : Bool

/-- The slots, the head first, and their occupancy bits. -/
@[ext]
structure State (depth : Nat) (Payload : Type*) where
  mem : Fin depth → Payload
  memUsed : BitVec depth

/-- Empty when the head occupancy bit is 0. -/
def State.empty (state : State depth Payload) : Bool :=
  !state.memUsed.getLsbD 0

def State.outValid (state : State depth Payload) : Bool :=
  !state.empty

def State.outPayload [NeZero depth] (state : State depth Payload) : Payload :=
  state.mem 0

/-- The head slot is given away. -/
def read (outReady : Bool) (state : State depth Payload) : Bool :=
  (outReady || !state.outValid) && state.outValid

/-- The tail is occupied; in a queue of a single slot, reading clears this
immediately. -/
def full (outReady : Bool) (state : State depth Payload) : Bool :=
  if depth = 1 then state.memUsed.getLsbD 0 && !read outReady state
  else state.memUsed.getLsbD (depth - 1)

def inReady (outReady : Bool) (state : State depth Payload) : Bool :=
  !full outReady state

def write (input : Input Payload) (state : State depth Payload) : Bool :=
  inReady input.outReady state && input.inValid

/-- The next contents of a slot.  The last slot always gets new data when it is
unoccupied, and in a queue of a single slot on every write. -/
def memNext (input : Input Payload) (state : State depth Payload)
    (slot : Fin depth) : Payload :=
  if inner : slot + 1 < depth then
    if read input.outReady state || !state.memUsed.getLsbD slot then
      if !state.memUsed.getLsbD (slot + 1) then input.inPayload
      else state.mem ⟨slot + 1, inner⟩
    else state.mem slot
  else if !state.memUsed.getLsbD slot || (depth == 1 && write input state) then
    input.inPayload
  else state.mem slot

/-- The next occupancy bits: shifted left with a new head bit on a write,
shifted right on a read, and the same on both. -/
def memUsedNext (input : Input Payload) (state : State depth Payload) :
    BitVec depth :=
  if write input state ^^ read input.outReady state then
    if write input state then state.memUsed <<< 1 ||| 1
    else state.memUsed >>> 1
  else state.memUsed

/-- One cycle of the queue. -/
def step [Zero Payload] (input : Input Payload) (state : State depth Payload) :
    State depth Payload :=
  if input.reset then { mem := fun _ => 0, memUsed := 0 }
  else { mem := memNext input state, memUsed := memUsedNext input state }

/-- The value taken in a cycle. -/
def arriving (input : Input Payload) (state : State depth Payload) :
    Option Payload :=
  if write input state then some input.inPayload else none

/-- The occupied slots hold the given values. -/
structure Holds (state : State depth Payload) (contents : List Payload) :
    Prop where
  fits : contents.length ≤ depth
  used : ∀ slot, state.memUsed.getLsbD slot = decide (slot < contents.length)
  mem : ∀ slot : Fin depth, ∀ value, contents[(slot : Nat)]? = some value →
    state.mem slot = value

section Step

variable {state : State depth Payload} {contents : List Payload}
  (holds : Holds state contents) (input : Input Payload)
include holds

theorem Holds.outValid_iff : state.outValid = true ↔ contents ≠ [] := by
  rw [State.outValid, State.empty, Bool.not_not, holds.used, decide_eq_true_eq,
    List.length_pos_iff_ne_nil]

theorem Holds.read_iff : read input.outReady state = true ↔
    input.outReady = true ∧ 0 < contents.length := by
  have valid : state.outValid = decide (contents ≠ []) :=
    Bool.eq_iff_iff.mpr (holds.outValid_iff.trans decide_eq_true_iff.symm)
  rw [read, valid, List.length_pos_iff_ne_nil]
  cases input.outReady <;> cases contents <;> simp

theorem Holds.nonempty_of_read (reads : read input.outReady state = true) :
    contents ≠ [] :=
  List.length_pos_iff_ne_nil.mp ((holds.read_iff input).mp reads).2

theorem Holds.length_step :
    (Queue.step (arriving input state) (read input.outReady state)
          contents).length + (read input.outReady state).toNat =
      contents.length + (write input state).toNat := by
  rw [Queue.length_step _ _ _ (holds.nonempty_of_read input), arriving]
  cases write input state <;> rfl

variable [NeZero depth]

theorem Holds.head? : contents.head? =
    if state.outValid then some state.outPayload else none := by
  cases contents with
  | nil =>
      have none : ¬ state.outValid = true := by
        simp [holds.outValid_iff]
      rw [if_neg none]
      rfl
  | cons value rest =>
      rw [if_pos (holds.outValid_iff.mpr (List.cons_ne_nil value rest)),
        State.outPayload, holds.mem 0 value rfl]
      rfl

/-- The queue is full when every slot is occupied, except that a single slot is
free again in the cycle in which it is read. -/
theorem Holds.inReady_iff : inReady input.outReady state = true ↔
    contents.length < depth ∨
      (depth = 1 ∧ read input.outReady state = true) := by
  have positive : 0 < depth := Nat.pos_of_neZero depth
  have fits := holds.fits
  rw [inReady, full]
  by_cases single : depth = 1
  · have filled : contents.length < depth ↔ ¬ 0 < contents.length := by omega
    rw [if_pos single, holds.used, filled]
    cases read input.outReady state <;> simp [single]
  · rw [if_neg single, holds.used]
    simp only [Bool.not_eq_true', decide_eq_false_iff_not, single, false_and,
      or_false]
    omega

/-- A value is taken only into a slot that is free afterwards. -/
theorem Holds.space_of_write (writes : write input state = true) :
    contents.length < depth + (read input.outReady state).toNat ∧
      (contents.length = depth → depth = 1) := by
  rw [write, Bool.and_eq_true, holds.inReady_iff] at writes
  obtain ⟨space | ⟨single, reads⟩, -⟩ := writes
  · omega
  · have fits := holds.fits
    rw [reads, Bool.toNat_true]
    omega

theorem Holds.used_step (slot : Nat) :
    (memUsedNext input state).getLsbD slot =
      decide (slot < (Queue.step (arriving input state)
        (read input.outReady state) contents).length) := by
  have fits := holds.fits
  have count := holds.length_step input
  have space := holds.space_of_write input
  unfold memUsedNext
  cases reads : read input.outReady state <;>
    cases writes : write input state <;>
    simp only [reads, writes, if_true, if_false, Bool.toNat_true,
      Bool.toNat_false, Bool.false_eq_true, Nat.add_zero, Bool.xor_false,
      Bool.xor_true, Bool.not_true, Bool.not_false] at count space ⊢
  · rw [holds.used, count]
  · have room := (space trivial).1
    rw [count, BitVec.getLsbD_or, BitVec.getLsbD_shiftLeft, holds.used]
    grind
  · rw [BitVec.getLsbD_ushiftRight, holds.used]
    grind
  · rw [holds.used]
    grind

/-- A value that has been in the queue before keeps its slot, or moves to the
one in front of it. -/
theorem Holds.memNext_of_kept {slot : Fin depth} {value : Payload}
    (inside : slot + (read input.outReady state).toNat < contents.length)
    (entry : contents[slot + (read input.outReady state).toNat]? = some value) :
    memNext input state slot = value := by
  have fits := holds.fits
  have space := holds.space_of_write input
  unfold memNext
  simp only [holds.used]
  cases reads : read input.outReady state with
  | false =>
      simp only [reads, Bool.toNat_false, Nat.add_zero] at entry inside space
      have kept := holds.mem slot value entry
      have blocked (single : depth = 1) : write input state = false := by
        by_contra writes
        have room := (space (Bool.eq_true_of_not_eq_false writes)).1
        omega
      by_cases single : depth = 1
      · simp [inside, kept, blocked single]
      · simp [inside, kept, single]
  | true =>
      simp only [reads, Bool.toNat_true] at entry inside
      have inner : slot + 1 < depth := by omega
      have moved := holds.mem ⟨slot + 1, inner⟩ value entry
      simp [inner, inside, moved]

/-- A value that arrives goes behind the others. -/
theorem Holds.memNext_of_arrived {slot : Fin depth} {value : Payload}
    (last : slot + (read input.outReady state).toNat = contents.length)
    (arrives : arriving input state = some value) :
    memNext input state slot = value := by
  have writes : write input state = true := by
    by_contra idle
    simp [arriving, idle] at arrives
  have taken : input.inPayload = value := by
    simpa [arriving, writes] using arrives
  have fits := holds.fits
  have room := holds.space_of_write input writes
  unfold memNext
  simp only [holds.used]
  cases reads : read input.outReady state with
  | false =>
      simp only [reads, Bool.toNat_false, Nat.add_zero] at last
      simp [taken, last]
  | true =>
      simp only [reads, Bool.toNat_true] at last
      rcases Nat.lt_or_ge contents.length depth with inner | outer
      · simp [taken, last, inner]
      · have single : depth = 1 := room.2 (by omega)
        simp [taken, writes, single]

theorem Holds.mem_step (slot : Fin depth) (value : Payload)
    (entry : (Queue.step (arriving input state) (read input.outReady state)
      contents)[(slot : Nat)]? = some value) :
    memNext input state slot = value := by
  rw [Queue.getElem?_step _ _ _ (holds.nonempty_of_read input)] at entry
  split at entry
  · next inside => exact holds.memNext_of_kept input inside entry
  · split at entry
    · next last => exact holds.memNext_of_arrived input last entry
    · contradiction

theorem Holds.step [Zero Payload] (low : input.reset = false) :
    Holds (step input state)
      (Queue.step (arriving input state) (read input.outReady state)
        contents) := by
  rw [ScFifo.step, low, if_neg Bool.false_ne_true]
  refine ⟨?_, holds.used_step input, holds.mem_step input⟩
  have count := holds.length_step input
  have fits := holds.fits
  have space := holds.space_of_write input
  cases writes : write input state with
  | false =>
      rw [writes, Bool.toNat_false] at count
      omega
  | true =>
      have room := (space writes).1
      rw [writes, Bool.toNat_true] at count
      omega

end Step

section Runs

variable [NeZero depth] [Zero Payload]

/-- The value taken in each cycle from `first` on. -/
def accepted (inputs : Nat → Input Payload) (trace : Nat → State depth Payload)
    (first offset : Nat) : Option Payload :=
  arriving (inputs (first + offset)) (trace (first + offset))

/-- The value given away in each cycle from `first` on. -/
def delivered (inputs : Nat → Input Payload) (trace : Nat → State depth Payload)
    (first offset : Nat) : Option Payload :=
  if read (inputs (first + offset)).outReady (trace (first + offset)) then
    some (trace (first + offset)).outPayload
  else none

/-- The values that should be in the queue, when it is empty in the cycle
`first`. -/
def queued (inputs : Nat → Input Payload) (trace : Nat → State depth Payload)
    (first : Nat) : Nat → List Payload
  | 0 => []
  | offset + 1 => Queue.step (accepted inputs trace first offset)
      (read (inputs (first + offset)).outReady (trace (first + offset)))
      (queued inputs trace first offset)

omit [NeZero depth] in
theorem holds_of_reset {input : Input Payload} (high : input.reset = true)
    (state : State depth Payload) : Holds (step input state) [] := by
  rw [step, if_pos high]
  exact ⟨Nat.zero_le depth, by simp, by simp⟩

theorem holds_queued {inputs : Nat → Input Payload}
    {trace : Nat → State depth Payload} (follows : Follows step inputs trace)
    {start : Nat} (high : (inputs start).reset = true) {offset : Nat}
    (low : ∀ cycle, start < cycle → cycle < start + 1 + offset →
      (inputs cycle).reset = false) :
    Holds (trace (start + 1 + offset))
      (queued inputs trace (start + 1) offset) := by
  induction offset with
  | zero =>
      rw [Nat.add_zero, follows]
      exact holds_of_reset high (trace start)
  | succ offset ih =>
      rw [← Nat.add_assoc, follows]
      exact (ih fun cycle after before => low cycle after (by omega)).step
        (inputs (start + 1 + offset)) (low _ (by omega) (by omega))

omit [Zero Payload] in
/-- What is given away is the head of the queue. -/
theorem delivered_of_holds {trace : Nat → State depth Payload}
    {first offset : Nat} {contents : List Payload}
    (holds : Holds (trace (first + offset)) contents)
    (inputs : Nat → Input Payload) :
    delivered inputs trace first offset =
      if read (inputs (first + offset)).outReady (trace (first + offset)) then
        contents.head?
      else none := by
  rw [delivered, holds.head?]
  cases valid : (trace (first + offset)).outValid with
  | false => simp [read, valid]
  | true => rfl

/-- In every run, between two resets, the values given away followed by those in
the slots are the values taken, in order; there are never more of them in the
slots than the depth, the output is valid exactly when there is one, and a value
is refused only when all slots are occupied. -/
theorem delivers_in_order (initial : State depth Payload)
    (inputs : Nat → Input Payload) (start : Nat)
    (high : (inputs start).reset = true) (offset : Nat)
    (low : ∀ cycle, start < cycle → cycle < start + 1 + offset →
      (inputs cycle).reset = false) :
    ∃ contents : List Payload,
      Holds (run step inputs initial (start + 1 + offset)) contents ∧
      Events.before (delivered inputs (run step inputs initial) (start + 1))
          offset ++ contents =
        Events.before (accepted inputs (run step inputs initial) (start + 1))
          offset ∧
      ((run step inputs initial (start + 1 + offset)).outValid = true ↔
        contents ≠ []) ∧
      (inReady (inputs (start + 1 + offset)).outReady
          (run step inputs initial (start + 1 + offset)) = false →
        contents.length = depth) := by
  have follows := run_follows step inputs initial
  have holds := holds_queued follows high low
  refine ⟨_, holds, ?_, holds.outValid_iff, ?_⟩
  · have steps (offset : Nat) :
        queued inputs (run step inputs initial) (start + 1) (offset + 1) =
          Queue.step _ _
            (queued inputs (run step inputs initial) (start + 1) offset) :=
      rfl
    have conserved := Queue.before_append steps offset
    have heads : ∀ earlier < offset,
        delivered inputs (run step inputs initial) (start + 1) earlier =
          if read (inputs (start + 1 + earlier)).outReady
              (run step inputs initial (start + 1 + earlier)) then
            (queued inputs (run step inputs initial) (start + 1) earlier).head?
          else none := by
      intro earlier before
      have quiet (cycle : Nat) (after : start < cycle)
          (upTo : cycle < start + 1 + earlier) : (inputs cycle).reset = false :=
        low cycle after (by omega)
      exact delivered_of_holds (holds_queued follows high quiet) inputs
    rw [Events.before_congr heads, conserved]
    rfl
  · intro refused
    have fits := holds.fits
    by_contra space
    rw [(holds.inReady_iff _).mpr (.inl (by omega))] at refused
    contradiction

/-- A reset, then a value in every cycle and no reader. -/
def filling (cycle : Nat) : Input (BitVec 8) where
  reset := cycle == 0
  inPayload := BitVec.ofNat 8 cycle
  inValid := true
  outReady := false

def vacant : State 2 (BitVec 8) where
  mem _ := 0
  memUsed := 0

/-- A queue of two slots takes the first two of these values. -/
theorem delivers_in_order_filling :
    ∃ contents : List (BitVec 8),
      Holds (run step filling vacant 4) contents ∧ contents = [1, 2] := by
  obtain ⟨contents, holds, conserved, -⟩ := delivers_in_order vacant filling 0
    rfl 3 (fun cycle after _ => beq_eq_false_iff_ne.mpr (by omega))
  exact ⟨contents, holds, conserved⟩

end Runs

end ScFifo

end TripleDes

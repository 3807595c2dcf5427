import TripleDes.ResultReads

/-!
# Timing

When a block completes, and what the status flag shows in which cycle, depends
on the resets and on the cycles in which blocks are started.  The blocks, the
keys and the modes have no part in it, so the timing of the bridge tells
nothing of them.
-/

namespace TripleDes

open Clocked

namespace Des3Avalon

/-- The part of an input that decides about timing. -/
structure Schedule where
  reset : Bool
  starts : Bool

/-- The registers that decide about timing: the valid bits and the status
flag. -/
structure Timing where
  cells : Fin 58 → Bool
  regValidOut : Bool

def Input.schedule (input : Input) : Schedule where
  reset := input.reset
  starts := input.starts

def State.timing (state : State) : Timing where
  cells position := state.validCell position
  regValidOut := state.regValidOut

/-- One cycle of the valid bits and the status flag. -/
def Timing.step (schedule : Schedule) (timing : Timing) : Timing :=
  if schedule.reset then
    { cells := fun position =>
        (if (position : Nat) < 1 then false
          else Des3.bufferCell (position - 1)) && timing.cells position
      regValidOut := false }
  else
    { cells := Fin.cons schedule.starts fun position : Fin 57 =>
        timing.cells position.castSucc
      regValidOut := timing.cells (Fin.last 57) || timing.regValidOut }

/-- No data enters the timing. -/
theorem timing_step (input : Input) (state : State) :
    (step input state).timing =
      Timing.step input.schedule state.timing := by
  -- the valid bits of a run of two cycles form a delay line
  have follows := run_follows step (fun _ => input) state
  have line := validLine follows
  cases reset : input.reset with
  | true =>
      have high : input.schedule.reset = true := reset
      rw [Timing.step, if_pos high, State.timing]
      congr 1
      · funext position
        exact line.clear 0 position reset position.isLt
      · rw [step_of_reset reset]
        rfl
  | false =>
      have running : ¬ input.schedule.reset = true := by
        rw [Input.schedule, reset]
        exact Bool.false_ne_true
      rw [Timing.step, if_neg running, State.timing]
      congr 1
      · funext position
        cases position using Fin.cases with
        | zero => exact line.enter 0 reset
        | succ position =>
            exact line.shift 0 position reset (by omega)
      · have loaded := @regValidOut_succ _ _ follows 0 reset
        rw [loads, reset] at loaded
        exact loaded.trans (by
          rw [← validCell_last]
          rfl)

/-- Two runs with the same resets and the same starts. -/
structure SameSchedule (initial initial' : State) (inputs inputs' : Nat → Input) :
    Prop where
  initially : initial.timing = initial'.timing
  resets : ∀ cycle, (inputs cycle).reset = (inputs' cycle).reset
  starts : ∀ cycle, (inputs cycle).starts = (inputs' cycle).starts

/-- Runs with the same resets and starts load their results in the same
cycles and show the same status and start pulse in every cycle, whatever the
blocks, the keys and the modes are. -/
theorem timing_independent (initial initial' : State)
    (inputs inputs' : Nat → Input)
    (same : SameSchedule initial initial' inputs inputs') (cycle : Nat) :
    loads (inputs cycle) (run step inputs initial cycle) =
        loads (inputs' cycle) (run step inputs' initial' cycle) ∧
      avsReaddata 0xB (run step inputs initial cycle) =
        avsReaddata 0xB (run step inputs' initial' cycle) ∧
      (avsReaddata 0x8 (run step inputs initial cycle)).getLsbD 0 =
        (avsReaddata 0x8 (run step inputs' initial' cycle)).getLsbD 0 := by
  have view : (run step inputs initial cycle).timing =
      (run step inputs' initial' cycle).timing :=
    (run_follows step inputs initial).eq_of_views
      (run_follows step inputs' initial') State.timing Input.schedule
      timing_step same.initially fun earlier _ => by
        rw [Input.schedule, Input.schedule, same.resets, same.starts]
  have cell (position : Fin 58) :
      (run step inputs initial cycle).validCell position =
        (run step inputs' initial' cycle).validCell position :=
    congrArg (fun timing => timing.cells position) view
  have status : (run step inputs initial cycle).regValidOut =
      (run step inputs' initial' cycle).regValidOut :=
    congrArg Timing.regValidOut view
  have pulse (state : State) :
      (avsReaddata 0x8 state).getLsbD 0 = state.validCell 0 := by
    change (0#30 ++ BitVec.ofBool state.regDecrypt ++
      BitVec.ofBool state.regValidIn).getLsbD 0 = state.regValidIn
    rw [BitVec.getLsbD_append, if_pos (by omega), BitVec.getLsbD_ofBool]
    simp
  refine ⟨?_, ?_, ?_⟩
  · rw [loads, loads, same.resets, ← validCell_last, ← validCell_last]
    exact congrArg _ (cell (Fin.last 57))
  · change 0#31 ++ BitVec.ofBool _ = 0#31 ++ BitVec.ofBool _
    rw [status]
  · rw [pulse, pulse]
    exact cell 0

/-- The overlapping blocks, deciphered and with other bits written to the block
register. -/
def overlappingDecrypt (cycle : Nat) : Input :=
  { overlappingRead cycle with avsWritedata := 3 }

theorem sameSchedule_overlappingDecrypt :
    SameSchedule default default overlappingRead overlappingDecrypt where
  initially := rfl
  resets _ := rfl
  starts _ := by
    simp [overlappingDecrypt, overlappingRead, Input.starts, Input.writes]

theorem timing_independent_overlapping :
    avsReaddata 0xB (run step overlappingRead default 60) =
      avsReaddata 0xB (run step overlappingDecrypt default 60) :=
  (timing_independent default default overlappingRead overlappingDecrypt
    sameSchedule_overlappingDecrypt 60).2.1

end Des3Avalon

end TripleDes

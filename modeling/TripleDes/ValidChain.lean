import TripleDes.Des3
import TripleDes.Library.DelayLine
import Mathlib.Algebra.BigOperators.Fin

/-!
# The valid chain

The valid bits of a core form a delay line of nineteen cells, those of the
cascade one of fifty-seven.  The reset branch clears all of them but the three
input buffers `V_buf`, which keep a bit through a reset and release it
afterwards.
-/

namespace TripleDes

open Clocked

namespace FeistelAlgo

/-- The valid bits of a core in the order in which a block meets them. -/
def State.validCell (state : State) : Nat → Bool
  | 0 => state.vBuf
  | position + 1 =>
      if inside : position < 17 then state.V ⟨position, inside⟩
      else state.validOut

def State.validBits (state : State) : Nat :=
  state.vBuf.toNat + (∑ stage, (state.V stage).toNat) + state.validOut.toNat

/-- No valid bit is set. -/
structure State.Drained (state : State) : Prop where
  vBuf : state.vBuf = false
  V : ∀ stage, state.V stage = false
  validOut : state.validOut = false

theorem validCell_stage (state : State) (stage : Fin 17) :
    state.validCell (stage + 1) = state.V stage := by
  simp [State.validCell]

theorem validCell_last (state : State) :
    state.validCell 18 = state.validOut := by
  simp [State.validCell]

theorem validBits_eq_sum (state : State) :
    ∑ position ∈ Finset.range 19, (state.validCell position).toNat =
      state.validBits := by
  rw [Finset.sum_range_succ, Finset.sum_range_succ', validCell_last,
    ← Fin.sum_univ_eq_sum_range
      (fun position => (state.validCell (position + 1)).toNat)]
  simp only [validCell_stage, State.validBits]
  rw [Nat.add_comm (∑ stage, (state.V stage).toNat)]
  rfl

theorem State.Drained.validCell_eq {state : State} (drained : state.Drained)
    (position : Nat) : state.validCell position = false := by
  cases position with
  | zero => exact drained.vBuf
  | succ position =>
      rw [State.validCell]
      split
      · exact drained.V _
      · exact drained.validOut

theorem validCell_clocked_zero (input : Input) (state : State) :
    State.validCell (clocked input state) 0 = input.validIn :=
  rfl

theorem validCell_clocked_succ (input : Input) (state : State)
    {position : Nat} (bound : position + 1 < 19) :
    State.validCell (clocked input state) (position + 1) =
      state.validCell position := by
  rcases Nat.lt_or_ge position 17 with inside | last
  · rw [show position + 1 = (⟨position, inside⟩ : Fin 17) + 1 from rfl,
      validCell_stage]
    cases position with
    | zero => rfl
    | succ position =>
        exact (validCell_stage state ⟨position, by omega⟩).symm
  · obtain rfl : position = 17 := by omega
    rw [validCell_last]
    exact (validCell_stage state 16).symm

theorem validCell_cleared (state : State) (position : Nat) :
    State.validCell (cleared state) position =
      (position == 0 && state.validCell position) := by
  cases position with
  | zero => rfl
  | succ position => simp [State.validCell, cleared]

variable {inputs : Nat → Input} {trace : Nat → State}

/-- The valid bits of a core are a delay line that keeps its first cell
through a reset. -/
theorem validLine (follows : Follows step inputs trace) :
    DelayLine 19 (fun position => position == 0)
      (fun cycle => (inputs cycle).reset)
      (fun cycle => (inputs cycle).validIn)
      (fun cycle => (trace cycle).validCell) where
  enter cycle low := by
    rw [follows, step_of_low low, validCell_clocked_zero]
  shift cycle position low bound := by
    rw [follows, step_of_low low, validCell_clocked_succ _ _ bound]
  clear cycle position high _ := by
    rw [follows, step_of_reset high, validCell_cleared]

end FeistelAlgo

namespace Des3

/-- The valid bits of the cascade in the order in which a block meets
them. -/
def State.validCell (state : State) (position : Nat) : Bool :=
  if position < 19 then state.encrypt1.validCell position
  else if position - 19 < 19 then state.decrypt2.validCell (position - 19)
  else state.encrypt3.validCell (position - 19 - 19)

/-- The cells of the three input buffers. -/
def bufferCell (position : Nat) : Bool :=
  if position < 19 then position == 0
  else if position - 19 < 19 then position - 19 == 0
  else position - 19 - 19 == 0

def State.validBits (state : State) : Nat :=
  ∑ stage, (state.stage stage).validBits

/-- No valid bit is set anywhere in the pipeline. -/
def State.Drained (state : State) : Prop :=
  ∀ stage, (state.stage stage).Drained

theorem validCell_stage (state : State) (stage : Fin 3) {position : Nat}
    (bound : position < 19) :
    state.validCell (19 * stage + position) =
      (state.stage stage).validCell position := by
  match stage with
  | 0 => simp [State.validCell, State.stage, bound]
  | 1 => simp [State.validCell, State.stage, bound]
  | 2 =>
      have second : ¬ 38 + position < 19 := by omega
      have third : ¬ 38 + position - 19 < 19 := by omega
      have rest : 38 + position - 19 - 19 = position := by omega
      simp [State.validCell, State.stage, second, third, rest]

theorem validCell_last (state : State) :
    state.validCell 56 = state.validOut :=
  FeistelAlgo.validCell_last state.encrypt3

theorem bufferCell_iff {position : Nat} (bound : position < 57) :
    bufferCell position = true ↔
      ∃ stage : Fin 3, position = 19 * stage := by
  constructor
  · intro kept
    simp only [bufferCell] at kept
    split at kept
    · exact ⟨0, by simpa using kept⟩
    split at kept
    · refine ⟨1, ?_⟩
      rw [beq_iff_eq] at kept
      change position = 19
      omega
    · refine ⟨2, ?_⟩
      rw [beq_iff_eq] at kept
      change position = 38
      omega
  · rintro ⟨stage, rfl⟩
    match stage with
    | 0 | 1 | 2 => rfl

theorem validBits_eq_sum (state : State) :
    ∑ position ∈ Finset.range 57, (state.validCell position).toNat =
      state.validBits := by
  have part (stage : Fin 3) :
      ∑ position ∈ Finset.range 19,
          (state.validCell (19 * stage + position)).toNat =
        (state.stage stage).validBits := by
    rw [← FeistelAlgo.validBits_eq_sum]
    apply Finset.sum_congr rfl
    intro position inside
    rw [validCell_stage state stage (Finset.mem_range.mp inside)]
  rw [State.validBits, Fin.sum_univ_three, ← part 0, ← part 1, ← part 2,
    show 57 = 19 + 19 + 19 from rfl, Finset.sum_range_add,
    Finset.sum_range_add]
  simp

theorem State.Drained.validCell_eq {state : State} (drained : state.Drained)
    (position : Nat) : state.validCell position = false := by
  unfold State.validCell
  split
  · exact (drained 0).validCell_eq _
  split
  · exact (drained 1).validCell_eq _
  · exact (drained 2).validCell_eq _

variable {inputs : Nat → Input} {trace : Nat → State}

/-- The valid bits of the cascade are one delay line that keeps the three
input buffers through a reset. -/
theorem validLine (follows : Follows step inputs trace) :
    DelayLine 57 bufferCell (fun cycle => (inputs cycle).reset)
      (fun cycle => (inputs cycle).validIn)
      (fun cycle => (trace cycle).validCell) := by
  have first := FeistelAlgo.validLine (encrypt1_follows follows)
  have second := FeistelAlgo.validLine (decrypt2_follows follows)
  have third := FeistelAlgo.validLine (encrypt3_follows follows)
  have linked : (fun cycle => (trace cycle).encrypt1.validCell 18) =
      fun cycle => (trace cycle).encrypt1.validOut :=
    funext fun cycle => FeistelAlgo.validCell_last _
  have linked' : (fun cycle => (trace cycle).decrypt2.validCell 18) =
      fun cycle => (trace cycle).decrypt2.validOut :=
    funext fun cycle => FeistelAlgo.validCell_last _
  exact first.append (by omega) (linked ▸ second.append (by omega)
    (linked' ▸ third))

end Des3

end TripleDes

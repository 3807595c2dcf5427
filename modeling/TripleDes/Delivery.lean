import TripleDes.Des3Avalon
import TripleDes.Pipeline
import TripleDes.ValidChain

/-!
# Delivery through the bridge

The start pulse of the bridge is one more cell in front of the valid chain of
the cascade.  A block therefore reaches the result register 58 cycles after
its control write, in the order of the control writes and exactly once.
-/

namespace TripleDes

open Clocked

namespace Des3Avalon

/-- No valid bit is set in the bridge and the three cores. -/
structure State.Drained (state : State) : Prop where
  regValidIn : state.regValidIn = false
  uDes3 : state.uDes3.Drained

def State.validBits (state : State) : Nat :=
  state.regValidIn.toNat + state.uDes3.validBits

/-- The start pulse followed by the valid bits of the cascade. -/
def State.validCell (state : State) (position : Nat) : Bool :=
  if position < 1 then state.regValidIn
  else state.uDes3.validCell (position - 1)

/-- The clock edge at the end of a cycle loads the result register. -/
def loads (input : Input) (state : State) : Bool :=
  !input.reset && state.uDes3.validOut

/-- The word that was last written to an address before a cycle. -/
def lastWritten (inputs : Nat → Input) (address : BitVec 4)
    (initial : BitVec 32) : Nat → BitVec 32
  | 0 => initial
  | cycle + 1 =>
      if (inputs cycle).writes address then (inputs cycle).avsWritedata
      else lastWritten inputs address initial cycle

/-- The ports of the cascade in each cycle. -/
def ports (inputs : Nat → Input) (trace : Nat → State) (cycle : Nat) :
    Des3.Input :=
  des3Input (inputs cycle) (trace cycle)

/-- The block that a control write starts, as the cascade will turn it out:
it is presented one cycle after the write. -/
def submitted (inputs : Nat → Input) (trace : Nat → State) (cycle : Nat) :
    Option (BitVec 64) :=
  if (inputs cycle).starts then
    some (Des3.cascade (Des3.sampledKeys (ports inputs trace) (cycle + 1))
      (ports inputs trace (cycle + 1)).idata)
  else none

/-- The value loaded into the result register at the end of a cycle. -/
def loaded (inputs : Nat → Input) (trace : Nat → State) (cycle : Nat) :
    Option (BitVec 64) :=
  if loads (inputs cycle) (trace cycle) then
    some (trace (cycle + 1)).regOdata
  else none

@[simp]
theorem validCell_last (state : State) :
    state.validCell 57 = state.uDes3.validOut :=
  Des3.validCell_last state.uDes3

theorem State.Drained.validCell_eq {state : State} (drained : state.Drained)
    (position : Nat) : state.validCell position = false := by
  unfold State.validCell
  split
  · exact drained.regValidIn
  · exact drained.uDes3.validCell_eq _

theorem validBits_eq_sum (state : State) :
    ∑ position ∈ Finset.range 58, (state.validCell position).toNat =
      state.validBits := by
  rw [Finset.sum_range_succ', State.validBits, ← Des3.validBits_eq_sum,
    Nat.add_comm]
  rfl

theorem State.Drained.validBits_eq {state : State}
    (drained : state.Drained) : state.validBits = 0 := by
  rw [← validBits_eq_sum]
  exact Finset.sum_eq_zero fun position _ => by
    rw [drained.validCell_eq]
    rfl

theorem written_append {input : Input} {lowAddress highAddress : BitVec 4}
    (distinct : lowAddress ≠ highAddress) (upper lower : BitVec 32) :
    written input lowAddress highAddress (upper ++ lower) =
      (if input.writes highAddress then input.avsWritedata else upper) ++
        (if input.writes lowAddress then input.avsWritedata else lower) := by
  by_cases low : input.writes lowAddress = true
  · have address : input.avsAddress = lowAddress := by
      simp only [Input.writes, Bool.and_eq_true, beq_iff_eq] at low
      exact low.2
    have high : input.writes highAddress = false := by
      simp [Input.writes, address, distinct]
    simp [written, low, high]
  · cases high : input.writes highAddress <;> simp [written, low, high]

section Runs

variable {inputs : Nat → Input} {trace : Nat → State}

theorem ports_follows (follows : Follows step inputs trace) :
    Follows Des3.step (ports inputs trace) fun cycle => (trace cycle).uDes3 :=
  uDes3_follows follows

theorem loaded_eq (follows : Follows step inputs trace) (cycle : Nat) :
    loaded inputs trace cycle =
      if loads (inputs cycle) (trace cycle) then
        some (trace cycle).uDes3.odata
      else none := by
  unfold loaded
  split
  · next loading =>
      simp only [loads, Bool.and_eq_true, Bool.not_eq_true'] at loading
      obtain ⟨low, valid⟩ := loading
      rw [follows, step_of_low low]
      simp [clocked, valid]
  · rfl

/-- The valid bits of the bridge are one delay line, fed by the control
writes. -/
theorem validLine (follows : Follows step inputs trace) :
    DelayLine 58
      (fun position =>
        if position < 1 then false else Des3.bufferCell (position - 1))
      (fun cycle => (inputs cycle).reset)
      (fun cycle => (inputs cycle).starts)
      (fun cycle => (trace cycle).validCell) := by
  have pulse : DelayLine 1 (fun _ => false)
      (fun cycle => (inputs cycle).reset)
      (fun cycle => (inputs cycle).starts)
      (fun cycle _ => (trace cycle).regValidIn) :=
    { enter := fun cycle low => by
        rw [follows, step_of_low low, regValidIn_clocked]
      shift := fun cycle position _ bound => by omega
      clear := fun cycle position high _ => by
        rw [follows, step_of_reset high]
        rfl }
  exact pulse.append (by omega) (Des3.validLine (uDes3_follows follows))

theorem validOut_of_starts (follows : Follows step inputs trace) {start : Nat}
    (low : Throughout start (start + 57) fun cycle =>
      (inputs cycle).reset = false) :
    (trace (start + 58)).uDes3.validOut = (inputs start).starts := by
  rw [← validCell_last]
  exact (validLine follows).arrival start 57
    (fun cycle after before => low cycle after (by omega)) (by omega)

theorem odata_of_starts (follows : Follows step inputs trace) {start : Nat}
    (low : Throughout start (start + 57) fun cycle =>
      (inputs cycle).reset = false) :
    (trace (start + 58)).uDes3.odata =
      Des3.cascade (Des3.sampledKeys (ports inputs trace) (start + 1))
        (ports inputs trace (start + 1)).idata := by
  have lowInside : Throughout (start + 1) (start + 1 + 56) fun cycle =>
      (ports inputs trace cycle).reset = false :=
    low.mono (by omega) (by omega)
  have output := Des3.odata_of_idata (ports_follows follows) lowInside
  rwa [Nat.add_right_comm start 1 57] at output

theorem ports_idata_of_starts (follows : Follows step inputs trace)
    {start : Nat} (low : (inputs start).reset = false)
    (starts : (inputs start).starts = true) :
    (ports inputs trace (start + 1)).idata = (trace start).regIdata := by
  change (trace (start + 1)).regIdata = _
  rw [follows, step_of_low low]
  exact written_of_starts starts (by decide) (by decide) _

theorem regOdata_succ (follows : Follows step inputs trace) {cycle : Nat}
    (low : (inputs cycle).reset = false) :
    (trace (cycle + 1)).regOdata =
      if loads (inputs cycle) (trace cycle) then (trace cycle).uDes3.odata
      else (trace cycle).regOdata := by
  simp only [loads, low, Bool.not_false, Bool.true_and]
  rw [follows, step_of_low low]
  rfl

/-- The status flag is set by each load and cleared by nothing but a
reset. -/
theorem regValidOut_succ (follows : Follows step inputs trace) {cycle : Nat}
    (low : (inputs cycle).reset = false) :
    (trace (cycle + 1)).regValidOut =
      (loads (inputs cycle) (trace cycle) || (trace cycle).regValidOut) := by
  simp only [loads, low, Bool.not_false, Bool.true_and]
  rw [follows, step_of_low low]
  cases valid : (trace cycle).uDes3.validOut <;> simp [clocked, valid]

theorem loaded_eq_submitted (follows : Follows step inputs trace)
    {start : Nat} (low : Throughout start (start + 58) fun cycle =>
      (inputs cycle).reset = false) :
    loaded inputs trace (start + 58) = submitted inputs trace start := by
  have lowBefore := low.mono (Nat.le_refl start)
    (by omega : start + 57 ≤ start + 58)
  rw [loaded_eq follows]
  simp only [loads, submitted, low (start + 58) (by omega) (by omega),
    Bool.not_false, Bool.true_and]
  rw [validOut_of_starts follows lowBefore, odata_of_starts follows lowBefore]

theorem regIdata_eq_lastWritten (follows : Follows step inputs trace)
    (low : ∀ cycle, (inputs cycle).reset = false) (cycle : Nat) :
    (trace cycle).regIdata =
      lastWritten inputs 0x1 (highWord (trace 0).regIdata) cycle ++
        lastWritten inputs 0x0 (lowWord (trace 0).regIdata) cycle := by
  induction cycle with
  | zero => exact (highWord_append_lowWord _).symm
  | succ cycle ih =>
      rw [follows, step_of_low (low cycle)]
      change written (inputs cycle) 0x0 0x1 (trace cycle).regIdata = _
      rw [ih, written_append (by decide)]
      rfl

section Drained

variable (follows : Follows step inputs trace)
  (low : ∀ cycle, (inputs cycle).reset = false)
  (drained : (trace 0).Drained)
include follows low drained

theorem validOut_of_drained {cycle : Nat} (early : cycle < 58) :
    (trace cycle).uDes3.validOut = false := by
  have moved := (validLine follows).advance 0 (57 - cycle) cycle
    (fun between _ _ => low between) (by omega)
  rw [Nat.zero_add, show 57 - cycle + cycle = 57 by omega, validCell_last,
    drained.validCell_eq] at moved
  exact moved

theorem loads_iff (cycle : Nat) :
    loads (inputs cycle) (trace cycle) = true ↔
      ∃ start, start + 58 = cycle ∧ (inputs start).starts = true := by
  simp only [loads, low cycle, Bool.not_false, Bool.true_and]
  rcases Nat.lt_or_ge cycle 58 with early | late
  · rw [validOut_of_drained follows low drained early]
    constructor
    · intro never
      contradiction
    · rintro ⟨start, reaches, -⟩
      omega
  · obtain ⟨start, rfl⟩ : ∃ start, cycle = start + 58 :=
      ⟨cycle - 58, by omega⟩
    rw [validOut_of_starts follows fun between _ _ => low between]
    constructor
    · intro starts
      exact ⟨start, rfl, starts⟩
    · rintro ⟨start', same, starts⟩
      rwa [← Nat.add_right_cancel same]

/-- The loads are the submissions, in the same order. -/
theorem before_loaded (cycle : Nat) :
    Events.before (loaded inputs trace) (cycle + 58) =
      Events.before (submitted inputs trace) cycle := by
  refine Events.before_delayed ?_ (fun start => loaded_eq_submitted follows
    fun between _ _ => low between) cycle
  intro early less
  simp only [loaded, loads, validOut_of_drained follows low drained less,
    Bool.and_false, Bool.false_eq_true, if_false]

theorem validBits_add_count (cycle : Nat) :
    (trace cycle).validBits +
        Nat.count (fun earlier =>
          loads (inputs earlier) (trace earlier) = true) cycle =
      Nat.count (fun earlier => (inputs earlier).starts = true) cycle := by
  have balance := (validLine follows).occupied_add_left (by omega) low cycle
  simp only [DelayLine.occupied, validBits_eq_sum, drained.validBits_eq,
    show 58 - 1 = 57 from rfl, validCell_last, Nat.zero_add] at balance
  simp only [loads, low, Bool.not_false, Bool.true_and]
  exact balance

end Drained

end Runs

/-- What the bridge promises about blocks and completions in a run: which
cycles load the result register and with what, which block is presented for
each control write, that nothing is lost, repeated or reordered, and that the
valid bits count the blocks in flight. -/
structure DeliversInOrder (inputs : Nat → Input) (trace : Nat → State) :
    Prop where
  latched : ∀ cycle, (trace (cycle + 1)).regOdata =
    if loads (inputs cycle) (trace cycle) then (trace cycle).uDes3.odata
    else (trace cycle).regOdata
  loads_iff : ∀ cycle, loads (inputs cycle) (trace cycle) = true ↔
    ∃ start, start + 58 = cycle ∧ (inputs start).starts = true
  presented : ∀ start, (inputs start).starts = true →
    (ports inputs trace (start + 1)).validIn = true ∧
      (ports inputs trace (start + 1)).idata =
        lastWritten inputs 0x1 (highWord (trace 0).regIdata) start ++
          lastWritten inputs 0x0 (lowWord (trace 0).regIdata) start
  inOrder : ∀ cycle, Events.before (loaded inputs trace) (cycle + 58) =
    Events.before (submitted inputs trace) cycle
  conserved : ∀ cycle,
    (trace cycle).validBits +
        Nat.count (fun earlier =>
          loads (inputs earlier) (trace earlier) = true) cycle =
      Nat.count (fun earlier => (inputs earlier).starts = true) cycle

/-- From a drained state, and as long as there is no reset, the bridge
delivers every started block exactly once and in order. -/
theorem deliversInOrder (initial : State) (inputs : Nat → Input)
    (drained : initial.Drained)
    (low : ∀ cycle, (inputs cycle).reset = false) :
    DeliversInOrder inputs (run step inputs initial) where
  latched cycle := regOdata_succ (run_follows step inputs initial)
    (low cycle)
  loads_iff := loads_iff (run_follows step inputs initial) low drained
  presented start starts := by
    have follows := run_follows step inputs initial
    constructor
    · change (run step inputs initial (start + 1)).regValidIn = true
      rw [follows, step_of_low (low start), regValidIn_clocked, starts]
    · rw [ports_idata_of_starts follows (low start) starts]
      exact regIdata_eq_lastWritten follows low start
  inOrder := before_loaded (run_follows step inputs initial) low drained
  conserved := validBits_add_count (run_follows step inputs initial) low
    drained

theorem drained_default : (default : State).Drained where
  regValidIn := rfl
  uDes3 stage :=
    match stage with
    | 0 | 1 | 2 => ⟨rfl, fun _ => rfl, rfl⟩

/-- A write to the block register and two control writes in consecutive
cycles. -/
def consecutiveStarts (cycle : Nat) : Input where
  reset := false
  avsAddress := if cycle = 0 then 0x0 else 0x8
  avsWrite := cycle < 3
  avsWritedata := 1

theorem deliversInOrder_consecutiveStarts :
    DeliversInOrder consecutiveStarts (run step consecutiveStarts default) :=
  deliversInOrder default consecutiveStarts drained_default fun _ => rfl

end Des3Avalon

end TripleDes

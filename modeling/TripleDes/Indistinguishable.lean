import TripleDes.ResultReads

/-!
# Indistinguishable states

Two states of the bridge that agree wherever a valid bit is set, and in the
registers of the bridge itself, cannot be told apart on the bus: the relation
is kept by every cycle, and related states show the same words.
-/

namespace TripleDes

open Clocked

namespace FeistelAlgo

/-- Two cores that agree wherever a valid bit is set. -/
structure State.Agree (state state' : State) : Prop where
  vBuf : state.vBuf = state'.vBuf
  V : state.V = state'.V
  validOut : state.validOut = state'.validOut
  buffered : state.vBuf = true → buffered state = buffered state'
  halves : ∀ stage, state.V stage = true →
    halves state stage = halves state' stage
  K : ∀ stage, state.V stage = true → K state = K state'
  odata : state.validOut = true → state.odata = state'.odata

/-- The same inputs, up to the block of a cycle that brings none. -/
structure Input.Agree (input input' : Input) : Prop where
  reset : input.reset = input'.reset
  keyIn : input.keyIn = input'.keyIn
  decrypt : input.decrypt = input'.decrypt
  validIn : input.validIn = input'.validIn
  idata : input.validIn = true → input.idata = input'.idata

theorem State.Agree.cleared {state state' : State}
    (vBuf : state.vBuf = state'.vBuf)
    (sameBuffered : state.vBuf = true →
      FeistelAlgo.buffered state = FeistelAlgo.buffered state') :
    State.Agree (cleared state) (cleared state') where
  vBuf := vBuf
  V := rfl
  validOut := rfl
  buffered := sameBuffered
  halves _ set := by contradiction
  K _ set := by contradiction
  odata _ := rfl

theorem State.Agree.clocked {state state' : State} {input input' : Input}
    (agree : state.Agree state') (same : input.Agree input') :
    State.Agree (clocked input state) (clocked input' state') where
  vBuf := same.validIn
  V := by
    simp only [FeistelAlgo.clocked, agree.vBuf, agree.V]
  validOut := congrFun agree.V 16
  buffered set := by
    rw [buffered_clocked, buffered_clocked, same.idata set]
  halves stage set := by
    cases stage using Fin.cases with
    | zero => exact agree.buffered set
    | succ round =>
        have valid : state.V round.castSucc = true := set
        rw [halves_clocked_succ, halves_clocked_succ, agree.K _ valid,
          agree.halves _ valid]
  K _ _ := by
    funext round
    rw [K_clocked, K_clocked, same.keyIn, same.decrypt]
  odata set := by
    rw [odata_clocked, odata_clocked, agree.halves 16 set]

theorem State.Agree.step {state state' : State} {input input' : Input}
    (agree : state.Agree state') (same : input.Agree input') :
    State.Agree (step input state) (step input' state') := by
  cases high : input.reset with
  | true =>
      rw [step_of_reset high, step_of_reset (same.reset.symm.trans high)]
      exact State.Agree.cleared agree.vBuf agree.buffered
  | false =>
      rw [step_of_low high, step_of_low (same.reset.symm.trans high)]
      exact agree.clocked same

end FeistelAlgo

namespace Des3

/-- The three cores agree wherever a valid bit is set. -/
def State.Agree (state state' : State) : Prop :=
  ∀ stage, (state.stage stage).Agree (state'.stage stage)

theorem State.Agree.step {state state' : State} (agree : state.Agree state')
    (input : Input) : State.Agree (step input state) (step input state') := by
  intro stage
  match stage with
  | 0 => exact (agree 0).step ⟨rfl, rfl, rfl, rfl, fun _ => rfl⟩
  | 1 =>
      exact (agree 1).step
        ⟨rfl, rfl, rfl, (agree 0).validOut, (agree 0).odata⟩
  | 2 =>
      exact (agree 2).step
        ⟨rfl, rfl, rfl, (agree 1).validOut, (agree 1).odata⟩

end Des3

namespace Des3Avalon

/-- Two states that agree in the registers of the bridge, and in the cascade
wherever a valid bit is set. -/
structure State.Agree (state state' : State) : Prop where
  settings : state.settings = state'.settings
  regValidIn : state.regValidIn = state'.regValidIn
  regOdata : state.regOdata = state'.regOdata
  regValidOut : state.regValidOut = state'.regValidOut
  uDes3 : state.uDes3.Agree state'.uDes3

theorem State.Agree.des3Input {state state' : State}
    (agree : state.Agree state') (input : Input) :
    des3Input input state = des3Input input state' := by
  have settings := agree.settings
  simp only [State.settings, Settings.mk.injEq] at settings
  simp [Des3Avalon.des3Input, settings, agree.regValidIn]

theorem State.Agree.clocked {state state' : State}
    (agree : state.Agree state') (input : Input) :
    State.Agree (clocked input state) (clocked input state') where
  settings := by
    rw [settings_clocked, settings_clocked, agree.settings]
  regValidIn := by
    rw [regValidIn_clocked, regValidIn_clocked]
  regOdata := by
    have valid : state.uDes3.validOut = state'.uDes3.validOut :=
      (agree.uDes3 2).validOut
    cases set : state.uDes3.validOut with
    | true =>
        have output : state.uDes3.odata = state'.uDes3.odata :=
          (agree.uDes3 2).odata set
        simp [Des3Avalon.clocked, ← valid, set, output]
    | false => simp [Des3Avalon.clocked, ← valid, set, agree.regOdata]
  regValidOut := by
    have valid : state.uDes3.validOut = state'.uDes3.validOut :=
      (agree.uDes3 2).validOut
    simp only [Des3Avalon.clocked, valid, agree.regValidOut]
  uDes3 := by
    change (Des3.step (Des3Avalon.des3Input input state) _).Agree
      (Des3.step (Des3Avalon.des3Input input state') _)
    rw [agree.des3Input input]
    exact agree.uDes3.step _

theorem State.Agree.avsReaddata {state state' : State}
    (agree : state.Agree state') (address : BitVec 4) :
    avsReaddata address state = avsReaddata address state' := by
  have settings := agree.settings
  simp only [State.settings, Settings.mk.injEq] at settings
  unfold Des3Avalon.avsReaddata
  simp only [settings, agree.regValidIn, agree.regOdata, agree.regValidOut]

/-- From states in agreement, the same bus cycles without a reset show the
same words. -/
theorem readdata_of_agree {inputs : Nat → Input} {trace trace' : Nat → State}
    (follows : Follows step inputs trace)
    (follows' : Follows step inputs trace')
    (low : ∀ cycle, (inputs cycle).reset = false)
    (agree : (trace 0).Agree (trace' 0)) (cycle : Nat) :
    readdata inputs trace cycle = readdata inputs trace' cycle := by
  refine (follows.related follows' agree ?_ cycle).avsReaddata _
  intro cycle agree
  rw [step_of_low (low cycle), step_of_low (low cycle)]
  exact agree.clocked (inputs cycle)

end Des3Avalon

end TripleDes

import TripleDes.DualKeys
import TripleDes.SingleDes

/-!
# Running under dual keys

A core reads its key and mode ports only through the sixteen round keys.  The
cascade therefore cannot tell a cycle from its counterpart, in which the mode
is the other one and each stage is given the dual of its key; under keys that
are dual to themselves it does not see the mode at all.  A block that has
passed the cascade comes back when it passes once more in the same mode, under
the dual keys in the opposite order.
-/

namespace TripleDes

open Clocked

theorem Dual.symm {first second : BitVec 64} (dual : Dual first second) :
    Dual second first := by
  intro round
  have mirrored := dual (Fin.rev round)
  rw [keyScheduler_decrypt, Fin.rev_rev] at mirrored
  rw [keyScheduler_decrypt, mirrored]

/-- A key in one mode gives the round keys of its dual in the other mode. -/
theorem Dual.keyScheduler_not {first second : BitVec 64}
    (dual : Dual first second) (mode : Bool) (round : Fin 16) :
    keyScheduler round first mode = keyScheduler round second (!mode) := by
  cases mode with
  | false => exact dual round
  | true => exact (dual.symm round).symm

theorem Dual.keyed_not {first second : BitVec 64} (dual : Dual first second)
    (mode : Bool) (block : BitVec 64) :
    keyed (!mode) second block = keyed mode first block := by
  rw [← core_eq_keyed, ← core_eq_keyed, funext (dual.keyScheduler_not mode)]

/-- Under the dual keys in the opposite order each mode does what the other one
does under the keys. -/
theorem tdes_dual {key1 key2 key3 dual1 dual2 dual3 : BitVec 64}
    (first : Dual key1 dual1) (second : Dual key2 dual2)
    (third : Dual key3 dual3) (mode : Bool) (block : BitVec 64) :
    Standard.tdes (!mode) dual3 dual2 dual1 block =
      Standard.tdes mode key1 key2 key3 block := by
  rw [tdes_eq_keyed, tdes_eq_keyed]
  cases mode with
  | false =>
      rw [Bool.not_false, Bool.not_true, if_pos rfl, if_pos rfl,
        if_neg Bool.false_ne_true, if_neg Bool.false_ne_true,
        ← first.keyed_not false, ← second.keyed_not true,
        ← third.keyed_not false]
      rfl
  | true =>
      rw [Bool.not_true, Bool.not_false, if_pos rfl, if_pos rfl,
        if_neg Bool.false_ne_true, if_neg Bool.false_ne_true,
        ← first.keyed_not true, ← second.keyed_not false,
        ← third.keyed_not true]
      rfl

namespace FeistelAlgo

/-- Two cores that differ at most in key and mode registers from which the
scheduler makes the same round keys. -/
structure State.Alike (state state' : State) : Prop where
  K : K state = K state'
  vBuf : state.vBuf = state'.vBuf
  lBuf : state.lBuf = state'.lBuf
  rBuf : state.rBuf = state'.rBuf
  L : state.L = state'.L
  R : state.R = state'.R
  V : state.V = state'.V
  odata : state.odata = state'.odata
  validOut : state.validOut = state'.validOut

/-- The same inputs, up to a key and a mode with the same round keys. -/
structure Input.Alike (input input' : Input) : Prop where
  reset : input.reset = input'.reset
  idata : input.idata = input'.idata
  validIn : input.validIn = input'.validIn
  roundKeys : ∀ round, keyScheduler round input.keyIn input.decrypt =
    keyScheduler round input'.keyIn input'.decrypt

variable {state state' : State} {input input' : Input}

theorem State.Alike.cleared (alike : state.Alike state') :
    State.Alike (cleared state) (cleared state') where
  K := alike.K
  vBuf := alike.vBuf
  lBuf := alike.lBuf
  rBuf := alike.rBuf
  L := rfl
  R := rfl
  V := rfl
  odata := rfl
  validOut := rfl

theorem State.Alike.clocked (alike : state.Alike state')
    (same : input.Alike input') :
    State.Alike (clocked input state) (clocked input' state') where
  K := by
    funext round
    rw [K_clocked, K_clocked, same.roundKeys]
  vBuf := same.validIn
  lBuf := by simp only [FeistelAlgo.clocked, same.idata]
  rBuf := by simp only [FeistelAlgo.clocked, same.idata]
  L := by simp only [FeistelAlgo.clocked, alike.lBuf, alike.R]
  R := by simp only [FeistelAlgo.clocked, fOut, alike.rBuf, alike.L, alike.R, alike.K]
  V := by simp only [FeistelAlgo.clocked, alike.vBuf, alike.V]
  odata := by simp only [FeistelAlgo.clocked, alike.L, alike.R]
  validOut := by simp only [FeistelAlgo.clocked, alike.V]

theorem State.Alike.step (alike : state.Alike state')
    (same : input.Alike input') :
    State.Alike (step input state) (step input' state') := by
  cases high : input.reset with
  | true =>
      rw [step_of_reset high, step_of_reset (same.reset.symm.trans high)]
      exact alike.cleared
  | false =>
      rw [step_of_low high, step_of_low (same.reset.symm.trans high)]
      exact alike.clocked same

theorem State.Alike.refl (state : State) : state.Alike state :=
  ⟨rfl, rfl, rfl, rfl, rfl, rfl, rfl, rfl, rfl⟩

end FeistelAlgo

namespace Des3

/-- Every stage of the cascade is alike. -/
def State.Alike (state state' : State) : Prop :=
  ∀ stage, (state.stage stage).Alike (state'.stage stage)

/-- The same inputs, up to keys and a mode that give every stage the same round
keys. -/
structure Input.Alike (input input' : Input) : Prop where
  reset : input.reset = input'.reset
  idata : input.idata = input'.idata
  validIn : input.validIn = input'.validIn
  roundKeys : ∀ stage round, roundKey round (stageKey stage input) =
    roundKey round (stageKey stage input')

/-- The cycle in the other mode, with the dual of its key at each stage. -/
structure Input.Counterpart (input input' : Input) : Prop where
  reset : input.reset = input'.reset
  idata : input.idata = input'.idata
  validIn : input.validIn = input'.validIn
  decrypt : input'.decrypt = !input.decrypt
  key1 : Dual input.key1 input'.key3
  key2 : Dual input.key2 input'.key2
  key3 : Dual input.key3 input'.key1

theorem Input.Counterpart.alike {input input' : Input}
    (counterpart : input.Counterpart input') : input.Alike input' where
  reset := counterpart.reset
  idata := counterpart.idata
  validIn := counterpart.validIn
  roundKeys stage round := by
    obtain ⟨-, -, -, other, first, second, third⟩ := counterpart
    match stage with
    | 0 =>
        simp only [roundKey, stageKey, stage1Key, other]
        cases input.decrypt with
        | false => exact first.keyScheduler_not false round
        | true => exact third.keyScheduler_not true round
    | 1 =>
        simp only [roundKey, stageKey, other]
        exact second.keyScheduler_not _ round
    | 2 =>
        simp only [roundKey, stageKey, stage3Key, other]
        cases input.decrypt with
        | false => exact third.keyScheduler_not false round
        | true => exact first.keyScheduler_not true round

theorem State.Alike.step {state state' : State} {input input' : Input}
    (alike : state.Alike state') (same : input.Alike input') :
    State.Alike (step input state) (step input' state') := by
  intro stage
  match stage with
  | 0 =>
      exact (alike 0).step
        ⟨same.reset, same.idata, same.validIn, same.roundKeys 0⟩
  | 1 =>
      exact (alike 1).step
        ⟨same.reset, (alike 0).odata, (alike 0).validOut, same.roundKeys 1⟩
  | 2 =>
      exact (alike 2).step
        ⟨same.reset, (alike 1).odata, (alike 1).validOut, same.roundKeys 2⟩

/-- Any cycles of a run may be replaced by their counterparts: neither output
of the cascade shows it in any cycle. -/
theorem counterparts_indistinguishable (initial : State)
    (inputs inputs' : Nat → Input)
    (counterparts : ∀ cycle, inputs' cycle = inputs cycle ∨
      (inputs cycle).Counterpart (inputs' cycle)) (cycle : Nat) :
    (run step inputs' initial cycle).odata =
        (run step inputs initial cycle).odata ∧
      (run step inputs' initial cycle).validOut =
        (run step inputs initial cycle).validOut := by
  have same (cycle : Nat) : (inputs cycle).Alike (inputs' cycle) := by
    rcases counterparts cycle with unchanged | counterpart
    · rw [unchanged]
      exact ⟨rfl, rfl, rfl, fun _ _ => rfl⟩
    · exact counterpart.alike
  have alike := (run_follows step inputs initial).related
    (run_follows step inputs' initial)
    (fun stage => FeistelAlgo.State.Alike.refl (initial.stage stage))
    (fun cycle alike => State.Alike.step alike (same cycle)) cycle
  exact ⟨(alike 2).odata.symm, (alike 2).validOut.symm⟩

/-- The blocks of `des3_pipeline_tb.v` under keys that are dual to
themselves. -/
def weakBench (cycle : Nat) : Input :=
  { pipelineBench cycle with
    key1 := 0x0101010101010101
    key2 := 0x1F1F1F1F0E0E0E0E
    key3 := 0x0101010101010101 }

/-- These blocks with the mode changing from cycle to cycle. -/
def weakBenchToggled (cycle : Nat) : Input :=
  { weakBench cycle with decrypt := cycle % 2 == 1 }

theorem counterparts_indistinguishable_weakBench :
    (run step weakBenchToggled default 57).odata =
      (run step weakBench default 57).odata := by
  have self1 : Dual 0x0101010101010101 0x0101010101010101 := by
    unfold Dual
    decide +kernel
  have self2 : Dual 0x1F1F1F1F0E0E0E0E 0x1F1F1F1F0E0E0E0E := by
    unfold Dual
    decide +kernel
  refine (counterparts_indistinguishable default weakBench weakBenchToggled
    (fun cycle => ?_) 57).1
  cases odd : cycle % 2 == 1 with
  | false =>
      left
      simp only [weakBenchToggled, odd]
      rfl
  | true =>
      right
      exact ⟨rfl, rfl, rfl, odd, self1, self2, self1⟩

/-- A block that has passed the cascade under three keys comes back when it
passes in the same mode under the dual keys in the opposite order, in the same
run or in another. -/
theorem round_trip_dual (initial initial' : State)
    (inputs inputs' : Nat → Input) (start start' : Nat) (mode : Bool)
    (key1 key2 key3 dual1 dual2 dual3 : BitVec 64)
    (first : Dual key1 dual1) (second : Dual key2 dual2)
    (third : Dual key3 dual3)
    (low : Throughout start (start + 56) fun cycle =>
      (inputs cycle).reset = false)
    (low' : Throughout start' (start' + 56) fun cycle =>
      (inputs' cycle).reset = false)
    (held : Held inputs start mode key1 key2 key3)
    (held' : Held inputs' start' mode dual3 dual2 dual1)
    (returned : (inputs' start').idata =
      (run step inputs initial (start + 57)).odata) :
    (run step inputs' initial' (start' + 57)).odata =
      (inputs start).idata := by
  have undone := tdes_dual first second third (!mode)
    (Standard.tdes mode key1 key2 key3 (inputs start).idata)
  rw [Bool.not_not, tdes_not_tdes] at undone
  rw [odata_of_sampled (run_follows step inputs' initial') low' held'.sampled,
    returned,
    odata_of_sampled (run_follows step inputs initial) low held.sampled, undone]

/-- The blocks of `des3_pipeline_tb.v` under three given keys. -/
def keyedBench (key1 key2 key3 : BitVec 64) (cycle : Nat) : Input :=
  { pipelineBench cycle with key1 := key1, key2 := key2, key3 := key3 }

theorem round_trip_dual_bench :
    (run step (fun cycle => { keyedBench 0x0101010101010101
          0xE0FEE0FEF1FEF1FE 0xFE01FE01FE01FE01 cycle with
        idata := (run step (keyedBench 0x01FE01FE01FE01FE 0xFEE0FEE0FEF1FEF1
          0x0101010101010101) default 57).odata })
      default 57).odata = 0x35A2F80F51564C52 :=
  round_trip_dual default default (keyedBench 0x01FE01FE01FE01FE
    0xFEE0FEE0FEF1FEF1 0x0101010101010101) _ 0 0 false 0x01FE01FE01FE01FE
    0xFEE0FEE0FEF1FEF1 0x0101010101010101 0xFE01FE01FE01FE01
    0xE0FEE0FEF1FEF1FE 0x0101010101010101
    (by unfold Dual; decide +kernel) (by unfold Dual; decide +kernel)
    (by unfold Dual; decide +kernel) (fun _ _ _ => rfl) (fun _ _ _ => rfl)
    (fun _ _ _ => ⟨rfl, rfl, rfl, rfl⟩) (fun _ _ _ => ⟨rfl, rfl, rfl, rfl⟩) rfl

end Des3

end TripleDes

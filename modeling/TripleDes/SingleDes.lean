import TripleDes.KeySpace
import TripleDes.Streaming

/-!
# Single keys

Two neighbouring stages of the cascade under one key undo each other, since the
middle core runs in the opposite mode.  With its first two keys or its last two
keys the same, the cascade therefore does what a single core does under the
remaining key, in the same mode.
-/

namespace TripleDes

open Clocked

/-- Parity bits of a held key do not matter. -/
theorem keyed_congr {first second : BitVec 64} (same : SameKey first second)
    (mode : Bool) (block : BitVec 64) :
    keyed mode first block = keyed mode second block := by
  have roundKeys := (keyScheduler_eq_iff mode first second).mpr same
  rw [← core_eq_keyed, funext roundKeys, core_eq_keyed]

theorem keyed_keyed_not (mode : Bool) (key block : BitVec 64) :
    keyed mode key (keyed (!mode) key block) = block := by
  have undone := keyed_not_keyed (!mode) key block
  rwa [Bool.not_not] at undone

theorem tdes_of_sameKey12 {key1 key2 : BitVec 64} (same : SameKey key1 key2)
    (mode : Bool) (key3 block : BitVec 64) :
    Standard.tdes mode key1 key2 key3 block = keyed mode key3 block := by
  rw [tdes_eq_keyed]
  cases mode with
  | false =>
      rw [if_neg Bool.false_ne_true, if_neg Bool.false_ne_true,
        keyed_congr same, keyed_not_keyed]
  | true =>
      rw [if_pos rfl, if_pos rfl, keyed_congr same, keyed_keyed_not]

theorem tdes_of_sameKey23 {key2 key3 : BitVec 64} (same : SameKey key2 key3)
    (mode : Bool) (key1 block : BitVec 64) :
    Standard.tdes mode key1 key2 key3 block = keyed mode key1 block := by
  rw [tdes_eq_keyed]
  cases mode with
  | false =>
      rw [if_neg Bool.false_ne_true, if_neg Bool.false_ne_true,
        keyed_congr same, keyed_keyed_not]
  | true =>
      rw [if_pos rfl, if_pos rfl, keyed_congr same, keyed_not_keyed]

namespace FeistelAlgo

/-- Mode and key are held while a block is in the rounds of a core. -/
def Held (inputs : Nat → Input) (start : Nat) (mode : Bool)
    (key : BitVec 64) : Prop :=
  Throughout (start + 1) (start + 16) fun cycle =>
    (inputs cycle).decrypt = mode ∧ (inputs cycle).keyIn = key

/-- A core under a held key is the published cipher in its mode. -/
theorem odata_of_held {inputs : Nat → Input} {trace : Nat → State}
    {start : Nat} {mode : Bool} {key : BitVec 64}
    (follows : Follows step inputs trace)
    (low : Throughout start (start + 18) fun cycle =>
      (inputs cycle).reset = false)
    (held : Held inputs start mode key) :
    (trace (start + 19)).odata = keyed mode key (inputs start).idata := by
  have sampled : sampledKeys inputs (start + 1) =
      fun round => keyScheduler round key mode := by
    funext round
    obtain ⟨direction, sameKey⟩ :=
      held (start + 1 + round) (by omega) (by omega)
    rw [sampledKeys, direction, sameKey]
  rw [odata_of_idata follows low, sampled, core_eq_keyed]

end FeistelAlgo

namespace Des3

/-- The cascade falls back to one core: to one under the third key when the
first two keys are the same apart from parity, and to one under the first key
when the last two are. -/
theorem odata_eq_single (initial : State) (inputs : Nat → Input) (start : Nat)
    (single : FeistelAlgo.State) (ports : Nat → FeistelAlgo.Input)
    (start' : Nat) (mode : Bool) (key1 key2 key3 : BitVec 64)
    (low : Throughout start (start + 56) fun cycle =>
      (inputs cycle).reset = false)
    (low' : Throughout start' (start' + 18) fun cycle =>
      (ports cycle).reset = false)
    (held : Held inputs start mode key1 key2 key3)
    (sameBlock : (ports start').idata = (inputs start).idata) :
    (SameKey key1 key2 → FeistelAlgo.Held ports start' mode key3 →
      (run step inputs initial (start + 57)).odata =
        (run FeistelAlgo.step ports single (start' + 19)).odata) ∧
    (SameKey key2 key3 → FeistelAlgo.Held ports start' mode key1 →
      (run step inputs initial (start + 57)).odata =
        (run FeistelAlgo.step ports single (start' + 19)).odata) := by
  have cascaded := odata_of_sampled (run_follows step inputs initial) low
    held.sampled
  have alone {key : BitVec 64} (held' : FeistelAlgo.Held ports start' mode key) :
      (run FeistelAlgo.step ports single (start' + 19)).odata =
        keyed mode key (inputs start).idata := by
    rw [FeistelAlgo.odata_of_held (run_follows _ _ _) low' held', sameBlock]
  constructor
  · intro same held'
    rw [cascaded, alone held', tdes_of_sameKey12 same]
  · intro same held'
    rw [cascaded, alone held', tdes_of_sameKey23 same]

/-- A core that is fed the blocks of `des3_pipeline_tb.v`. -/
def singleBench (key : BitVec 64) (cycle : Nat) : FeistelAlgo.Input where
  reset := false
  idata := (pipelineBench cycle).idata
  keyIn := key
  decrypt := false
  validIn := (pipelineBench cycle).validIn

theorem odata_eq_single_bench :
    (run step (fun cycle => { pipelineBench cycle with
        key1 := 0x6F295595C05ED7FA
        key2 := 0x6E295595C05ED7FB }) default 57).odata =
      (run FeistelAlgo.step (singleBench 0x6F295595C05ED7FB) default 19).odata :=
  (odata_eq_single default _ 0 default _ 0 false 0x6F295595C05ED7FA
    0x6E295595C05ED7FB 0x6F295595C05ED7FB (fun _ _ _ => rfl)
    (fun _ _ _ => rfl) (fun _ _ _ => ⟨rfl, rfl, rfl, rfl⟩) rfl).1
    (by unfold SameKey; decide) fun _ _ _ => ⟨rfl, rfl⟩

end Des3

end TripleDes

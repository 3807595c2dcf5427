import TripleDes.KeyWirings
import TripleDes.Des3
import Mathlib.Data.Set.Card

/-!
# The key space

The rounds together read each of the 56 key bits and none of the eight parity
bits.  Two keys therefore give the same round keys exactly if they agree apart
from parity, and a core or a cascade runs the same when the parity bits of all
its keys are cleared.
-/

namespace TripleDes

open Clocked

/-- The keys agree at all positions but those of the parity bits, which are the
multiples of eight. -/
def SameKey (first second : BitVec 64) : Prop :=
  ∀ position : Fin 64, (position : Nat) % 8 ≠ 0 →
    first.getLsbD position = second.getLsbD position

section RoundKeys

theorem keyWiring_mod_ne (mode : Bool) (round : Fin 16) (output : Fin 48) :
    (keyWiring mode round output : Nat) % 8 ≠ 0 := by
  have upper : ∀ index : Fin 28, (c0 index : Nat) % 8 ≠ 0 := by
    decide
  have lower : ∀ index : Fin 28, (d0 index : Nat) % 8 ≠ 0 := by
    decide
  simp only [keyWiring, Wiring.beside, Function.comp_apply]
  split
  · exact lower _
  · exact upper _

/-- What one round leaves out of the key, another one reads. -/
theorem exists_keyWiring : ∀ (mode : Bool) (position : Fin 64),
    (position : Nat) % 8 ≠ 0 →
      ∃ round output, keyWiring mode round output = position := by
  decide +kernel

theorem keyWiring_reads (mode : Bool) (position : Fin 64) :
    (∃ round output, keyWiring mode round output = position) ↔
      (position : Nat) % 8 ≠ 0 := by
  constructor
  · rintro ⟨round, output, rfl⟩
    exact keyWiring_mod_ne mode round output
  · exact exists_keyWiring mode position

theorem keyScheduler_eq_iff (mode : Bool) (first second : BitVec 64) :
    (∀ round, keyScheduler round first mode =
        keyScheduler round second mode) ↔ SameKey first second := by
  simp only [keyScheduler_eq_route, Wiring.routes_eq_iff, keyWiring_reads,
    SameKey]

theorem pc1_eq_iff (first second : BitVec 64) :
    pc1 first = pc1 second ↔ SameKey first second := by
  have reads : ∀ position : Fin 64,
      (∃ output, pc1Wiring output = position) ↔
        (position : Nat) % 8 ≠ 0 := by
    decide +kernel
  have selected := Wiring.routes_eq_iff (fun _ : Unit => pc1Wiring) first second
  simp only [forall_const, exists_const, reads] at selected
  exact selected

theorem pc1_surjective : Function.Surjective pc1 :=
  Wiring.route_surjective (by decide)

/-- There are as many sequences of round keys as there are selected keys. -/
theorem ncard_roundKeys (mode : Bool) :
    (Set.range fun (key : BitVec 64) (round : Fin 16) =>
      keyScheduler round key mode).ncard = 2 ^ 56 := by
  obtain ⟨key, selected⟩ := pc1_surjective.hasRightInverse
  have sameRange : (Set.range fun (key : BitVec 64) (round : Fin 16) =>
        keyScheduler round key mode) =
      Set.range fun (selected : BitVec 56) (round : Fin 16) =>
        keyScheduler round (key selected) mode := by
    apply Set.Subset.antisymm
    · rintro _ ⟨given, rfl⟩
      refine ⟨pc1 given, funext ?_⟩
      rw [keyScheduler_eq_iff, ← pc1_eq_iff, selected]
    · rintro _ ⟨given, rfl⟩
      exact ⟨key given, rfl⟩
  have injective : Function.Injective
      fun (selected : BitVec 56) (round : Fin 16) =>
        keyScheduler round (key selected) mode := by
    intro first second equal
    have same := (keyScheduler_eq_iff mode _ _).mp (congrFun equal)
    rwa [← pc1_eq_iff, selected, selected] at same
  rw [sameRange, Set.ncard_range_of_injective injective,
    Nat.card_congr BitVec.equivFin.toEquiv, Nat.card_eq_fintype_card,
    Fintype.card_fin]

end RoundKeys

section Runs

/-- A key with its parity bits cleared. -/
def withoutParity (key : BitVec 64) : BitVec 64 :=
  key &&& 0xFEFEFEFEFEFEFEFE

theorem getLsbD_withoutParity (key : BitVec 64) (position : Fin 64) :
    (withoutParity key).getLsbD position =
      (key.getLsbD position && decide ((position : Nat) % 8 ≠ 0)) := by
  have mask : ∀ position : Fin 64,
      (0xFEFEFEFEFEFEFEFE : BitVec 64).getLsbD position =
        decide ((position : Nat) % 8 ≠ 0) := by
    decide
  rw [withoutParity, BitVec.getLsbD_and, mask]

theorem sameKey_withoutParity (key : BitVec 64) :
    SameKey (withoutParity key) key := by
  intro position real
  rw [getLsbD_withoutParity, decide_eq_true real, Bool.and_true]

theorem withoutParity_eq {first second : BitVec 64}
    (same : SameKey first second) :
    withoutParity first = withoutParity second := by
  apply Wiring.eq_of_getLsbD_fin
  intro position
  rw [getLsbD_withoutParity, getLsbD_withoutParity]
  by_cases real : (position : Nat) % 8 ≠ 0
  · rw [same position real]
  · simp [real]

@[simp]
theorem keyScheduler_withoutParity (round : Fin 16) (key : BitVec 64)
    (mode : Bool) :
    keyScheduler round (withoutParity key) mode =
      keyScheduler round key mode :=
  (keyScheduler_eq_iff mode _ _).mpr (sameKey_withoutParity key) round

namespace FeistelAlgo

def Input.withoutParity (input : Input) : Input :=
  { input with keyIn := TripleDes.withoutParity input.keyIn }

def State.withoutParity (state : State) : State :=
  { state with
    keyIn1 := TripleDes.withoutParity state.keyIn1
    keyIn2 := TripleDes.withoutParity state.keyIn2 }

theorem K_withoutParity (state : State) : K state.withoutParity = K state := by
  funext round
  unfold K
  split <;> exact keyScheduler_withoutParity round _ _

/-- Clearing the parity bits before a cycle or after it is the same. -/
theorem withoutParity_step (input : Input) (state : State) :
    (step input state).withoutParity =
      step input.withoutParity state.withoutParity := by
  cases high : input.reset with
  | true =>
      rw [step_of_reset high,
        step_of_reset (show input.withoutParity.reset = true from high)]
      rfl
  | false =>
      have outputs : fOut state.withoutParity = fOut state := by
        funext round
        rw [fOut, fOut, K_withoutParity]
        rfl
      rw [step_of_low high,
        step_of_low (show input.withoutParity.reset = false from high)]
      simp only [clocked, outputs]
      rfl

/-- Parity bits of the key port change no output. -/
theorem odata_of_withoutParity (initial : State) {inputs inputs' : Nat → Input}
    (same : ∀ cycle, (inputs cycle).withoutParity =
      (inputs' cycle).withoutParity) (cycle : Nat) :
    (run step inputs initial cycle).odata =
      (run step inputs' initial cycle).odata := by
  have cleared : (run step inputs initial cycle).withoutParity =
      (run step inputs' initial cycle).withoutParity :=
    (run_follows step inputs initial).eq_of_views
      (run_follows step inputs' initial) State.withoutParity
      Input.withoutParity withoutParity_step rfl fun earlier _ => same earlier
  change (run step inputs initial cycle).withoutParity.odata = _
  rw [cleared]
  rfl

end FeistelAlgo

namespace Des3

def Input.withoutParity (input : Input) : Input :=
  { input with
    key1 := TripleDes.withoutParity input.key1
    key2 := TripleDes.withoutParity input.key2
    key3 := TripleDes.withoutParity input.key3 }

def State.withoutParity (state : State) : State where
  encrypt1 := state.encrypt1.withoutParity
  decrypt2 := state.decrypt2.withoutParity
  encrypt3 := state.encrypt3.withoutParity

theorem withoutParity_step (input : Input) (state : State) :
    (step input state).withoutParity =
      step input.withoutParity state.withoutParity := by
  have first : (encrypt1Input input).withoutParity =
      encrypt1Input input.withoutParity := by
    simp only [encrypt1Input, stage1Key, FeistelAlgo.Input.withoutParity,
      Input.withoutParity, apply_ite]
    rfl
  have third : (encrypt3Input input state).withoutParity =
      encrypt3Input input.withoutParity state.withoutParity := by
    simp only [encrypt3Input, stage3Key, FeistelAlgo.Input.withoutParity,
      Input.withoutParity, apply_ite]
    rfl
  simp only [step, State.withoutParity, FeistelAlgo.withoutParity_step, first,
    third]
  rfl

/-- Parity bits of the three key ports change no output. -/
theorem odata_of_withoutParity (initial : State) {inputs inputs' : Nat → Input}
    (same : ∀ cycle, (inputs cycle).withoutParity =
      (inputs' cycle).withoutParity) (cycle : Nat) :
    (run step inputs initial cycle).odata =
      (run step inputs' initial cycle).odata := by
  have cleared : (run step inputs initial cycle).withoutParity =
      (run step inputs' initial cycle).withoutParity :=
    (run_follows step inputs initial).eq_of_views
      (run_follows step inputs' initial) State.withoutParity
      Input.withoutParity withoutParity_step rfl fun earlier _ => same earlier
  change (run step inputs initial cycle).withoutParity.odata = _
  rw [cleared]
  rfl

end Des3

end Runs

/-- Every key counts with exactly its 56 real bits: the round keys tell two
keys apart exactly if these differ in a real bit, there are 2^56 sequences of
round keys, and parity bits change no output of a core or of the cascade. -/
theorem effective_key_bits (mode : Bool) :
    (∀ first second : BitVec 64,
      (∀ round, keyScheduler round first mode =
        keyScheduler round second mode) ↔ SameKey first second) ∧
    (Set.range fun (key : BitVec 64) (round : Fin 16) =>
      keyScheduler round key mode).ncard = 2 ^ 56 ∧
    (∀ (initial : FeistelAlgo.State) (inputs : Nat → FeistelAlgo.Input)
        (key : Nat → BitVec 64),
      (∀ cycle, SameKey (key cycle) (inputs cycle).keyIn) →
      ∀ cycle,
        (run FeistelAlgo.step (fun cycle =>
          { inputs cycle with keyIn := key cycle }) initial cycle).odata =
        (run FeistelAlgo.step inputs initial cycle).odata) ∧
    ∀ (initial : Des3.State) (inputs : Nat → Des3.Input)
        (key1 key2 key3 : Nat → BitVec 64),
      (∀ cycle, SameKey (key1 cycle) (inputs cycle).key1) →
      (∀ cycle, SameKey (key2 cycle) (inputs cycle).key2) →
      (∀ cycle, SameKey (key3 cycle) (inputs cycle).key3) →
      ∀ cycle,
        (run Des3.step (fun cycle =>
          { inputs cycle with
            key1 := key1 cycle
            key2 := key2 cycle
            key3 := key3 cycle }) initial cycle).odata =
        (run Des3.step inputs initial cycle).odata := by
  refine ⟨keyScheduler_eq_iff mode, ncard_roundKeys mode, ?_, ?_⟩
  · intro initial inputs key same cycle
    refine FeistelAlgo.odata_of_withoutParity initial (fun cycle => ?_) cycle
    simp only [FeistelAlgo.Input.withoutParity, withoutParity_eq (same cycle)]
  · intro initial inputs key1 key2 key3 same1 same2 same3 cycle
    refine Des3.odata_of_withoutParity initial (fun cycle => ?_) cycle
    simp only [Des3.Input.withoutParity, withoutParity_eq (same1 cycle),
      withoutParity_eq (same2 cycle), withoutParity_eq (same3 cycle)]

end TripleDes

import TripleDes.Pipeline
import TripleDes.Standard

/-!
# The core is the published cipher

Every table of the circuit agrees with its published counterpart, and the
closed-form key schedule with the stepwise one.  Under a key held through the
sixteen sampling cycles the core is therefore the published cipher in the
direction of its mode, and the cascade its triple form.
-/

namespace TripleDes

open Standard

theorem select_initialPermutation (block : BitVec 64) :
    Wiring.select initialPermutation block = ip block :=
  Wiring.select_eq_route (by decide) block

theorem select_finalPermutation (block : BitVec 64) :
    Wiring.select finalPermutation block = ipInv block :=
  Wiring.select_eq_route (by decide) block

theorem select_expansion (half : BitVec 32) :
    Wiring.select expansion half = e half :=
  Wiring.select_eq_route (by decide) half

theorem select_permutation (half : BitVec 32) :
    Wiring.select permutation half = p half :=
  Wiring.select_eq_route (by decide) half

/-- The `case` tables list the rows and columns of the selection functions by
input value. -/
theorem select6_eq_sBox :
    ∀ input : BitVec 6, select6 0 input = s1 input ∧
      select6 1 input = s2 input ∧ select6 2 input = s3 input ∧
      select6 3 input = s4 input ∧ select6 4 input = s5 input ∧
      select6 5 input = s6 input ∧ select6 6 input = s7 input ∧
      select6 7 input = s8 input := by
  decide +kernel

theorem cipherFunction_eq_f (half : BitVec 32) (roundKey : BitVec 48) :
    cipherFunction half roundKey = f half roundKey := by
  simp only [cipherFunction, f, s, select_expansion, select_permutation,
    select6_eq_sBox]
  rfl

theorem round_eq_step (halves : BitVec 32 × BitVec 32)
    (roundKey : BitVec 48) :
    Standard.round halves roundKey = network.step roundKey halves := by
  simp [Standard.round, Feistel.step, network, cipherFunction_eq_f]

theorem des_eq_cipher (roundKeys : List (BitVec 48)) (block : BitVec 64) :
    des roundKeys block = network.cipher blockPort roundKeys block := by
  have rounds : (fun halves roundKey => Standard.round halves roundKey) =
      fun halves roundKey => network.step roundKey halves := by
    funext halves roundKey
    exact round_eq_step halves roundKey
  change Wiring.select finalPermutation _ = _
  rw [select_finalPermutation, select_initialPermutation]
  rw [show Standard.round = _ from rounds]
  rfl

/-- Total rotation after each step of a list of rotations. -/
def totals (reached : Nat) : List Nat → List Nat
  | [] => []
  | amount :: amounts =>
      (reached + amount) :: totals (reached + amount) amounts

theorem keysFrom_rotateLeft (c d : BitVec 28) (reached : Nat)
    (amounts : List Nat) :
    keysFrom (c.rotateLeft reached) (d.rotateLeft reached) amounts =
      (totals reached amounts).map fun total =>
        Wiring.select permutedChoice2
          (c.rotateLeft total ++ d.rotateLeft total) := by
  induction amounts generalizing reached with
  | nil => rfl
  | cons amount amounts ih =>
      simp only [keysFrom, totals, List.map_cons,
        Wiring.rotateLeft_rotateLeft, ih]

/-- The stepwise schedule lists the enciphering round keys of the circuit. -/
theorem roundKeys_eq_keyScheduler (key : BitVec 64) :
    roundKeys key =
      List.ofFn fun round => keyScheduler round key false := by
  have schedule : totals 0 leftRotations = List.ofFn shiftEnc := by
    decide
  have selected (round : Fin 16) :
      Wiring.select permutedChoice2
          ((c0.route key).rotateLeft (shiftEnc round) ++
            (d0.route key).rotateLeft (shiftEnc round)) =
        keyScheduler round key false := by
    rw [← rotated_eq_rotateLeft _ (shiftEnc_le round),
      ← rotated_eq_rotateLeft _ (shiftEnc_le round)]
    exact Wiring.select_eq_route (by decide) _
  have upper : Wiring.select permutedChoice1C key = c0.route key :=
    Wiring.select_eq_route (by decide) key
  have lower : Wiring.select permutedChoice1D key = d0.route key :=
    Wiring.select_eq_route (by decide) key
  rw [roundKeys, upper, lower, ← Wiring.rotateLeft_zero (c0.route key),
    ← Wiring.rotateLeft_zero (d0.route key), keysFrom_rotateLeft, schedule,
    List.map_ofFn]
  exact congrArg List.ofFn (funext selected)

/-- A held key makes the core the published cipher of its mode. -/
def keyed (mode : Bool) (key block : BitVec 64) : BitVec 64 :=
  if mode then decrypt key block else encrypt key block

theorem core_eq_keyed (mode : Bool) (key block : BitVec 64) :
    core (fun round => keyScheduler round key mode) block =
      keyed mode key block := by
  cases mode with
  | false =>
      change _ = des (roundKeys key) block
      rw [des_eq_cipher, roundKeys_eq_keyScheduler]
      rfl
  | true =>
      change _ = des (roundKeys key).reverse block
      have backwards : (roundKeys key).reverse =
          List.ofFn fun round => keyScheduler round key true := by
        rw [roundKeys_eq_keyScheduler, Feistel.reverse_ofFn]
        exact congrArg List.ofFn
          (funext fun round => (keyScheduler_decrypt round key).symm)
      rw [des_eq_cipher, backwards]
      rfl

theorem keyed_not_keyed (mode : Bool) (key block : BitVec 64) :
    keyed (!mode) key (keyed mode key block) = block := by
  cases mode with
  | false =>
      change des (roundKeys key).reverse (des (roundKeys key) block) = block
      rw [des_eq_cipher, des_eq_cipher, Feistel.cipher_reverse_cipher]
  | true =>
      change des (roundKeys key) (des (roundKeys key).reverse block) = block
      rw [des_eq_cipher, des_eq_cipher, Feistel.cipher_cipher_reverse]

theorem tdes_eq_keyed (mode : Bool) (key1 key2 key3 block : BitVec 64) :
    tdes mode key1 key2 key3 block =
      keyed mode (if mode then key1 else key3) (keyed (!mode) key2
        (keyed mode (if mode then key3 else key1) block)) := by
  cases mode <;> simp [tdes, keyed]

/-- Triple enciphering and triple deciphering undo each other in both
orders. -/
theorem tdes_not_tdes (mode : Bool) (key1 key2 key3 block : BitVec 64) :
    tdes (!mode) key1 key2 key3 (tdes mode key1 key2 key3 block) = block := by
  have entering : (if !mode then key3 else key1) =
      if mode then key1 else key3 := by
    cases mode <;> rfl
  have leaving : (if !mode then key1 else key3) =
      if mode then key3 else key1 := by
    cases mode <;> rfl
  rw [tdes_eq_keyed, tdes_eq_keyed, entering, leaving, keyed_not_keyed,
    keyed_not_keyed, keyed_not_keyed]

end TripleDes

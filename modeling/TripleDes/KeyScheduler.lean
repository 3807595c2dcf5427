import TripleDes.Permutations

/-!
# Round keys

`key_scheduler.v` computes the round key of one fixed round directly from the
64-bit key: both halves of the selected key are rotated by an absolute amount
that depends on the round and on the direction, and the round key is selected
from the rotated halves.
-/

namespace TripleDes

/-- Cumulative rotation of each round when enciphering. -/
def shiftEnc (round : Fin 16) : Nat :=
  #v[1, 2, 4, 6, 8, 10, 12, 14, 15, 17, 19, 21, 23, 25, 27, 28].get round

/-- Cumulative rotation of each round when deciphering. -/
def shiftDec (round : Fin 16) : Nat :=
  #v[28, 27, 25, 23, 21, 19, 17, 15, 14, 12, 10, 8, 6, 4, 2, 1].get round

/-- `(half << shift) | (half >> (28 - shift))`, on 28 bits. -/
def rotated (half : BitVec 28) (shift : Nat) : BitVec 28 :=
  (half <<< shift) ||| (half >>> (28 - shift))

/-- The two halves after the rotation of a round. -/
def cd (round : Fin 16) (keyIn : BitVec 64) (decrypt : Bool) : BitVec 56 :=
  let shift := if decrypt then shiftDec round else shiftEnc round
  rotated (c0.route keyIn) shift ++ rotated (d0.route keyIn) shift

/-- The round key that `key_scheduler` outputs for the round `ROUND`. -/
def keyScheduler (round : Fin 16) (keyIn : BitVec 64) (decrypt : Bool) :
    BitVec 48 :=
  kOut.route (cd round keyIn decrypt)

/-- The shifted and the wrapped part of a rotation never overlap, also in the
extreme case of a shift by all 28 positions. -/
theorem rotated_eq_rotateLeft (half : BitVec 28) {shift : Nat}
    (bound : shift ≤ 28) :
    rotated half shift = half.rotateLeft shift := by
  rcases Nat.lt_or_eq_of_le bound with below | whole
  · rw [BitVec.rotateLeft_def, Nat.mod_eq_of_lt below]
    rfl
  · subst whole
    have wrapped : half >>> 28 = 0#28 :=
      BitVec.ushiftRight_eq_zero (Nat.le_refl 28)
    simp [rotated, BitVec.rotateLeft_def, wrapped]

theorem shiftDec_eq_shiftEnc_rev (round : Fin 16) :
    shiftDec round = shiftEnc round.rev := by
  revert round
  decide

theorem shiftEnc_le (round : Fin 16) : shiftEnc round ≤ 28 := by
  revert round
  decide

theorem keyScheduler_decrypt (round : Fin 16) (keyIn : BitVec 64) :
    keyScheduler round keyIn true = keyScheduler round.rev keyIn false := by
  simp [keyScheduler, cd, shiftDec_eq_shiftEnc_rev]

end TripleDes

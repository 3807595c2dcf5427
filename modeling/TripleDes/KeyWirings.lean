import TripleDes.KeyScheduler
import TripleDes.Standard

/-!
# Round keys as wirings

Selecting bits of a key, rotating its two halves and selecting bits again is a
wiring from the 64-bit key to the round key, and so is every round of
`key_scheduler.v`.  Rotating once by the absolute amount of a round wires the
same as rotating step by step up to that round, and the wirings inlined in the
scheduler are those of the modules `PC1.v` and `PC2.v`.
-/

namespace TripleDes

/-- Cumulative rotation of a round in a mode. -/
def shift (mode : Bool) (round : Fin 16) : Nat :=
  if mode then shiftDec round else shiftEnc round

theorem shift_le (mode : Bool) (round : Fin 16) : shift mode round ≤ 28 := by
  cases mode with
  | false => exact shiftEnc_le round
  | true =>
      rw [shift, if_pos rfl, shiftDec_eq_shiftEnc_rev]
      exact shiftEnc_le round.rev

theorem rotated_eq_route (half : BitVec 28) {amount : Nat}
    (bound : amount ≤ 28) :
    rotated half amount = Wiring.route (Wiring.rotation 28 amount) half := by
  rw [rotated_eq_rotateLeft half bound, Wiring.rotateLeft_eq_route]

/-- The key bit behind each bit of the round key. -/
def keyWiring (mode : Bool) (round : Fin 16) : Wiring 64 48 :=
  Wiring.beside (c0 ∘ Wiring.rotation 28 (shift mode round))
    (d0 ∘ Wiring.rotation 28 (shift mode round)) ∘ kOut

theorem keyScheduler_eq_route (round : Fin 16) (key : BitVec 64)
    (mode : Bool) :
    keyScheduler round key mode = (keyWiring mode round).route key := by
  have halves : cd round key mode =
      rotated (c0.route key) (shift mode round) ++
        rotated (d0.route key) (shift mode round) :=
    rfl
  rw [keyScheduler, halves, rotated_eq_route _ (shift_le mode round),
    rotated_eq_route _ (shift_le mode round), keyWiring, Wiring.route_comp,
    Wiring.route_beside, Wiring.route_comp, Wiring.route_comp]

section Iterated

/-- A half of the selected key after the first `count` rotations. -/
def stepped (count : Nat) (half : BitVec 28) : BitVec 28 :=
  (Standard.leftRotations.take count).foldl BitVec.rotateLeft half

/-- The round key of the iterative schedule: `PC1.v`, one more rotation of
both halves in every round, and `PC2.v`. -/
def iteratedKey (round : Fin 16) (key : BitVec 64) : BitVec 48 :=
  let halves := Wiring.split 28 28 (pc1 key)
  pc2 (stepped (round + 1) halves.1 ++ stepped (round + 1) halves.2)

theorem split_pc1 (key : BitVec 64) :
    Wiring.split 28 28 (pc1 key) = (c0.route key, d0.route key) := by
  have wires : pc1Wiring = c0.beside d0 := by
    decide
  have selected : pc1 key = c0.route key ++ d0.route key := by
    rw [pc1, wires, Wiring.route_beside]
  rw [selected]
  exact (Wiring.split 28 28).apply_symm_apply (c0.route key, d0.route key)

theorem stepped_eq_rotated (round : Fin 16) (half : BitVec 28) :
    stepped (round + 1) half = rotated half (shiftEnc round) := by
  have total : (Standard.leftRotations.take (round + 1)).sum =
      shiftEnc round := by
    revert round
    decide
  rw [stepped, Wiring.foldl_rotateLeft, total,
    rotated_eq_rotateLeft half (shiftEnc_le round)]

/-- The closed form of the schedule is the iterative one, forwards and
backwards, and every rotation in it permutes the bits of a half. -/
theorem keyScheduler_eq_iteratedKey (round : Fin 16) (key : BitVec 64) :
    keyScheduler round key false = iteratedKey round key ∧
      keyScheduler round key true = keyScheduler round.rev key false ∧
      ∀ mode, ∃ positions : Equiv.Perm (Fin 28),
        ∀ (half : BitVec 28) (index : Fin 28),
          (rotated half (shift mode round)).getLsbD index =
            half.getLsbD (positions index) := by
  refine ⟨?_, keyScheduler_decrypt round key, fun mode => ?_⟩
  · have wires : pc2Wiring = kOut := by
      decide
    rw [iteratedKey, split_pc1, stepped_eq_rotated, stepped_eq_rotated, pc2,
      wires]
    rfl
  · refine ⟨Wiring.rotation 28 (shift mode round), fun half index => ?_⟩
    rw [rotated_eq_route half (shift_le mode round), Wiring.getLsbD_route]

end Iterated

end TripleDes

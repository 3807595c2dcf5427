import TripleDes.KeyWirings
import TripleDes.Streaming

/-!
# Complements

Complementing a half block and a round key leaves the input of the S-boxes as it
is, and mixing the same mask into a complemented half complements the result.
Since all permutations and the key schedule are wirings, complemented keys turn
complemented blocks into complemented outputs.
-/

namespace TripleDes

open Clocked

theorem ip_not (block : BitVec 64) : ip (~~~block) = ~~~ip block :=
  Wiring.route_not ipWiring block

theorem e_not (half : BitVec 32) : e (~~~half) = ~~~e half :=
  Wiring.route_not eWiring half

theorem keyScheduler_not (round : Fin 16) (key : BitVec 64) (mode : Bool) :
    keyScheduler round (~~~key) mode = ~~~keyScheduler round key mode := by
  rw [keyScheduler_eq_route, keyScheduler_eq_route, Wiring.route_not]

/-- The complements of the half block and the round key cancel in front of the
S-boxes. -/
theorem f_not (half : BitVec 32) (roundKey : BitVec 48) :
    f (~~~half) (~~~roundKey) = f half roundKey := by
  rw [f, f, e_not, ← BitVec.not_xor_left, ← BitVec.not_xor_right,
    BitVec.not_not]

theorem blockPort_not (block : BitVec 64) :
    blockPort (~~~block) =
      (blockPort block).map (fun half => ~~~half) fun half => ~~~half := by
  change Wiring.split 32 32 (ip (~~~block)) =
    (Wiring.split 32 32 (ip block)).map _ _
  rw [ip_not, Wiring.split_not]

theorem core_not (roundKeys : Fin 16 → BitVec 48) (block : BitVec 64) :
    core (fun round => ~~~roundKeys round) (~~~block) =
      ~~~core roundKeys block := by
  have complemented : (List.ofFn fun round => ~~~roundKeys round) =
      (List.ofFn roundKeys).map fun roundKey => ~~~roundKey :=
    List.map_ofFn.symm
  rw [core, complemented]
  exact network.cipher_map (fun roundKey half => f_not half roundKey)
    (fun half mask => BitVec.not_xor_left.symm) blockPort_not _ block

theorem keyed_not (mode : Bool) (key block : BitVec 64) :
    keyed mode (~~~key) (~~~block) = ~~~keyed mode key block := by
  rw [← core_eq_keyed, ← core_eq_keyed, ← core_not]
  simp only [keyScheduler_not]

theorem tdes_not (mode : Bool) (key1 key2 key3 block : BitVec 64) :
    Standard.tdes mode (~~~key1) (~~~key2) (~~~key3) (~~~block) =
      ~~~Standard.tdes mode key1 key2 key3 block := by
  rw [tdes_eq_keyed, tdes_eq_keyed]
  cases mode <;> simp [keyed_not]

namespace Des3

/-- Complementation law: complemented keys turn the complement of a block into
the complement of what the keys turn the block into. -/
theorem odata_not (initial initial' : State) (inputs inputs' : Nat → Input)
    (start start' : Nat) (mode : Bool) (key1 key2 key3 : BitVec 64)
    (low : Throughout start (start + 56) fun cycle =>
      (inputs cycle).reset = false)
    (low' : Throughout start' (start' + 56) fun cycle =>
      (inputs' cycle).reset = false)
    (held : Held inputs start mode key1 key2 key3)
    (held' : Held inputs' start' mode (~~~key1) (~~~key2) (~~~key3))
    (complement : (inputs' start').idata = ~~~(inputs start).idata) :
    (run step inputs' initial' (start' + 57)).odata =
      ~~~(run step inputs initial (start + 57)).odata := by
  rw [odata_of_sampled (run_follows step inputs' initial') low' held'.sampled,
    odata_of_sampled (run_follows step inputs initial) low held.sampled,
    complement, tdes_not]

theorem odata_not_bench :
    (run step (fun cycle => { pipelineBench cycle with
        idata := ~~~(pipelineBench cycle).idata
        key1 := ~~~0x576D5A24D0E7493A
        key2 := ~~~0x4F3FC2A81707AC64
        key3 := ~~~0x6F295595C05ED7FB }) default 57).odata =
      ~~~(run step pipelineBench default 57).odata :=
  odata_not default default pipelineBench _ 0 0 false 0x576D5A24D0E7493A
    0x4F3FC2A81707AC64 0x6F295595C05ED7FB (fun _ _ _ => rfl)
    (fun _ _ _ => rfl) (fun _ _ _ => ⟨rfl, rfl, rfl, rfl⟩)
    (fun _ _ _ => ⟨rfl, rfl, rfl, rfl⟩) rfl

end Des3

end TripleDes

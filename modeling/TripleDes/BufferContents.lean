import TripleDes.Pipeline

/-!
# What outputs tell about blocks

A core under known keys loses nothing of a block: what leaves the cascade
tells what was in an input buffer of it.  And one bit of the third key, written
right before the last round key of a block is sampled, changes the output of
that block whatever the block is.
-/

namespace TripleDes

open Clocked

section LastRound

-- One bit of the third key that decides what the last round does.

theorem p_injective : Function.Injective p :=
  Wiring.route_injective (by decide)

theorem extractLsb'_s (input : BitVec 48) :
    (s input).extractLsb' 28 4 = s1 (input.extractLsb' 42 6) := by
  apply BitVec.eq_of_getLsbD_eq
  intro position inside
  rw [BitVec.getLsbD_extractLsb', decide_eq_true inside, Bool.true_and, s]
  repeat rw [BitVec.getLsbD_append, if_neg (by omega)]
  congr 1
  omega

theorem s1_xor : ∀ input : BitVec 6, s1 (input ^^^ 32#6) ≠ s1 input := by
  decide +kernel

/-- The key bit behind the first input bit of the first S-box in the last
round. -/
def probeKey : BitVec 64 :=
  0x4000#32 ++ 0#32

theorem f_probeKey (half : BitVec 32) :
    f half (keyScheduler 15 probeKey false) ≠
      f half (keyScheduler 15 0 false) := by
  have one : keyScheduler 15 probeKey false = 1#48 <<< 47 := by
    decide +kernel
  have none : keyScheduler 15 0 false = 0 := by
    decide +kernel
  intro equal
  have box := congrArg (BitVec.extractLsb' 28 4) (p_injective equal)
  rw [one, none, extractLsb'_s, extractLsb'_s, BitVec.extractLsb'_xor,
    BitVec.extractLsb'_xor] at box
  exact s1_xor _ (by simpa using box)

/-- Round keys that differ in the last round as the two keys do turn every
block into different outputs. -/
theorem core_ne_of_probeKey {first second : Fin 16 → BitVec 48}
    (same : ∀ round : Fin 16, round ≠ 15 → first round = second round)
    (firstLast : first 15 = keyScheduler 15 probeKey false)
    (secondLast : second 15 = keyScheduler 15 0 false) (block : BitVec 64) :
    core first block ≠ core second block := by
  have before (round : Nat) (below : round < 15) :
      first (.ofNat 16 round) = second (.ofNat 16 round) := by
    apply same
    intro last
    have value : round % 16 = 15 := congrArg Fin.val last
    omega
  have mixes (half : BitVec 32) : Function.Injective (network.mix half) :=
    fun _ _ equal => (BitVec.xor_right_inj half).mp equal
  have differ (half : BitVec 32) :
      network.round (first (.ofNat 16 15)) half ≠
        network.round (second (.ofNat 16 15)) half := by
    change f half (first 15) ≠ f half (second 15)
    rw [firstLast, secondLast]
    exact f_probeKey half
  intro equal
  rw [core_eq_rounds, core_eq_rounds] at equal
  exact network.rounds_succ_ne before mixes differ _
    (Prod.swap_injective (blockPort.symm.injective equal))

end LastRound

section Buffers

-- What leaves the cascade tells what was in a buffer.

theorem FeistelAlgo.buffered_of_odata {inputs inputs' : Nat → Input}
    {trace trace' : Nat → State} {start : Nat}
    (follows : Follows step inputs trace)
    (follows' : Follows step inputs' trace')
    (low : ∀ cycle, (inputs cycle).reset = false)
    (low' : ∀ cycle, (inputs' cycle).reset = false)
    (keys : sampledKeys inputs start = sampledKeys inputs' start)
    (same : (trace (start + 18)).odata = (trace' (start + 18)).odata) :
    buffered (trace start) = buffered (trace' start) := by
  rw [odata_of_buffered follows fun cycle _ _ => low cycle,
    odata_of_buffered follows' fun cycle _ _ => low' cycle, keys] at same
  exact blockPort.symm.injective (core_injective _ same)

namespace Des3

variable {inputs : Nat → Input} {trace trace' : Nat → State}
  (follows : Follows step inputs trace)
  (follows' : Follows step inputs trace')
  (low : ∀ cycle, (inputs cycle).reset = false)
include follows follows' low

theorem buffered_encrypt1_of_decrypt2 {start : Nat}
    (same : FeistelAlgo.buffered (trace (start + 19)).decrypt2 =
      FeistelAlgo.buffered (trace' (start + 19)).decrypt2) :
    FeistelAlgo.buffered (trace start).encrypt1 =
      FeistelAlgo.buffered (trace' start).encrypt1 := by
  rw [FeistelAlgo.clocked_at (decrypt2_follows follows) (low (start + 18)),
    FeistelAlgo.clocked_at (decrypt2_follows follows') (low (start + 18)),
    FeistelAlgo.buffered_clocked, FeistelAlgo.buffered_clocked] at same
  exact FeistelAlgo.buffered_of_odata (encrypt1_follows follows)
    (encrypt1_follows follows') low low rfl (blockPort.injective same)

theorem buffered_decrypt2_of_encrypt3 {start : Nat}
    (same : FeistelAlgo.buffered (trace (start + 19)).encrypt3 =
      FeistelAlgo.buffered (trace' (start + 19)).encrypt3) :
    FeistelAlgo.buffered (trace start).decrypt2 =
      FeistelAlgo.buffered (trace' start).decrypt2 := by
  rw [FeistelAlgo.clocked_at (encrypt3_follows follows) (low (start + 18)),
    FeistelAlgo.clocked_at (encrypt3_follows follows') (low (start + 18)),
    FeistelAlgo.buffered_clocked, FeistelAlgo.buffered_clocked] at same
  exact FeistelAlgo.buffered_of_odata (decrypt2_follows follows)
    (decrypt2_follows follows') low low rfl (blockPort.injective same)

theorem buffered_encrypt3_of_odata {start : Nat}
    (same : (trace (start + 18)).odata = (trace' (start + 18)).odata) :
    FeistelAlgo.buffered (trace start).encrypt3 =
      FeistelAlgo.buffered (trace' start).encrypt3 :=
  FeistelAlgo.buffered_of_odata (encrypt3_follows follows)
    (encrypt3_follows follows') low low rfl same

/-- The output in the cycle in which the buffer of a stage leaves the cascade
tells the half blocks of that buffer. -/
theorem buffered_of_odata (stage : Fin 3)
    (same : (trace (56 - 19 * stage)).odata =
      (trace' (56 - 19 * stage)).odata) :
    FeistelAlgo.buffered ((trace 0).stage stage) =
      FeistelAlgo.buffered ((trace' 0).stage stage) := by
  match stage with
  | 0 =>
      exact buffered_encrypt1_of_decrypt2 follows follows' low
        (buffered_decrypt2_of_encrypt3 follows follows' low
          (buffered_encrypt3_of_odata follows follows' low same))
  | 1 =>
      exact buffered_decrypt2_of_encrypt3 follows follows' low
        (buffered_encrypt3_of_odata follows follows' low same)
  | 2 => exact buffered_encrypt3_of_odata follows follows' low same

end Des3

end Buffers

end TripleDes

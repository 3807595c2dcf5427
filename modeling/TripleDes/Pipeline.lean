import TripleDes.Des3
import TripleDes.Library.Feistel

/-!
# What the pipeline computes

A block in the pipeline meets round `r` in one particular cycle, and the round
key of that round is the one of the key and mode sampled one cycle earlier.
The core is therefore a Feistel cipher whose round keys come from sixteen
consecutive cycles, whatever the other stages hold.
-/

namespace TripleDes

open Clocked

/-- The rounds of the core as a Feistel network. -/
def network : Feistel (BitVec 32) (BitVec 48) where
  round := fun roundKey half => f half roundKey
  mix := fun half mask => half ^^^ mask
  mix_mix := fun half mask => by
    rw [BitVec.xor_assoc, BitVec.xor_self, BitVec.xor_zero]

/-- A block enters the rounds through `IP` and leaves them through
`IP_inv`. -/
def blockPort : BitVec 64 ≃ BitVec 32 × BitVec 32 :=
  (Equiv.mk ip ipInv ipInv_ip ip_ipInv).trans (Wiring.split 32 32)

/-- Sixteen rounds under the given round keys, between the two permutations
of the block and with the halves swapped at the end. -/
def core (roundKeys : Fin 16 → BitVec 48) (block : BitVec 64) : BitVec 64 :=
  network.cipher blockPort (List.ofFn roundKeys) block

theorem core_eq_rounds (roundKeys : Fin 16 → BitVec 48) (block : BitVec 64) :
    core roundKeys block = blockPort.symm (network.rounds
      (fun round => roundKeys (.ofNat 16 round)) 16 (blockPort block)).swap := by
  have keys : List.ofFn roundKeys =
      (List.range 16).map fun round => roundKeys (.ofNat 16 round) :=
    rfl
  rw [core, Feistel.cipher, keys, Feistel.run_map_range]

theorem core_injective (roundKeys : Fin 16 → BitVec 48) :
    Function.Injective (core roundKeys) :=
  network.cipher_injective blockPort _

namespace FeistelAlgo

/-- The round keys met by a block whose first round key is sampled in cycle
`start`. -/
def sampledKeys (inputs : Nat → Input) (start : Nat) (round : Fin 16) :
    BitVec 48 :=
  keyScheduler round (inputs (start + round)).keyIn
    (inputs (start + round)).decrypt

/-- The register pair behind the first `stage` rounds. -/
def halves (state : State) (stage : Fin 17) : BitVec 32 × BitVec 32 :=
  (state.L stage, state.R stage)

/-- The buffered halves in front of the first round. -/
def buffered (state : State) : BitVec 32 × BitVec 32 :=
  (state.lBuf, state.rBuf)

@[simp]
theorem buffered_clocked (input : Input) (state : State) :
    buffered (clocked input state) = blockPort input.idata :=
  rfl

@[simp]
theorem halves_clocked_zero (input : Input) (state : State) :
    halves (clocked input state) 0 = buffered state :=
  rfl

@[simp]
theorem halves_clocked_succ (input : Input) (state : State)
    (round : Fin 16) :
    halves (clocked input state) round.succ =
      network.step (K state round) (halves state round.castSucc) :=
  rfl

@[simp]
theorem odata_clocked (input : Input) (state : State) :
    (clocked input state).odata = blockPort.symm (halves state 16).swap :=
  rfl

@[simp]
theorem K_clocked (input : Input) (state : State) (round : Fin 16) :
    K (clocked input state) round =
      keyScheduler round input.keyIn input.decrypt := by
  unfold K
  split <;> rfl

section Runs

variable {inputs : Nat → Input} {trace : Nat → State}

theorem clocked_at (follows : Follows step inputs trace) {cycle : Nat}
    (low : (inputs cycle).reset = false) :
    trace (cycle + 1) = clocked (inputs cycle) (trace cycle) := by
  rw [follows, step_of_low low]

/-- The buffered halves of cycle `start` have passed `stage` rounds in cycle
`start + 1 + stage`, under the keys sampled from cycle `start` on. -/
theorem halves_of_buffered (follows : Follows step inputs trace)
    {start : Nat} (stage : Fin 17)
    (low : Throughout start (start + stage) fun cycle =>
      (inputs cycle).reset = false) :
    halves (trace (start + 1 + stage)) stage =
      network.rounds (fun round => sampledKeys inputs start (.ofNat 16 round))
        stage (buffered (trace start)) := by
  induction stage using Fin.induction with
  | zero =>
      rw [Fin.val_zero, Nat.add_zero,
        clocked_at follows (low start (by omega) (by omega))]
      rfl
  | succ round ih =>
      rw [Fin.val_succ] at low
      have sampled : trace (start + 1 + round) =
          clocked (inputs (start + round)) (trace (start + round)) := by
        rw [Nat.add_right_comm]
        exact clocked_at follows (low _ (by omega) (by omega))
      have edge := clocked_at follows
        (low (start + 1 + round) (by omega) (by omega))
      have key : K (trace (start + 1 + round)) round =
          sampledKeys inputs start (.ofNat 16 round) := by
        rw [sampled, K_clocked, Fin.ofNat_val_eq_self]
        rfl
      rw [Fin.val_succ, ← Nat.add_assoc, edge, halves_clocked_succ, key]
      rw [Fin.val_castSucc] at ih
      rw [ih (low.mono (Nat.le_refl start) (by omega)), Feistel.rounds]

theorem odata_of_buffered (follows : Follows step inputs trace)
    {start : Nat}
    (low : Throughout start (start + 17) fun cycle =>
      (inputs cycle).reset = false) :
    (trace (start + 18)).odata =
      core (sampledKeys inputs start)
        (blockPort.symm (buffered (trace start))) := by
  have passed : halves (trace (start + 17)) 16 = network.rounds
      (fun round => sampledKeys inputs start (.ofNat 16 round)) 16
      (buffered (trace start)) := by
    have last : ((16 : Fin 17) : Nat) = 16 := rfl
    have behind := halves_of_buffered follows 16
      (low.mono (Nat.le_refl start) (by omega))
    rwa [last, Nat.add_right_comm start 1 16] at behind
  rw [clocked_at follows (low (start + 17) (by omega) (by omega)),
    odata_clocked, core_eq_rounds, Equiv.apply_symm_apply, passed]

/-- A block sampled in cycle `start` leaves the core nineteen cycles later,
under the round keys sampled from the next cycle on. -/
theorem odata_of_idata (follows : Follows step inputs trace) {start : Nat}
    (low : Throughout start (start + 18) fun cycle =>
      (inputs cycle).reset = false) :
    (trace (start + 19)).odata =
      core (sampledKeys inputs (start + 1)) (inputs start).idata := by
  have entered := clocked_at follows
    (low start (Nat.le_refl start) (by omega))
  rw [odata_of_buffered follows (low.mono (by omega) (by omega)), entered,
    buffered_clocked, Equiv.symm_apply_apply]

end Runs

end FeistelAlgo

namespace Des3

/-- The key and the mode at the ports of an instance in one cycle. -/
def stageKey (stage : Fin 3) (input : Input) : BitVec 64 × Bool :=
  match stage with
  | Stage.encrypt1 => (stage1Key input, input.decrypt)
  | Stage.decrypt2 => (input.key2, !input.decrypt)
  | Stage.encrypt3 => (stage3Key input, input.decrypt)

/-- The cycle in which the key of a round is sampled for the block that was
sampled in cycle `start`. -/
def sampleCycle (start : Nat) (stage : Fin 3) (round : Fin 16) : Nat :=
  start + 19 * stage + 1 + round

/-- The round key that a key and a mode give in a round. -/
def roundKey (round : Fin 16) (sample : BitVec 64 × Bool) : BitVec 48 :=
  keyScheduler round sample.1 sample.2

/-- The forty-eight round keys met by the block sampled in cycle `start`. -/
def sampledKeys (inputs : Nat → Input) (start : Nat) (stage : Fin 3)
    (round : Fin 16) : BitVec 48 :=
  roundKey round (stageKey stage (inputs (sampleCycle start stage round)))

/-- Three cores in series. -/
def cascade (roundKeys : Fin 3 → Fin 16 → BitVec 48) (block : BitVec 64) :
    BitVec 64 :=
  core (roundKeys Stage.encrypt3) (core (roundKeys Stage.decrypt2)
    (core (roundKeys Stage.encrypt1) block))

variable {inputs : Nat → Input} {trace : Nat → State}

/-- A block sampled in cycle `start` leaves the cascade 57 cycles later. -/
theorem odata_of_idata (follows : Follows step inputs trace) {start : Nat}
    (low : Throughout start (start + 56) fun cycle =>
      (inputs cycle).reset = false) :
    (trace (start + 57)).odata =
      cascade (sampledKeys inputs start) (inputs start).idata := by
  have first := FeistelAlgo.odata_of_idata (encrypt1_follows follows)
    (low.mono (Nat.le_refl start) (by omega))
  have second := FeistelAlgo.odata_of_idata (decrypt2_follows follows)
    (low.mono (by omega : start ≤ start + 19) (by omega))
  have third := FeistelAlgo.odata_of_idata (encrypt3_follows follows)
    (low.mono (by omega : start ≤ start + 38) (by omega))
  calc
    (trace (start + 57)).odata =
        core (sampledKeys inputs start 2) (trace (start + 38)).decrypt2.odata :=
      third
    _ = core (sampledKeys inputs start 2) (core (sampledKeys inputs start 1)
          (trace (start + 19)).encrypt1.odata) :=
      congrArg _ second
    _ = cascade (sampledKeys inputs start) (inputs start).idata :=
      congrArg _ (congrArg _ first)

end Des3

end TripleDes

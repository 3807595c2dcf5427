import TripleDes.Pipeline
import Mathlib.Data.Fintype.EquivFin
import Mathlib.Data.BitVec

/-!
# The cascade permutes the blocks

However the keys and the mode change while a block is in the cascade, what
leaves it tells the block: the outputs that the 64-bit blocks would have in the
same cycle of the same run are all different, and every 64-bit word is one of
them.
-/

namespace TripleDes

open Clocked

theorem core_bijective (roundKeys : Fin 16 → BitVec 48) :
    Function.Bijective (core roundKeys) := by
  have : Finite (BitVec 64) := Finite.of_equiv _ BitVec.equivFin.symm.toEquiv
  exact Finite.injective_iff_bijective.mp (core_injective roundKeys)

namespace Des3

theorem cascade_bijective (roundKeys : Fin 3 → Fin 16 → BitVec 48) :
    Function.Bijective (cascade roundKeys) :=
  (core_bijective (roundKeys 2)).comp
    ((core_bijective (roundKeys 1)).comp (core_bijective (roundKeys 0)))

/-- The same inputs with another block in one cycle. -/
def presenting (inputs : Nat → Input) (start : Nat) (block : BitVec 64)
    (cycle : Nat) : Input :=
  if cycle = start then { inputs cycle with idata := block }
  else inputs cycle

theorem presenting_idata (inputs : Nat → Input) (start : Nat)
    (block : BitVec 64) : (presenting inputs start block start).idata = block := by
  rw [presenting, if_pos rfl]

theorem presenting_reset (inputs : Nat → Input) (start : Nat)
    (block : BitVec 64) (cycle : Nat) :
    (presenting inputs start block cycle).reset = (inputs cycle).reset := by
  unfold presenting
  split <;> rfl

theorem presenting_sampledKeys (inputs : Nat → Input) (start : Nat)
    (block : BitVec 64) :
    sampledKeys (presenting inputs start block) start =
      sampledKeys inputs start := by
  funext stage round
  have later : sampleCycle start stage round ≠ start := by
    unfold sampleCycle
    omega
  rw [sampledKeys, presenting, if_neg later, sampledKeys]

/-- In every run and for every stream of keys and modes, the output 57 cycles
later is a permutation of the blocks that could be presented in a cycle. -/
theorem odata_bijective (initial : State) (inputs : Nat → Input)
    (start : Nat)
    (low : Throughout start (start + 56) fun cycle =>
      (inputs cycle).reset = false) :
    Function.Bijective fun block =>
      (run step (presenting inputs start block) initial (start + 57)).odata := by
  have output (block : BitVec 64) :
      (run step (presenting inputs start block) initial (start + 57)).odata =
        cascade (sampledKeys inputs start) block := by
    rw [odata_of_idata (run_follows step (presenting inputs start block)
        initial) fun cycle after before =>
          (presenting_reset inputs start block cycle).trans
            (low cycle after before),
      presenting_sampledKeys, presenting_idata]
  have same : (fun block => (run step (presenting inputs start block) initial
      (start + 57)).odata) = cascade (sampledKeys inputs start) :=
    funext output
  rw [same]
  exact cascade_bijective (sampledKeys inputs start)

theorem odata_bijective_idle :
    Function.Bijective fun block =>
      (run step (presenting (fun cycle =>
        { reset := false
          idata := 0
          key1 := BitVec.ofNat 64 cycle
          key2 := 0
          key3 := 0
          decrypt := cycle % 2 == 1
          validIn := false }) 0 block) default 57).odata :=
  odata_bijective default _ 0 fun _ _ _ => rfl

end Des3

end TripleDes

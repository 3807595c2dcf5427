import TripleDes.KeyScheduler
import TripleDes.SBoxes
import TripleDes.Library.Clocked
import Mathlib.Data.Fin.Tuple.Basic

/-!
# The pipelined cipher core

`feistel_algo.v` holds one block in each of its nineteen stages: an input
buffer, the seventeen register pairs between the rounds and the output
register.  The key and the mode travel through two copies of one register
next to the pipeline, not with the blocks.
-/

namespace TripleDes

/-- The round function, `f.v`. -/
def f (half : BitVec 32) (roundKey : BitVec 48) : BitVec 32 :=
  p (s (e half ^^^ roundKey))

namespace FeistelAlgo

/-- Values at the input ports in one cycle. -/
structure Input where
  reset : Bool
  idata : BitVec 64
  keyIn : BitVec 64
  decrypt : Bool
  validIn : Bool

/-- Register contents. -/
structure State where
  keyIn1 : BitVec 64
  keyIn2 : BitVec 64
  decrypt1 : Bool
  decrypt2 : Bool
  vBuf : Bool
  lBuf : BitVec 32
  rBuf : BitVec 32
  L : Fin 17 → BitVec 32
  R : Fin 17 → BitVec 32
  V : Fin 17 → Bool
  odata : BitVec 64
  validOut : Bool
  deriving Inhabited

/-- The key scheduler outputs: the first eight rounds read the first copy of
the key register, the last eight the second. -/
def K (state : State) (round : Fin 16) : BitVec 48 :=
  if (round : Nat) < 8 then keyScheduler round state.keyIn1 state.decrypt1
  else keyScheduler round state.keyIn2 state.decrypt2

def fOut (state : State) (round : Fin 16) : BitVec 32 :=
  f (state.R round.castSucc) (K state round)

/-- The reset branch.  The buffers in front of the first round and the key
and mode registers are not assigned and keep their contents. -/
def cleared (state : State) : State :=
  { state with
    V := fun _ => false
    odata := 0
    validOut := false
    L := fun _ => 0
    R := fun _ => 0 }

/-- The branch taken at a clock edge outside reset. -/
def clocked (input : Input) (state : State) : State where
  keyIn1 := input.keyIn
  keyIn2 := input.keyIn
  decrypt1 := input.decrypt
  decrypt2 := input.decrypt
  vBuf := input.validIn
  lBuf := (ip input.idata).extractLsb' 32 32
  rBuf := (ip input.idata).extractLsb' 0 32
  L := Fin.cons state.lBuf fun round : Fin 16 => state.R round.castSucc
  R := Fin.cons state.rBuf fun round : Fin 16 =>
    state.L round.castSucc ^^^ fOut state round
  V := Fin.cons state.vBuf fun round : Fin 16 => state.V round.castSucc
  odata := ipInv (state.R 16 ++ state.L 16)
  validOut := state.V 16

/-- One cycle of the core.  A state shows the registers right after the clock
edge that begins its cycle, and the input is what the edge at its end samples.
The reset of the source is asynchronous and clears the registers within the
first cycle in which it is high; here that cycle still shows the old contents,
and the next one is the first to show the cleared ones. -/
def step (input : Input) (state : State) : State :=
  if input.reset then cleared state else clocked input state

theorem step_of_reset {input : Input} (reset : input.reset = true)
    (state : State) : step input state = cleared state := by
  simp [step, reset]

theorem step_of_low {input : Input} (low : input.reset = false)
    (state : State) : step input state = clocked input state := by
  simp [step, low]

end FeistelAlgo

end TripleDes

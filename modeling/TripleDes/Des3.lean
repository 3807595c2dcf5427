import TripleDes.FeistelAlgo

/-!
# The three-core cascade

`des3.v` chains three cores.  The outer two run in the requested mode and take
the first and the third key in the order of that mode, the middle one runs in
the opposite mode under the second key.
-/

namespace TripleDes

-- The stages, under the names of their instances.

namespace Stage

@[match_pattern]
abbrev encrypt1 : Fin 3 := 0

@[match_pattern]
abbrev decrypt2 : Fin 3 := 1

@[match_pattern]
abbrev encrypt3 : Fin 3 := 2

end Stage

namespace Des3

/-- Values at the input ports in one cycle. -/
structure Input where
  reset : Bool
  idata : BitVec 64
  key1 : BitVec 64
  key2 : BitVec 64
  key3 : BitVec 64
  decrypt : Bool
  validIn : Bool

/-- The registers of the three instances. -/
structure State where
  encrypt1 : FeistelAlgo.State
  decrypt2 : FeistelAlgo.State
  encrypt3 : FeistelAlgo.State
  deriving Inhabited

def stage1Key (input : Input) : BitVec 64 :=
  if input.decrypt then input.key3 else input.key1

def stage3Key (input : Input) : BitVec 64 :=
  if input.decrypt then input.key1 else input.key3

/-- Ports of the instance `encrypt1`. -/
def encrypt1Input (input : Input) : FeistelAlgo.Input where
  reset := input.reset
  idata := input.idata
  keyIn := stage1Key input
  decrypt := input.decrypt
  validIn := input.validIn

/-- Ports of the instance `decrypt2`. -/
def decrypt2Input (input : Input) (state : State) : FeistelAlgo.Input where
  reset := input.reset
  idata := state.encrypt1.odata
  keyIn := input.key2
  decrypt := !input.decrypt
  validIn := state.encrypt1.validOut

/-- Ports of the instance `encrypt3`. -/
def encrypt3Input (input : Input) (state : State) : FeistelAlgo.Input where
  reset := input.reset
  idata := state.decrypt2.odata
  keyIn := stage3Key input
  decrypt := input.decrypt
  validIn := state.decrypt2.validOut

/-- One cycle of the cascade. -/
def step (input : Input) (state : State) : State where
  encrypt1 := FeistelAlgo.step (encrypt1Input input) state.encrypt1
  decrypt2 := FeistelAlgo.step (decrypt2Input input state) state.decrypt2
  encrypt3 := FeistelAlgo.step (encrypt3Input input state) state.encrypt3

def State.odata (state : State) : BitVec 64 :=
  state.encrypt3.odata

def State.validOut (state : State) : Bool :=
  state.encrypt3.validOut

/-- The instance that runs a stage of the cascade. -/
def State.stage (state : State) : Fin 3 → FeistelAlgo.State
  | Stage.encrypt1 => state.encrypt1
  | Stage.decrypt2 => state.decrypt2
  | Stage.encrypt3 => state.encrypt3

section Instances

-- Each instance runs as a core of its own, fed from the wires around it.

variable {inputs : Nat → Input} {trace : Nat → State}

theorem encrypt1_follows (follows : Clocked.Follows step inputs trace) :
    Clocked.Follows FeistelAlgo.step
      (fun cycle => encrypt1Input (inputs cycle))
      (fun cycle => (trace cycle).encrypt1) :=
  follows.component State.encrypt1 (fun input _ => encrypt1Input input)
    fun _ _ => rfl

theorem decrypt2_follows (follows : Clocked.Follows step inputs trace) :
    Clocked.Follows FeistelAlgo.step
      (fun cycle => decrypt2Input (inputs cycle) (trace cycle))
      (fun cycle => (trace cycle).decrypt2) :=
  follows.component State.decrypt2 decrypt2Input fun _ _ => rfl

theorem encrypt3_follows (follows : Clocked.Follows step inputs trace) :
    Clocked.Follows FeistelAlgo.step
      (fun cycle => encrypt3Input (inputs cycle) (trace cycle))
      (fun cycle => (trace cycle).encrypt3) :=
  follows.component State.encrypt3 encrypt3Input fun _ _ => rfl

end Instances

end Des3

end TripleDes

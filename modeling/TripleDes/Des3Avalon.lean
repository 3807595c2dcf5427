import TripleDes.Des3

/-!
# The bus bridge

`des3_avalon.v` puts the cascade behind a word-addressed register file: two
words each for the block and the three keys, a control word that starts a
block and sets the mode, and the latched result with its status flag.
-/

namespace TripleDes

/-- The halves `[31:0]` and `[63:32]` of a 64-bit register. -/
def lowWord (register : BitVec 64) : BitVec 32 :=
  register.extractLsb' 0 32

def highWord (register : BitVec 64) : BitVec 32 :=
  register.extractLsb' 32 32

@[simp]
theorem highWord_append_lowWord (register : BitVec 64) :
    highWord register ++ lowWord register = register :=
  (Wiring.split 32 32).left_inv register

@[simp]
theorem lowWord_append (upper lower : BitVec 32) : lowWord (upper ++ lower) = lower :=
  congrArg Prod.snd ((Wiring.split 32 32).right_inv (upper, lower))

@[simp]
theorem highWord_append (upper lower : BitVec 32) :
    highWord (upper ++ lower) = upper :=
  congrArg Prod.fst ((Wiring.split 32 32).right_inv (upper, lower))

theorem eq_of_words {first second : BitVec 64}
    (lower : lowWord first = lowWord second) (upper : highWord first = highWord second) :
    first = second := by
  rw [← highWord_append_lowWord first, lower, upper, highWord_append_lowWord]

namespace Des3Avalon

/-- Values at the input ports in one cycle. -/
structure Input where
  reset : Bool
  avsAddress : BitVec 4
  avsWrite : Bool
  avsWritedata : BitVec 32

/-- Register contents. -/
structure State where
  regIdata : BitVec 64
  regKey1 : BitVec 64
  regKey2 : BitVec 64
  regKey3 : BitVec 64
  regDecrypt : Bool
  regValidIn : Bool
  regOdata : BitVec 64
  regValidOut : Bool
  uDes3 : Des3.State
  deriving Inhabited

def Input.writes (input : Input) (address : BitVec 4) : Bool :=
  input.avsWrite && input.avsAddress == address

/-- A control write with bit 0 set. -/
def Input.starts (input : Input) : Bool :=
  input.writes 0x8 && input.avsWritedata.getLsbD 0

/-- A 64-bit register that is written by halves: the low one through an even
address, the high one through the odd address above it. -/
def written (input : Input) (lowAddress highAddress : BitVec 4)
    (register : BitVec 64) : BitVec 64 :=
  if input.writes lowAddress then highWord register ++ input.avsWritedata
  else if input.writes highAddress then input.avsWritedata ++ lowWord register
  else register

/-- Ports of the instance `u_des3`. -/
def des3Input (input : Input) (state : State) : Des3.Input where
  reset := input.reset
  idata := state.regIdata
  key1 := state.regKey1
  key2 := state.regKey2
  key3 := state.regKey3
  decrypt := state.regDecrypt
  validIn := state.regValidIn

/-- The reset branch, with the instance in reset as well. -/
def cleared (input : Input) (state : State) : State where
  regIdata := 0
  regKey1 := 0
  regKey2 := 0
  regKey3 := 0
  regDecrypt := false
  regValidIn := false
  regOdata := 0
  regValidOut := false
  uDes3 := Des3.step (des3Input input state) state.uDes3

/-- The branch taken at a clock edge outside reset. -/
def clocked (input : Input) (state : State) : State where
  regIdata := written input 0x0 0x1 state.regIdata
  regKey1 := written input 0x2 0x3 state.regKey1
  regKey2 := written input 0x4 0x5 state.regKey2
  regKey3 := written input 0x6 0x7 state.regKey3
  regDecrypt :=
    if input.writes 0x8 then input.avsWritedata.getLsbD 1
    else state.regDecrypt
  regValidIn :=
    if input.writes 0x8 then input.avsWritedata.getLsbD 0 else false
  regOdata :=
    if state.uDes3.validOut then state.uDes3.odata else state.regOdata
  regValidOut := if state.uDes3.validOut then true else state.regValidOut
  uDes3 := Des3.step (des3Input input state) state.uDes3

/-- One cycle of the bridge, from the registers right after the edge that begins
it to those right after the next edge. -/
def step (input : Input) (state : State) : State :=
  if input.reset then cleared input state else clocked input state

/-- The read multiplexer: what the bus reads at an address. -/
def avsReaddata (address : BitVec 4) (state : State) : BitVec 32 :=
  match address with
  | 0x0 => lowWord state.regIdata
  | 0x1 => highWord state.regIdata
  | 0x2 => lowWord state.regKey1
  | 0x3 => highWord state.regKey1
  | 0x4 => lowWord state.regKey2
  | 0x5 => highWord state.regKey2
  | 0x6 => lowWord state.regKey3
  | 0x7 => highWord state.regKey3
  | 0x8 =>
      0#30 ++ BitVec.ofBool state.regDecrypt ++ BitVec.ofBool state.regValidIn
  | 0x9 => lowWord state.regOdata
  | 0xA => highWord state.regOdata
  | 0xB => 0#31 ++ BitVec.ofBool state.regValidOut
  | _ => 0

theorem step_of_reset {input : Input} (reset : input.reset = true)
    (state : State) : step input state = cleared input state := by
  simp [step, reset]

theorem step_of_low {input : Input} (low : input.reset = false)
    (state : State) : step input state = clocked input state := by
  simp [step, low]

@[simp]
theorem regValidIn_clocked (input : Input) (state : State) :
    (clocked input state).regValidIn = input.starts := by
  simp only [clocked, Input.starts]
  cases input.writes 0x8 <;> simp

theorem uDes3_step (input : Input) (state : State) :
    (step input state).uDes3 =
      Des3.step (des3Input input state) state.uDes3 := by
  unfold step
  split <;> rfl

theorem written_of_starts {input : Input} (starts : input.starts = true)
    {lowAddress highAddress : BitVec 4} (lowOther : lowAddress ≠ 0x8)
    (highOther : highAddress ≠ 0x8) (register : BitVec 64) :
    written input lowAddress highAddress register = register := by
  have control : input.avsAddress = 0x8 := by
    simp [Input.starts, Input.writes] at starts
    exact starts.1.2
  have lowMissed : (8#4 == lowAddress) = false :=
    beq_false_of_ne lowOther.symm
  have highMissed : (8#4 == highAddress) = false :=
    beq_false_of_ne highOther.symm
  simp [written, Input.writes, control, lowMissed, highMissed]

section Settings

/-- The registers that the bus writes and the cascade reads. -/
@[ext]
structure Settings where
  idata : BitVec 64
  key1 : BitVec 64
  key2 : BitVec 64
  key3 : BitVec 64
  decrypt : Bool

def State.settings (state : State) : Settings where
  idata := state.regIdata
  key1 := state.regKey1
  key2 := state.regKey2
  key3 := state.regKey3
  decrypt := state.regDecrypt

/-- The effect of one bus cycle on the settings. -/
def Settings.after (input : Input) (settings : Settings) : Settings where
  idata := written input 0x0 0x1 settings.idata
  key1 := written input 0x2 0x3 settings.key1
  key2 := written input 0x4 0x5 settings.key2
  key3 := written input 0x6 0x7 settings.key3
  decrypt :=
    if input.writes 0x8 then input.avsWritedata.getLsbD 1
    else settings.decrypt

@[simp]
theorem settings_clocked (input : Input) (state : State) :
    (clocked input state).settings = state.settings.after input :=
  rfl

theorem Settings.after_of_no_write {input : Input}
    (idle : input.avsWrite = false) (settings : Settings) :
    settings.after input = settings := by
  simp [Settings.after, written, Input.writes, idle]

end Settings

variable {inputs : Nat → Input} {trace : Nat → State}

theorem uDes3_follows (follows : Clocked.Follows step inputs trace) :
    Clocked.Follows Des3.step
      (fun cycle => des3Input (inputs cycle) (trace cycle))
      (fun cycle => (trace cycle).uDes3) :=
  follows.component State.uDes3 des3Input uDes3_step

end Des3Avalon

end TripleDes

import TripleDes.Delivery
import TripleDes.Library.Conveyor

/-!
# The device behind the bus

Seen from the bus, the bridge is a set of registers, a latched result and a
list of jobs.  A job is one block on its way; it is carried on by itself, one
round in each cycle, under the round key that the settings give in that cycle.
The pipeline with its stages, its valid bits and its stale contents is one way
to run this device, and the bus cannot tell the two apart.  The states of both
are those right after the edge that begins a cycle.
-/

namespace TripleDes

open Clocked

open Des3Avalon (Settings Input)

/-- How far a started block has come. -/
inductive Job where
  | posted
  | buffered (stage : Fin 3) (halves : BitVec 32 × BitVec 32)
  | inRound (stage : Fin 3) (round : Fin 16) (roundKey : BitVec 48)
      (halves : BitVec 32 × BitVec 32)
  | preoutput (stage : Fin 3) (halves : BitVec 32 × BitVec 32)
  | leaving (stage : Fin 3) (block : BitVec 64)

/-- The round key that the settings give to a stage. -/
def Des3Avalon.Settings.roundKey (settings : Settings) (stage : Fin 3)
    (round : Fin 16) : BitVec 48 :=
  match stage with
  | Stage.encrypt1 =>
      keyScheduler round
        (if settings.decrypt then settings.key3 else settings.key1)
        settings.decrypt
  | Stage.decrypt2 => keyScheduler round settings.key2 (!settings.decrypt)
  | Stage.encrypt3 =>
      keyScheduler round
        (if settings.decrypt then settings.key1 else settings.key3)
        settings.decrypt

namespace Job

/-- One cycle of a job; a job that leaves the last stage is done. -/
def advance (settings : Settings) : Job → Option Job
  | posted => some (buffered Stage.encrypt1 (blockPort settings.idata))
  | buffered stage halves =>
      some (inRound stage 0 (settings.roundKey stage 0) halves)
  | inRound stage round roundKey halves =>
      let passed := network.step roundKey halves
      if below : (round : Nat) + 1 < 16 then
        let next : Fin 16 := ⟨round + 1, below⟩
        some (inRound stage next (settings.roundKey stage next) passed)
      else some (preoutput stage passed)
  | preoutput stage halves => some (leaving stage (blockPort.symm halves.swap))
  | leaving Stage.encrypt1 block =>
      some (buffered Stage.decrypt2 (blockPort block))
  | leaving Stage.decrypt2 block =>
      some (buffered Stage.encrypt3 (blockPort block))
  | leaving Stage.encrypt3 _ => none

/-- The value of a job that is done. -/
def result : Job → Option (BitVec 64)
  | leaving Stage.encrypt3 block => some block
  | _ => none

def isPosted : Job → Bool
  | posted => true
  | _ => false

/-- The jobs that a reset does not drop. -/
def isBuffered : Job → Bool
  | buffered _ _ => true
  | _ => false

end Job

/-- What the bus can see, and the jobs, the oldest first. -/
structure Device where
  settings : Settings
  regOdata : BitVec 64
  regValidOut : Bool
  jobs : List Job

namespace Device

/-- The value of the job that is done in this cycle. -/
def completion (device : Device) : Option (BitVec 64) :=
  device.jobs.findSome? Job.result

/-- One cycle of the device. -/
def step (input : Input) (device : Device) : Device :=
  if input.reset then
    { settings := ⟨0, 0, 0, 0, false⟩
      regOdata := 0
      regValidOut := false
      jobs := device.jobs.filter Job.isBuffered }
  else
    { settings := device.settings.after input
      regOdata := device.completion.getD device.regOdata
      regValidOut := device.completion.isSome || device.regValidOut
      jobs := device.jobs.filterMap (Job.advance device.settings) ++
        if input.starts then [.posted] else [] }

/-- What the bus reads at an address. -/
def readdata (address : BitVec 4) (device : Device) : BitVec 32 :=
  match address with
  | 0x0 => lowWord device.settings.idata
  | 0x1 => highWord device.settings.idata
  | 0x2 => lowWord device.settings.key1
  | 0x3 => highWord device.settings.key1
  | 0x4 => lowWord device.settings.key2
  | 0x5 => highWord device.settings.key2
  | 0x6 => lowWord device.settings.key3
  | 0x7 => highWord device.settings.key3
  | 0x8 =>
      0#30 ++ BitVec.ofBool device.settings.decrypt ++
        BitVec.ofBool (device.jobs.any Job.isPosted)
  | 0x9 => lowWord device.regOdata
  | 0xA => highWord device.regOdata
  | 0xB => 0#31 ++ BitVec.ofBool device.regValidOut
  | _ => 0

end Device

section Cells

-- The stages of the pipeline, each with the job that its registers hold.

/-- The jobs in a core, in the order of its valid bits. -/
def FeistelAlgo.State.jobCell (stage : Fin 3) (state : FeistelAlgo.State) :
    Nat → Option Job
  | 0 =>
      if state.vBuf then some (.buffered stage (FeistelAlgo.buffered state))
      else none
  | position + 1 =>
      if inside : position < 16 then
        let round : Fin 16 := ⟨position, inside⟩
        if state.V round.castSucc then
          some (.inRound stage round (FeistelAlgo.K state round)
            (FeistelAlgo.halves state round.castSucc))
        else none
      else if position = 16 then
        if state.V (Fin.last 16) then
          some (.preoutput stage (FeistelAlgo.halves state (Fin.last 16)))
        else none
      else if state.validOut then some (.leaving stage state.odata)
      else none

/-- The jobs in the cascade. -/
def Des3.State.jobCell (state : Des3.State) : Nat → Option Job :=
  Conveyor.joined 19 (state.encrypt1.jobCell Stage.encrypt1)
    (Conveyor.joined 19 (state.decrypt2.jobCell Stage.decrypt2)
      (state.encrypt3.jobCell Stage.encrypt3))

/-- The jobs in the bridge, behind the start pulse. -/
def Des3Avalon.State.jobCell (state : Des3Avalon.State) : Nat → Option Job :=
  Conveyor.joined 1
    (fun _ => if state.regValidIn then some .posted else none)
    state.uDes3.jobCell

/-- What the registers of the bridge amount to. -/
def Des3Avalon.State.device (state : Des3Avalon.State) : Device where
  settings := state.settings
  regOdata := state.regOdata
  regValidOut := state.regValidOut
  jobs := Conveyor.items state.jobCell 58

end Cells

open Conveyor (Moves)

namespace FeistelAlgo

variable {settings : Settings} {stage : Fin 3}

theorem jobCell_round (state : State) (round : Fin 16) :
    state.jobCell stage (round + 1) =
      if state.V round.castSucc then
        some (.inRound stage round (K state round)
          (halves state round.castSucc))
      else none := by
  simp [State.jobCell]

/-- A core carries on its jobs, if the settings are those at its ports. -/
theorem jobCell_clocked (input : Input)
    (keys : ∀ round, settings.roundKey stage round =
      keyScheduler round input.keyIn input.decrypt) (state : State) :
    Moves 19 (Job.advance settings)
      (if input.validIn then some (.buffered stage (blockPort input.idata))
        else none)
      (state.jobCell stage) ((clocked input state).jobCell stage) where
  enter := rfl
  shift position bound := by
    rcases Nat.lt_or_ge position 17 with inside | last
    · cases position with
      | zero =>
          rw [show (0 : Nat) + 1 = (0 : Fin 16) + 1 from rfl, jobCell_round,
            K_clocked, ← keys]
          change (if state.vBuf then _ else none) = _
          cases vBuf : state.vBuf <;> simp [State.jobCell, vBuf, Job.advance]
      | succ position =>
          have here : position < 16 := by omega
          rw [show position + 1 = (⟨position, here⟩ : Fin 16) + 1 from rfl,
            jobCell_round state ⟨position, here⟩]
          rcases Nat.lt_or_ge (position + 1) 16 with next | done
          · rw [show ((⟨position, here⟩ : Fin 16) : Nat) + 1 =
                (⟨position + 1, next⟩ : Fin 16) from rfl, jobCell_round,
              K_clocked, ← keys]
            change (if state.V (Fin.castSucc ⟨position, here⟩) then _
              else none) = _
            cases valid : state.V (Fin.castSucc ⟨position, here⟩) with
            | false => rfl
            | true => simp [Job.advance, next]; rfl
          · obtain rfl : position = 15 := by omega
            change (if state.V (Fin.castSucc ⟨15, here⟩) then _ else none) = _
            cases valid : state.V (Fin.castSucc ⟨15, here⟩) with
            | false => rfl
            | true => simp [Job.advance]; rfl
    · obtain rfl : position = 17 := by omega
      change (if state.V 16 then _ else none) = _
      cases valid : state.V 16 <;> simp [State.jobCell, valid, Job.advance]

theorem jobCell_last (state : State) :
    state.jobCell stage 18 =
      if state.validOut then some (.leaving stage state.odata) else none := by
  simp [State.jobCell]

theorem result_jobCell (state : State) {position : Nat}
    (before : position < 18 ∨ stage ≠ 2) :
    (state.jobCell stage position).bind Job.result = none := by
  cases position with
  | zero =>
      rw [State.jobCell]
      split <;> rfl
  | succ position =>
      rw [State.jobCell]
      split
      · dsimp only
        split <;> rfl
      split
      · split <;> rfl
      split
      · match stage, before with
        | 0, _ => rfl
        | 1, _ => rfl
        | 2, _ => omega
      · rfl

theorem isPosted_jobCell (state : State) (position : Nat) :
    (state.jobCell stage position).any Job.isPosted = false := by
  cases position with
  | zero =>
      rw [State.jobCell]
      split <;> rfl
  | succ position =>
      rw [State.jobCell]
      split
      · dsimp only
        split <;> rfl
      split
      · split <;> rfl
      · split <;> rfl

theorem jobCell_cleared (state : State) (position : Nat) :
    (cleared state).jobCell stage position =
      (state.jobCell stage position).filter Job.isBuffered := by
  cases position with
  | zero =>
      change (if state.vBuf then _ else none) = _
      cases vBuf : state.vBuf <;>
        simp [State.jobCell, vBuf, Option.filter, Job.isBuffered]
      rfl
  | succ position =>
      have dropped : (cleared state).jobCell stage (position + 1) = none := by
        simp [State.jobCell, cleared]
      rw [dropped, State.jobCell]
      split
      · dsimp only
        split <;> rfl
      split
      · split <;> rfl
      · split <;> rfl

end FeistelAlgo

namespace Des3

variable {settings : Settings}

theorem jobCell_step (input : Input)
    (keys : ∀ stage round, settings.roundKey stage round =
      roundKey round (stageKey stage input))
    (low : input.reset = false) (state : State) :
    Moves 57 (Job.advance settings)
      (if input.validIn then some (.buffered 0 (blockPort input.idata))
        else none)
      state.jobCell (step input state).jobCell := by
  have first := FeistelAlgo.jobCell_clocked (encrypt1Input input) (keys 0)
    state.encrypt1
  have second := FeistelAlgo.jobCell_clocked
    (decrypt2Input input state) (keys 1) state.decrypt2
  have third := FeistelAlgo.jobCell_clocked
    (encrypt3Input input state) (keys 2) state.encrypt3
  have passed : (if (decrypt2Input input state).validIn then
        some (Job.buffered 1 (blockPort (decrypt2Input input state).idata))
        else none) =
      (state.encrypt1.jobCell 0 18).bind (Job.advance settings) := by
    rw [FeistelAlgo.jobCell_last]
    change (if state.encrypt1.validOut then _ else none) = _
    split <;> rfl
  have passed' : (if (encrypt3Input input state).validIn then
        some (Job.buffered 2 (blockPort (encrypt3Input input state).idata))
        else none) =
      (state.decrypt2.jobCell 1 18).bind (Job.advance settings) := by
    rw [FeistelAlgo.jobCell_last]
    change (if state.decrypt2.validOut then _ else none) = _
    split <;> rfl
  rw [passed] at second
  rw [passed'] at third
  have moves := first.joined (by omega) (second.joined (by omega) third)
  rw [← FeistelAlgo.step_of_low low, ← FeistelAlgo.step_of_low low,
    ← FeistelAlgo.step_of_low low] at moves
  exact moves

theorem jobCell_of_reset (high : input.reset = true) (state : State)
    (position : Nat) :
    (step input state).jobCell position =
      (state.jobCell position).filter Job.isBuffered := by
  simp only [State.jobCell, Conveyor.joined, step]
  rw [FeistelAlgo.step_of_reset high, FeistelAlgo.step_of_reset high,
    FeistelAlgo.step_of_reset high]
  split
  · exact FeistelAlgo.jobCell_cleared _ _
  split
  · exact FeistelAlgo.jobCell_cleared _ _
  · exact FeistelAlgo.jobCell_cleared _ _

theorem jobCell_last (state : State) :
    state.jobCell 56 =
      if state.validOut then some (.leaving 2 state.odata) else none :=
  FeistelAlgo.jobCell_last state.encrypt3

theorem isPosted_jobCell (state : State) (position : Nat) :
    (state.jobCell position).any Job.isPosted = false := by
  simp only [State.jobCell, Conveyor.joined]
  split
  · exact FeistelAlgo.isPosted_jobCell _ _
  split
  · exact FeistelAlgo.isPosted_jobCell _ _
  · exact FeistelAlgo.isPosted_jobCell _ _

/-- Only the last cell holds a job that is done. -/
theorem result_jobCell (state : State) {position : Nat}
    (before : position < 56) :
    (state.jobCell position).bind Job.result = none := by
  simp only [State.jobCell, Conveyor.joined]
  split
  · exact FeistelAlgo.result_jobCell _ (.inr (by decide))
  split
  · exact FeistelAlgo.result_jobCell _ (.inr (by decide))
  · exact FeistelAlgo.result_jobCell _ (.inl (by omega))

end Des3

namespace Des3Avalon

variable {input : Input}

theorem roundKey_settings (input : Input) (state : State) (stage : Fin 3)
    (round : Fin 16) :
    state.settings.roundKey stage round =
      Des3.roundKey round (Des3.stageKey stage (des3Input input state)) := by
  match stage with
  | 0 | 1 | 2 => rfl

theorem jobCell_clocked (low : input.reset = false) (state : State) :
    Moves 58 (Job.advance state.settings)
      (if input.starts then some .posted else none)
      state.jobCell (clocked input state).jobCell := by
  have pulse : Moves 1 (Job.advance state.settings)
      (if input.starts then some .posted else none)
      (fun _ => if state.regValidIn then some .posted else none)
      (fun _ => if (clocked input state).regValidIn then some .posted
        else none) :=
    ⟨by rw [regValidIn_clocked], fun position bound => by omega⟩
  have cascade := Des3.jobCell_step (des3Input input state)
    (roundKey_settings input state) low state.uDes3
  have passed : (if (des3Input input state).validIn then
        some (Job.buffered 0 (blockPort (des3Input input state).idata))
        else none) =
      (if state.regValidIn then some Job.posted else none).bind
        (Job.advance state.settings) := by
    change (if state.regValidIn then _ else none) = _
    split <;> rfl
  rw [passed] at cascade
  exact pulse.joined (by omega) cascade

theorem jobCell_cleared (high : input.reset = true) (state : State)
    (position : Nat) :
    (cleared input state).jobCell position =
      (state.jobCell position).filter Job.isBuffered := by
  simp only [State.jobCell, Conveyor.joined]
  split
  · cases state.regValidIn <;> rfl
  · exact Des3.jobCell_of_reset high state.uDes3 _

theorem jobCell_last (state : State) :
    state.jobCell 57 =
      if state.uDes3.validOut then some (.leaving 2 state.uDes3.odata)
      else none :=
  Des3.jobCell_last state.uDes3

theorem completion_device (state : State) :
    state.device.completion =
      if state.uDes3.validOut then some state.uDes3.odata else none := by
  have hidden (position : Nat) (before : position < 57) :
      (state.jobCell position).bind Job.result = none := by
    simp only [State.jobCell, Conveyor.joined]
    split
    · split <;> rfl
    · exact Des3.result_jobCell _ (by omega)
  have shown := Conveyor.findSome?_items hidden
  rw [jobCell_last] at shown
  rw [Device.completion, State.device, shown]
  split <;> rfl

theorem posted_device (state : State) :
    state.device.jobs.any Job.isPosted = state.regValidIn := by
  have first : (state.jobCell 0).any Job.isPosted = state.regValidIn := by
    change (if state.regValidIn then some Job.posted else none).any _ = _
    cases state.regValidIn <;> rfl
  rw [Bool.eq_iff_iff, ← first]
  refine Conveyor.any_items.trans ⟨?_, fun posted => ⟨0, by omega, posted⟩⟩
  rintro ⟨position, below, posted⟩
  cases position with
  | zero => exact posted
  | succ position =>
      have passed : (state.jobCell (position + 1)).any Job.isPosted = false :=
        Des3.isPosted_jobCell state.uDes3 position
      rw [passed] at posted
      contradiction

/-- A cycle of the bridge is a cycle of the device. -/
theorem device_step (input : Input) (state : State) :
    (step input state).device = Device.step input state.device := by
  cases reset : input.reset with
  | true =>
      rw [step_of_reset reset, Device.step, if_pos reset]
      have dropped := @Conveyor.items_of_kept _ 58 _ _ _
        fun position _ => jobCell_cleared reset state position
      rw [State.device, dropped]
      rfl
  | false =>
      have running : ¬ input.reset = true := by
        rw [reset]
        exact Bool.false_ne_true
      have carried := (jobCell_clocked reset state).items (by omega) (by
        rw [jobCell_last]
        split <;> rfl)
      rw [step_of_low reset, Device.step, if_neg running, completion_device,
        State.device, carried, settings_clocked]
      congr 1
      · cases valid : state.uDes3.validOut <;> simp [clocked, valid, State.device]
      · cases valid : state.uDes3.validOut <;> simp [clocked, valid, State.device]
      · cases input.starts <;> rfl

theorem readdata_device (address : BitVec 4) (state : State) :
    state.device.readdata address = avsReaddata address state := by
  unfold Device.readdata avsReaddata
  rw [posted_device]
  rfl

/-- The bridge runs as the device does, from any register contents and through
any resets, and the bus reads the same from both. -/
theorem refines_device (initial : State) (inputs : Nat → Input)
    (cycle : Nat) :
    (run step inputs initial cycle).device =
        run Device.step inputs initial.device cycle ∧
      ∀ address, avsReaddata address (run step inputs initial cycle) =
        (run Device.step inputs initial.device cycle).readdata address := by
  have same : (run step inputs initial cycle).device =
      run Device.step inputs initial.device cycle := by
    induction cycle with
    | zero => rfl
    | succ cycle ih => rw [run, device_step, ih, run]
  refine ⟨same, fun address => ?_⟩
  rw [← readdata_device, same]

end Des3Avalon

end TripleDes

import TripleDes.Session
import TripleDes.Streaming

/-!
# Blocks in flight

The key and mode registers of the bridge are shared by all blocks in flight.
A block is processed under their contents in the forty-eight cycles in which
its rounds sample them, and not under those at its control write.
-/

namespace TripleDes

open Clocked

namespace Des3Avalon

/-- Every started block is loaded as the published cipher, in the mode of its
control word, of the block and the keys that the registers hold at that
write. -/
def IsolatesInFlight (inputs : Nat → Input) (trace : Nat → State) : Prop :=
  ∀ start, (inputs start).starts = true → (inputs start).reset = false →
    loaded inputs trace (start + 58) =
      some (Standard.tdes ((inputs start).avsWritedata.getLsbD 1)
        (trace start).regKey1 (trace start).regKey2 (trace start).regKey3
        (trace start).regIdata)

/-- A write that can change the mode or a key. -/
def Input.reconfigures (input : Input) : Bool :=
  input.avsWrite && decide (2#4 ≤ input.avsAddress ∧ input.avsAddress ≤ 8#4)

theorem writes_of_not_reconfigures {input : Input}
    (none : input.reconfigures = false) {address : BitVec 4}
    (lower : 2#4 ≤ address) (upper : address ≤ 8#4) :
    input.writes address = false := by
  rw [Bool.eq_false_iff]
  intro writes
  simp only [Input.writes, Bool.and_eq_true, beq_iff_eq] at writes
  obtain ⟨write, rfl⟩ := writes
  simp [Input.reconfigures, write, lower, upper] at none

theorem settings_of_not_reconfigures {input : Input}
    (none : input.reconfigures = false) (settings : Settings) :
    settings.after input =
      { settings with idata := written input 0x0 0x1 settings.idata } := by
  have missed (address : BitVec 4) (lower : 2#4 ≤ address)
      (upper : address ≤ 8#4) : input.writes address = false :=
    writes_of_not_reconfigures none lower upper
  simp [Settings.after, written, missed 2#4 (by decide) (by decide),
    missed 3#4 (by decide) (by decide), missed 4#4 (by decide) (by decide),
    missed 5#4 (by decide) (by decide), missed 6#4 (by decide) (by decide),
    missed 7#4 (by decide) (by decide), missed 8#4 (by decide) (by decide)]

theorem settings_of_starts {input : Input} (starts : input.starts = true)
    (settings : Settings) :
    settings.after input =
      { settings with decrypt := input.avsWritedata.getLsbD 1 } := by
  have control : input.writes 8#4 = true := by
    simp only [Input.starts, Bool.and_eq_true] at starts
    exact starts.1
  simp [Settings.after, written_of_starts starts, control]

section Runs

variable {inputs : Nat → Input} {trace : Nat → State} {start : Nat}

theorem sampled_of_not_reconfigured (follows : Follows step inputs trace)
    (low : Throughout start (start + 58) fun cycle =>
      (inputs cycle).reset = false)
    (starts : (inputs start).starts = true)
    (quiet : Throughout (start + 1) (start + 54) fun cycle =>
      (inputs cycle).reconfigures = false) :
    Des3.Sampled (ports inputs trace) (start + 1)
      ((inputs start).avsWritedata.getLsbD 1) (trace start).regKey1
      (trace start).regKey2 (trace start).regKey3 := by
  have begun : (trace (start + 1)).settings =
      { (trace start).settings with
        decrypt := (inputs start).avsWritedata.getLsbD 1 } := by
    rw [follows, step_of_low (low start (by omega) (by omega)),
      settings_clocked, settings_of_starts starts]
  have kept (cycle : Nat) (after : start + 1 ≤ cycle)
      (before : cycle ≤ start + 55) :
      (trace cycle).settings =
        { (trace start).settings with
          idata := (trace cycle).settings.idata
          decrypt := (inputs start).avsWritedata.getLsbD 1 } := by
    induction cycle, after using Nat.le_induction with
    | base =>
        rw [begun]
    | succ cycle after ih =>
        rw [follows, step_of_low (low cycle (by omega) (by omega)),
          settings_clocked,
          settings_of_not_reconfigures (quiet cycle after (by omega)),
          ih (by omega)]
  have held : Des3.Held (ports inputs trace) (start + 1)
      ((inputs start).avsWritedata.getLsbD 1) (trace start).regKey1
      (trace start).regKey2 (trace start).regKey3 := by
    intro cycle after before
    have now := kept cycle (by omega) (by omega)
    exact ⟨congrArg Settings.decrypt now, congrArg Settings.key1 now,
      congrArg Settings.key2 now, congrArg Settings.key3 now⟩
  exact held.sampled

theorem loaded_of_starts (follows : Follows step inputs trace)
    (low : Throughout start (start + 58) fun cycle =>
      (inputs cycle).reset = false)
    (starts : (inputs start).starts = true) :
    loaded inputs trace (start + 58) =
      some (trace (start + 58)).uDes3.odata := by
  rw [loaded_eq_submitted follows low,
    odata_of_starts follows (low.mono (Nat.le_refl start) (by omega))]
  simp [submitted, starts]

theorem odata_of_sampled (follows : Follows step inputs trace)
    (low : Throughout start (start + 58) fun cycle =>
      (inputs cycle).reset = false)
    (starts : (inputs start).starts = true)
    {mode : Bool} {key1 key2 key3 : BitVec 64}
    (sampled : Des3.Sampled (ports inputs trace) (start + 1) mode key1 key2
      key3) :
    (trace (start + 58)).uDes3.odata =
      Standard.tdes mode key1 key2 key3 (trace start).regIdata := by
  have lowInside : Throughout (start + 1) (start + 1 + 56) fun cycle =>
      (ports inputs trace cycle).reset = false :=
    low.mono (by omega) (by omega)
  have output :=
    Des3.odata_of_sampled (ports_follows follows) lowInside sampled
  rwa [ports_idata_of_starts follows (low start (by omega) (by omega)) starts,
    Nat.add_right_comm start 1 57] at output

theorem loaded_of_sampled (follows : Follows step inputs trace)
    (low : Throughout start (start + 58) fun cycle =>
      (inputs cycle).reset = false)
    (starts : (inputs start).starts = true)
    {mode : Bool} {key1 key2 key3 : BitVec 64}
    (sampled : Des3.Sampled (ports inputs trace) (start + 1) mode key1 key2
      key3) :
    loaded inputs trace (start + 58) =
      some (Standard.tdes mode key1 key2 key3 (trace start).regIdata) := by
  rw [loaded_of_starts follows low starts,
    odata_of_sampled follows low starts sampled]

end Runs

/-- The value loaded for a block is the cascade of the block that the
registers hold at its control write, under the key and mode registers as they
stand in the forty-eight cycles in which its rounds sample them.  It is the
published cipher under the settings at the control write if those cycles still
find them, in particular if nothing reconfigures the bridge meanwhile. -/
theorem loaded_from_sampled_settings (initial : State) (inputs : Nat → Input)
    (start : Nat)
    (low : Throughout start (start + 58) fun cycle =>
      (inputs cycle).reset = false)
    (starts : (inputs start).starts = true) :
    loaded inputs (run step inputs initial) (start + 58) =
        some (Des3.cascade
          (fun stage round => Des3.roundKey round (Des3.stageKey stage
            (ports inputs (run step inputs initial)
              (start + 1 + 19 * stage + 1 + round))))
          (run step inputs initial start).regIdata) ∧
      ((Des3.Sampled (ports inputs (run step inputs initial)) (start + 1)
            ((inputs start).avsWritedata.getLsbD 1)
            (run step inputs initial start).regKey1
            (run step inputs initial start).regKey2
            (run step inputs initial start).regKey3 ∨
          Throughout (start + 1) (start + 54) fun cycle =>
            (inputs cycle).reconfigures = false) →
        loaded inputs (run step inputs initial) (start + 58) =
          some (Standard.tdes ((inputs start).avsWritedata.getLsbD 1)
            (run step inputs initial start).regKey1
            (run step inputs initial start).regKey2
            (run step inputs initial start).regKey3
            (run step inputs initial start).regIdata)) := by
  have follows := run_follows step inputs initial
  constructor
  · rw [loaded_of_starts follows low starts,
      odata_of_starts follows (low.mono (by omega) (by omega)),
      ports_idata_of_starts follows (low start (by omega) (by omega)) starts]
    rfl
  · rintro (sampled | quiet)
    · exact loaded_of_sampled follows low starts sampled
    · exact loaded_of_sampled follows low starts
        (sampled_of_not_reconfigured follows low starts quiet)

/-- The control write in cycle 1 starts a block, and the next cycle writes a
key. -/
def keyWriteBehindStart (cycle : Nat) : Input where
  reset := cycle == 0
  avsAddress := if cycle = 1 then 0x8 else 0x2
  avsWrite := cycle == 1 || cycle == 2
  avsWritedata := if cycle = 1 then 1 else 2

theorem session_keyWriteBehindStart :
    Session 1 default keyWriteBehindStart :=
  .of_first drained_default fun _ => rfl

theorem loaded_from_sampled_settings_alone :
    loaded (fun cycle => { keyWriteBehindStart cycle with
        reset := false
        avsWrite := cycle == 1 })
      (run step (fun cycle => { keyWriteBehindStart cycle with
        reset := false
        avsWrite := cycle == 1 }) default) 59 = some 0x8CA64DE9C1B123A7 := by
  have zeros : Standard.tdes false 0 0 0 0 = 0x8CA64DE9C1B123A7 := by
    decide +kernel
  refine ((loaded_from_sampled_settings default _ 1 (fun _ _ _ => rfl)
    rfl).2 (.inr ?_)).trans (congrArg some zeros)
  intro cycle after _
  have later : cycle ≠ 1 := by omega
  simp [Input.reconfigures, later]

/-- The block behind which a key is written is processed under the new key. -/
theorem not_isolatesInFlight_keyWriteBehindStart :
    Session 1 default keyWriteBehindStart ∧
      ¬ IsolatesInFlight keyWriteBehindStart
        (run step keyWriteBehindStart default) := by
  refine ⟨session_keyWriteBehindStart, fun isolates => ?_⟩
  have follows := run_follows step keyWriteBehindStart default
  have low (cycle : Nat) (after : 1 ≤ cycle) :
      (keyWriteBehindStart cycle).reset = false :=
    session_keyWriteBehindStart.low cycle after
  have settled (cycle : Nat) (after : 3 ≤ cycle) :
      (run step keyWriteBehindStart default cycle).settings =
        ⟨0, 2, 0, 0, false⟩ := by
    induction cycle, after using Nat.le_induction with
    | base => rfl
    | succ cycle after ih =>
        have idle : (keyWriteBehindStart cycle).avsWrite = false := by
          have first : cycle ≠ 1 := by omega
          have second : cycle ≠ 2 := by omega
          simp [keyWriteBehindStart, first, second]
        rw [follows, step_of_low (low cycle (by omega)), settings_clocked,
          Settings.after_of_no_write idle, ih]
  have held : Des3.Held
      (ports keyWriteBehindStart (run step keyWriteBehindStart default)) 2
      false 2 0 0 := fun cycle after _ => by
    have now := settled cycle (by omega)
    exact ⟨congrArg Settings.decrypt now, congrArg Settings.key1 now,
      congrArg Settings.key2 now, congrArg Settings.key3 now⟩
  have expected := isolates 1 rfl rfl
  rw [loaded_of_sampled follows (fun cycle after _ => low cycle after) rfl
    held.sampled] at expected
  have differ : ¬ Standard.tdes false 2 0 0 0 = Standard.tdes false 0 0 0 0 := by
    decide +kernel
  exact differ (Option.some.inj expected)

end Des3Avalon

end TripleDes

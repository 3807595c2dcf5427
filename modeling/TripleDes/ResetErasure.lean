import TripleDes.BufferContents
import TripleDes.Indistinguishable

/-!
# What a reset erases

A reset clears the registers that the bus can read and the rounds of the
cores, but not the input buffers of the cores.  What it leaves behind of the
past is therefore the valid bits of the three buffers and the half blocks that
come with a set bit, and all of this can be seen on the bus later.
-/

namespace TripleDes

open Clocked

namespace Des3Avalon

open FeistelAlgo (buffered)

/-- The state in which a reset leaves the bridge. -/
def afterReset (state : State) : State where
  regIdata := 0
  regKey1 := 0
  regKey2 := 0
  regKey3 := 0
  regDecrypt := false
  regValidIn := false
  regOdata := 0
  regValidOut := false
  uDes3 :=
    { encrypt1 := FeistelAlgo.cleared state.uDes3.encrypt1
      decrypt2 := FeistelAlgo.cleared state.uDes3.decrypt2
      encrypt3 := FeistelAlgo.cleared state.uDes3.encrypt3 }

/-- The input buffers agree: the same valid bits, and the same half blocks
where these are set. -/
def SameBuffers (first second : State) : Prop :=
  ∀ stage, (first.uDes3.stage stage).vBuf = (second.uDes3.stage stage).vBuf ∧
    ((first.uDes3.stage stage).vBuf = true →
      (first.uDes3.stage stage).lBuf = (second.uDes3.stage stage).lBuf ∧
        (first.uDes3.stage stage).rBuf = (second.uDes3.stage stage).rBuf)

/-- After a reset for the first `held` cycles and under the same bus cycles
from then on, runs from the two states show the same words. -/
def ErasesPast (held : Nat) (first second : State) : Prop :=
  ∀ inputs inputs' : Nat → Input,
    (∀ cycle < held,
      (inputs cycle).reset = true ∧ (inputs' cycle).reset = true) →
    (∀ cycle, held ≤ cycle →
      (inputs cycle).reset = false ∧ inputs' cycle = inputs cycle) →
    ∀ cycle, held ≤ cycle →
      readdata inputs (run step inputs first) cycle =
        readdata inputs' (run step inputs' second) cycle

theorem step_eq_afterReset {input : Input} (high : input.reset = true)
    (state : State) : step input state = afterReset state := by
  have cascade : Des3.step (des3Input input state) state.uDes3 =
      (afterReset state).uDes3 := by
    unfold Des3.step
    rw [FeistelAlgo.step_of_reset high, FeistelAlgo.step_of_reset high,
      FeistelAlgo.step_of_reset high]
    rfl
  rw [step_of_reset high, cleared, cascade]
  rfl

theorem run_eq_afterReset {inputs : Nat → Input} {held : Nat}
    (positive : 0 < held) (high : ∀ cycle < held, (inputs cycle).reset = true)
    (state : State) : run step inputs state held = afterReset state := by
  induction held, positive using Nat.le_induction with
  | base => exact step_eq_afterReset (high 0 (by omega)) state
  | succ held positive ih =>
      rw [run_follows, step_eq_afterReset (high held (by omega)),
        ih fun cycle before => high cycle (by omega)]
      rfl

theorem stage_afterReset (state : State) (stage : Fin 3) :
    (afterReset state).uDes3.stage stage =
      FeistelAlgo.cleared (state.uDes3.stage stage) := by
  match stage with
  | 0 | 1 | 2 => rfl

theorem SameBuffers.agree {first second : State}
    (same : SameBuffers first second) :
    (afterReset first).Agree (afterReset second) where
  settings := rfl
  regValidIn := rfl
  regOdata := rfl
  regValidOut := rfl
  uDes3 stage := by
    obtain ⟨valid, halves⟩ := same stage
    rw [stage_afterReset, stage_afterReset]
    exact FeistelAlgo.State.Agree.cleared valid fun set =>
      Prod.ext (halves set).1 (halves set).2

/-- States with the same input buffers cannot be told apart after a reset. -/
theorem erasesPast_of_sameBuffers {held : Nat} (positive : 0 < held)
    {first second : State} (same : SameBuffers first second) :
    ErasesPast held first second := by
  intro inputs inputs' high low cycle after
  obtain ⟨cycle, rfl⟩ : ∃ later, cycle = held + later :=
    ⟨cycle - held, by omega⟩
  have follows := (run_follows step inputs first).shift held
  have follows' := (run_follows step inputs' second).shift held
  have same_inputs : (fun cycle => inputs' (held + cycle)) =
      fun cycle => inputs (held + cycle) :=
    funext fun cycle => (low (held + cycle) (by omega)).2
  rw [same_inputs] at follows'
  have agree : (run step inputs first (held + 0)).Agree
      (run step inputs' second (held + 0)) := by
    rw [Nat.add_zero,
      run_eq_afterReset positive (fun cycle before => (high cycle before).1),
      run_eq_afterReset positive (fun cycle before => (high cycle before).2)]
    exact same.agree
  have shown := readdata_of_agree follows follows'
    (fun cycle => (low (held + cycle) (by omega)).1) agree cycle
  rw [readdata, readdata] at shown ⊢
  rw [(low (held + cycle) (by omega)).2]
  exact shown

section Released

variable {inputs : Nat → Input} {trace : Nat → State} {state : State}
  (follows : Follows step inputs trace)
  (low : ∀ cycle, (inputs cycle).reset = false)
  (begins : trace 0 = afterReset state)
include follows low begins

def exitCycle (stage : Fin 3) : Nat :=
  56 - 19 * stage

omit follows low begins in
theorem validCell_afterReset (stage : Fin 3) {position : Nat}
    (inside : position < 19) :
    (afterReset state).validCell (1 + (19 * stage + position)) =
      (position == 0 && (state.uDes3.stage stage).vBuf) := by
  have behind : ¬ 1 + (19 * (stage : Nat) + position) < 1 := by omega
  have rest : 1 + (19 * (stage : Nat) + position) - 1 =
      19 * stage + position := by omega
  rw [State.validCell, if_neg behind, rest,
    Des3.validCell_stage _ stage inside, stage_afterReset,
    FeistelAlgo.validCell_cleared]
  cases position <;> rfl

/-- A buffer that the reset left valid completes in its exit cycle, and
nothing does shortly before. -/
theorem validOut_of_exit (stage : Fin 3) (early : Nat) (recent : early < 5) :
    (trace (exitCycle stage - early)).uDes3.validOut =
      (early == 0 && (state.uDes3.stage stage).vBuf) := by
  have position : 1 + (19 * (stage : Nat) + early) +
      (exitCycle stage - early) = 57 := by
    unfold exitCycle
    omega
  have moved := (validLine follows).advance 0 (1 + (19 * stage + early))
    (exitCycle stage - early) (fun cycle _ _ => low cycle) (by omega)
  rw [position, Nat.zero_add, validCell_last, begins,
    validCell_afterReset stage (by omega)] at moved
  exact moved

theorem regOdata_of_exit (stage : Fin 3) :
    (trace (exitCycle stage + 1)).regOdata =
      if (state.uDes3.stage stage).vBuf then
        (trace (exitCycle stage)).uDes3.odata
      else (trace (exitCycle stage - 4)).regOdata := by
  have valid := validOut_of_exit follows low begins stage
  have late : 4 ≤ exitCycle stage := by
    unfold exitCycle
    omega
  have quiet : (trace (exitCycle stage)).regOdata =
      (trace (exitCycle stage - 4)).regOdata := by
    have latches : Events.Latches (exitCycle stage - 4) (exitCycle stage)
        (fun cycle => loads (inputs cycle) (trace cycle))
        (fun cycle => (trace cycle).uDes3.odata)
        (fun cycle => (trace cycle).regOdata) :=
      fun cycle _ _ => regOdata_succ follows (low cycle)
    refine latches.hold (Nat.le_refl _) (by omega) (Nat.le_refl _) ?_
    intro between after before
    obtain ⟨early, recent, rfl⟩ : ∃ early, early < 5 ∧
        between = exitCycle stage - early :=
      ⟨exitCycle stage - between, by omega, by omega⟩
    have nonzero : (early == 0) = false := by
      rw [beq_eq_false_iff_ne]
      omega
    rw [loads, valid early recent, nonzero, Bool.false_and, Bool.and_false]
  have now := valid 0 (by omega)
  rw [Nat.sub_zero] at now
  rw [regOdata_succ follows (low _), loads, low, now, quiet]
  rfl

end Released

/-- The round key of the last core under given settings. -/
def lastRoundKey (round : Fin 16) (settings : Settings) : BitVec 48 :=
  keyScheduler round
    (if settings.decrypt then settings.key1 else settings.key3)
    settings.decrypt

theorem odata_of_lastBuffer {inputs : Nat → Input} {trace : Nat → State}
    (follows : Follows step inputs trace)
    (low : ∀ cycle, (inputs cycle).reset = false) (start : Nat) :
    (trace (start + 18)).uDes3.odata =
      core (fun round =>
          lastRoundKey round (trace (start + round)).settings)
        (blockPort.symm (buffered (trace start).uDes3.encrypt3)) :=
  FeistelAlgo.odata_of_buffered
    (Des3.encrypt3_follows (ports_follows follows)) fun cycle _ _ => low cycle

/-- Bus cycles after a reset that leave the bridge alone, but for one write to
the third key. -/
def probe (held : Nat) (change : Option Nat) (address : BitVec 4)
    (cycle : Nat) : Input where
  reset := cycle < held
  avsAddress := if change = some cycle then 0x7 else address
  avsWrite := change = some cycle
  avsWritedata := 0x4000

/-- The state a number of cycles after the release, in the run that reads the
low word of the result. -/
def probed (held : Nat) (change : Option Nat) (state : State) (cycle : Nat) :
    State :=
  run step (probe held change 0x9) state (held + cycle)

section Probes

variable (held : Nat) (change : Option Nat) (state : State)

theorem probed_follows :
    Follows step (fun cycle => probe held change 0x9 (held + cycle))
      (probed held change state) :=
  (run_follows step (probe held change 0x9) state).shift held

theorem probe_low (address : BitVec 4) (cycle : Nat) :
    (probe held change address (held + cycle)).reset = false := by
  simp [probe]

variable {held} (positive : 0 < held)
include positive

theorem probed_zero : probed held change state 0 = afterReset state :=
  run_eq_afterReset positive (fun cycle before => by simp [probe, before])
    state

theorem settings_probed {cycle : Nat}
    (before : ∀ earlier < cycle, change ≠ some (held + earlier)) :
    (probed held change state cycle).settings = ⟨0, 0, 0, 0, false⟩ := by
  induction cycle with
  | zero =>
      rw [probed_zero change state positive]
      rfl
  | succ cycle ih =>
      have idle : (probe held change 0x9 (held + cycle)).avsWrite = false := by
        simp [probe, before cycle (Nat.lt_succ_self cycle)]
      rw [probed_follows, step_of_low (probe_low held change 0x9 cycle),
        settings_clocked, Settings.after_of_no_write idle,
        ih fun earlier less => before earlier (by omega)]

theorem settings_probed_succ (cycle : Nat) :
    (probed held (some (held + cycle)) state (cycle + 1)).settings =
      ⟨0, 0, 0, probeKey, false⟩ := by
  have unchanged (earlier : Nat) (less : earlier < cycle) :
      some (held + cycle) ≠ some (held + earlier) := by
    rw [ne_eq, Option.some.injEq]
    omega
  have before := settings_probed _ state positive unchanged
  rw [probed_follows, step_of_low (probe_low held _ 0x9 cycle),
    settings_clocked, before]
  simp [Settings.after, written, Input.writes, probe]
  rfl

theorem probed_eq {cycle later : Nat} (before : cycle ≤ later) :
    probed held (some (held + later)) state cycle =
      probed held none state cycle := by
  refine (probed_follows held (some (held + later)) state).eq_of_inputs
    (probed_follows held none state) ?_ ?_
  · exact (probed_zero _ state positive).trans
      (probed_zero _ state positive).symm
  · intro earlier less
    have other : later ≠ earlier := by omega
    simp [probe, other]

/-- What the last core computes from a block depends on the write if this
comes right before the last round key is sampled. -/
theorem odata_probed_ne (start : Nat) :
    (probed held (some (held + (start + 14))) state (start + 18)).uDes3.odata ≠
      (probed held none state (start + 18)).uDes3.odata := by
  rw [odata_of_lastBuffer (probed_follows held _ state) (probe_low held _ 0x9),
    odata_of_lastBuffer (probed_follows held _ state) (probe_low held _ 0x9),
    probed_eq state positive (by omega : start ≤ start + 14)]
  apply core_ne_of_probeKey
  · intro round other
    have last : (round : Nat) ≠ 15 := fun value => other (Fin.ext value)
    have early : start + (round : Nat) ≤ start + 14 := by
      have below := round.isLt
      omega
    exact congrArg (fun state => lastRoundKey round (State.settings state))
      (probed_eq state positive early)
  · change lastRoundKey 15 (probed held _ state (start + 14 + 1)).settings = _
    rw [settings_probed_succ state positive]
    rfl
  · change lastRoundKey 15 (probed held _ state (start + 15)).settings = _
    rw [settings_probed none state positive fun _ _ => nofun]
    rfl

theorem ports_probed (cycle : Nat) :
    ports (fun cycle => probe held none 0x9 (held + cycle))
        (probed held none state) cycle =
      { reset := false
        idata := 0
        key1 := 0
        key2 := 0
        key3 := 0
        decrypt := false
        validIn := false } := by
  have settings : (probed held none state cycle).settings =
      ⟨0, 0, 0, 0, false⟩ :=
    settings_probed none state positive fun _ _ => nofun
  have pulse : (probed held none state cycle).regValidIn = false := by
    cases cycle with
    | zero =>
        rw [probed_zero none state positive]
        rfl
    | succ cycle =>
        rw [probed_follows, step_of_low (probe_low held none 0x9 cycle),
          regValidIn_clocked]
        rfl
  simp only [State.settings, Settings.mk.injEq] at settings
  simp [ports, des3Input, settings, pulse, probe]

end Probes

theorem step_of_no_write {input input' : Input}
    (reset : input.reset = input'.reset) (idle : input.avsWrite = false)
    (idle' : input'.avsWrite = false) (state : State) :
    step input state = step input' state := by
  have ports : des3Input input state = des3Input input' state := by
    simp [des3Input, reset]
  simp [step, cleared, clocked, written, Input.writes, idle, idle', reset,
    ports]

theorem run_probe (held : Nat) (change : Option Nat) (address : BitVec 4)
    (state : State) (cycle : Nat) :
    run step (probe held change address) state cycle =
      run step (probe held change 0x9) state cycle := by
  induction cycle with
  | zero => rfl
  | succ cycle ih =>
      rw [run, run, ih]
      by_cases now : change = some cycle
      · simp [probe, now]
      · apply step_of_no_write <;> simp [probe, now]

namespace ErasesPast

variable {held : Nat} (positive : 0 < held) {first second : State}
  (erases : ErasesPast held first second)
include positive erases

omit positive in
theorem symm : ErasesPast held second first := by
  intro inputs inputs' high low cycle after
  refine (erases inputs' inputs (fun cycle before => (high cycle before).symm)
    (fun cycle after => ?_) cycle after).symm
  obtain ⟨released, same⟩ := low cycle after
  exact ⟨same ▸ released, same.symm⟩

omit positive in
theorem regOdata_eq (change : Option Nat) {cycle : Nat}
    (free : change ≠ some (held + cycle)) :
    (probed held change first cycle).regOdata =
      (probed held change second cycle).regOdata := by
  have shown (address : BitVec 4) :=
    erases (probe held change address) (probe held change address)
      (fun cycle before => by simp [probe, before])
      (fun cycle after => by simp [probe, after]) (held + cycle) (by omega)
  have reads (address : BitVec 4) :
      (probe held change address (held + cycle)).reads address = true := by
    simp [probe, Input.reads, free]
  have lower := shown 0x9
  have upper := shown 0xA
  rw [readdata_low (reads 0x9), readdata_low (reads 0x9)] at lower
  rw [readdata_high (reads 0xA), readdata_high (reads 0xA),
    run_probe held change 0xA, run_probe held change 0xA] at upper
  exact eq_of_words lower upper

/-- A valid bit that a reset left in an input buffer shows: a late key write
reaches the result register through its block, and would not otherwise. -/
theorem vBuf_of_vBuf (stage : Fin 3)
    (set : (first.uDes3.stage stage).vBuf = true) :
    (second.uDes3.stage stage).vBuf = true := by
  by_contra unset
  obtain ⟨start, exits⟩ : ∃ start, exitCycle stage = start + 18 :=
    ⟨38 - 19 * stage, by unfold exitCycle; omega⟩
  have early : start + 18 - 4 = start + 14 := by omega
  have loaded (change : Option Nat) :
      (probed held change first (start + 18 + 1)).regOdata =
        (probed held change first (start + 18)).uDes3.odata := by
    rw [← exits, regOdata_of_exit (probed_follows held change first)
      (probe_low held change 0x9) (probed_zero change first positive) stage,
      if_pos set]
  have kept (change : Option Nat) :
      (probed held change second (start + 18 + 1)).regOdata =
        (probed held change second (start + 14)).regOdata := by
    rw [← early, ← exits, regOdata_of_exit (probed_follows held change second)
      (probe_low held change 0x9) (probed_zero change second positive) stage,
      if_neg unset]
  have written := regOdata_eq erases (some (held + (start + 14)))
    (by simp : _ ≠ some (held + (start + 18 + 1)))
  have idle := regOdata_eq erases none
    (nofun : none ≠ some (held + (start + 18 + 1)))
  rw [loaded, kept, probed_eq second positive (Nat.le_refl (start + 14)),
    ← kept none, ← idle, loaded] at written
  exact odata_probed_ne first positive start written

theorem buffered_eq (stage : Fin 3)
    (set : (first.uDes3.stage stage).vBuf = true) :
    buffered (first.uDes3.stage stage) =
      buffered (second.uDes3.stage stage) := by
  have set' := vBuf_of_vBuf positive erases stage set
  have same := regOdata_eq erases none
    (nofun : none ≠ some (held + (exitCycle stage + 1)))
  rw [regOdata_of_exit (probed_follows held none first)
      (probe_low held none 0x9) (probed_zero none first positive) stage,
    regOdata_of_exit (probed_follows held none second)
      (probe_low held none 0x9) (probed_zero none second positive) stage,
    set, set', if_pos rfl, if_pos rfl] at same
  have sameInputs := funext fun cycle =>
    (ports_probed second positive cycle).trans
      (ports_probed first positive cycle).symm
  have follows := ports_follows (probed_follows held none first)
  have follows' := ports_follows (probed_follows held none second)
  rw [sameInputs] at follows'
  have left := Des3.buffered_of_odata follows follows'
    (fun cycle => probe_low held none 0x9 cycle) stage same
  simp only [probed_zero _ _ positive, stage_afterReset] at left
  exact left

theorem sameBuffers : SameBuffers first second := by
  intro stage
  refine ⟨?_, fun set => ?_⟩
  · rw [Bool.eq_iff_iff]
    exact ⟨vBuf_of_vBuf positive erases stage,
      vBuf_of_vBuf positive erases.symm stage⟩
  · have left := buffered_eq positive erases stage set
    exact ⟨congrArg Prod.fst left, congrArg Prod.snd left⟩

end ErasesPast

/-- Two histories cannot be told apart on the bus after a reset exactly if
they have left the same input buffers. -/
theorem erasesPast_iff_sameBuffers (held : Nat) (positive : 0 < held)
    (first second : State) :
    ErasesPast held first second ↔ SameBuffers first second :=
  ⟨fun erases => erases.sameBuffers positive,
    fun same => erasesPast_of_sameBuffers positive same⟩

/-- A control write in cycle 0. -/
def startOnce (cycle : Nat) : Input where
  reset := false
  avsAddress := 0x8
  avsWrite := cycle == 0
  avsWritedata := 1

theorem erasesPast_iff_sameBuffers_startOnce :
    ErasesPast 1 (run step startOnce default 3) default := by
  have clear (stage : Fin 3) :
      ((run step startOnce default 3).uDes3.stage stage).vBuf = false := by
    match stage with
    | 0 | 1 | 2 => rfl
  have clear' (stage : Fin 3) :
      ((default : State).uDes3.stage stage).vBuf = false := by
    match stage with
    | 0 | 1 | 2 => rfl
  refine (erasesPast_iff_sameBuffers 1 (by omega) _ _).mpr fun stage => ?_
  rw [clear, clear']
  exact ⟨rfl, nofun⟩

/-- A reset that finds a block in the input buffer of the first core can be
told from one that finds the bridge idle. -/
theorem not_erasesPast_startOnce :
    ¬ ErasesPast 1 (run step startOnce default 2) default := by
  intro erases
  have stale := erases.vBuf_of_vBuf (by omega) 0 rfl
  contradiction

end Des3Avalon

end TripleDes

import TripleDes.Interconnect.Sessions

/-!
# The reset controllers

`altera_reset_controller.v` and `altera_reset_synchronizer.v` turn the reset
button into the resets of the system.  The bridge and its side of the network
are reset at once; the processor and the rest follow through six registers.
-/

namespace TripleDes

open Clocked

/-- `altera_reset_synchronizer.v` with an asynchronous reset and two stages. -/
structure ResetSynchronizer where
  intChain : BitVec 2
  intChainOut : Bool

namespace ResetSynchronizer

/-- The output is set as soon as the input is. -/
def resetOut (resetIn : Bool) (state : ResetSynchronizer) : Bool :=
  resetIn || state.intChainOut

def step (resetIn : Bool) (state : ResetSynchronizer) : ResetSynchronizer :=
  if resetIn then ⟨0b11, true⟩
  else ⟨state.intChain >>> 1, state.intChain.getLsbD 0⟩

end ResetSynchronizer

/-- `altera_reset_controller.v` with a reset request: a synchronizer, three
stages against metastability, and a pipe from which the outputs are made. -/
structure ResetController where
  synchronizer : ResetSynchronizer
  intChain : BitVec 3
  rSyncRstChain : BitVec 2
  rSyncRstDly : Bool
  rSyncRst : Bool
  rEarlyRst : Bool

namespace ResetController

/-- The table for the reset output. -/
def syncRst : Bool → Bool → Bool → Bool
  | false, false, false => false
  | false, false, true => false
  | false, true, false => false
  | false, true, true => true
  | true, false, false => true
  | true, false, true => true
  | true, true, false => true
  | true, true, true => true

/-- The table for the reset request. -/
def earlyRst : Bool → Bool → Bool
  | false, false => false
  | false, true => true
  | true, false => false
  | true, true => true

def step (mergedReset : Bool) (state : ResetController) : ResetController where
  synchronizer := state.synchronizer.step mergedReset
  intChain := state.intChain.extractLsb' 0 2 ++
    BitVec.ofBool (state.synchronizer.resetOut mergedReset)
  rSyncRstChain :=
    if state.intChain.getLsbD 2 then 0b11 else state.rSyncRstChain >>> 1
  rSyncRstDly := state.rSyncRstChain.getLsbD 1
  rSyncRst := syncRst state.rSyncRstDly (state.rSyncRstChain.getLsbD 1)
    state.rSyncRst
  rEarlyRst := earlyRst (state.rSyncRstChain.getLsbD 1)
    (state.rSyncRstChain.getLsbD 1)

end ResetController

namespace Resets

/-- The reset button, low when pressed, and the reset request of the debug
module of the processor. -/
structure Input where
  resetResetN : Bool
  debugReset : Bool

/-- The controllers of `system.v`. -/
structure State where
  rstController : ResetController
  rstController001 : ResetSynchronizer

def Input.pressed (input : Input) : Bool :=
  !input.resetResetN

def Input.merged (input : Input) : Bool :=
  input.pressed || input.debugReset

/-- The reset of the bridge and its side of the network. -/
def slaveReset (input : Input) (state : State) : Bool :=
  state.rstController001.resetOut input.pressed

/-- The reset of the processor and the rest of the network. -/
def masterReset (state : State) : Bool :=
  state.rstController.rSyncRst

def step (input : Input) (state : State) : State where
  rstController := state.rstController.step input.merged
  rstController001 := state.rstController001.step input.pressed

end Resets

/-- The signal is high in a cycle or in one of the three before. -/
def Recent (signal : Nat → Bool) (cycle : Nat) : Prop :=
  ∃ earlier, earlier ≤ cycle ∧ cycle ≤ earlier + 3 ∧ signal earlier = true

namespace ResetSynchronizer

variable {inputs : Nat → Bool} {trace : Nat → ResetSynchronizer}
  (follows : Follows step inputs trace)
include follows

theorem intChainOut_succ (cycle : Nat) : (trace (cycle + 1)).intChainOut =
    (inputs cycle || (trace cycle).intChain.getLsbD 0) := by
  rw [follows, step]
  cases inputs cycle <;> rfl

theorem intChain_succ (cycle : Nat) {stage : Nat} (inside : stage < 2) :
    (trace (cycle + 1)).intChain.getLsbD stage =
      (inputs cycle || (trace cycle).intChain.getLsbD (stage + 1)) := by
  rw [follows, step]
  cases inputs cycle with
  | false => simp [BitVec.getLsbD_ushiftRight, Nat.add_comm]
  | true =>
      obtain rfl | rfl : stage = 0 ∨ stage = 1 := by omega
      · simp
      · simp

/-- The output falls after three cycles in which the input has been low. -/
theorem resetOut_iff {cycle : Nat} (after : 3 ≤ cycle) :
    resetOut (inputs cycle) (trace cycle) = true ↔ Recent inputs cycle := by
  obtain ⟨cycle, rfl⟩ : ∃ first, cycle = first + 3 := ⟨cycle - 3, by omega⟩
  have last : (trace cycle).intChain.getLsbD 2 = false :=
    BitVec.getLsbD_of_ge _ 2 (Nat.le_refl 2)
  rw [resetOut, intChainOut_succ follows,
    intChain_succ follows _ Nat.zero_lt_two,
    intChain_succ follows _ Nat.one_lt_two, last]
  simp only [Bool.or_eq_true, Bool.or_false]
  constructor
  · rintro (high | high | high | high)
    · exact ⟨cycle + 3, by omega, by omega, high⟩
    · exact ⟨cycle + 2, by omega, by omega, high⟩
    · exact ⟨cycle + 1, by omega, by omega, high⟩
    · exact ⟨cycle, by omega, by omega, high⟩
  · rintro ⟨earlier, before, after, high⟩
    obtain rfl | rfl | rfl | rfl : earlier = cycle + 3 ∨ earlier = cycle + 2 ∨
        earlier = cycle + 1 ∨ earlier = cycle := by omega
    · exact .inl high
    · exact .inr (.inl high)
    · exact .inr (.inr (.inl high))
    · exact .inr (.inr (.inr high))

/-- An input that falls after some cycles holds the output for three more. -/
theorem resetOut_of_falls {held : Nat} (positive : 0 < held)
    (falls : ∀ cycle, inputs cycle = decide (cycle < held)) (cycle : Nat) :
    resetOut (inputs cycle) (trace cycle) = decide (cycle < held + 3) := by
  have first : inputs 0 = true := by rw [falls, decide_eq_true positive]
  rw [Bool.eq_iff_iff, decide_eq_true_eq]
  rcases Nat.lt_or_ge cycle 3 with before | after
  · simp only [show cycle < held + 3 by omega, iff_true]
    obtain rfl | rfl | rfl : cycle = 0 ∨ cycle = 1 ∨ cycle = 2 := by omega
    · rw [resetOut, first, Bool.true_or]
    · rw [resetOut, intChainOut_succ follows, first]
      simp
    · rw [resetOut, intChainOut_succ follows,
        intChain_succ follows _ Nat.zero_lt_two, first]
      simp
  · rw [resetOut_iff follows after]
    constructor
    · rintro ⟨earlier, before, reached, high⟩
      rw [falls, decide_eq_true_eq] at high
      omega
    · intro before
      refine ⟨min cycle (held - 1), by omega, by omega, ?_⟩
      rw [falls, decide_eq_true_eq]
      omega

end ResetSynchronizer

namespace ResetController

/-- The contents of the registers at power-on, up to the synchronizer, which
the button sets. -/
structure PowerOn (state : ResetController) : Prop where
  intChain : state.intChain = 0b111
  rSyncRstChain : state.rSyncRstChain = 0b11
  rSyncRstDly : state.rSyncRstDly = true
  rSyncRst : state.rSyncRst = true

/-- A register behind a signal that falls falls one cycle later. -/
theorem falls_succ {source value : Nat → Bool} {last : Nat}
    (falls : ∀ cycle, source cycle = decide (cycle < last))
    (initially : value 0 = true)
    (steps : ∀ cycle, value (cycle + 1) = source cycle) (cycle : Nat) :
    value cycle = decide (cycle < last + 1) := by
  cases cycle with
  | zero => rw [initially, decide_eq_true (Nat.succ_pos last)]
  | succ cycle =>
      rw [steps, falls]
      exact decide_eq_decide.mpr Nat.succ_lt_succ_iff.symm

/-- The reset output is set by the pipe and holds over a gap of one cycle. -/
theorem syncRst_eq (delayed newer held : Bool) :
    syncRst delayed newer held = (delayed || (newer && held)) := by
  cases delayed <;> cases newer <;> cases held <;> rfl

variable {inputs : Nat → Bool} {trace : Nat → ResetController}
  (follows : Follows step inputs trace)
include follows

theorem synchronizer_follows :
    Follows ResetSynchronizer.step inputs fun cycle =>
      (trace cycle).synchronizer :=
  fun cycle => congrArg synchronizer (follows cycle)

theorem intChain_zero (cycle : Nat) :
    (trace (cycle + 1)).intChain.getLsbD 0 =
      ResetSynchronizer.resetOut (inputs cycle) (trace cycle).synchronizer := by
  rw [follows, step, BitVec.getLsbD_append]
  simp

theorem intChain_succ (cycle : Nat) {stage : Nat} (inside : stage < 2) :
    (trace (cycle + 1)).intChain.getLsbD (stage + 1) =
      (trace cycle).intChain.getLsbD stage := by
  rw [follows, step, BitVec.getLsbD_append, BitVec.getLsbD_extractLsb']
  simp [inside]

theorem rSyncRstChain_succ (cycle : Nat) :
    (trace (cycle + 1)).rSyncRstChain.getLsbD 1 =
      (trace cycle).intChain.getLsbD 2 := by
  rw [follows, step]
  cases (trace cycle).intChain.getLsbD 2 <;> simp

theorem rSyncRstDly_succ (cycle : Nat) :
    (trace (cycle + 1)).rSyncRstDly =
      (trace cycle).rSyncRstChain.getLsbD 1 := by
  rw [follows, step]

theorem rSyncRst_succ (cycle : Nat) : (trace (cycle + 1)).rSyncRst =
    ((trace cycle).rSyncRstDly ||
      ((trace cycle).rSyncRstChain.getLsbD 1 && (trace cycle).rSyncRst)) := by
  rw [follows, step, syncRst_eq]

/-- The pipe repeats the synchronizer after four cycles. -/
theorem rSyncRstChain_delayed (cycle : Nat) :
    (trace (cycle + 4)).rSyncRstChain.getLsbD 1 =
      ResetSynchronizer.resetOut (inputs cycle) (trace cycle).synchronizer := by
  rw [rSyncRstChain_succ follows, intChain_succ follows _ Nat.one_lt_two,
    intChain_succ follows _ Nat.zero_lt_two, intChain_zero follows]

theorem rSyncRst_delayed (cycle : Nat) : (trace (cycle + 6)).rSyncRst =
    (ResetSynchronizer.resetOut (inputs cycle) (trace cycle).synchronizer ||
      (ResetSynchronizer.resetOut (inputs (cycle + 1))
        (trace (cycle + 1)).synchronizer && (trace (cycle + 5)).rSyncRst)) := by
  rw [rSyncRst_succ follows, rSyncRstDly_succ follows,
    rSyncRstChain_delayed follows, rSyncRstChain_delayed follows]

/-- The output repeats the synchronizer after six cycles and fills gaps of one
cycle. -/
theorem rSyncRst_iff {cycle : Nat} (after : 3 ≤ cycle) :
    (trace (cycle + 7)).rSyncRst = true ↔
      Recent inputs (cycle + 1) ∨
        (Recent inputs (cycle + 2) ∧ Recent inputs cycle) := by
  have recent {later : Nat} (reached : 3 ≤ later) :
      ResetSynchronizer.resetOut (inputs later)
          (trace later).synchronizer = true ↔ Recent inputs later :=
    ResetSynchronizer.resetOut_iff (synchronizer_follows follows) reached
  rw [rSyncRst_delayed follows, rSyncRst_delayed follows]
  simp only [Bool.or_eq_true, Bool.and_eq_true, recent after,
    recent (Nat.le_succ_of_le after),
    recent (Nat.le_succ_of_le (Nat.le_succ_of_le after))]
  tauto

theorem rSyncRst_of_falls (powerOn : PowerOn (trace 0)) {held : Nat}
    (positive : 0 < held)
    (falls : ∀ cycle, inputs cycle = decide (cycle < held)) (cycle : Nat) :
    (trace cycle).rSyncRst = decide (cycle < held + 9) := by
  have output := ResetSynchronizer.resetOut_of_falls
    (synchronizer_follows follows) positive falls
  have bit (stage : Nat) (inside : stage < 3) :
      (trace 0).intChain.getLsbD stage = true := by
    rw [powerOn.intChain]
    obtain rfl | rfl | rfl : stage = 0 ∨ stage = 1 ∨ stage = 2 := by omega
    · rfl
    · rfl
    · rfl
  have stage0 : ∀ cycle, (trace cycle).intChain.getLsbD 0 =
      decide (cycle < held + 4) :=
    falls_succ output (bit 0 (by omega)) (intChain_zero follows)
  have stage1 : ∀ cycle, (trace cycle).intChain.getLsbD 1 =
      decide (cycle < held + 5) :=
    falls_succ stage0 (bit 1 (by omega)) fun cycle =>
      intChain_succ follows cycle Nat.zero_lt_two
  have stage2 : ∀ cycle, (trace cycle).intChain.getLsbD 2 =
      decide (cycle < held + 6) :=
    falls_succ stage1 (bit 2 (by omega)) fun cycle =>
      intChain_succ follows cycle Nat.one_lt_two
  have chain : ∀ cycle, (trace cycle).rSyncRstChain.getLsbD 1 =
      decide (cycle < held + 7) :=
    falls_succ stage2 (by rw [powerOn.rSyncRstChain]; rfl)
      (rSyncRstChain_succ follows)
  have delayed : ∀ cycle, (trace cycle).rSyncRstDly =
      decide (cycle < held + 8) :=
    falls_succ chain powerOn.rSyncRstDly (rSyncRstDly_succ follows)
  -- the pipe is high whenever the newer of its two values is
  have output : ∀ cycle, (trace cycle).rSyncRst = decide (cycle < held + 9) :=
    falls_succ delayed powerOn.rSyncRst fun cycle => by
      rw [rSyncRst_succ follows, delayed, chain]
      by_cases newer : cycle < held + 7
      · have older : cycle < held + 8 := by omega
        simp [older]
      · simp [newer]
  exact output cycle

end ResetController

namespace Resets

/-- The button in each cycle, and everything that resets the processor. -/
def pressed (inputs : Nat → Input) (cycle : Nat) : Bool :=
  (inputs cycle).pressed

def merged (inputs : Nat → Input) (cycle : Nat) : Bool :=
  (inputs cycle).merged

section Runs

variable {inputs : Nat → Input} {trace : Nat → State}
  (follows : Follows step inputs trace)
include follows

theorem rstController001_follows :
    Follows ResetSynchronizer.step (pressed inputs) fun cycle =>
      (trace cycle).rstController001 :=
  follows.component State.rstController001 (fun input _ => input.pressed)
    fun _ _ => rfl

theorem rstController_follows :
    Follows ResetController.step (merged inputs) fun cycle =>
      (trace cycle).rstController :=
  follows.component State.rstController (fun input _ => input.merged)
    fun _ _ => rfl

theorem slaveReset_iff {cycle : Nat} (after : 3 ≤ cycle) :
    slaveReset (inputs cycle) (trace cycle) = true ↔
      Recent (pressed inputs) cycle :=
  ResetSynchronizer.resetOut_iff (rstController001_follows follows) after

theorem masterReset_iff {cycle : Nat} (after : 3 ≤ cycle) :
    masterReset (trace (cycle + 7)) = true ↔
      Recent (merged inputs) (cycle + 1) ∨
        (Recent (merged inputs) (cycle + 2) ∧
          Recent (merged inputs) cycle) :=
  ResetController.rSyncRst_iff (rstController_follows follows) after

end Runs

/-- The button is pressed for `count` cycles, with no other reset for some
time before and after. -/
structure Press (inputs : Nat → Input) (first count : Nat) : Prop where
  positive : 0 < count
  settled : 10 ≤ first
  button : ∀ cycle, first ≤ cycle + 10 → cycle ≤ first + count + 10 →
    ((inputs cycle).pressed = true ↔ first ≤ cycle ∧ cycle < first + count)
  quiet : ∀ cycle, first ≤ cycle + 10 → cycle ≤ first + count + 10 →
    (inputs cycle).debugReset = false

/-- A press shows for three more cycles. -/
theorem Press.recent_iff {inputs : Nat → Input} {first count : Nat}
    (press : Press inputs first count) {cycle : Nat}
    (after : first ≤ cycle + 7) (before : cycle ≤ first + count + 10) :
    (Recent (pressed inputs) cycle ↔
        first ≤ cycle ∧ cycle < first + count + 3) ∧
      (Recent (merged inputs) cycle ↔
        first ≤ cycle ∧ cycle < first + count + 3) := by
  have positive := press.positive
  have same (earlier : Nat) (reached : first ≤ earlier + 10)
      (upTo : earlier ≤ first + count + 10) :
      merged inputs earlier = pressed inputs earlier := by
    rw [merged, Input.merged, press.quiet earlier reached upTo, Bool.or_false]
    rfl
  have recent : Recent (pressed inputs) cycle ↔
      first ≤ cycle ∧ cycle < first + count + 3 := by
    constructor
    · rintro ⟨earlier, upTo, reached, high⟩
      have inside := (press.button earlier (by omega) (by omega)).mp high
      omega
    · rintro ⟨reached, upTo⟩
      refine ⟨min cycle (first + count - 1), by omega, by omega, ?_⟩
      exact (press.button _ (by omega) (by omega)).mpr (by omega)
  refine ⟨recent, ?_⟩
  rw [← recent]
  constructor
  · rintro ⟨earlier, upTo, reached, high⟩
    exact ⟨earlier, upTo, reached, same earlier (by omega) (by omega) ▸ high⟩
  · rintro ⟨earlier, upTo, reached, high⟩
    exact ⟨earlier, upTo, reached,
      (same earlier (by omega) (by omega)).symm ▸ high⟩

/-- In the time around a press of `count` cycles the bridge is in reset from
the press on until three cycles after it, and the processor six cycles later;
both are in reset at once only if the press takes four cycles. -/
theorem press_overlaps_iff (initial : State) (inputs : Nat → Input)
    (first count : Nat) (press : Press inputs first count) :
    (∀ cycle, first ≤ cycle → cycle ≤ first + count + 10 →
      (slaveReset (inputs cycle) (run step inputs initial cycle) = true ↔
          cycle < first + count + 3) ∧
        (masterReset (run step inputs initial cycle) = true ↔
          first + 6 ≤ cycle ∧ cycle < first + count + 9)) ∧
      ((∃ cycle, first ≤ cycle ∧ cycle ≤ first + count + 10 ∧
          slaveReset (inputs cycle) (run step inputs initial cycle) = true ∧
          masterReset (run step inputs initial cycle) = true) ↔
        4 ≤ count) := by
  have follows := run_follows step inputs initial
  have settled := press.settled
  have windows (cycle : Nat) (after : first ≤ cycle)
      (before : cycle ≤ first + count + 10) :
      (slaveReset (inputs cycle) (run step inputs initial cycle) = true ↔
          cycle < first + count + 3) ∧
        (masterReset (run step inputs initial cycle) = true ↔
          first + 6 ≤ cycle ∧ cycle < first + count + 9) := by
    constructor
    · rw [slaveReset_iff follows (by omega),
        (press.recent_iff (by omega) before).1]
      omega
    · obtain ⟨start, rfl⟩ : ∃ start, cycle = start + 7 :=
        ⟨cycle - 7, by omega⟩
      rw [masterReset_iff follows (by omega),
        (press.recent_iff (by omega : first ≤ start + 1 + 7) (by omega)).2,
        (press.recent_iff (by omega : first ≤ start + 2 + 7) (by omega)).2,
        (press.recent_iff (by omega : first ≤ start + 7) (by omega)).2]
      omega
  refine ⟨windows, ?_⟩
  constructor
  · rintro ⟨cycle, after, before, slave, master⟩
    have bridge := (windows cycle after before).1.mp slave
    have processor := (windows cycle after before).2.mp master
    omega
  · intro long
    refine ⟨first + 6, by omega, by omega, ?_, ?_⟩
    · exact (windows _ (by omega) (by omega)).1.mpr (by omega)
    · exact (windows _ (by omega) (by omega)).2.mpr (by omega)

/-- The contents of all registers in reset. -/
def inReset : State where
  rstController := ⟨⟨0b11, true⟩, 0b111, 0b11, true, true, true⟩
  rstController001 := ⟨0b11, true⟩

/-- A press of a single cycle. -/
def tap (cycle : Nat) : Input where
  resetResetN := cycle != 20
  debugReset := false

/-- After a press of one cycle the processor is reset when the bridge is
running again. -/
theorem press_overlaps_iff_tap :
    ¬ ∃ cycle, 20 ≤ cycle ∧ cycle ≤ 31 ∧
      slaveReset (tap cycle) (run step tap inReset cycle) = true ∧
      masterReset (run step tap inReset cycle) = true := by
  have press : Press tap 20 1 := by
    refine ⟨Nat.one_pos, by decide, fun cycle _ _ => ?_, fun _ _ _ => rfl⟩
    rw [tap, Input.pressed, bne, Bool.not_not, beq_iff_eq]
    omega
  rw [(press_overlaps_iff inReset tap 20 1 press).2]
  decide

/-- The button is held from power-on for some cycles and not pressed again, and
the debug module makes no request. -/
structure PowerUp (inputs : Nat → Input) (held : Nat) : Prop where
  positive : 0 < held
  button : ∀ cycle, (inputs cycle).pressed = decide (cycle < held)
  quiet : ∀ cycle, (inputs cycle).debugReset = false

/-- From power-on the controllers make a session of the network: the bridge
leaves its reset three cycles after the button, the processor six cycles
later. -/
theorem session_of_powerUp {Point : Type*}
    (program : BusMaster.Program Point) (entry : Point) (inputs : Nat → Input)
    (held : Nat) (powerUp : PowerUp inputs held) (initial : State)
    (powerOn : initial.rstController.PowerOn)
    (ticks : Nat → Interconnect.Tick)
    (slave : ∀ cycle, (ticks cycle).slaveReset =
      slaveReset (inputs cycle) (run step inputs initial cycle))
    (master : ∀ cycle, (ticks cycle).masterReset =
      masterReset (run step inputs initial cycle))
    (network : Interconnect.State Point) (drained : network.bridge.Drained) :
    Interconnect.Session program entry (held + 3) (held + 9) ticks
      (run (Interconnect.step program entry) ticks network) := by
  have follows := run_follows step inputs initial
  have combined (cycle : Nat) : merged inputs cycle = decide (cycle < held) := by
    rw [merged, Input.merged, powerUp.quiet, Bool.or_false, powerUp.button]
  have slaves (cycle : Nat) : (ticks cycle).slaveReset =
      decide (cycle < held + 3) := by
    rw [slave]
    exact ResetSynchronizer.resetOut_of_falls
      (rstController001_follows follows) powerUp.positive powerUp.button cycle
  have masters (cycle : Nat) : (ticks cycle).masterReset =
      decide (cycle < held + 9) := by
    rw [master]
    exact ResetController.rSyncRst_of_falls (rstController_follows follows)
      powerOn powerUp.positive combined cycle
  refine ⟨run_follows _ _ _, drained, ?_, ?_, ?_, ?_, by omega, by omega⟩
  · exact fun cycle before => by rw [slaves, decide_eq_true before]
  · exact fun cycle after => by rw [slaves, decide_eq_false (by omega)]
  · exact fun cycle before => by rw [masters, decide_eq_true before]
  · exact fun cycle after => by rw [masters, decide_eq_false (by omega)]

/-- The button is held in the first cycle. -/
def start (cycle : Nat) : Input where
  resetResetN := cycle != 0
  debugReset := false

/-- The processor of the busy run behind the controllers. -/
def startTicks (cycle : Nat) : Interconnect.Tick :=
  { Interconnect.busyTicks cycle with
    slaveReset := slaveReset (start cycle) (run step start inReset cycle)
    masterReset := masterReset (run step start inReset cycle) }

theorem session_of_powerUp_start :
    Interconnect.Session (Main.program Main.constants) (Main.entry 0 0) 4 10
      startTicks (run (Interconnect.step (Main.program Main.constants)
        (Main.entry 0 0)) startTicks
        (Interconnect.zeroState (Main.entry 0 0))) := by
  have powerUp : PowerUp start 1 := by
    refine ⟨Nat.one_pos, fun cycle => ?_, fun _ => rfl⟩
    rw [start, Input.pressed, bne, Bool.not_not, Bool.eq_iff_iff, beq_iff_eq,
      decide_eq_true_eq, Nat.lt_one_iff]
  exact session_of_powerUp _ _ start 1 powerUp inReset ⟨rfl, rfl, rfl, rfl⟩
    startTicks (fun _ => rfl) (fun _ => rfl)
    (Interconnect.zeroState (Main.entry 0 0))
    Des3Avalon.drained_default

end Resets

end TripleDes

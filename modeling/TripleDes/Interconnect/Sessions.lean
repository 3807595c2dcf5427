import TripleDes.Interconnect.Refinement
import TripleDes.Printing

/-!
# Programs over the network

A run of the whole system begins with both resets high; the processor's side
leaves its reset last.  From then on each access of the program takes the same
number of cycles, and the bridge cannot tell the run from one on a bus.
-/

namespace TripleDes

open Clocked BusMaster

/-- `main` looks at the words that it reads only. -/
theorem Main.blind (constants : Main.Constants) :
    (Main.program constants).Blind := by
  rintro ⟨line, validOut, odata, handed⟩ write first second
  cases line with
  | status | odataLo | odataHi =>
      simp [Main.program, Main.access, BusMaster.Access.isWrite] at write
  | _ => rfl

namespace Interconnect

variable {Point : Type*}

/-- A run that begins with both resets in a moment when no block is in flight
in the bridge. -/
structure Session (program : Program Point) (entry : Point)
    (slaveHeld masterHeld : Nat) (ticks : Nat → Tick)
    (trace : Nat → State Point) : Prop where
  follows : Follows (step program entry) ticks trace
  drained : (trace 0).bridge.Drained
  slaveHigh : ∀ cycle < slaveHeld, (ticks cycle).slaveReset = true
  slaveLow : ∀ cycle, slaveHeld ≤ cycle → (ticks cycle).slaveReset = false
  masterHigh : ∀ cycle < masterHeld, (ticks cycle).masterReset = true
  masterLow : ∀ cycle, masterHeld ≤ cycle → (ticks cycle).masterReset = false
  positive : 1 < slaveHeld
  ordered : slaveHeld ≤ masterHeld

/-- What happens on the bus from the first cycle on after the resets have
begun. -/
def busTicks (program : Program Point) (ticks : Nat → Tick)
    (trace : Nat → State Point) (cycle : Nat) : BusMaster.Tick :=
  busTick program (ticks (cycle + 1)) (trace (cycle + 1))

def busTrace (program : Program Point) (trace : Nat → State Point)
    (cycle : Nat) : BusMaster.State Point :=
  abstracted program (trace (cycle + 1))

/-- The ports of the bridge from the same cycle on. -/
def bridgeInputs (program : Program Point) (ticks : Nat → Tick)
    (trace : Nat → State Point) (cycle : Nat) : Des3Avalon.Input :=
  bridgeInput program (ticks (cycle + 1)) (trace (cycle + 1))

section Resets

variable (program : Program Point) (entry : Point) {tick : Tick}
  (state : State Point)

theorem resting_of_resets (master : tick.masterReset = true)
    (slave : tick.slaveReset = true) :
    Resting (step program entry tick state) where
  masterTranslator := by
    simp [step, MasterTranslator.step, masterTranslatorInput, master]
  pending := by
    funext other
    simp [step, pendingNext, master]
  side :=
    { waitLatencyCounter := by
        simp [step, SlaveTranslator.step, slaveTranslatorInput, slave]
      readLatencyShiftReg := by
        simp [step, SlaveTranslator.step, slaveTranslatorInput, slave]
      rspFifo := ScFifo.holds_of_reset slave state.rspFifo
      single := Nat.zero_le 1 }

theorem step_of_masterReset (master : tick.masterReset = true) :
    (step program entry tick state).request = none ∧
      (step program entry tick state).point = entry := by
  simp [step, requestNext, pointNext, master]

end Resets

namespace Session

variable {program : Program Point} {entry : Point}
  {slaveHeld masterHeld : Nat} {ticks : Nat → Tick}
  {trace : Nat → State Point}
  (session : Session program entry slaveHeld masterHeld ticks trace)
include session

/-- In the reset of the processor nothing is on its way. -/
theorem held {cycle : Nat} (before : cycle < masterHeld) :
    (trace (cycle + 1)).request = none ∧ (trace (cycle + 1)).point = entry ∧
      Resting (trace (cycle + 1)) := by
  have master := session.masterHigh cycle before
  induction cycle with
  | zero =>
      have slave := session.slaveHigh 0 (by have := session.positive; omega)
      rw [session.follows]
      obtain ⟨free, point⟩ := step_of_masterReset program entry (trace 0) master
      exact ⟨free, point, resting_of_resets program entry (trace 0) master slave⟩
  | succ cycle ih =>
      obtain ⟨free, -, resting⟩ :=
        ih (by omega) (session.masterHigh cycle (by omega))
      rw [session.follows (cycle + 1)]
      obtain ⟨free', point⟩ :=
        step_of_masterReset program entry (trace (cycle + 1)) master
      refine ⟨free', point, ?_⟩
      cases slave : (ticks (cycle + 1)).slaveReset with
      | true => exact resting_of_resets program entry _ master slave
      | false => exact resting.free_step entry program free slave

theorem low {cycle : Nat} (after : masterHeld ≤ cycle) :
    (ticks cycle).Low where
  masterReset := session.masterLow cycle after
  slaveReset := session.slaveLow cycle (Nat.le_trans session.ordered after)

/-- Nothing is on its way when the processor leaves its reset. -/
theorem starts :
    (trace masterHeld).request = none ∧ Resting (trace masterHeld) := by
  have positive := session.positive
  have ordered := session.ordered
  obtain ⟨last, rfl⟩ : ∃ last, masterHeld = last + 1 :=
    ⟨masterHeld - 1, by omega⟩
  obtain ⟨free, -, resting⟩ := session.held (Nat.lt_succ_self last)
  exact ⟨free, resting⟩

/-- Out of reset the network is always in one of its phases. -/
theorem phase {cycle : Nat} (after : masterHeld ≤ cycle) :
    Phase program (trace cycle) := by
  refine session.follows.invariant (Phase program) ?_ ?_ cycle after
  · obtain ⟨free, resting⟩ := session.starts
    exact .free free resting
  · exact fun cycle reached phase => phase.step entry (session.low reached)

theorem refines (blind : program.Blind) (cycle : Nat) :
    Refines program entry (ticks (cycle + 1)) (trace (cycle + 1)) := by
  rcases Nat.lt_or_ge (cycle + 1) masterHeld with before | after
  · obtain ⟨free, point, resting⟩ := session.held (Nat.lt_of_succ_lt before)
    obtain ⟨-, point', resting'⟩ := session.held before
    rw [session.follows] at point' resting'
    have quiet := slaveValid_of_no_command program (ticks (cycle + 1))
      (commandValid_of_none program _ free) 3
    refine refines_of_idle entry (resting.side.m0Write_of_quiet program quiet)
      (performs_of_elsewhere (by simp [free])) ?_
    rw [abstracted_point resting'.not_performed,
      abstracted_point resting.not_performed, point, point']
  · exact (session.phase after).refines entry blind (session.low after)

end Session

/-- The bridge cannot tell the network from a bus. -/
theorem Session.bus {program : Program Point} {entry : Point}
    {slaveHeld masterHeld : Nat} {ticks : Nat → Tick}
    {trace : Nat → State Point}
    (session : Session program entry slaveHeld masterHeld ticks trace)
    (blind : program.Blind) :
    BusMaster.Session program entry (slaveHeld - 1)
        (busTicks program ticks trace) (busTrace program trace) ∧
      BusMaster.inputs program (busTicks program ticks trace)
        (busTrace program trace) = bridgeInputs program ticks trace := by
  have positive := session.positive
  obtain ⟨-, point, resting⟩ :=
    session.held (Nat.lt_of_lt_of_le (Nat.zero_lt_of_lt positive) session.ordered)
  refine ⟨⟨?_, ?_, ?_, by omega, ?_, ?_⟩, ?_⟩
  · intro cycle
    rw [busTrace, session.follows]
    exact (session.refines blind cycle).step
  · rw [busTrace, abstracted_point resting.not_performed, point]
  · have high : (bridgeInput program (ticks 0) (trace 0)).reset = true :=
      session.slaveHigh 0 (by omega)
    rw [busTrace, session.follows]
    exact (Des3Avalon.released_step_of_reset high session.drained.uDes3).drained
  · exact fun cycle before => session.slaveHigh (cycle + 1) (by omega)
  · exact fun cycle after => session.slaveLow (cycle + 1) (by omega)
  · funext cycle
    exact (session.refines blind cycle).input

/-- A processor that does nothing but the accesses of its program. -/
def busyTicks (cycle : Nat) : Tick where
  masterReset := decide (cycle < 3)
  slaveReset := decide (cycle < 2)
  begins := some .access
  idleAddress := 0
  idleWritedata := 0
  ready _ := true
  responds _ := true
  readdata _ := 0

/-- All registers zero. -/
def zeroState (point : Point) : State Point where
  point := point
  request := none
  masterTranslator := ⟨false, false, false⟩
  masterAgent := ⟨false⟩
  slaveTranslator := ⟨0, false, 0, false⟩
  rspFifo := ⟨fun _ => 0, 0⟩
  pending _ := false
  bridge := default

/-- The loop with the values of `main.c` in this run. -/
def busyRun : Nat → State Main.Point :=
  run (step (Main.program Main.constants) (Main.entry 0 0)) busyTicks
    (zeroState (Main.entry 0 0))

theorem session_of_counts {program : Program Point} {entry : Point}
    {slaveHeld masterHeld : Nat} {ticks : Nat → Tick} {initial : State Point}
    (drained : initial.bridge.Drained)
    (slave : ∀ cycle, (ticks cycle).slaveReset = decide (cycle < slaveHeld))
    (master : ∀ cycle, (ticks cycle).masterReset = decide (cycle < masterHeld))
    (positive : 1 < slaveHeld) (ordered : slaveHeld ≤ masterHeld) :
    Session program entry slaveHeld masterHeld ticks
      (run (step program entry) ticks initial) where
  follows := run_follows _ _ _
  drained := drained
  slaveHigh cycle before := (slave cycle).trans (decide_eq_true before)
  slaveLow cycle after :=
    (slave cycle).trans (decide_eq_false (Nat.not_lt.mpr after))
  masterHigh cycle before := (master cycle).trans (decide_eq_true before)
  masterLow cycle after :=
    (master cycle).trans (decide_eq_false (Nat.not_lt.mpr after))
  positive := positive
  ordered := ordered

theorem session_busyRun : Session (Main.program Main.constants)
    (Main.entry 0 0) 2 3 busyTicks busyRun :=
  session_of_counts Des3Avalon.drained_default (fun _ => rfl) (fun _ => rfl)
    Nat.one_lt_two (Nat.le_succ 2)

/-- The network is a bus: whatever the processor does besides the program, and
however long the other slaves take, the program and the bridge go through a
session on the bus, with the ports of the bridge as they are. -/
theorem refines_bus (program : Program Point) (blind : program.Blind)
    (entry : Point) (slaveHeld masterHeld : Nat) (ticks : Nat → Tick)
    (trace : Nat → State Point)
    (session : Session program entry slaveHeld masterHeld ticks trace) :
    BusMaster.Session program entry (slaveHeld - 1)
        (busTicks program ticks trace) (busTrace program trace) ∧
      BusMaster.inputs program (busTicks program ticks trace)
        (busTrace program trace) = bridgeInputs program ticks trace :=
  session.bus blind

theorem refines_bus_busyRun :
    BusMaster.Session (Main.program Main.constants) (Main.entry 0 0) 1
        (busTicks (Main.program Main.constants) busyTicks busyRun)
        (busTrace (Main.program Main.constants) busyRun) ∧
      BusMaster.inputs (Main.program Main.constants)
        (busTicks (Main.program Main.constants) busyTicks busyRun)
        (busTrace (Main.program Main.constants) busyRun) =
        bridgeInputs (Main.program Main.constants) busyTicks busyRun :=
  refines_bus _ (Main.blind _) _ 2 3 _ _ session_busyRun

/-- When the data master is free, the next cycle finds the network at rest. -/
theorem Phase.resting_step {program : Program Point} {tick : Tick}
    {state : State Point} (entry : Point) (phase : Phase program state)
    (low : tick.Low)
    (free : state.request = none ∨ waitrequest program tick state = false) :
    Resting (Interconnect.step program entry tick state) := by
  cases phase with
  | free request resting => exact resting.free_step entry program request low.slaveReset
  | begun request released resting =>
      have waits : waitrequest program tick state = true := by
        cases kind : (program.access state.point).isWrite with
        | false => exact (resting.read_step entry request released kind low).1
        | true => exact (resting.write_step entry request released kind low).1
      simp [request, waits] at free
  | waiting waiting =>
      simp [waiting.requested, (waiting.advance entry low).1] at free
  | answering answering => exact (answering.advance entry low).2.2.2
  | written written => exact (written.advance entry low).2.2
  | away away =>
      obtain ⟨transfer, requested⟩ := away.requested
      rcases away.advance entry program low with
        ⟨-, resting⟩ | ⟨waits, -⟩
      · exact resting
      · simp [requested, waits] at free
  | awayRead awayRead =>
      obtain ⟨transfer, requested, -⟩ := awayRead.requested
      rcases awayRead.advance entry program low with
        ⟨-, resting⟩ | ⟨waits, -⟩
      · exact resting
      · simp [requested, waits] at free

/-- What a program sees of an access, and the bridge of it: a write takes two
cycles and writes in the first, a read takes three and returns the word of the
second. -/
def Timed (program : Program Point) (ticks : Nat → Tick)
    (trace : Nat → State Point) (first : Nat) : Prop :=
  match program.access (trace first).point with
  | .write register writedata =>
      bridgeInput program (ticks first) (trace first) =
          ⟨false, register, true, writedata⟩ ∧
        (bridgeInput program (ticks (first + 1)) (trace (first + 1))).avsWrite =
          false ∧
        waitrequest program (ticks first) (trace first) = true ∧
        waitrequest program (ticks (first + 1)) (trace (first + 1)) = false
  | .read register =>
      (∀ cycle, first ≤ cycle → cycle ≤ first + 2 →
          (bridgeInput program (ticks cycle) (trace cycle)).avsWrite = false) ∧
        waitrequest program (ticks first) (trace first) = true ∧
        waitrequest program (ticks (first + 1)) (trace (first + 1)) = true ∧
        waitrequest program (ticks (first + 2)) (trace (first + 2)) = false ∧
        (rpData (ticks (first + 2)) (trace (first + 2))).data =
          Des3Avalon.avsReaddata register (trace (first + 1)).bridge

theorem avsWrite_of_idle {program : Program Point} {tick : Tick}
    {state : State Point} (idle : m0Write program tick state = false) :
    (bridgeInput program tick state).avsWrite = false := by
  rw [bridgeInput, SlaveTranslator.avWrite, idle, Bool.false_and]

theorem Side.avsWrite_of_no_command {program : Program Point} {tick : Tick}
    {state : State Point} {counter : BitVec 2} {contents : List Awaited}
    (side : Side state counter contents)
    (quiet : commandValid program tick state = false) :
    (bridgeInput program tick state).avsWrite = false :=
  avsWrite_of_idle (side.m0Write_of_quiet program
    (slaveValid_of_no_command program tick quiet 3))

section Timing

variable {program : Program Point} {entry : Point}
  {slaveHeld masterHeld : Nat} {ticks : Nat → Tick} {trace : Nat → State Point}
  (session : Session program entry slaveHeld masterHeld ticks trace)
include session

/-- An access of the program begins in a network at rest. -/
theorem Session.begins_access {cycle : Nat} (after : masterHeld ≤ cycle)
    (free : (trace cycle).request = none ∨
      waitrequest program (ticks cycle) (trace cycle) = false)
    (begins : (ticks cycle).begins = some .access) :
    Resting (trace (cycle + 1)) ∧ Released (trace (cycle + 1)) ∧
      (trace (cycle + 1)).request = some .access := by
  have low := session.low after
  rw [session.follows]
  refine ⟨(session.phase after).resting_step entry low free,
    released_step entry program _ low, ?_⟩
  rw [← begins]
  rcases free with none | ends
  · simp [step, requestNext, low.masterReset, none]
  · exact requestNext_of_end entry low ends

variable {first : Nat} (after : masterHeld ≤ first)
  (resting : Resting (trace first)) (released : Released (trace first))
  (requested : (trace first).request = some .access)
include after resting released requested

theorem Session.write_timed {register : BitVec 4} {writedata : BitVec 32}
    (access : program.access (trace first).point = .write register writedata) :
    bridgeInput program (ticks first) (trace first) =
        ⟨false, register, true, writedata⟩ ∧
      (bridgeInput program (ticks (first + 1)) (trace (first + 1))).avsWrite =
        false ∧
      waitrequest program (ticks first) (trace first) = true ∧
      waitrequest program (ticks (first + 1)) (trace (first + 1)) = false := by
  have low := session.low after
  have lowNext : (ticks (first + 1)).Low := session.low (by omega)
  have kind : (program.access (trace first).point).isWrite = true := by
    rw [access]
    rfl
  obtain ⟨waits, atBridge, written⟩ :=
    resting.write_step entry requested released kind low
  rw [← session.follows] at written
  obtain ⟨ends, quiet, -⟩ := written.advance entry lowNext
  refine ⟨?_, written.side.avsWrite_of_no_command quiet, waits, ends⟩
  rw [atBridge.bridgeInput_of_taken resting.side fun _ => rfl, access,
    Access.signals, busTick, low.slaveReset]

theorem Session.read_timed {register : BitVec 4}
    (access : program.access (trace first).point = .read register) :
    (∀ cycle, first ≤ cycle → cycle ≤ first + 2 →
        (bridgeInput program (ticks cycle) (trace cycle)).avsWrite = false) ∧
      waitrequest program (ticks first) (trace first) = true ∧
      waitrequest program (ticks (first + 1)) (trace (first + 1)) = true ∧
      waitrequest program (ticks (first + 2)) (trace (first + 2)) = false ∧
      (rpData (ticks (first + 2)) (trace (first + 2))).data =
        Des3Avalon.avsReaddata register (trace (first + 1)).bridge := by
  have low₁ := session.low after
  have low₂ : (ticks (first + 1)).Low := session.low (by omega)
  have low₃ : (ticks (first + 2)).Low := session.low (by omega)
  have kind : (program.access (trace first).point).isWrite = false := by
    rw [access]
    rfl
  -- the wait cycle, the cycle in which the word is taken, the response
  obtain ⟨waits₁, atBridge₁, waiting⟩ :=
    resting.read_step entry requested released kind low₁
  have samePoint := pointNext_of_wait entry low₁ waits₁
  rw [← session.follows] at waiting samePoint
  obtain ⟨waits₂, atBridge₂, answering⟩ := waiting.advance entry low₂
  rw [← session.follows] at answering
  obtain ⟨ends, quiet, word, -⟩ := answering.advance entry low₃
  obtain ⟨awaited, -, side⟩ := answering.side
  refine ⟨?_, waits₁, waits₂, ends, ?_⟩
  · intro later reached before
    obtain rfl | rfl | rfl : later = first ∨ later = first + 1 ∨
        later = first + 2 := by omega
    · exact avsWrite_of_idle (by rw [atBridge₁.m0Write_eq resting.side, kind])
    · exact avsWrite_of_idle
        (by rw [atBridge₂.m0Write_eq waiting.side, samePoint, kind])
    · exact side.avsWrite_of_no_command quiet
  · have address := atBridge₂.bridgeInput_eq.1
    rw [samePoint, access] at address
    rw [word, session.follows (first + 1), avReaddataPre_step _ _ _ low₂,
      address]
    rfl

end Timing

/-- The timing of an access does not depend on anything else: from the cycle on
in which the processor begins with it, a write takes two cycles and a read
three. -/
theorem access_timed (program : Program Point) (entry : Point)
    (slaveHeld masterHeld : Nat) (ticks : Nat → Tick)
    (trace : Nat → State Point)
    (session : Session program entry slaveHeld masterHeld ticks trace)
    (cycle : Nat) (after : masterHeld ≤ cycle)
    (free : (trace cycle).request = none ∨
      waitrequest program (ticks cycle) (trace cycle) = false)
    (begins : (ticks cycle).begins = some .access) :
    Timed program ticks trace (cycle + 1) := by
  obtain ⟨resting, released, requested⟩ := session.begins_access after free begins
  have afterNext : masterHeld ≤ cycle + 1 := Nat.le_succ_of_le after
  rw [Timed]
  cases access : program.access (trace (cycle + 1)).point with
  | write register writedata =>
      exact session.write_timed afterNext resting released requested access
  | read register =>
      exact session.read_timed afterNext resting released requested access

/-- A program that writes a word and reads it again and again. -/
def readBack : Program Bool where
  access written := if written then .read 2 else .write 2 0x89ABCDEF
  next _ _ := true

def readBackRun : Nat → State Bool :=
  run (step readBack false) busyTicks (zeroState false)

theorem session_readBackRun :
    Session readBack false 2 3 busyTicks readBackRun :=
  session_of_counts Des3Avalon.drained_default (fun _ => rfl) (fun _ => rfl)
    Nat.one_lt_two (Nat.le_succ 2)

/-- The write takes cycles four and five, the first read the next three. -/
theorem access_timed_readBack :
    (bridgeInput readBack (busyTicks 4) (readBackRun 4) =
        ⟨false, 2, true, 0x89ABCDEF⟩ ∧
      waitrequest readBack (busyTicks 4) (readBackRun 4) = true ∧
      waitrequest readBack (busyTicks 5) (readBackRun 5) = false) ∧
    waitrequest readBack (busyTicks 6) (readBackRun 6) = true ∧
      waitrequest readBack (busyTicks 7) (readBackRun 7) = true ∧
      waitrequest readBack (busyTicks 8) (readBackRun 8) = false ∧
      (rpData (busyTicks 8) (readBackRun 8)).data = 0x89ABCDEF := by
  obtain ⟨written, -, waits, ends⟩ := access_timed _ _ 2 3 _ _
    session_readBackRun 3 (Nat.le_refl 3) (.inl rfl) rfl
  obtain ⟨-, first, second, last, word⟩ := access_timed _ _ 2 3 _ _
    session_readBackRun 5 (by decide) (.inr ends) rfl
  exact ⟨⟨written, waits, ends⟩, first, second, last,
    word.trans (by decide +kernel)⟩

/-- `main` over the network: whatever the processor does between the accesses
of the loop, and whatever the other slaves do, the values loaded into the
result register are the enciphered blocks by turns, one for each start. -/
theorem loads_over_network (constants : Main.Constants)
    (validOut : BitVec 32) (odata : BitVec 64) (slaveHeld masterHeld : Nat)
    (ticks : Nat → Tick) (trace : Nat → State Main.Point)
    (session : Session (Main.program constants) (Main.entry validOut odata)
      slaveHeld masterHeld ticks trace) (cycle : Nat) :
    Events.before (Des3Avalon.loaded
        (bridgeInputs (Main.program constants) ticks trace)
        fun cycle => (trace (cycle + 1)).bridge) (cycle + 58) =
      Main.alternating (constants.encipher constants.idata1)
        (constants.encipher constants.idata2)
        (Nat.count (fun earlier =>
          (bridgeInputs (Main.program constants) ticks trace earlier).starts =
            true) cycle) := by
  obtain ⟨bus, inputs⟩ := session.bus (Main.blind constants)
  rw [← inputs]
  exact (bus.bridge.before_loaded bus.bridge_follows rfl
    (fun _ before => bus.starts_of_held before) cycle).trans
      (Main.before_submitted bus cycle)

theorem loads_over_network_busyRun :
    Events.before (Des3Avalon.loaded
        (bridgeInputs (Main.program Main.constants) busyTicks busyRun)
        fun cycle => (busyRun (cycle + 1)).bridge) 88 =
      [0xF2AFD84EE809E2B5, 0x5F66AF24E02A6201] := by
  have twoStarts : Nat.count (fun cycle =>
      (bridgeInputs (Main.program Main.constants) busyTicks busyRun
        cycle).starts = true) 30 = 2 := by
    decide +kernel
  have turns (first second : BitVec 64) :
      Main.alternating first second 2 = [first, second] :=
    rfl
  have log := loads_over_network _ _ _ 2 3 _ _ session_busyRun 30
  rwa [twoStarts, turns, Main.encipher_constants.1,
    Main.encipher_constants.2] at log

/-- What the program has handed to `printf` is what it has handed to it on the
bus, as far as it has come. -/
theorem handed_abstracted (constants : Main.Constants)
    (state : State Main.Point) {value : BitVec 64}
    (handed : value ∈ state.point.handed) :
    value ∈ (abstracted (Main.program constants) state).point.handed := by
  rw [abstracted]
  dsimp only
  split
  · exact Main.handed_next handed _
  · exact handed

/-- With its own values `main` never prints a result: in every run over the
network it hands to `printf` the low words of the results behind 32 ones, and
the lines that are printed show these words behind zeros. -/
theorem prints_no_result (validOut : BitVec 32) (odata : BitVec 64)
    (slaveHeld masterHeld : Nat) (ticks : Nat → Tick)
    (trace : Nat → State Main.Point)
    (session : Session (Main.program Main.constants)
      (Main.entry validOut odata) slaveHeld masterHeld ticks trace)
    (cycle : Nat) (value : BitVec 64)
    (handed : value ∈ (trace (cycle + 1)).point.handed)
    (beyond : Nat → BitVec 32) (strings : BitVec 32 → List Char) :
    ((value = 0xFFFFFFFFE809E2B5 ∨ value = 0xFFFFFFFFE02A6201) ∧
        ¬ Main.constants.IsResult value) ∧
      (Main.outputLine beyond strings value =
          "Output: 00000000E809E2B5\n".toList ∨
        Main.outputLine beyond strings value =
          "Output: 00000000E02A6201\n".toList) ∧
      ∀ result, Main.constants.IsResult result →
        Main.outputLine beyond strings value ≠ Main.lineOf result := by
  obtain ⟨bus, -⟩ := session.bus (Main.blind Main.constants)
  have join : Main.constants.IsJoin value := by
    rcases Nat.lt_or_ge cycle (slaveHeld - 1) with before | after
    · have ordered := session.ordered
      rw [(session.held (by omega : cycle < masterHeld)).2.1] at handed
      cases handed
    · exact (Main.honest bus after).handed value
        (handed_abstracted Main.constants _ handed)
  refine ⟨⟨join.spoiled, ?_⟩, join.line beyond strings,
    fun _ => join.line_ne beyond strings⟩
  rw [Main.Constants.IsResult, Main.encipher_constants.1,
    Main.encipher_constants.2]
  rcases join.spoiled with rfl | rfl <;> decide

/-- The busy run has printed one line after 96 cycles. -/
theorem prints_no_result_busyRun :
    (busyRun 96).point.handed.length = 1 ∧
      ∀ value ∈ (busyRun 96).point.handed,
        (value = 0xFFFFFFFFE809E2B5 ∨ value = 0xFFFFFFFFE02A6201) ∧
          (Main.outputLine 0 (fun _ => []) value =
              "Output: 00000000E809E2B5\n".toList ∨
            Main.outputLine 0 (fun _ => []) value =
              "Output: 00000000E02A6201\n".toList) := by
  refine ⟨by decide +kernel, fun value handed => ?_⟩
  obtain ⟨⟨either, -⟩, line, -⟩ := prints_no_result 0 0 2 3 busyTicks busyRun
    session_busyRun 95 value handed 0 fun _ => []
  exact ⟨either, line⟩

end Interconnect

end TripleDes

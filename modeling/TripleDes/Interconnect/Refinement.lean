import TripleDes.Interconnect.Transactions

/-!
# The network as a bus

Seen from the bridge, the processor with its network is a program that makes
one access in a cycle, now and then.  The word that a read takes from the
bridge travels back for one more cycle; the bus of the program hands it over at
once.
-/

namespace TripleDes

open Clocked BusMaster

/-- The program does not look at the read bus after a write. -/
def BusMaster.Program.Blind {Point : Type*} (program : Program Point) : Prop :=
  ∀ point, (program.access point).isWrite = true → ∀ first second,
    program.next point first = program.next point second

namespace Interconnect

variable {Point : Type*}

/-- The access has been made, but not ended. -/
def State.performed (state : State Point) : Bool :=
  match state.request with
  | some .access =>
      state.masterTranslator.readAccepted ||
        state.masterTranslator.writeAccepted
  | _ => false

/-- The bus takes the access of the program in this cycle. -/
def performs (program : Program Point) (tick : Tick) (state : State Point) :
    Bool :=
  match state.request with
  | some .access => !state.performed && !uavWaitrequest program tick state
  | _ => false

/-- What the program and the bridge are on the bus. -/
def abstracted (program : Program Point) (state : State Point) :
    BusMaster.State Point where
  point :=
    if state.performed then
      program.next state.point state.slaveTranslator.avReaddataPre
    else state.point
  bridge := state.bridge

/-- What happens on the bus, with the signals that the bridge really has on its
lines. -/
def busTick (program : Program Point) (tick : Tick) (state : State Point) :
    BusMaster.Tick where
  reset := tick.slaveReset
  accesses := performs program tick state
  idleAddress := (bridgeInput program tick state).avsAddress
  idleWritedata := (bridgeInput program tick state).avsWritedata

/-- How far the request has come. -/
inductive Phase (program : Program Point) (state : State Point) : Prop where
  | free (request : state.request = none) (resting : Resting state)
  | begun (request : state.request = some .access) (released : Released state)
      (resting : Resting state)
  | waiting (waiting : Waiting program state)
  | answering (answering : Answering program state)
  | written (written : Written program state)
  | away (away : Away state)
  | awayRead (awayRead : AwayRead state)

/-- What the processor begins with brings the network from rest into a
phase. -/
theorem Resting.phase {program : Program Point} {state : State Point}
    (resting : Resting state) (released : Released state) :
    Phase program state := by
  cases request : state.request with
  | none => exact .free request resting
  | some request' =>
      cases request' with
      | access => exact .begun request released resting
      | elsewhere transfer =>
          exact .away ⟨⟨transfer, request⟩, released,
            ⟨false, resting.masterTranslator⟩, resting.pending, resting.side⟩

variable {program : Program Point} {tick : Tick} {state : State Point}
  (entry : Point)

theorem Phase.step (phase : Phase program state) (low : tick.Low) :
    Phase program (step program entry tick state) := by
  have released := released_step entry program state low
  cases phase with
  | free request resting =>
      exact (resting.free_step entry program request low.slaveReset).phase released
  | begun request begun resting =>
      cases kind : (program.access state.point).isWrite with
      | false => exact .waiting (resting.read_step entry request begun kind low).2.2
      | true => exact .written (resting.write_step entry request begun kind low).2.2
  | waiting waiting => exact .answering (waiting.advance entry low).2.2
  | answering answering => exact (answering.advance entry low).2.2.2.phase released
  | written written => exact (written.advance entry low).2.2.phase released
  | away away =>
      rcases away.advance entry program low with
        ⟨-, resting⟩ | ⟨-, away | awayRead | written⟩
      · exact resting.phase released
      · exact .away away
      · exact .awayRead awayRead
      · exact .written written
  | awayRead awayRead =>
      rcases awayRead.advance entry program low with
        ⟨-, resting⟩ | ⟨-, awayRead⟩
      · exact resting.phase released
      · exact .awayRead awayRead

/-- Without a write at its translator the bridge sees an idle bus. -/
theorem bridgeInput_of_idle (idle : m0Write program tick state = false) :
    bridgeInput program tick state =
      (busTick program tick state).signals := by
  simp [bridgeInput, busTick, BusMaster.Tick.signals, SlaveTranslator.avWrite,
    idle]

/-- The bridge sees what it would see on the bus, and the step is one of the
bus. -/
structure Refines (program : Program Point) (entry : Point) (tick : Tick)
    (state : State Point) : Prop where
  input : busInput program (busTick program tick state)
    (abstracted program state) = bridgeInput program tick state
  step : abstracted program (step program entry tick state) =
    BusMaster.step program (busTick program tick state)
      (abstracted program state)

/-- The bus is idle in a cycle in which the program makes no access. -/
theorem refines_of_idle (idle : m0Write program tick state = false)
    (quiet : performs program tick state = false)
    (kept : (abstracted program (step program entry tick state)).point =
      (abstracted program state).point) :
    Refines program entry tick state := by
  have inactive : (busTick program tick state).active = false := by
    rw [BusMaster.Tick.active, busTick, quiet, Bool.and_false]
  have input : busInput program (busTick program tick state)
      (abstracted program state) = bridgeInput program tick state := by
    rw [busInput, inactive, if_neg Bool.false_ne_true,
      bridgeInput_of_idle idle]
  refine ⟨input, ?_⟩
  rw [BusMaster.step, input, inactive, if_neg Bool.false_ne_true, ← kept]
  rfl

/-- The access at the bridge, as the bridge sees it. -/
theorem AtBridge.bridgeInput_eq {waits : Bool}
    (atBridge : AtBridge program tick state waits) :
    (bridgeInput program tick state).avsAddress =
        (program.access state.point).register ∧
      (bridgeInput program tick state).avsWritedata =
        (lines program tick state).writedata := by
  refine ⟨?_, rfl⟩
  rw [bridgeInput, SlaveAgent.m0Address, routed, AddrRouter001.srcData, command,
    MasterAgent.cpData, lines_address program tick atBridge.requested,
    avAddress_ioCalcAddress]

/-- An access that the bridge takes is an access on the bus. -/
theorem AtBridge.bridgeInput_of_taken
    (atBridge : AtBridge program tick state false) {counter : BitVec 2}
    (side : Side state counter [])
    (counts : (program.access state.point).isWrite = true → counter = 0) :
    bridgeInput program tick state =
      (program.access state.point).signals (busTick program tick state) := by
  have address := atBridge.bridgeInput_eq.1
  have writedata := atBridge.bridgeInput_eq.2
  have write : (bridgeInput program tick state).avsWrite =
      (program.access state.point).isWrite := by
    rw [bridgeInput, SlaveTranslator.avWrite, atBridge.m0Write_eq side,
      side.waitLatencyCounter]
    cases kind : (program.access state.point).isWrite with
    | false => rfl
    | true => simp [counts kind]
  have parts : bridgeInput program tick state =
      ⟨tick.slaveReset, (bridgeInput program tick state).avsAddress,
        (bridgeInput program tick state).avsWrite,
        (bridgeInput program tick state).avsWritedata⟩ := rfl
  cases access : program.access state.point with
  | write register data =>
      have driven : (lines program tick state).writedata = data := by
        rw [lines, atBridge.requested, access]
        rfl
      rw [parts, address, write, writedata, driven, access]
      rfl
  | read register =>
      rw [parts, address, write, access]
      rfl

/-- The slave translator registers the word on the read bus. -/
theorem avReaddataPre_step (program : Program Point) (entry : Point)
    (state : State Point) (low : tick.Low) :
    (step program entry tick state).slaveTranslator.avReaddataPre =
      Des3Avalon.avsReaddata (bridgeInput program tick state).avsAddress
        state.bridge := by
  simp [step, SlaveTranslator.step, slaveTranslatorInput, low.slaveReset]

/-- The access that the bridge takes is made on the bus, and the word that the
slave translator registers is the one with which the program goes on. -/
theorem refines_of_taken
    (atBridge : AtBridge program tick state false) {counter : BitVec 2}
    (side : Side state counter []) (low : tick.Low)
    (counts : (program.access state.point).isWrite = true → counter = 0)
    (pending : state.performed = false)
    (performed : (step program entry tick state).performed = true)
    (waits : waitrequest program tick state = true) :
    Refines program entry tick state := by
  have input := atBridge.bridgeInput_of_taken side counts
  have active : (busTick program tick state).active = true := by
    simp [BusMaster.Tick.active, busTick, low.slaveReset, performs,
      atBridge.requested, pending, atBridge.uavWaitrequest]
  have point : (abstracted program state).point = state.point := by
    rw [abstracted, pending, if_neg Bool.false_ne_true]
  have bus : busInput program (busTick program tick state)
      (abstracted program state) = bridgeInput program tick state := by
    rw [busInput, active, if_pos rfl, point, input]
  have word := avReaddataPre_step program entry state low
  refine ⟨bus, ?_⟩
  rw [BusMaster.step, bus, active, if_pos rfl, point, abstracted, performed,
    if_pos rfl, word, pointNext_of_wait entry low waits]
  rfl

section Points

theorem Resting.not_performed (resting : Resting state) :
    state.performed = false := by
  rw [State.performed, resting.masterTranslator]
  split <;> rfl

theorem not_performed_of_elsewhere (other : state.request ≠ some .access) :
    state.performed = false := by
  rw [State.performed]
  split
  · contradiction
  · rfl

theorem point_step_of_elsewhere (other : state.request ≠ some .access)
    (low : tick.Low) :
    (step program entry tick state).point = state.point := by
  rw [step, pointNext, low.masterReset, if_neg Bool.false_ne_true]
  dsimp only
  split
  · contradiction
  · rfl

theorem abstracted_point (pending : state.performed = false) :
    (abstracted program state).point = state.point := by
  rw [abstracted, pending, if_neg Bool.false_ne_true]

theorem performs_of_elsewhere (other : state.request ≠ some .access) :
    performs program tick state = false := by
  rw [performs]
  split
  · contradiction
  · rfl

theorem performs_of_performed (performed : state.performed = true) :
    performs program tick state = false := by
  rw [performs, performed]
  split <;> rfl

theorem not_performed_step_of_elsewhere {later : Prop}
    (other : state.request ≠ some .access) (low : tick.Low)
    (advanced : (waitrequest program tick state = false ∧
        Resting (step program entry tick state)) ∨
      (waitrequest program tick state = true ∧ later))
    {request : Request} (requested : state.request = some request) :
    (step program entry tick state).performed = false := by
  rcases advanced with ⟨-, resting⟩ | ⟨waits, -⟩
  · exact resting.not_performed
  · apply not_performed_of_elsewhere
    rwa [requestNext_of_wait entry low requested waits, ← requested]

end Points

/-- While the processor is busy elsewhere, the bus is idle. -/
theorem refines_of_elsewhere (other : state.request ≠ some .access)
    (low : tick.Low) (idle : m0Write program tick state = false)
    (next : (step program entry tick state).performed = false) :
    Refines program entry tick state := by
  refine refines_of_idle entry idle (performs_of_elsewhere other) ?_
  rw [abstracted_point next,
    abstracted_point (not_performed_of_elsewhere other),
    point_step_of_elsewhere entry other low]

/-- At its end an access has been made before. -/
theorem refines_of_end (requested : state.request = some .access)
    (performed : state.performed = true) (low : tick.Low)
    (idle : m0Write program tick state = false)
    (ends : waitrequest program tick state = false)
    (resting : Resting (step program entry tick state))
    (word : program.next state.point (rpData tick state).data =
      program.next state.point state.slaveTranslator.avReaddataPre) :
    Refines program entry tick state := by
  refine refines_of_idle entry idle (performs_of_performed performed) ?_
  rw [abstracted_point resting.not_performed, abstracted, performed, if_pos rfl,
    ← word, step, pointNext, low.masterReset, if_neg Bool.false_ne_true, ends,
    requested]
  rfl

section Phases

variable (low : tick.Low)
include low

/-- A processor that requests nothing leaves the bus idle. -/
theorem Resting.refines_free (resting : Resting state)
    (request : state.request = none) :
    Refines program entry tick state := by
  have next := resting.free_step entry program request low.slaveReset
  exact refines_of_elsewhere entry (by simp [request]) low
    (resting.side.m0Write_of_quiet program (slaveValid_of_no_command program
      tick (commandValid_of_none program tick request) 3))
    next.not_performed

/-- A read is not made on the bus before its wait cycle is over. -/
theorem Resting.refines_read (resting : Resting state)
    (request : state.request = some .access) (released : Released state)
    (read : (program.access state.point).isWrite = false) :
    Refines program entry tick state := by
  obtain ⟨waits, atBridge, waiting⟩ :=
    resting.read_step entry request released read low
  have next : (step program entry tick state).performed = false := by
    rw [State.performed, waiting.requested, waiting.masterTranslator]
    rfl
  refine refines_of_idle entry ?_ ?_ ?_
  · rw [atBridge.m0Write_eq resting.side, read]
  · simp [performs, request, atBridge.uavWaitrequest]
  · rw [abstracted_point resting.not_performed, abstracted_point next,
      pointNext_of_wait entry low waits]

/-- A write is made at once. -/
theorem Resting.refines_write (resting : Resting state)
    (request : state.request = some .access) (released : Released state)
    (write : (program.access state.point).isWrite = true) :
    Refines program entry tick state := by
  obtain ⟨waits, atBridge, written⟩ :=
    resting.write_step entry request released write low
  refine refines_of_taken entry atBridge resting.side low
    (fun _ => rfl) resting.not_performed ?_ waits
  rw [State.performed, requestNext_of_wait entry low request waits,
    written.masterTranslator]
  rfl

theorem Waiting.refines (waiting : Waiting program state) :
    Refines program entry tick state := by
  obtain ⟨waits, atBridge, answering⟩ := waiting.advance entry low
  refine refines_of_taken entry atBridge waiting.side low ?_ ?_ ?_ waits
  · intro write
    rw [waiting.read] at write
    contradiction
  · rw [State.performed, waiting.requested, waiting.masterTranslator]
    rfl
  · rw [State.performed, answering.requested, answering.masterTranslator]
    rfl

theorem Answering.refines (answering : Answering program state) :
    Refines program entry tick state := by
  obtain ⟨ends, quiet, word, resting⟩ := answering.advance entry low
  obtain ⟨awaited, -, side⟩ := answering.side
  refine refines_of_end entry answering.requested ?_ low
    (side.m0Write_of_quiet program
      (slaveValid_of_no_command program tick quiet 3)) ends resting
    (congrArg (program.next state.point) word)
  rw [State.performed, answering.requested, answering.masterTranslator]
  rfl

/-- A write takes no word, so it does not matter which one the program gets. -/
theorem Written.refines (written : Written program state)
    (blind : program.Blind) :
    Refines program entry tick state := by
  obtain ⟨ends, quiet, resting⟩ := written.advance entry low
  obtain ⟨request, requested, write⟩ := written.requested
  have idle : m0Write program tick state = false :=
    written.side.m0Write_of_quiet program
      (slaveValid_of_no_command program tick quiet 3)
  cases request with
  | access =>
      refine refines_of_end entry requested ?_ low idle ends resting
        (blind _ write _ _)
      rw [State.performed, requested, written.masterTranslator]
      rfl
  | elsewhere transfer =>
      exact refines_of_elsewhere entry (by simp [requested]) low
        idle resting.not_performed

/-- While the processor is busy elsewhere the bus is idle. -/
theorem refines_away {transfer : Elsewhere} {later : Prop}
    (requested : state.request = some (.elsewhere transfer))
    {counter : BitVec 2} (side : Side state counter [])
    (advanced : (waitrequest program tick state = false ∧
        Resting (step program entry tick state)) ∨
      (waitrequest program tick state = true ∧ later)) :
    Refines program entry tick state := by
  have other : state.request ≠ some .access := by simp [requested]
  exact refines_of_elsewhere entry other low
    (side.m0Write_of_quiet program
      (slaveValid_of_elsewhere program tick requested))
    (not_performed_step_of_elsewhere entry other low advanced requested)

end Phases

/-- One cycle of the network is one cycle of the bus. -/
theorem Phase.refines (phase : Phase program state) (blind : program.Blind)
    (low : tick.Low) :
    Refines program entry tick state := by
  cases phase with
  | free request resting => exact resting.refines_free entry low request
  | begun request released resting =>
      cases kind : (program.access state.point).isWrite with
      | false => exact resting.refines_read entry low request released kind
      | true => exact resting.refines_write entry low request released kind
  | waiting waiting => exact waiting.refines entry low
  | answering answering => exact answering.refines entry low
  | written written => exact written.refines entry low blind
  | away away =>
      obtain ⟨transfer, requested⟩ := away.requested
      exact refines_away entry low requested away.side
        (away.advance entry program low)
  | awayRead awayRead =>
      obtain ⟨transfer, requested, -⟩ := awayRead.requested
      exact refines_away entry low requested awayRead.side
        (awayRead.advance entry program low)

end Interconnect

end TripleDes

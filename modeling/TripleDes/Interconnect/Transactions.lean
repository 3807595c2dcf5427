import TripleDes.Interconnect.Signals

/-!
# Transactions on the network

An access of the program passes through a fixed sequence of phases.  A write
reaches the bridge in the cycle in which it is requested and ends in the next
one; a read waits for one cycle, reads the bridge, and ends with the response.
Accesses elsewhere leave the side of the bridge at rest.
-/

namespace TripleDes

open Clocked BusMaster

namespace Interconnect

variable {Point : Type*}

/-- Both resets are low. -/
structure Tick.Low (tick : Tick) : Prop where
  masterReset : tick.masterReset = false
  slaveReset : tick.slaveReset = false

/-- The cycle after a reset is over. -/
structure Released (state : State Point) : Prop where
  holdWaitrequest : state.masterAgent.holdWaitrequest = false
  waitrequestResetOverride :
    state.slaveTranslator.waitrequestResetOverride = false

/-- Nothing is on its way. -/
structure Resting (state : State Point) : Prop where
  masterTranslator : state.masterTranslator = ⟨false, false, false⟩
  pending : state.pending = fun _ => false
  side : Side state 0 []

/-- A read of the bridge in its wait cycle. -/
structure Waiting (program : Program Point) (state : State Point) : Prop where
  requested : state.request = some .access
  read : (program.access state.point).isWrite = false
  released : Released state
  masterTranslator : state.masterTranslator = ⟨false, false, true⟩
  pending : state.pending = fun _ => false
  side : Side state 1 []

/-- A read of the bridge whose response arrives. -/
structure Answering (program : Program Point) (state : State Point) :
    Prop where
  requested : state.request = some .access
  read : (program.access state.point).isWrite = false
  masterTranslator : state.masterTranslator = ⟨true, false, false⟩
  pending : state.pending = fun _ => false
  side : ∃ awaited, awaited.packet.transWrite = false ∧ Side state 0 [awaited]

/-- A write that a slave has taken. -/
structure Written (program : Program Point) (state : State Point) : Prop where
  requested : ∃ request, state.request = some request ∧
    request.isWrite (program.access state.point) = true
  masterTranslator : state.masterTranslator = ⟨false, true, false⟩
  pending : state.pending = fun _ => false
  side : Side state 0 []

/-- An access elsewhere that waits for its slave. -/
structure Away (state : State Point) : Prop where
  requested : ∃ transfer, state.request = some (.elsewhere transfer)
  released : Released state
  masterTranslator : ∃ begun, state.masterTranslator = ⟨false, false, begun⟩
  pending : state.pending = fun _ => false
  side : Side state 0 []

/-- A read elsewhere that waits for its response. -/
structure AwayRead (state : State Point) : Prop where
  requested : ∃ transfer, state.request = some (.elsewhere transfer) ∧
    transfer.isWrite = false
  masterTranslator : state.masterTranslator = ⟨true, false, false⟩
  pending : ∃ slave, state.pending = fun other => other == slave
  side : Side state 0 []

variable {program : Program Point} {tick : Tick} {state : State Point}
  (entry : Point)

theorem released_step (program : Program Point) (state : State Point)
    (low : tick.Low) :
    Released (step program entry tick state) where
  holdWaitrequest := low.masterReset
  waitrequestResetOverride := by
    simp [step, SlaveTranslator.step, slaveTranslatorInput, low.slaveReset]

/-- Without a command no slave takes on a read. -/
theorem pending_step_of_quiet (none : state.pending = fun _ => false)
    (quiet : ∀ slave : Fin 3, slaveValid program tick state slave = false) :
    (step program entry tick state).pending = fun _ => false := by
  funext slave
  simp [step, pendingNext, quiet, none]

theorem requestNext_of_end (low : tick.Low)
    (ends : waitrequest program tick state = false) :
    (step program entry tick state).request = tick.begins := by
  simp [step, requestNext, low.masterReset, ends]

theorem requestNext_of_wait (low : tick.Low) {request : Request}
    (requested : state.request = some request)
    (waits : waitrequest program tick state = true) :
    (step program entry tick state).request = some request := by
  simp [step, requestNext, low.masterReset, requested, waits]

theorem pointNext_of_wait (low : tick.Low)
    (waits : waitrequest program tick state = true) :
    (step program entry tick state).point = state.point := by
  rw [step, pointNext, low.masterReset, if_neg Bool.false_ne_true, waits]
  dsimp only
  split <;> rfl

/-- A request whose command no slave has taken yet. -/
theorem command_of_some (program : Program Point) (tick : Tick)
    {request : Request}
    (requested : state.request = some request)
    (readAccepted : state.masterTranslator.readAccepted = false)
    (writeAccepted : state.masterTranslator.writeAccepted = false) :
    uavRead program tick state =
        !request.isWrite (program.access state.point) ∧
      uavWrite program tick state =
        request.isWrite (program.access state.point) ∧
      commandValid program tick state = true := by
  obtain ⟨read, write⟩ := lines_of_some program tick requested
  have reads : uavRead program tick state =
      !request.isWrite (program.access state.point) := by
    rw [uavRead, MasterTranslator.uavRead, readAccepted, read]
    exact Bool.and_true _
  have writes : uavWrite program tick state =
      request.isWrite (program.access state.point) := by
    rw [uavWrite, MasterTranslator.uavWrite, writeAccepted, write]
    exact Bool.and_true _
  refine ⟨reads, writes, ?_⟩
  rw [commandValid, MasterAgent.cpValid, reads, writes, Bool.or_not_self]

theorem masterTranslator_step (low : tick.Low) {read write waits valid : Bool}
    (reads : (lines program tick state).read = read)
    (writes : (lines program tick state).write = write)
    (waitrequests : uavWaitrequest program tick state = waits)
    (responds : uavReaddatavalid tick state = valid) :
    waitrequest program tick state = MasterTranslator.avWaitrequest
        ⟨false, read, write, waits, valid⟩ state.masterTranslator ∧
      (step program entry tick state).masterTranslator =
        MasterTranslator.step ⟨false, read, write, waits, valid⟩
          state.masterTranslator := by
  have input : masterTranslatorInput program tick state =
      ⟨false, read, write, waits, valid⟩ := by
    rw [masterTranslatorInput, low.masterReset, reads, writes, waitrequests,
      responds]
  rw [waitrequest, step, input]
  exact ⟨rfl, rfl⟩

namespace Resting

variable (resting : Resting state)
include resting

/-- Without a request everything stays at rest. -/
theorem free_step (program : Program Point) (free : state.request = none)
    (low : tick.slaveReset = false) :
    Resting (step program entry tick state) := by
  obtain ⟨noRead, noWrite⟩ := lines_of_none program tick free
  have idle := commandValid_of_none program tick free
  have quiet := slaveValid_of_no_command program tick idle
  refine ⟨?_, pending_step_of_quiet entry resting.pending fun slave =>
    quiet slave, resting.side.rest program entry low (quiet 3)⟩
  simp [step, MasterTranslator.step, masterTranslatorInput, noRead, noWrite,
    resting.masterTranslator, MasterTranslator.uavWrite,
    MasterTranslator.uavRead, MasterTranslator.internalBegintransfer]

end Resting

/-- The access is a command at the slave translator of the bridge. -/
structure AtBridge (program : Program Point) (tick : Tick)
    (state : State Point) (waits : Bool) : Prop where
  requested : state.request = some .access
  uavRead : uavRead program tick state =
    !(program.access state.point).isWrite
  uavWrite : uavWrite program tick state =
    (program.access state.point).isWrite
  slaveValid : ∀ source, slaveValid program tick state source =
    (0b1000 : BitVec 4).getLsbD source
  released : Released state
  m0Waitrequest : m0Waitrequest program tick state = waits
  uavWaitrequest : uavWaitrequest program tick state = waits

/-- A write waits until the counter is 0, a read until it is 1. -/
theorem Side.atBridge {counter : BitVec 2} (side : Side state counter [])
    (program : Program Point) (tick : Tick)
    (requested : state.request = some .access) (released : Released state)
    (readAccepted : state.masterTranslator.readAccepted = false)
    (writeAccepted : state.masterTranslator.writeAccepted = false) :
    AtBridge program tick state
      (if (program.access state.point).isWrite then counter != 0
        else counter != 1) := by
  obtain ⟨reads, writes, commands⟩ :=
    command_of_some program tick requested readAccepted writeAccepted
  have valid (source : Nat) : slaveValid program tick state source =
      (0b1000 : BitVec 4).getLsbD source := by
    rw [slaveValid, CmdXbarDemux001.srcValid, commands, Bool.and_true,
      channel_of_access program tick requested]
  have waits : m0Waitrequest program tick state =
      if (program.access state.point).isWrite then counter != 0
        else counter != 1 := by
    rw [m0Waitrequest, SlaveTranslator.uavWaitrequest,
      SlaveTranslator.avWaitrequestGenerated, side.m0Write_eq,
      released.waitrequestResetOverride, side.waitLatencyCounter, writes,
      valid, Bool.or_false]
    rfl
  refine ⟨requested, reads, writes, valid, released, waits, ?_⟩
  rw [uavWaitrequest_of_access program tick requested,
    released.holdWaitrequest, side.bridgeCpReady_eq, waits, Bool.false_or,
    Bool.not_not]

namespace AtBridge

variable {waits : Bool} (atBridge : AtBridge program tick state waits)
include atBridge

theorem pending_step (none : state.pending = fun _ => false) :
    (step program entry tick state).pending = fun _ => false :=
  pending_step_of_quiet entry none fun slave => by
    rw [atBridge.slaveValid]
    fin_cases slave <;> rfl

theorem m0Write_eq {counter : BitVec 2} {contents : List Awaited}
    (side : Side state counter contents) :
    m0Write program tick state = (program.access state.point).isWrite := by
  rw [side.m0Write_eq, atBridge.slaveValid, atBridge.uavWrite]
  exact Bool.true_and _

theorem m0Read_eq {counter : BitVec 2} {contents : List Awaited}
    (side : Side state counter contents) :
    m0Read program tick state = !(program.access state.point).isWrite := by
  rw [side.m0Read_eq, atBridge.slaveValid, atBridge.uavRead]
  exact Bool.true_and _

/-- The counter goes on while the access waits; a read that has waited leaves
its command in the response queue. -/
theorem side_step {counter : BitVec 2} (side : Side state counter [])
    (low : tick.Low) :
    Side (step program entry tick state) (if waits then counter + 1 else 0)
      (if !(program.access state.point).isWrite && !waits then
        [⟨{ routed program tick state with data := 0 }, false⟩] else []) := by
  have slave : SlaveTranslator.uavWaitrequest
      (program.access state.point).isWrite state.slaveTranslator = waits := by
    rw [← atBridge.m0Write_eq side]
    exact atBridge.m0Waitrequest
  have override := atBridge.released.waitrequestResetOverride
  refine ⟨?_, ?_, ?_, by split <;> simp⟩
  · simp only [step, SlaveTranslator.step, slaveTranslatorInput,
      low.slaveReset, slave, override, atBridge.m0Read_eq side,
      atBridge.m0Write_eq side, side.waitLatencyCounter]
    cases waits <;> simp
  · simp only [step, SlaveTranslator.step, slaveTranslatorInput,
      low.slaveReset, slave, override, atBridge.m0Read_eq side,
      atBridge.m0Write_eq side]
    cases waits <;> cases (program.access state.point).isWrite <;> rfl
  · have holds := side.rspFifo_step program entry low.slaveReset
    rw [atBridge.slaveValid, atBridge.uavRead, atBridge.m0Waitrequest] at holds
    exact holds

end AtBridge

namespace Resting

variable (resting : Resting state)
include resting

/-- The bridge takes a write in its first cycle. -/
theorem write_step (requested : state.request = some .access)
    (released : Released state)
    (write : (program.access state.point).isWrite = true) (low : tick.Low) :
    waitrequest program tick state = true ∧
      AtBridge program tick state false ∧
      Written program (step program entry tick state) := by
  have atBridge := resting.side.atBridge program tick requested released
    (by rw [resting.masterTranslator]) (by rw [resting.masterTranslator])
  rw [if_pos write] at atBridge
  obtain ⟨read, writes⟩ := lines_of_some program tick requested
  obtain ⟨waits, translator⟩ := masterTranslator_step entry low read writes
    atBridge.uavWaitrequest
    (uavReaddatavalid_of_quiet tick resting.pending resting.side)
  rw [resting.masterTranslator, Request.isWrite, write] at waits translator
  have samePoint := pointNext_of_wait entry low waits
  have side := atBridge.side_step entry resting.side low
  rw [write] at side
  refine ⟨waits, atBridge,
    ⟨.access, requestNext_of_wait entry low requested waits, ?_⟩, translator,
    atBridge.pending_step entry resting.pending, side⟩
  rw [samePoint, Request.isWrite, write]

/-- A read of the bridge begins with a wait cycle. -/
theorem read_step (requested : state.request = some .access)
    (released : Released state)
    (read : (program.access state.point).isWrite = false) (low : tick.Low) :
    waitrequest program tick state = true ∧
      AtBridge program tick state true ∧
      Waiting program (step program entry tick state) := by
  have atBridge := resting.side.atBridge program tick requested released
    (by rw [resting.masterTranslator]) (by rw [resting.masterTranslator])
  rw [if_neg (by simp [read])] at atBridge
  obtain ⟨reads, write⟩ := lines_of_some program tick requested
  obtain ⟨waits, translator⟩ := masterTranslator_step entry low reads write
    atBridge.uavWaitrequest
    (uavReaddatavalid_of_quiet tick resting.pending resting.side)
  rw [resting.masterTranslator, Request.isWrite, read] at waits translator
  have samePoint := pointNext_of_wait entry low waits
  have side := atBridge.side_step entry resting.side low
  rw [read] at side
  refine ⟨waits, atBridge, requestNext_of_wait entry low requested waits, ?_,
    released_step entry program state low, translator,
    atBridge.pending_step entry resting.pending, side⟩
  rw [samePoint, read]

end Resting

/-- The read takes the word from the bridge after its wait cycle. -/
theorem Waiting.advance (waiting : Waiting program state) (low : tick.Low) :
    waitrequest program tick state = true ∧
      AtBridge program tick state false ∧
      Answering program (step program entry tick state) := by
  have read := waiting.read
  have requested := waiting.requested
  have atBridge := waiting.side.atBridge program tick requested
    waiting.released (by rw [waiting.masterTranslator])
    (by rw [waiting.masterTranslator])
  rw [if_neg (by simp [read])] at atBridge
  obtain ⟨reads, write⟩ := lines_of_some program tick requested
  obtain ⟨waits, translator⟩ := masterTranslator_step entry low reads write
    atBridge.uavWaitrequest
    (uavReaddatavalid_of_quiet tick waiting.pending waiting.side)
  rw [waiting.masterTranslator, Request.isWrite, read] at waits translator
  have samePoint := pointNext_of_wait entry low waits
  have side := atBridge.side_step entry waiting.side low
  rw [read] at side
  refine ⟨waits, atBridge, requestNext_of_wait entry low requested waits, ?_,
    translator, atBridge.pending_step entry waiting.pending, _, ?_, side⟩
  · rw [samePoint, read]
  · change uavWrite program tick state = false
    rw [atBridge.uavWrite, read]

/-- A command that a slave has taken is not repeated. -/
theorem commandValid_of_accepted {request : Request}
    (requested : state.request = some request)
    (accepted : if request.isWrite (program.access state.point) then
      state.masterTranslator.writeAccepted = true
      else state.masterTranslator.readAccepted = true) :
    commandValid program tick state = false := by
  obtain ⟨read, write⟩ := lines_of_some program tick requested
  rw [commandValid, MasterAgent.cpValid, uavRead, uavWrite,
    MasterTranslator.uavRead, MasterTranslator.uavWrite, read, write]
  cases kind : request.isWrite (program.access state.point) with
  | true => simp_all
  | false => simp_all

/-- The response ends the read. -/
theorem Answering.advance (answering : Answering program state) (low : tick.Low) :
    waitrequest program tick state = false ∧
      commandValid program tick state = false ∧
      (rpData tick state).data = state.slaveTranslator.avReaddataPre ∧
      Resting (step program entry tick state) := by
  obtain ⟨awaited, response, side⟩ := answering.side
  obtain ⟨valid, word⟩ :=
    response_of_awaited tick answering.pending side response
  have quiet : commandValid program tick state = false :=
    commandValid_of_accepted answering.requested (by
      rw [Request.isWrite, answering.read, answering.masterTranslator]
      rfl)
  have idle := slaveValid_of_no_command program tick quiet
  obtain ⟨reads, write⟩ :=
    lines_of_some program tick answering.requested
  obtain ⟨ends, translator⟩ := masterTranslator_step entry low reads write
    rfl valid
  rw [answering.masterTranslator, Request.isWrite, answering.read] at ends translator
  refine ⟨ends, quiet, word, ?_, pending_step_of_quiet entry
    answering.pending fun slave => idle slave,
    side.rest program entry low.slaveReset (idle 3)⟩
  rw [translator]
  simp [MasterTranslator.step, MasterTranslator.uavWrite,
    MasterTranslator.uavRead, MasterTranslator.internalBegintransfer,
    MasterTranslator.avWaitrequest]

/-- A write ends in the cycle after a slave has taken it. -/
theorem Written.advance (written : Written program state) (low : tick.Low) :
    waitrequest program tick state = false ∧
      commandValid program tick state = false ∧
      Resting (step program entry tick state) := by
  obtain ⟨request, requested, write⟩ := written.requested
  have quiet : commandValid program tick state = false :=
    commandValid_of_accepted requested (by
      rw [write, written.masterTranslator]
      rfl)
  have idle := slaveValid_of_no_command program tick quiet
  obtain ⟨reads, writes⟩ := lines_of_some program tick requested
  obtain ⟨ends, translator⟩ := masterTranslator_step entry low reads writes
    rfl (uavReaddatavalid_of_quiet tick written.pending written.side)
  rw [written.masterTranslator, write] at ends translator
  refine ⟨?_, quiet, ?_, pending_step_of_quiet entry written.pending
    fun slave => idle slave,
    written.side.rest program entry low.slaveReset (idle 3)⟩
  · rw [ends]
    simp [MasterTranslator.avWaitrequest]
  · rw [translator]
    simp [MasterTranslator.step, MasterTranslator.uavWrite,
      MasterTranslator.uavRead, MasterTranslator.internalBegintransfer,
      MasterTranslator.avWaitrequest]

/-- Only the slave that the command reaches takes on a read. -/
theorem pending_step_of_chosen (low : tick.Low)
    (none : state.pending = fun _ => false) {slave : Fin 3} {read : Bool}
    (reads : uavRead program tick state = read)
    (chosen : ∀ other : Fin 3,
      slaveValid program tick state other = (other == slave)) :
    (step program entry tick state).pending = fun other =>
      other == slave && read && tick.ready slave := by
  have kind : (routed program tick state).transRead = read := reads
  funext other
  change pendingNext program tick state other = _
  rw [pendingNext, low.masterReset, if_neg Bool.false_ne_true, chosen, kind, none]
  by_cases same : other = slave
  · rw [same]
    cases tick.ready slave <;> cases read <;> simp
  · simp [same]

/-- An access elsewhere waits for its slave, then for the response or for a
last cycle; a write that has waited ends at once. -/
theorem Away.advance (program : Program Point) (away : Away state) (low : tick.Low) :
    (waitrequest program tick state = false ∧
        Resting (step program entry tick state)) ∨
      (waitrequest program tick state = true ∧
        (Away (step program entry tick state) ∨
          AwayRead (step program entry tick state) ∨
          Written program (step program entry tick state))) := by
  obtain ⟨transfer, requested⟩ := away.requested
  obtain ⟨waited, begun⟩ := away.masterTranslator
  obtain ⟨uavReads, uavWrites, valid⟩ :=
    command_of_some program tick requested (by rw [begun]) (by rw [begun])
  obtain ⟨slave, chosen, ready⟩ := channel_of_elsewhere program tick requested
  obtain ⟨reads, writes⟩ := lines_of_some program tick requested
  have waitrequests : uavWaitrequest program tick state = !tick.ready slave := by
    rw [uavWaitrequest, MasterAgent.avWaitrequest, ready,
      away.released.holdWaitrequest, Bool.false_or]
  obtain ⟨waits, translator⟩ := masterTranslator_step entry low reads writes
    waitrequests (uavReaddatavalid_of_quiet tick away.pending away.side)
  have side := away.side.rest program entry low.slaveReset
    (slaveValid_of_elsewhere program tick requested)
  have kind : uavRead program tick state = !transfer.isWrite := uavReads
  have pending := pending_step_of_chosen entry low away.pending kind
    fun other => by rw [chosen, valid, Bool.and_true]
  rw [begun] at waits translator
  cases accepted : tick.ready slave with
  | false =>
      have waits : waitrequest program tick state = true := by
        rw [waits, accepted]
        cases kind : transfer.isWrite <;>
          simp [MasterTranslator.avWaitrequest, Request.isWrite, kind]
      refine .inr ⟨waits, .inl ⟨⟨transfer,
        requestNext_of_wait entry low requested waits⟩,
        released_step entry program state low, ⟨true, ?_⟩, ?_, side⟩⟩
      · rw [translator, accepted]
        cases kind : transfer.isWrite <;> cases waited <;>
          simp [MasterTranslator.step, MasterTranslator.avWaitrequest,
            MasterTranslator.internalBegintransfer, MasterTranslator.uavRead,
            MasterTranslator.uavWrite, Request.isWrite, kind]
      · simp [pending, accepted]
  | true =>
      rw [accepted, Request.isWrite] at waits translator
      cases kind : transfer.isWrite with
      | false =>
          rw [kind] at waits translator
          refine .inr ⟨waits, .inr (.inl ⟨⟨transfer,
            requestNext_of_wait entry low requested waits, kind⟩, ?_,
            ⟨slave, by simp [pending, accepted, kind]⟩, side⟩)⟩
          rw [translator]
          cases waited <;> rfl
      | true =>
          rw [kind] at waits translator
          have none : (step program entry tick state).pending =
              fun _ => false := by
            simp [pending, kind]
          cases waited with
          | false =>
              refine .inr ⟨waits, .inr (.inr ⟨⟨.elsewhere transfer,
                requestNext_of_wait entry low requested waits, kind⟩,
                translator, none, side⟩)⟩
          | true => exact .inl ⟨waits, translator, none, side⟩

/-- A read elsewhere ends when its slave responds. -/
theorem AwayRead.advance (program : Program Point)
    (awayRead : AwayRead state) (low : tick.Low) :
    (waitrequest program tick state = false ∧
        Resting (step program entry tick state)) ∨
      (waitrequest program tick state = true ∧
        AwayRead (step program entry tick state)) := by
  obtain ⟨transfer, requested, read⟩ := awayRead.requested
  obtain ⟨slave, single⟩ := awayRead.pending
  have quiet : commandValid program tick state = false :=
    commandValid_of_accepted requested (by
      rw [Request.isWrite, read, awayRead.masterTranslator]
      rfl)
  have idle := slaveValid_of_no_command program tick quiet
  obtain ⟨reads, writes⟩ := lines_of_some program tick requested
  obtain ⟨waits, translator⟩ := masterTranslator_step entry low reads writes
    rfl (uavReaddatavalid_of_elsewhere tick single awayRead.side)
  rw [awayRead.masterTranslator, Request.isWrite, read] at waits translator
  have side := awayRead.side.rest program entry low.slaveReset (idle 3)
  have pending : (step program entry tick state).pending = fun other =>
      other == slave && !tick.responds other := by
    funext other
    change pendingNext program tick state other = _
    rw [pendingNext, low.masterReset, if_neg Bool.false_ne_true, idle, single]
    rfl
  cases responds : tick.responds slave with
  | false =>
      rw [responds] at waits translator
      refine .inr ⟨waits, ⟨transfer,
        requestNext_of_wait entry low requested waits, read⟩, ?_,
        ⟨slave, ?_⟩, side⟩
      · rw [translator]
        simp [MasterTranslator.step, MasterTranslator.uavWrite,
          MasterTranslator.uavRead, MasterTranslator.internalBegintransfer]
      · rw [pending]
        funext other
        by_cases same : other = slave
        · simp [same, responds]
        · simp [same]
  | true =>
      rw [responds] at waits translator
      refine .inl ⟨waits, ?_, ?_, side⟩
      · rw [translator]
        simp [MasterTranslator.step, MasterTranslator.uavWrite,
          MasterTranslator.uavRead, MasterTranslator.internalBegintransfer]
      · rw [pending]
        funext other
        by_cases same : other = slave
        · simp [same, responds]
        · simp [same]

end Interconnect

end TripleDes

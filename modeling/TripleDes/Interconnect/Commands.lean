import TripleDes.Interconnect.Sessions
import TripleDes.Library.Events

/-!
# One command for each request

The network neither loses nor repeats nor reorders what the processor asks for.
Each slave, the bridge as well as the others, takes exactly one command for each
request at its addresses, however long it lets the command wait.
-/

namespace TripleDes

open Clocked BusMaster

namespace MasterTranslator

/-- A command is on its way when a slave has taken it. -/
def State.accepted (state : State) : Bool :=
  state.readAccepted || state.writeAccepted

/-- A slave takes the command in this cycle. -/
def accepts (input : Input) (state : State) : Bool :=
  (uavWrite input.avWrite state || uavRead input.avRead state) &&
    !input.uavWaitrequest

variable {write waits valid : Bool} {state : State}
  (readKind : state.readAccepted = true → write = false)
  (writeKind : state.writeAccepted = true → write = true)
  (data : valid = true → state.readAccepted = true)
include readKind writeKind data

/-- A request ends when its command has been taken, earlier or in this cycle,
and leaves nothing behind. -/
theorem accepted_of_end
    (ends : avWaitrequest ⟨false, !write, write, waits, valid⟩ state = false) :
    (state.accepted != accepts ⟨false, !write, write, waits, valid⟩ state) =
        true ∧
      (step ⟨false, !write, write, waits, valid⟩ state).accepted = false := by
  obtain ⟨readAccepted, writeAccepted, endBegintransfer⟩ := state
  revert readKind writeKind data ends
  cases write <;> cases readAccepted <;> cases writeAccepted <;> cases waits <;>
    cases valid <;> cases endBegintransfer <;>
      simp [avWaitrequest, accepts, State.accepted, step, uavRead, uavWrite,
        internalBegintransfer]

/-- While the request waits, its command is taken at most once. -/
theorem accepted_of_wait
    (stays : avWaitrequest ⟨false, !write, write, waits, valid⟩ state = true) :
    (state.accepted && accepts ⟨false, !write, write, waits, valid⟩ state) =
        false ∧
      (step ⟨false, !write, write, waits, valid⟩ state).accepted =
        (state.accepted ||
          accepts ⟨false, !write, write, waits, valid⟩ state) := by
  obtain ⟨readAccepted, writeAccepted, endBegintransfer⟩ := state
  revert readKind writeKind data stays
  cases write <;> cases readAccepted <;> cases writeAccepted <;> cases waits <;>
    cases valid <;> cases endBegintransfer <;>
      simp [avWaitrequest, accepts, State.accepted, step, uavRead, uavWrite,
        internalBegintransfer]

end MasterTranslator

namespace Interconnect

variable {Point : Type*}

/-- What a slave is asked for, at an address in words. -/
inductive Order where
  | read (word : BitVec 14)
  | write (word : BitVec 14) (writedata : BitVec 32)

def Order.word : Order → BitVec 14
  | read word => word
  | write word _ => word

/-- The order belongs to a slave; the bridge is the last of them. -/
def Order.reaches (slave : Fin 4) (order : Order) : Bool :=
  (AddrRouter001.decoded (order.word ++ 0#2)).1.getLsbD slave

/-- What a command asks for. -/
def orderOf (packet : Packet) : Order :=
  if packet.transWrite then
    .write (packet.addr.extractLsb' 2 14) packet.data
  else .read (packet.addr.extractLsb' 2 14)

/-- What a request asks for, when the program is at the given access. -/
def Request.order (access : Access) : Request → Order
  | .access =>
      match access with
      | .write register writedata =>
          .write ((ioCalcAddress register).extractLsb' 2 14) writedata
      | .read register => .read ((ioCalcAddress register).extractLsb' 2 14)
  | .elsewhere transfer =>
      if transfer.isWrite then
        .write (transfer.address.extractLsb' 2 14) transfer.writedata
      else .read (transfer.address.extractLsb' 2 14)

section Accounts

variable (program : Program Point) (tick : Tick) (state : State Point)

/-- The order that a slave takes in a cycle. -/
def takenBy (slave : Fin 4) : Option Order :=
  if slaveValid program tick state slave &&
      (readyVector program tick state).getLsbD slave then
    some (orderOf (routed program tick state))
  else none

/-- The order that any of the slaves takes. -/
def taken : Option Order :=
  if commandValid program tick state && !uavWaitrequest program tick state then
    some (orderOf (routed program tick state))
  else none

/-- The order of the request that ends in a cycle. -/
def ended : Option Order :=
  match state.request with
  | none => none
  | some request =>
      if waitrequest program tick state then none
      else some (request.order (program.access state.point))

/-- The order that a slave has taken and whose request has not ended. -/
def underWay : Option Order :=
  match state.request with
  | none => none
  | some request =>
      if state.masterTranslator.accepted then
        some (request.order (program.access state.point))
      else none

/-- The registers of the master translator belong to the request. -/
structure Accountable : Prop where
  idle : state.request = none → state.masterTranslator.accepted = false
  readKind : state.masterTranslator.readAccepted = true →
    (lines program tick state).write = false
  writeKind : state.masterTranslator.writeAccepted = true →
    (lines program tick state).write = true
  data : uavReaddatavalid tick state = true →
    state.masterTranslator.readAccepted = true
  released : commandValid program tick state = true →
    state.masterAgent.holdWaitrequest = false

end Accounts

variable {program : Program Point} {tick : Tick} {state : State Point}

theorem accountable_of_not_accepted {begun : Bool}
    (translator : state.masterTranslator = ⟨false, false, begun⟩)
    (pending : state.pending = fun _ => false) {counter : BitVec 2}
    (side : Side state counter [])
    (released : commandValid program tick state = true →
      state.masterAgent.holdWaitrequest = false) :
    Accountable program tick state := by
  refine ⟨fun _ => ?_, fun accepted => ?_, fun accepted => ?_, fun valid => ?_,
    released⟩
  · rw [translator]
    rfl
  · rw [translator] at accepted
    contradiction
  · rw [translator] at accepted
    contradiction
  · rw [uavReaddatavalid_of_quiet tick pending side] at valid
    contradiction

theorem accountable_of_read {request : Request}
    (requested : state.request = some request)
    (read : request.isWrite (program.access state.point) = false)
    (translator : state.masterTranslator = ⟨true, false, false⟩) :
    Accountable program tick state := by
  have quiet : commandValid program tick state = false :=
    commandValid_of_accepted requested (by
      rw [read, translator]
      rfl)
  have lines := (lines_of_some program tick requested).2
  refine ⟨fun none => ?_, fun _ => lines.trans read, fun accepted => ?_,
    fun _ => ?_, fun offered => ?_⟩
  · rw [requested] at none
    contradiction
  · rw [translator] at accepted
    contradiction
  · rw [translator]
  · rw [quiet] at offered
    contradiction

theorem accountable_of_write (written : Written program state) :
    Accountable program tick state := by
  obtain ⟨request, requested, write⟩ := written.requested
  have quiet : commandValid program tick state = false :=
    commandValid_of_accepted requested (by
      rw [write, written.masterTranslator]
      rfl)
  have lines := (lines_of_some program tick requested).2
  refine ⟨fun none => ?_, fun accepted => ?_, fun _ => lines.trans write,
    fun valid => ?_, fun offered => ?_⟩
  · rw [requested] at none
    contradiction
  · rw [written.masterTranslator] at accepted
    contradiction
  · rw [uavReaddatavalid_of_quiet tick written.pending written.side] at valid
    contradiction
  · rw [quiet] at offered
    contradiction

theorem Phase.accountable (phase : Phase program state) :
    Accountable program tick state := by
  cases phase with
  | free request resting =>
      refine accountable_of_not_accepted resting.masterTranslator
        resting.pending resting.side fun offered => ?_
      rw [commandValid_of_none program tick request] at offered
      contradiction
  | begun request released resting =>
      exact accountable_of_not_accepted resting.masterTranslator
        resting.pending resting.side fun _ => released.holdWaitrequest
  | waiting waiting =>
      exact accountable_of_not_accepted waiting.masterTranslator
        waiting.pending waiting.side fun _ => waiting.released.holdWaitrequest
  | answering answering =>
      exact accountable_of_read answering.requested answering.read
        answering.masterTranslator
  | written written => exact accountable_of_write written
  | away away =>
      obtain ⟨begun, translator⟩ := away.masterTranslator
      exact accountable_of_not_accepted translator away.pending away.side
        fun _ => away.released.holdWaitrequest
  | awayRead awayRead =>
      obtain ⟨transfer, requested, read⟩ := awayRead.requested
      exact accountable_of_read requested read awayRead.masterTranslator

section Command

theorem routed_addr (program : Program Point) (tick : Tick)
    (state : State Point) :
    (routed program tick state).addr =
      (lines program tick state).address.extractLsb' 2 14 ++ 0#2 :=
  rfl

/-- The command asks for what the request asks for. -/
theorem orderOf_routed {request : Request}
    (requested : state.request = some request)
    (offered : commandValid program tick state = true) :
    orderOf (routed program tick state) =
      request.order (program.access state.point) := by
  obtain ⟨reads, writes⟩ := lines_of_some program tick requested
  have kind : (routed program tick state).transWrite =
      request.isWrite (program.access state.point) := by
    change uavWrite program tick state = _
    rw [commandValid, MasterAgent.cpValid, uavRead, uavWrite,
      MasterTranslator.uavRead, MasterTranslator.uavWrite, reads, writes]
      at offered
    rw [uavWrite, MasterTranslator.uavWrite, writes]
    cases write : request.isWrite (program.access state.point) with
    | false => rfl
    | true => simpa [write] using offered
  have data : (routed program tick state).data =
      (lines program tick state).writedata := rfl
  rw [orderOf, kind, routed_addr, BitVec.extractLsb'_append_eq_left, data, lines,
    requested]
  cases request with
  | access =>
      cases access : program.access state.point with
      | write register writedata => rfl
      | read register => rfl
  | elsewhere transfer => rfl

/-- The order belongs to the slave on whose channel the command is. -/
theorem reaches_orderOf_routed (program : Program Point) (tick : Tick)
    (state : State Point) (slave : Fin 4) :
    (orderOf (routed program tick state)).reaches slave =
      (channel program tick state).getLsbD slave := by
  have word : (orderOf (routed program tick state)).word =
      (lines program tick state).address.extractLsb' 2 14 := by
    rw [orderOf, routed_addr, BitVec.extractLsb'_append_eq_left]
    split <;> rfl
  rw [Order.reaches, word]
  rfl

/-- The demultiplexer sees the slave ready on whose channel the command is. -/
theorem sinkReady_of_channel {channel : BitVec 4}
    (oneHot : channel = 1 <<< 0 ∨ channel = 1 <<< 1 ∨ channel = 1 <<< 2 ∨
      channel = 1 <<< 3) (ready : BitVec 4) (slave : Fin 4)
    (chosen : channel.getLsbD slave = true) :
    CmdXbarDemux001.sinkReady channel ready = ready.getLsbD slave := by
  have single : ∀ (ready : BitVec 4) (slave channel : Fin 4),
      (1 <<< (channel : Nat) : BitVec 4).getLsbD slave = true →
        CmdXbarDemux001.sinkReady (1 <<< (channel : Nat)) ready =
          ready.getLsbD slave := by
    decide
  rcases oneHot with rfl | rfl | rfl | rfl
  · exact single ready slave 0 chosen
  · exact single ready slave 1 chosen
  · exact single ready slave 2 chosen
  · exact single ready slave 3 chosen

/-- A slave takes the orders that belong to it. -/
theorem takenBy_eq (account : Accountable program tick state) (slave : Fin 4) :
    takenBy program tick state slave =
      (taken program tick state).filter (Order.reaches slave) := by
  cases offered : commandValid program tick state with
  | false => simp [takenBy, taken, slaveValid, CmdXbarDemux001.srcValid, offered]
  | true =>
      have waits : uavWaitrequest program tick state =
          !CmdXbarDemux001.sinkReady (channel program tick state)
            (readyVector program tick state) := by
        rw [uavWaitrequest, MasterAgent.avWaitrequest, account.released offered,
          Bool.false_or]
      have reaches := reaches_orderOf_routed program tick state slave
      rw [takenBy, taken, slaveValid, CmdXbarDemux001.srcValid, offered, waits]
      cases chosen : (channel program tick state).getLsbD slave with
      | false =>
          rw [chosen] at reaches
          cases CmdXbarDemux001.sinkReady (channel program tick state)
            (readyVector program tick state) <;> simp [Option.filter, reaches]
      | true =>
          rw [chosen] at reaches
          have ready : CmdXbarDemux001.sinkReady (channel program tick state)
              (readyVector program tick state) =
              (readyVector program tick state).getLsbD slave :=
            sinkReady_of_channel (AddrRouter001.decoded_oneHot _) _ slave chosen
          rw [ready]
          cases (readyVector program tick state).getLsbD slave <;>
            simp [Option.filter, reaches]

end Command

section Step

variable (entry : Point)

theorem underWay_of_accepted {request : Request}
    (requested : state.request = some request) :
    underWay program state =
      if state.masterTranslator.accepted then
        some (request.order (program.access state.point))
      else none := by
  rw [underWay, requested]

theorem underWay_of_not_accepted
    (notAccepted : state.masterTranslator.accepted = false) :
    underWay program state = none := by
  rw [underWay, notAccepted]
  split <;> rfl

/-- A request's command is taken when the master translator hands it over. -/
theorem taken_of_some {request : Request} {write : Bool}
    (requested : state.request = some request)
    (kind : request.isWrite (program.access state.point) = write) :
    taken program tick state =
      if MasterTranslator.accepts ⟨false, !write, write,
          uavWaitrequest program tick state, uavReaddatavalid tick state⟩
          state.masterTranslator then
        some (request.order (program.access state.point))
      else none := by
  obtain ⟨reads, writes⟩ := lines_of_some program tick requested
  rw [kind] at reads writes
  have same : (commandValid program tick state &&
      !uavWaitrequest program tick state) =
      MasterTranslator.accepts ⟨false, !write, write,
        uavWaitrequest program tick state, uavReaddatavalid tick state⟩
        state.masterTranslator := by
    rw [commandValid, MasterAgent.cpValid, uavRead, uavWrite, reads, writes]
    rfl
  rw [← same, taken]
  split
  · next accepts =>
      rw [orderOf_routed requested (Bool.and_eq_true _ _ ▸ accepts).1]
  · rfl

/-- A free data master leaves no mark in the master translator. -/
theorem accounts_of_none (account : Accountable program tick state)
    (low : tick.Low) (free : state.request = none) :
    (underWay program state).toList ++ (taken program tick state).toList =
      (ended program tick state).toList ++
        (underWay program (step program entry tick state)).toList := by
  have idle := account.idle free
  obtain ⟨reads, writes⟩ := lines_of_none program tick free
  obtain ⟨-, translator⟩ := masterTranslator_step entry low reads writes
    (rfl : uavWaitrequest program tick state = _)
    (rfl : uavReaddatavalid tick state = _)
  have next : (step program entry tick state).masterTranslator.accepted =
      false := by
    rw [translator]
    rw [MasterTranslator.State.accepted, Bool.or_eq_false_iff] at idle
    simp [MasterTranslator.State.accepted, MasterTranslator.step,
      MasterTranslator.avWaitrequest, MasterTranslator.uavWrite, idle]
  rw [underWay_of_not_accepted idle, underWay_of_not_accepted next, taken,
    commandValid_of_none program tick free, ended, free]
  rfl

/-- What has been taken before a cycle and is taken in it is what ends in it
and what is under way behind it. -/
theorem accounts (account : Accountable program tick state) (low : tick.Low) :
    (underWay program state).toList ++ (taken program tick state).toList =
      (ended program tick state).toList ++
        (underWay program (step program entry tick state)).toList := by
  cases requested : state.request with
  | none => exact accounts_of_none entry account low requested
  | some request =>
      obtain ⟨write, kind⟩ : ∃ write,
          request.isWrite (program.access state.point) = write := ⟨_, rfl⟩
      obtain ⟨reads, writes⟩ := lines_of_some program tick requested
      rw [kind] at reads writes
      obtain ⟨waits, translator⟩ := masterTranslator_step entry low reads writes
        (rfl : uavWaitrequest program tick state = _)
        (rfl : uavReaddatavalid tick state = _)
      have readKind := fun accepted =>
        writes.symm.trans (account.readKind accepted)
      have writeKind := fun accepted =>
        writes.symm.trans (account.writeKind accepted)
      rw [underWay_of_accepted requested, taken_of_some requested kind, ended,
        requested]
      cases ends : waitrequest program tick state with
      | false =>
          obtain ⟨once, nothing⟩ := MasterTranslator.accepted_of_end readKind
            writeKind account.data (waits.symm.trans ends)
          rw [← translator] at nothing
          rw [underWay_of_not_accepted nothing]
          generalize MasterTranslator.accepts _ _ = accepts at once ⊢
          cases accepted : state.masterTranslator.accepted <;>
            cases accepts <;> simp [accepted] at once ⊢
      | true =>
          obtain ⟨once, next⟩ := MasterTranslator.accepted_of_wait readKind
            writeKind account.data (waits.symm.trans ends)
          rw [← translator] at next
          rw [underWay_of_accepted (requestNext_of_wait entry low requested ends),
            pointNext_of_wait entry low ends, next]
          generalize MasterTranslator.accepts _ _ = accepts at once ⊢
          cases accepted : state.masterTranslator.accepted <;>
            cases accepts <;> simp [accepted] at once ⊢

end Step

/-- In every session, for each of the slaves: the commands that it has taken are
those of the requests at its addresses that have ended and of the one under way,
in order and each once. -/
theorem serves_each_request_once (program : Program Point) (entry : Point)
    (slaveHeld masterHeld : Nat) (ticks : Nat → Tick)
    (trace : Nat → State Point)
    (session : Session program entry slaveHeld masterHeld ticks trace)
    (slave : Fin 4) (offset : Nat) :
    Events.before (fun earlier => takenBy program (ticks (masterHeld + earlier))
        (trace (masterHeld + earlier)) slave) offset =
      (Events.before (fun earlier => ended program (ticks (masterHeld + earlier))
          (trace (masterHeld + earlier))) offset ++
        (underWay program (trace (masterHeld + offset))).toList).filter
          (Order.reaches slave) := by
  induction offset with
  | zero =>
      rw [Nat.add_zero, underWay, session.starts.1]
      rfl
  | succ offset ih =>
      have after : masterHeld ≤ masterHeld + offset :=
        Nat.le_add_right masterHeld offset
      have account : Accountable program (ticks (masterHeld + offset))
          (trace (masterHeld + offset)) :=
        (session.phase after).accountable
      have balance := accounts entry account (session.low after)
      rw [← session.follows] at balance
      rw [Events.before, ih, takenBy_eq account, Option.toList_filter,
        ← List.filter_append, List.append_assoc, balance, ← List.append_assoc]
      rfl

/-- The first of two writes has ended and the second is under way when the
bridge has taken both. -/
theorem serves_each_request_once_busyRun :
    [Order.write 0x2400 0x89ABCDEF, Order.write 0x2401 0x01234567] =
      (Events.before (fun earlier => ended (Main.program Main.constants)
          (busyTicks (3 + earlier)) (busyRun (3 + earlier))) 4 ++
        (underWay (Main.program Main.constants) (busyRun (3 + 4))).toList).filter
          (Order.reaches 3) :=
  serves_each_request_once _ _ 2 3 _ _ session_busyRun 3 4

end Interconnect

end TripleDes

import TripleDes.Interconnect.Commands

/-!
# The answer to each read

The responses of the slaves meet in a multiplexer without arbitration.  No two
of them ever meet there: a slave answers only when the processor waits for a
read at one of its addresses, and the read returns its word.
-/

namespace TripleDes

open Clocked BusMaster

namespace Interconnect

variable {Point : Type*} {program : Program Point} {tick : Tick}
  {state : State Point}

/-- What the responses have to do with the request: a slave responds only to a
read at its address, alone, and the read ends with its word; and no read ends
without a response. -/
structure Answered (program : Program Point) (tick : Tick)
    (state : State Point) : Prop where
  reads {sink : Fin 4} : responseValid tick state sink = true →
    ∃ request, state.request = some request ∧
      request.isWrite (program.access state.point) = false ∧
      (request.order (program.access state.point)).reaches sink = true ∧
      waitrequest program tick state = false
  alone {first second : Fin 4} : responseValid tick state first = true →
    responseValid tick state second = true → first = second
  word {sink : Fin 4} : responseValid tick state sink = true →
    (rpData tick state).data = (responseData tick state sink).data
  ends {request : Request} : state.request = some request →
    request.isWrite (program.access state.point) = false →
      waitrequest program tick state = false →
        ∃ sink, responseValid tick state sink = true

/-- A read that another slave has taken is the request of the processor. -/
def Owed (program : Program Point) (state : State Point) : Prop :=
  ∀ slave : Fin 3, state.pending slave = true →
    ∃ request, state.request = some request ∧
      (request.order (program.access state.point)).reaches slave.castSucc = true

theorem waitrequest_of_read {request : Request}
    (requested : state.request = some request)
    (read : request.isWrite (program.access state.point) = false) :
    waitrequest program tick state = !uavReaddatavalid tick state := by
  have reads := (lines_of_some program tick requested).1
  rw [read] at reads
  rw [waitrequest, MasterTranslator.avWaitrequest, masterTranslatorInput, reads]
  rfl

theorem answered_of_quiet (none : state.pending = fun _ => false)
    {counter : BitVec 2} (side : Side state counter []) :
    Answered program tick state := by
  have quiet := responseValid_of_quiet tick none side
  have valid := uavReaddatavalid_of_quiet tick none side
  refine ⟨fun {sink} responds => ?_, fun {first _} responds _ => ?_,
    fun {sink} responds => ?_, fun requested read ends => ?_⟩
  · rw [quiet sink] at responds
    contradiction
  · rw [quiet first] at responds
    contradiction
  · rw [quiet sink] at responds
    contradiction
  · rw [waitrequest_of_read requested read, valid] at ends
    contradiction

/-- When a single slave can respond, and the processor waits for a read at its
address, the response is the answer. -/
theorem answered_of_single {slave : Fin 4} {responds : Bool} {request : Request}
    (single : ∀ sink, responseValid tick state sink =
      (sink == slave && responds))
    (valid : uavReaddatavalid tick state = responds)
    (requested : state.request = some request)
    (read : request.isWrite (program.access state.point) = false)
    (reaches : (request.order (program.access state.point)).reaches slave =
      true) :
    Answered program tick state := by
  have only {sink : Fin 4} (answers : responseValid tick state sink = true) :
      sink = slave ∧ responds = true := by
    rw [single, Bool.and_eq_true, beq_iff_eq] at answers
    exact answers
  have wait : waitrequest program tick state = !uavReaddatavalid tick state :=
    waitrequest_of_read requested read
  refine ⟨fun answers => ?_, fun first second => ?_, fun answers => ?_,
    fun {other} also _ ends => ⟨slave, ?_⟩⟩
  · obtain ⟨rfl, responding⟩ := only answers
    exact ⟨request, requested, read, reaches, by rw [wait, valid, responding]; rfl⟩
  · exact (only first).1.trans (only second).1.symm
  · obtain ⟨rfl, responding⟩ := only answers
    have passed := RspXbarMux001.srcData_of_single answers
      (fun other differs => by simp [single, differs]) (responseData tick state)
    exact congrArg Packet.data passed
  · rw [wait, valid] at ends
    rw [single, beq_self_eq_true, Bool.true_and]
    simpa using ends

theorem reaches_of_access (access : Access) :
    (Request.access.order access).reaches 3 = true := by
  have bridge (register : BitVec 4) :
      (AddrRouter001.decoded
        ((ioCalcAddress register).extractLsb' 2 14 ++ 0#2)).1.getLsbD 3 =
          true := by
    rw [decoded_ioCalcAddress]
    rfl
  cases access with
  | write register writedata => exact bridge register
  | read register => exact bridge register

theorem Answering.answered (answering : Answering program state) :
    Answered program tick state := by
  obtain ⟨awaited, response, side⟩ := answering.side
  have valid := (response_of_awaited tick answering.pending side response).1
  refine answered_of_single (fun sink => ?_) valid answering.requested
    answering.read (reaches_of_access _)
  rw [Bool.and_true]
  by_cases last : sink = 3
  · rw [last]
    exact side.responseValid_three tick
  · rw [responseValid_of_pending tick last answering.pending,
      beq_false_of_ne last]

theorem AwayRead.answered (awayRead : AwayRead state)
    (owed : Owed program state) : Answered program tick state := by
  obtain ⟨transfer, requested, read⟩ := awayRead.requested
  obtain ⟨slave, single⟩ := awayRead.pending
  obtain ⟨request, same, reaches⟩ := owed slave (by simp [single])
  obtain rfl : .elsewhere transfer = request :=
    Option.some.inj (requested.symm.trans same)
  exact answered_of_single
    (responseValid_of_elsewhere tick single awayRead.side)
    (uavReaddatavalid_of_elsewhere tick single awayRead.side) requested read
    reaches

theorem Phase.answered (phase : Phase program state)
    (owed : Owed program state) : Answered program tick state := by
  cases phase with
  | free _ resting => exact answered_of_quiet resting.pending resting.side
  | begun _ _ resting => exact answered_of_quiet resting.pending resting.side
  | waiting waiting => exact answered_of_quiet waiting.pending waiting.side
  | answering answering => exact answering.answered
  | written written => exact answered_of_quiet written.pending written.side
  | away away => exact answered_of_quiet away.pending away.side
  | awayRead awayRead => exact awayRead.answered owed

/-- Only a read elsewhere leaves an answer owed. -/
theorem Phase.pending_cases (phase : Phase program state) :
    (state.pending = fun _ => false) ∨ AwayRead state := by
  cases phase with
  | free _ resting => exact .inl resting.pending
  | begun _ _ resting => exact .inl resting.pending
  | waiting waiting => exact .inl waiting.pending
  | answering answering => exact .inl answering.pending
  | written written => exact .inl written.pending
  | away away => exact .inl away.pending
  | awayRead awayRead => exact .inr awayRead

section Step

variable (entry : Point) (phase : Phase program state) (low : tick.Low)
include phase low

/-- A slave that takes a read owes an answer to the request. -/
theorem owed_of_taken {slave : Fin 3}
    (valid : slaveValid program tick state slave = true)
    (read : (routed program tick state).transRead = true) :
    ∃ request, (step program entry tick state).request = some request ∧
      (request.order
        (program.access (step program entry tick state).point)).reaches
          slave.castSucc = true := by
  have account : Accountable program tick state := phase.accountable
  have reads : uavRead program tick state = true := read
  rw [slaveValid, CmdXbarDemux001.srcValid, Bool.and_eq_true] at valid
  obtain ⟨chosen, offered⟩ := valid
  cases requested : state.request with
  | none =>
      rw [commandValid_of_none program tick requested] at offered
      contradiction
  | some request =>
      rw [uavRead, MasterTranslator.uavRead, Bool.and_eq_true,
        Bool.not_eq_true'] at reads
      have kind : request.isWrite (program.access state.point) = false := by
        rw [(lines_of_some program tick requested).1] at reads
        simpa using reads.1
      have unanswered : uavReaddatavalid tick state = false := by
        rw [Bool.eq_false_iff]
        intro answers
        rw [account.data answers] at reads
        exact absurd reads.2 (by decide)
      have waits : waitrequest program tick state = true := by
        rw [waitrequest_of_read requested kind, unanswered]
        rfl
      refine ⟨request, requestNext_of_wait entry low requested waits, ?_⟩
      rw [pointNext_of_wait entry low waits, ← orderOf_routed requested offered,
        reaches_orderOf_routed]
      exact chosen

theorem owed_step (owed : Owed program state) :
    Owed program (step program entry tick state) := by
  intro slave next
  change pendingNext program tick state slave = true at next
  rw [pendingNext, low.masterReset, if_neg Bool.false_ne_true] at next
  split at next
  · next takes =>
      simp only [Bool.and_eq_true] at takes
      exact owed_of_taken entry phase low takes.1.1 takes.1.2
  · rw [Bool.and_eq_true, Bool.not_eq_true'] at next
    obtain ⟨owes, silent⟩ := next
    rcases phase.pending_cases with none | awayRead
    · rw [none] at owes
      contradiction
    · obtain ⟨transfer, requested, read⟩ := awayRead.requested
      obtain ⟨other, single⟩ := awayRead.pending
      obtain rfl : slave = other := by simpa [single] using owes
      have waits : waitrequest program tick state = true := by
        rw [waitrequest_of_read requested read,
          uavReaddatavalid_of_elsewhere tick single awayRead.side, silent]
        rfl
      obtain ⟨request, same, reaches⟩ := owed slave owes
      refine ⟨request, requestNext_of_wait entry low same waits, ?_⟩
      rwa [pointNext_of_wait entry low waits]

end Step

theorem Session.owed {entry : Point} {slaveHeld masterHeld : Nat}
    {ticks : Nat → Tick} {trace : Nat → State Point}
    (session : Session program entry slaveHeld masterHeld ticks trace)
    {cycle : Nat} (after : masterHeld ≤ cycle) : Owed program (trace cycle) := by
  induction cycle, after using Nat.le_induction with
  | base =>
      intro slave owes
      rw [session.starts.2.pending] at owes
      contradiction
  | succ cycle reached ih =>
      rw [session.follows]
      exact owed_step entry (session.phase reached) (session.low reached) ih

/-- In every cycle of every session the responses of the slaves belong to the
read for which the processor waits, whatever the slaves do. -/
theorem answers_each_read (program : Program Point) (entry : Point)
    (slaveHeld masterHeld : Nat) (ticks : Nat → Tick)
    (trace : Nat → State Point)
    (session : Session program entry slaveHeld masterHeld ticks trace)
    (cycle : Nat) (after : masterHeld ≤ cycle) :
    Answered program (ticks cycle) (trace cycle) :=
  (session.phase after).answered (session.owed after)

/-- A processor that reads the memory again and again. -/
def readingTicks (cycle : Nat) : Tick :=
  { busyTicks cycle with
    begins := some (.elsewhere ⟨false, 0x4000, 0, by decide⟩)
    readdata := fun _ => 0xCAFE }

def readingRun : Nat → State Main.Point :=
  run (step (Main.program Main.constants) (Main.entry 0 0)) readingTicks
    (zeroState (Main.entry 0 0))

theorem session_readingRun : Session (Main.program Main.constants)
    (Main.entry 0 0) 2 3 readingTicks readingRun :=
  session_of_counts Des3Avalon.drained_default (fun _ => rfl) (fun _ => rfl)
    Nat.one_lt_two (Nat.le_succ 2)

theorem answers_each_read_readingRun :
    responseValid (readingTicks 5) (readingRun 5) 2 = true ∧
      (rpData (readingTicks 5) (readingRun 5)).data = 0xCAFE := by
  have responds : responseValid (readingTicks 5) (readingRun 5) 2 = true := by
    rfl
  exact ⟨responds, (answers_each_read _ _ 2 3 _ _ session_readingRun 5
    (by decide)).word responds⟩

end Interconnect

end TripleDes

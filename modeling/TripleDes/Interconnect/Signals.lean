import TripleDes.Interconnect.Network

/-!
# Signals on the network

What the wires carry, given what the data master requests and how far the side
of the bridge has come: commands for the bridge reach it and no others do, the
response queue never fills up, and a response comes from the slave that was
asked.
-/

namespace TripleDes

open Clocked BusMaster

def BusMaster.Access.isWrite : Access → Bool
  | .write _ _ => true
  | .read _ => false

def BusMaster.Access.register : Access → BitVec 4
  | .write register _ => register
  | .read register => register

namespace Interconnect

variable {Point : Type*}

/-- The request is a write, when the program is at the given access. -/
def Request.isWrite (access : Access) : Request → Bool
  | .access => access.isWrite
  | .elsewhere transfer => transfer.isWrite

section Lines

variable (program : Program Point) (tick : Tick) {state : State Point}

theorem lines_of_none (free : state.request = none) :
    (lines program tick state).read = false ∧
      (lines program tick state).write = false := by
  rw [lines, free]
  exact ⟨rfl, rfl⟩

theorem lines_of_some {request : Request}
    (requested : state.request = some request) :
    (lines program tick state).read =
        !request.isWrite (program.access state.point) ∧
      (lines program tick state).write =
        request.isWrite (program.access state.point) := by
  rw [lines, requested]
  cases request with
  | access => cases program.access state.point <;> exact ⟨rfl, rfl⟩
  | elsewhere transfer => exact ⟨rfl, rfl⟩

theorem commandValid_of_none (free : state.request = none) :
    commandValid program tick state = false := by
  obtain ⟨noRead, noWrite⟩ := lines_of_none program tick free
  simp [commandValid, MasterAgent.cpValid, uavRead, uavWrite,
    MasterTranslator.uavRead, MasterTranslator.uavWrite, noRead, noWrite]

end Lines

@[simp]
theorem bridgeRpChannel_eq (state : State Point) :
    bridgeRpChannel state = 0b0001 := by
  rw [bridgeRpChannel, IdRouter003.srcChannel, ite_self]

@[simp]
theorem responseValid_castSucc (tick : Tick) (state : State Point)
    (slave : Fin 3) : responseValid tick state slave.castSucc =
      (state.pending slave && tick.responds slave) := by
  rw [responseValid, Fin.snoc_castSucc]

theorem responseData_castSucc (tick : Tick) (state : State Point)
    (slave : Fin 3) : responseData tick state slave.castSucc =
      { (0 : Packet) with data := tick.readdata slave, transRead := true } := by
  rw [responseData, Fin.snoc_castSucc]

/-- The side of the bridge: the wait counter, and the commands that wait for
their response. -/
structure Side (state : State Point) (counter : BitVec 2)
    (contents : List Awaited) : Prop where
  waitLatencyCounter : state.slaveTranslator.waitLatencyCounter = counter
  readLatencyShiftReg :
    state.slaveTranslator.readLatencyShiftReg = !contents.isEmpty
  rspFifo : ScFifo.Holds state.rspFifo contents
  single : contents.length ≤ 1

namespace Side

variable {state : State Point} {counter : BitVec 2} {contents : List Awaited}
  (side : Side state counter contents) (tick : Tick)
include side

theorem outValid_eq : state.rspFifo.outValid = !contents.isEmpty := by
  rw [Bool.eq_iff_iff, side.rspFifo.outValid_iff]
  cases contents <;> simp

theorem bridgeRpValid_eq : bridgeRpValid state = !contents.isEmpty := by
  rw [bridgeRpValid, SlaveAgent.rpValid, SlaveAgent.uncompressorSourceValid,
    side.readLatencyShiftReg, side.outValid_eq]
  cases contents <;> rfl

theorem responseValid_three : responseValid tick state 3 = !contents.isEmpty := by
  rw [← side.bridgeRpValid_eq, show (3 : Fin 4) = Fin.last 3 from rfl,
    responseValid, Fin.snoc_last, RspXbarDemux003.src0Valid, bridgeRpChannel_eq]
  exact Bool.true_and _

/-- The master agent takes every response. -/
theorem rfSinkReady_eq : rfSinkReady tick state = !contents.isEmpty := by
  have ready : ∀ valid, RspXbarDemux003.sinkReady 1 valid = valid := by decide
  have responds : responseValid tick state (Fin.last 3) = !contents.isEmpty :=
    side.responseValid_three tick
  rw [rfSinkReady, SlaveAgent.rfSinkReady, SlaveAgent.uncompressorSourceValid,
    side.readLatencyShiftReg, side.outValid_eq, bridgeRpReady,
    RspXbarMux001.sinkReady, RspXbarMux001.grant, MasterAgent.rpReady,
    bridgeRpChannel_eq, responds, ready]
  cases contents <;> rfl

/-- The response queue never holds a command up. -/
theorem rfSourceReady_eq : rfSourceReady tick state = true := by
  have single := side.single
  rw [rfSourceReady, ScFifo.inReady, ScFifo.full, if_neg (by decide),
    side.rspFifo.used]
  simpa using by omega

end Side

section Commands

variable (program : Program Point) (tick : Tick) {state : State Point}

theorem decoded_ioCalcAddress : ∀ register : BitVec 4,
    AddrRouter001.decoded
        ((ioCalcAddress register).extractLsb' 2 14 ++ 0#2) = (0b1000, 0) := by
  decide

theorem avAddress_ioCalcAddress : ∀ register : BitVec 4,
    SlaveTranslator.avAddress
        (((ioCalcAddress register).extractLsb' 2 14 ++ 0#2).extractLsb' 2 14 ++
          0#2) = register := by
  decide

/-- Aligning an address to words does not change the slave. -/
theorem selectsBridge_aligned (address : BitVec 16) :
    AddrRouter001.selectsBridge (address.extractLsb' 2 14 ++ 0#2) =
      AddrRouter001.selectsBridge address := by
  have aligned : (address.extractLsb' 2 14 ++ 0#2).toNat =
      address.toNat / 4 * 4 := by
    have below := address.isLt
    simp only [BitVec.toNat_append, BitVec.extractLsb'_toNat,
      BitVec.toNat_zero, Nat.or_zero, Nat.shiftLeft_eq,
      Nat.shiftRight_eq_div_pow]
    omega
  rw [Bool.eq_iff_iff, AddrRouter001.selectsBridge_iff,
    AddrRouter001.selectsBridge_iff, aligned]
  omega

theorem lines_address (requested : state.request = some .access) :
    (lines program tick state).address =
      ioCalcAddress (program.access state.point).register := by
  rw [lines, requested]
  cases program.access state.point <;> rfl

theorem channel_of_access (requested : state.request = some .access) :
    channel program tick state = 0b1000 := by
  rw [channel, AddrRouter001.srcChannel, command, MasterAgent.cpData,
    lines_address program tick requested, decoded_ioCalcAddress]

/-- The bridge is ready for the command that it has on its channel. -/
theorem uavWaitrequest_of_access (requested : state.request = some .access) :
    uavWaitrequest program tick state =
      (state.masterAgent.holdWaitrequest ||
        !bridgeCpReady program tick state) := by
  have last : ∀ (bridge : Bool) (others : BitVec 3),
      CmdXbarDemux001.sinkReady 0b1000 (BitVec.ofBool bridge ++ others) =
        bridge := by
    decide
  rw [uavWaitrequest, MasterAgent.avWaitrequest,
    channel_of_access program tick requested, readyVector, last]

theorem slaveValid_of_elsewhere {transfer : Elsewhere}
    (requested : state.request = some (.elsewhere transfer)) :
    slaveValid program tick state 3 = false := by
  have away : (channel program tick state).getLsbD 3 = false := by
    change AddrRouter001.selectsBridge _ = false
    rw [command, MasterAgent.cpData, lines, requested, selectsBridge_aligned]
    exact transfer.away
  rw [slaveValid, CmdXbarDemux001.srcValid, away, Bool.false_and]

theorem slaveValid_of_no_command
    (idle : commandValid program tick state = false) (source : Nat) :
    slaveValid program tick state source = false := by
  rw [slaveValid, CmdXbarDemux001.srcValid, idle, Bool.and_false]

/-- An access elsewhere is a command for one of the other slaves. -/
theorem channel_of_elsewhere {transfer : Elsewhere}
    (requested : state.request = some (.elsewhere transfer)) :
    ∃ slave : Fin 3,
      (∀ other : Fin 3, slaveValid program tick state other =
        (other == slave && commandValid program tick state)) ∧
      CmdXbarDemux001.sinkReady (channel program tick state)
        (readyVector program tick state) = tick.ready slave := by
  have away : (channel program tick state).getLsbD 3 = false := by
    change AddrRouter001.selectsBridge _ = false
    rw [command, MasterAgent.cpData, lines, requested, selectsBridge_aligned]
    exact transfer.away
  have chosen : ∀ (bridge : Bool) (others : BitVec 3) (slave : Fin 3),
      CmdXbarDemux001.sinkReady (1 <<< (slave : Nat))
        (BitVec.ofBool bridge ++ others) = others.getLsbD slave := by
    decide
  have ready (slave : Fin 3) :
      CmdXbarDemux001.sinkReady (1 <<< (slave : Nat))
        (readyVector program tick state) = tick.ready slave := by
    rw [readyVector, chosen, Wiring.getLsbD_ofBits]
  simp only [slaveValid, CmdXbarDemux001.srcValid]
  rcases AddrRouter001.decoded_oneHot (command program tick state).addr with
    zero | one | two | three
  · have chosen : channel program tick state = 1 <<< 0 := zero
    rw [chosen]
    exact ⟨0, fun other => by fin_cases other <;> rfl, ready 0⟩
  · have chosen : channel program tick state = 1 <<< 1 := one
    rw [chosen]
    exact ⟨1, fun other => by fin_cases other <;> rfl, ready 1⟩
  · have chosen : channel program tick state = 1 <<< 2 := two
    rw [chosen]
    exact ⟨2, fun other => by fin_cases other <;> rfl, ready 2⟩
  · have chosen : channel program tick state = 1 <<< 3 := three
    rw [chosen] at away
    contradiction

end Commands

namespace Side

variable {state : State Point} {counter : BitVec 2} {contents : List Awaited}
  (side : Side state counter contents) (program : Program Point)
  {tick : Tick} (entry : Point)
include side

theorem m0Read_eq : m0Read program tick state =
    (slaveValid program tick state 3 && uavRead program tick state) := by
  rw [m0Read, SlaveAgent.m0Read, side.rfSourceReady_eq]
  rfl

theorem m0Write_eq : m0Write program tick state =
    (slaveValid program tick state 3 && uavWrite program tick state) := by
  rw [m0Write, SlaveAgent.m0Write, side.rfSourceReady_eq]
  rfl

theorem m0Write_of_quiet (quiet : slaveValid program tick state 3 = false) :
    m0Write program tick state = false := by
  rw [side.m0Write_eq, quiet, Bool.false_and]

theorem bridgeCpReady_eq : bridgeCpReady program tick state =
    !m0Waitrequest program tick state := by
  rw [bridgeCpReady, SlaveAgent.cpReady, side.rfSourceReady_eq, Bool.and_true]

/-- A read that the slave translator lets pass waits for its response; a posted
write does not. -/
theorem rspFifo_step (low : tick.slaveReset = false) :
    ScFifo.Holds (step program entry tick state).rspFifo
      (if slaveValid program tick state 3 && uavRead program tick state &&
          !m0Waitrequest program tick state then
        [⟨{ routed program tick state with data := 0 }, false⟩]
      else []) := by
  have holds := side.rspFifo.step (rspFifoInput program tick state) low
  have posted : SlaveAgent.nonpostedWriteEndofpacket
      (slaveValid program tick state 3) (routed program tick state) = false := by
    change (!uavWrite program tick state &&
      (slaveValid program tick state 3 && uavWrite program tick state)) = false
    cases uavWrite program tick state <;> simp
  have writes : ScFifo.write (rspFifoInput program tick state) state.rspFifo =
      (slaveValid program tick state 3 && uavRead program tick state &&
        !m0Waitrequest program tick state) := by
    change (rfSourceReady tick state && SlaveAgent.rfSourceValid _ _ _ _) = _
    rw [side.rfSourceReady_eq, SlaveAgent.rfSourceValid, posted,
      SlaveAgent.cpReady]
    simp [SlaveAgent.localRead, routed, AddrRouter001.srcData, command,
      MasterAgent.cpData]
  have leaves : ScFifo.read (rspFifoInput program tick state).outReady
      state.rspFifo = !contents.isEmpty := by
    change ScFifo.read (rfSinkReady tick state) _ = _
    rw [side.rfSinkReady_eq, ScFifo.read, side.outValid_eq]
    cases contents <;> rfl
  have rest : (if !contents.isEmpty then contents.tail else contents) = [] := by
    have single := side.single
    cases contents with
    | nil => rfl
    | cons awaited contents => simpa using single
  have payload : (rspFifoInput program tick state).inPayload =
      ⟨{ routed program tick state with data := 0 }, false⟩ := by
    rw [rspFifoInput, SlaveAgent.rfSourceData, posted]
  rw [Queue.step, leaves, rest, List.nil_append, ScFifo.arriving, writes,
    payload, apply_ite Option.toList] at holds
  exact holds

/-- Without a command the side of the bridge comes to rest. -/
theorem rest (low : tick.slaveReset = false)
    (quiet : slaveValid program tick state 3 = false) :
    Side (step program entry tick state) 0 [] where
  waitLatencyCounter := by
    simp [step, SlaveTranslator.step, slaveTranslatorInput, low,
      side.m0Read_eq, side.m0Write_eq, quiet]
  readLatencyShiftReg := by
    simp [step, SlaveTranslator.step, slaveTranslatorInput, low,
      side.m0Read_eq, quiet]
  rspFifo := by
    have holds := side.rspFifo_step program entry low
    rwa [quiet] at holds
  single := Nat.zero_le 1

end Side

section Responses

variable (tick : Tick) {state : State Point} {counter : BitVec 2}

theorem responseValid_of_pending {slave : Fin 4} (inner : slave ≠ 3)
    (none : state.pending = fun _ => false) :
    responseValid tick state slave = false := by
  obtain ⟨slave, rfl⟩ := Fin.exists_castSucc_eq.mpr inner
  rw [responseValid_castSucc, none, Bool.false_and]

/-- No slave responds unasked. -/
theorem responseValid_of_quiet (none : state.pending = fun _ => false)
    (side : Side state counter []) (sink : Fin 4) :
    responseValid tick state sink = false := by
  by_cases last : sink = 3
  · rw [last, side.responseValid_three]
    rfl
  · exact responseValid_of_pending tick last none

theorem uavReaddatavalid_of_quiet (none : state.pending = fun _ => false)
    (side : Side state counter []) : uavReaddatavalid tick state = false := by
  have quiet := responseValid_of_quiet tick none side
  have silent : rpValid tick state = false := by
    simp [rpValid, RspXbarMux001.srcValid, RspXbarMux001.grant, quiet]
  simp [uavReaddatavalid, MasterAgent.avReaddatavalid, silent]

/-- The bridge answers with the word that its translator has registered. -/
theorem response_of_awaited {awaited : Awaited}
    (none : state.pending = fun _ => false)
    (side : Side state counter [awaited])
    (read : awaited.packet.transWrite = false) :
    uavReaddatavalid tick state = true ∧
      (rpData tick state).data = state.slaveTranslator.avReaddataPre := by
  have responds : responseValid tick state 3 = true := side.responseValid_three tick
  have passed : rpData tick state = bridgeRpData state :=
    RspXbarMux001.srcData_of_single responds
      (fun other inner => responseValid_of_pending tick inner none) _
  have valid : rpValid tick state = true :=
    (RspXbarMux001.srcValid_iff _).mpr ⟨3, responds⟩
  have head : state.rspFifo.outPayload = awaited :=
    side.rspFifo.mem 0 awaited rfl
  constructor
  · rw [uavReaddatavalid, MasterAgent.avReaddatavalid, valid, passed,
      bridgeRpData, SlaveAgent.rpData, head, if_neg (by simp [read])]
  · rw [passed]
    rfl

/-- Another slave answers for itself. -/
theorem responseValid_of_elsewhere {slave : Fin 3}
    (single : state.pending = fun other => other == slave)
    (side : Side state counter []) (sink : Fin 4) :
    responseValid tick state sink =
      (sink == slave.castSucc && tick.responds slave) := by
  have bridge : responseValid tick state 3 = false := side.responseValid_three tick
  induction sink using Fin.lastCases with
  | last =>
      have other : Fin.last 3 ≠ slave.castSucc := (Fin.castSucc_ne_last slave).symm
      rw [beq_false_of_ne other, Bool.false_and]
      exact bridge
  | cast other =>
      have asked : state.pending other = (other == slave) :=
        congrFun single other
      rw [responseValid_castSucc, asked]
      by_cases same : other = slave
      · simp [same]
      · have apart : other.castSucc ≠ slave.castSucc :=
          fun equal => same (Fin.castSucc_injective 3 equal)
        rw [beq_false_of_ne apart, beq_false_of_ne same]
        rfl

theorem uavReaddatavalid_of_elsewhere {slave : Fin 3}
    (single : state.pending = fun other => other == slave)
    (side : Side state counter []) :
    uavReaddatavalid tick state = tick.responds slave := by
  have valid := responseValid_of_elsewhere tick single side
  rw [uavReaddatavalid, MasterAgent.avReaddatavalid]
  cases responds : tick.responds slave with
  | false =>
      have silent : rpValid tick state = false := by
        simp [rpValid, RspXbarMux001.srcValid, RspXbarMux001.grant, valid,
          responds]
      rw [silent, ite_self]
  | true =>
      have answers : responseValid tick state slave.castSucc = true := by
        simp [valid, responds]
      have passed : rpData tick state = responseData tick state slave.castSucc :=
        RspXbarMux001.srcData_of_single answers (fun other differs => by
          simp [valid, differs]) _
      have arrives : rpValid tick state = true :=
        (RspXbarMux001.srcValid_iff _).mpr ⟨slave.castSucc, answers⟩
      have read : (responseData tick state slave.castSucc).transWrite = false := by
        rw [responseData_castSucc]
        rfl
      rw [passed, read, arrives]
      rfl

end Responses

end Interconnect

end TripleDes

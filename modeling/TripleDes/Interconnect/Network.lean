import TripleDes.BusMaster
import TripleDes.Interconnect.Agents
import TripleDes.Interconnect.ScFifo

/-!
# From the processor to the bridge

The data master of the processor, its path through the network to the bridge
as `system.v` connects it, and the three other slaves.  What the processor
does between two accesses of the program, how long the other slaves take, and
what they return is left open.
-/

namespace TripleDes

open Clocked BusMaster

namespace Interconnect

/-- The address of a register, `__IO_CALC_ADDRESS_NATIVE(A_3DES_0_BASE, REGNUM)`. -/
def ioCalcAddress (register : BitVec 4) : BitVec 16 :=
  0x9000 + register.setWidth 16 * 4

/-- An access of the processor to one of the other slaves. -/
structure Elsewhere where
  isWrite : Bool
  address : BitVec 16
  writedata : BitVec 32
  away : AddrRouter001.selectsBridge address = false

/-- What the data master has requested: the next access of the program, or an
access elsewhere. -/
inductive Request where
  | access
  | elsewhere (transfer : Elsewhere)

/-- What happens in one cycle besides the program and the network: the resets,
the request that the processor begins with when the data master is free, the
signals on the lines that no request drives, and the other slaves. -/
structure Tick where
  masterReset : Bool
  slaveReset : Bool
  begins : Option Request
  idleAddress : BitVec 16
  idleWritedata : BitVec 32
  ready : Fin 3 → Bool
  responds : Fin 3 → Bool
  readdata : Fin 3 → BitVec 32

/-- The program, the request registers of the data master, the registers of the
network, the reads that the other slaves have yet to answer, and the bridge. -/
structure State (Point : Type*) where
  point : Point
  request : Option Request
  masterTranslator : MasterTranslator.State
  masterAgent : MasterAgent.State
  slaveTranslator : SlaveTranslator.State
  rspFifo : ScFifo.State 2 Awaited
  pending : Fin 3 → Bool
  bridge : Des3Avalon.State

/-- The data master in one cycle. -/
structure Lines where
  read : Bool
  write : Bool
  address : BitVec 16
  writedata : BitVec 32

variable {Point : Type*}

def accessLines (tick : Tick) : Access → Lines
  | .write register writedata => ⟨false, true, ioCalcAddress register, writedata⟩
  | .read register => ⟨true, false, ioCalcAddress register, tick.idleWritedata⟩

section Wires

variable (program : Program Point) (tick : Tick) (state : State Point)

def lines : Lines :=
  match state.request with
  | none => ⟨false, false, tick.idleAddress, tick.idleWritedata⟩
  | some .access => accessLines tick (program.access state.point)
  | some (.elsewhere transfer) =>
      ⟨!transfer.isWrite, transfer.isWrite, transfer.address,
        transfer.writedata⟩

/-- The master translator and agent put a command on the network. -/
def uavRead : Bool :=
  MasterTranslator.uavRead (lines program tick state).read
    state.masterTranslator

def uavWrite : Bool :=
  MasterTranslator.uavWrite (lines program tick state).write
    state.masterTranslator

def command : Packet :=
  MasterAgent.cpData (uavRead program tick state) (uavWrite program tick state)
    (lines program tick state).address (lines program tick state).writedata

def commandValid : Bool :=
  MasterAgent.cpValid (uavRead program tick state) (uavWrite program tick state)

def routed : Packet :=
  AddrRouter001.srcData (command program tick state)

def channel : BitVec 4 :=
  AddrRouter001.srcChannel (command program tick state)

/-- The command reaches a slave; the bridge is the last of them. -/
def slaveValid (source : Nat) : Bool :=
  CmdXbarDemux001.srcValid (channel program tick state)
    (commandValid program tick state) source

end Wires

section Responses

variable (tick : Tick) (state : State Point)

/-- The response of the bridge, up to the response multiplexer. -/
def bridgeRpValid : Bool :=
  SlaveAgent.rpValid state.rspFifo.outValid
    state.slaveTranslator.readLatencyShiftReg state.rspFifo.outPayload

def bridgeRpData : Packet :=
  SlaveAgent.rpData state.rspFifo.outPayload state.slaveTranslator.avReaddataPre

def bridgeRpChannel : BitVec 4 :=
  IdRouter003.srcChannel (bridgeRpData state)

/-- The valid inputs of the response multiplexer. -/
def responseValid : Fin 4 → Bool :=
  Fin.snoc (fun slave : Fin 3 => state.pending slave && tick.responds slave)
    (RspXbarDemux003.src0Valid (bridgeRpChannel state) (bridgeRpValid state))

/-- The other slaves respond with a word to a read. -/
def responseData : Fin 4 → Packet :=
  Fin.snoc (fun slave : Fin 3 =>
    { (0 : Packet) with data := tick.readdata slave, transRead := true })
    (bridgeRpData state)

def rpValid : Bool :=
  RspXbarMux001.srcValid (responseValid tick state)

def rpData : Packet :=
  RspXbarMux001.srcData (responseValid tick state) (responseData tick state)

def uavReaddatavalid : Bool :=
  MasterAgent.avReaddatavalid (rpValid tick state) (rpData tick state)

/-- The ready signal of the master agent, back at the agent of the bridge. -/
def bridgeRpReady : Bool :=
  RspXbarDemux003.sinkReady (bridgeRpChannel state)
    (RspXbarMux001.sinkReady (responseValid tick state) MasterAgent.rpReady
      (Fin.last 3))

def rfSinkReady : Bool :=
  SlaveAgent.rfSinkReady state.rspFifo.outValid
    state.slaveTranslator.readLatencyShiftReg state.rspFifo.outPayload
    (bridgeRpReady tick state)

def rfSourceReady : Bool :=
  ScFifo.inReady (rfSinkReady tick state) state.rspFifo

end Responses

section Step

variable (program : Program Point) (tick : Tick) (state : State Point)

/-- The command at the slave translator of the bridge. -/
def m0Read : Bool :=
  SlaveAgent.m0Read (slaveValid program tick state 3)
    (routed program tick state) (rfSourceReady tick state)

def m0Write : Bool :=
  SlaveAgent.m0Write (slaveValid program tick state 3)
    (routed program tick state) (rfSourceReady tick state)

def m0Waitrequest : Bool :=
  SlaveTranslator.uavWaitrequest (m0Write program tick state)
    state.slaveTranslator

def bridgeCpReady : Bool :=
  SlaveAgent.cpReady (m0Waitrequest program tick state)
    (rfSourceReady tick state)

/-- The ready signals at the command demultiplexer. -/
def readyVector : BitVec 4 :=
  BitVec.ofBool (bridgeCpReady program tick state) ++ Wiring.ofBits tick.ready

def uavWaitrequest : Bool :=
  MasterAgent.avWaitrequest
    (CmdXbarDemux001.sinkReady (channel program tick state)
      (readyVector program tick state)) state.masterAgent

def masterTranslatorInput : MasterTranslator.Input where
  reset := tick.masterReset
  avRead := (lines program tick state).read
  avWrite := (lines program tick state).write
  uavWaitrequest := uavWaitrequest program tick state
  uavReaddatavalid := uavReaddatavalid tick state

/-- The wait request at the data master. -/
def waitrequest : Bool :=
  MasterTranslator.avWaitrequest (masterTranslatorInput program tick state)
    state.masterTranslator

/-- The ports of the bridge. -/
def bridgeInput : Des3Avalon.Input where
  reset := tick.slaveReset
  avsAddress := SlaveTranslator.avAddress
    (SlaveAgent.m0Address (routed program tick state))
  avsWrite := SlaveTranslator.avWrite (m0Write program tick state)
    state.slaveTranslator
  avsWritedata := (routed program tick state).data

def slaveTranslatorInput : SlaveTranslator.Input where
  reset := tick.slaveReset
  uavRead := m0Read program tick state
  uavWrite := m0Write program tick state
  avReaddata := Des3Avalon.avsReaddata
    (bridgeInput program tick state).avsAddress state.bridge

def rspFifoInput : ScFifo.Input Awaited where
  reset := tick.slaveReset
  inPayload := SlaveAgent.rfSourceData (slaveValid program tick state 3)
    (routed program tick state)
  inValid := SlaveAgent.rfSourceValid (slaveValid program tick state 3)
    (routed program tick state) (m0Waitrequest program tick state)
    (rfSourceReady tick state)
  outReady := rfSinkReady tick state

/-- The request registers keep what waits; a free data master takes on what the
processor begins with. -/
def requestNext : Option Request :=
  if tick.masterReset then none
  else if state.request.isSome && waitrequest program tick state then
    state.request
  else tick.begins

/-- The program goes on when its access has come to its end. -/
def pointNext (entry : Point) : Point :=
  if tick.masterReset then entry
  else
    match state.request with
    | some .access =>
        if waitrequest program tick state then state.point
        else program.next state.point (rpData tick state).data
    | _ => state.point

/-- A slave owes an answer for each read that it has taken. -/
def pendingNext (slave : Fin 3) : Bool :=
  if tick.masterReset then false
  else if slaveValid program tick state slave &&
      (routed program tick state).transRead && tick.ready slave then true
  else state.pending slave && !tick.responds slave

end Step

/-- One cycle of the processor, the network and the bridge. -/
def step (program : Program Point) (entry : Point) (tick : Tick)
    (state : State Point) : State Point where
  point := pointNext program tick state entry
  request := requestNext program tick state
  masterTranslator := MasterTranslator.step
    (masterTranslatorInput program tick state) state.masterTranslator
  masterAgent := MasterAgent.step tick.masterReset
  slaveTranslator := SlaveTranslator.step
    (slaveTranslatorInput program tick state) state.slaveTranslator
  rspFifo := ScFifo.step (rspFifoInput program tick state) state.rspFifo
  pending := pendingNext program tick state
  bridge := Des3Avalon.step (bridgeInput program tick state) state.bridge

end Interconnect

end TripleDes

import TripleDes.Interconnect.Routing

/-!
# Translators and agents

Between the processor and the network stand a translator and an agent for the
data master, and between the network and the bridge an agent and a translator
for the slave, each with the parameters of its instance in `system.v`: single
words, all bytes enabled, posted writes, and a slave without a wait request
whose reads take one wait cycle.
-/

namespace TripleDes

namespace MasterTranslator

/-- The signals of `altera_merlin_master_translator.sv` in one cycle, for a
master that registers its signals and has no data valid input. -/
structure Input where
  reset : Bool
  avRead : Bool
  avWrite : Bool
  uavWaitrequest : Bool
  uavReaddatavalid : Bool

@[ext]
structure State where
  readAccepted : Bool
  writeAccepted : Bool
  endBegintransfer : Bool

def uavRead (avRead : Bool) (state : State) : Bool :=
  avRead && !state.readAccepted

def uavWrite (avWrite : Bool) (state : State) : Bool :=
  avWrite && !state.writeAccepted

def internalBegintransfer (avRead avWrite : Bool) (state : State) : Bool :=
  (uavWrite avWrite state || uavRead avRead state) && !state.endBegintransfer

/-- A read waits for its data; a write waits once more after it has begun. -/
def avWaitrequest (input : Input) (state : State) : Bool :=
  if input.avRead then !input.uavReaddatavalid
  else if input.avWrite then
    (internalBegintransfer input.avRead input.avWrite state ||
      input.uavWaitrequest) && !state.writeAccepted
  else true

def step (input : Input) (state : State) : State :=
  if input.reset then ⟨false, false, false⟩
  else
    { readAccepted :=
        if state.readAccepted then !input.uavReaddatavalid
        else avWaitrequest input state && (input.avRead && !input.uavWaitrequest)
      writeAccepted :=
        if !avWaitrequest input state then false
        else if uavWrite input.avWrite state && !input.uavWaitrequest then true
        else state.writeAccepted
      endBegintransfer :=
        if internalBegintransfer input.avRead input.avWrite state &&
            input.uavWaitrequest then true
        else if input.uavWaitrequest then state.endBegintransfer
        else false }

end MasterTranslator

namespace MasterAgent

/-- The register of `altera_merlin_master_agent.sv`. -/
structure State where
  holdWaitrequest : Bool

def cpValid (avRead avWrite : Bool) : Bool :=
  avWrite || avRead

/-- The command; writes are posted, and the identifier of the master is 0. -/
def cpData (avRead avWrite : Bool) (avAddress : BitVec 16)
    (avWritedata : BitVec 32) : Packet where
  data := avWritedata
  addr := avAddress.extractLsb' 2 14 ++ 0#2
  transPosted := avWrite
  transWrite := avWrite
  transRead := avRead
  srcId := 0
  destId := 0

def avWaitrequest (cpReady : Bool) (state : State) : Bool :=
  state.holdWaitrequest || !cpReady

def rpReady : Bool :=
  true

def avReaddatavalid (rpValid : Bool) (rpData : Packet) : Bool :=
  if rpData.transWrite then false else rpValid

def step (reset : Bool) : State where
  holdWaitrequest := reset

end MasterAgent

/-- What `altera_merlin_slave_agent.sv` keeps of a command until its response:
the packet, and whether the response is synthesized. -/
structure Awaited where
  packet : Packet
  generateResponse : Bool

instance : Zero Awaited where
  zero := ⟨0, false⟩

namespace SlaveAgent

def localWrite (cpValid : Bool) (cpData : Packet) : Bool :=
  cpValid && cpData.transWrite

def localRead (cpValid : Bool) (cpData : Packet) : Bool :=
  cpValid && cpData.transRead

def nonpostedWriteEndofpacket (cpValid : Bool) (cpData : Packet) : Bool :=
  !cpData.transPosted && localWrite cpValid cpData

/-- No command is taken while the response queue is full. -/
def cpReady (m0Waitrequest rfSourceReady : Bool) : Bool :=
  !m0Waitrequest && rfSourceReady

def m0Address (cpData : Packet) : BitVec 16 :=
  cpData.addr.extractLsb' 2 14 ++ 0#2

def m0Read (cpValid : Bool) (cpData : Packet) (rfSourceReady : Bool) : Bool :=
  rfSourceReady && localRead cpValid cpData

def m0Write (cpValid : Bool) (cpData : Packet) (rfSourceReady : Bool) : Bool :=
  rfSourceReady && localWrite cpValid cpData

def rfSourceValid (cpValid : Bool) (cpData : Packet)
    (m0Waitrequest rfSourceReady : Bool) : Bool :=
  (localRead cpValid cpData || nonpostedWriteEndofpacket cpValid cpData) &&
    rfSourceReady && cpReady m0Waitrequest rfSourceReady

def rfSourceData (cpValid : Bool) (cpData : Packet) : Awaited where
  packet := { cpData with data := 0 }
  generateResponse := nonpostedWriteEndofpacket cpValid cpData

/-- The burst uncompressor passes a single word on. -/
def uncompressorSourceValid (rfSinkValid rdataFifoSinkValid : Bool)
    (rfSinkData : Awaited) : Bool :=
  rfSinkValid && (rdataFifoSinkValid || rfSinkData.generateResponse)

def rpValid (rfSinkValid rdataFifoSinkValid : Bool) (rfSinkData : Awaited) :
    Bool :=
  rdataFifoSinkValid ||
    uncompressorSourceValid rfSinkValid rdataFifoSinkValid rfSinkData

def rfSinkReady (rfSinkValid rdataFifoSinkValid : Bool) (rfSinkData : Awaited)
    (rpReady : Bool) : Bool :=
  uncompressorSourceValid rfSinkValid rdataFifoSinkValid rfSinkData && rpReady

/-- The response goes back to where the command came from. -/
def rpData (rfSinkData : Awaited) (rdataFifoSinkData : BitVec 32) : Packet :=
  { rfSinkData.packet with
    data := rdataFifoSinkData
    srcId := rfSinkData.packet.destId
    destId := rfSinkData.packet.srcId }

end SlaveAgent

namespace SlaveTranslator

/-- The signals of `altera_merlin_slave_translator.sv` in one cycle, for a slave
with one wait cycle on reads, none on writes, and no read latency. -/
structure Input where
  reset : Bool
  uavRead : Bool
  uavWrite : Bool
  avReaddata : BitVec 32

structure State where
  waitLatencyCounter : BitVec 2
  waitrequestResetOverride : Bool
  avReaddataPre : BitVec 32
  readLatencyShiftReg : Bool

def avAddress (uavAddress : BitVec 16) : BitVec 4 :=
  uavAddress.extractLsb' 2 4

def avWrite (uavWrite : Bool) (state : State) : Bool :=
  uavWrite && decide (state.waitLatencyCounter ≤ 0)

def avWaitrequestGenerated (uavWrite : Bool) (state : State) : Bool :=
  if uavWrite then state.waitLatencyCounter != 0
  else state.waitLatencyCounter != 1

def uavWaitrequest (uavWrite : Bool) (state : State) : Bool :=
  avWaitrequestGenerated uavWrite state || state.waitrequestResetOverride

def step (input : Input) (state : State) : State :=
  if input.reset then
    { waitLatencyCounter := 0
      waitrequestResetOverride := true
      avReaddataPre := 0
      readLatencyShiftReg := false }
  else
    { waitLatencyCounter :=
        if !uavWaitrequest input.uavWrite state ||
            state.waitrequestResetOverride then 0
        else if input.uavRead || input.uavWrite then
          state.waitLatencyCounter + 1
        else 0
      waitrequestResetOverride := false
      avReaddataPre := input.avReaddata
      readLatencyShiftReg :=
        input.uavRead && !uavWaitrequest input.uavWrite state &&
          !state.waitrequestResetOverride }

end SlaveTranslator

end TripleDes

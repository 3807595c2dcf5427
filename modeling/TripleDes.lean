import TripleDes.Library.Wiring
import TripleDes.Library.Feistel
import TripleDes.Library.Clocked
import TripleDes.Library.Events
import TripleDes.Library.DelayLine
import TripleDes.Library.Conveyor
import TripleDes.Library.Queue
import TripleDes.Library.RoundRobin
import TripleDes.Permutations
import TripleDes.SBoxes
import TripleDes.KeyScheduler
import TripleDes.FeistelAlgo
import TripleDes.Des3
import TripleDes.Pipeline
import TripleDes.BlockPermutation
import TripleDes.Standard
import TripleDes.KeyWirings
import TripleDes.KeySpace
import TripleDes.DualKeys
import TripleDes.Agreement
import TripleDes.ValidChain
import TripleDes.Streaming
import TripleDes.SingleDes
import TripleDes.DualRuns
import TripleDes.RoundTrace
import TripleDes.Des3Fsm
import TripleDes.PipelineTb
import TripleDes.Des3Tb
import TripleDes.Complement
import TripleDes.Completions
import TripleDes.Des3Avalon
import TripleDes.Delivery
import TripleDes.Device
import TripleDes.Session
import TripleDes.InFlight
import TripleDes.ResultReads
import TripleDes.RegisterMap
import TripleDes.Timing
import TripleDes.BusMaster
import TripleDes.Main
import TripleDes.WordTransport
import TripleDes.Printing
import TripleDes.Handshake
import TripleDes.HandshakeResults
import TripleDes.Indistinguishable
import TripleDes.BufferContents
import TripleDes.ResetErasure
import TripleDes.Interconnect.ScFifo
import TripleDes.Interconnect.Routing
import TripleDes.Interconnect.Agents
import TripleDes.Interconnect.Network
import TripleDes.Interconnect.Signals
import TripleDes.Interconnect.Transactions
import TripleDes.Interconnect.Refinement
import TripleDes.Interconnect.Sessions
import TripleDes.Interconnect.Commands
import TripleDes.Interconnect.Answers
import TripleDes.Interconnect.ResetControllers
import TripleDes.Interconnect.Arbitrator
import TripleDes.Interconnect.CmdXbarMux

import Mathlib.Data.BitVec
import Mathlib.Data.Fintype.Basic
import Mathlib.Tactic.FinCases

/-!
# Routing on the interconnect

The generated network carries each access of the processor's data master as a
packet.  `system_addr_router_001.sv` chooses one of four channels by the
address, `system_cmd_xbar_demux_001.sv` follows it to a slave, and the response
comes back through `system_id_router_003.sv`, `system_rsp_xbar_demux_003.sv`
and `system_rsp_xbar_mux_001.sv`.
-/

namespace TripleDes

/-- The fields of a packet that the network uses. -/
@[ext]
structure Packet where
  data : BitVec 32
  addr : BitVec 16
  transPosted : Bool
  transWrite : Bool
  transRead : Bool
  srcId : BitVec 2
  destId : BitVec 2
  deriving DecidableEq

namespace Packet

instance : Zero Packet where
  zero := ⟨0, 0, false, false, false, 0, 0⟩

/-- Replicates a grant bit over the payload, `payload & {PAYLOAD_W {grant}}`. -/
def gated (grant : Bool) (packet : Packet) : Packet :=
  if grant then packet else 0

/-- The bitwise disjunction of two payloads. -/
def merged (first second : Packet) : Packet where
  data := first.data ||| second.data
  addr := first.addr ||| second.addr
  transPosted := first.transPosted || second.transPosted
  transWrite := first.transWrite || second.transWrite
  transRead := first.transRead || second.transRead
  srcId := first.srcId ||| second.srcId
  destId := first.destId ||| second.destId

@[simp]
theorem merged_zero (packet : Packet) : packet.merged 0 = packet := by
  ext <;> simp [merged, show (0 : Packet) = ⟨0, 0, false, false, false, 0, 0⟩ from rfl]

@[simp]
theorem zero_merged (packet : Packet) : merged 0 packet = packet := by
  ext <;> simp [merged, show (0 : Packet) = ⟨0, 0, false, false, false, 0, 0⟩ from rfl]

end Packet

namespace AddrRouter001

/-- `{address[RG:PAD], {PAD{1'b0}}}`. -/
def masked (pad : Nat) (address : BitVec 16) : BitVec 16 :=
  (address >>> pad) <<< pad

/-- The channel and the destination of an address.  A later branch of the
source overrides an earlier one. -/
def decoded (address : BitVec 16) : BitVec 4 × BitVec 2 :=
  if masked 3 address = 0x9048 then (0b0010, 1)
  else if masked 6 address = 0x9000 then (0b1000, 0)
  else if masked 11 address = 0x8800 then (0b0001, 2)
  else if masked 14 address = 0x4000 then (0b0100, 3)
  else (0b0100, 3)

def srcChannel (sinkData : Packet) : BitVec 4 :=
  (decoded sinkData.addr).1

def srcData (sinkData : Packet) : Packet :=
  { sinkData with destId := (decoded sinkData.addr).2 }

/-- The address lies in the span of the bridge. -/
def selectsBridge (address : BitVec 16) : Bool :=
  (decoded address).1.getLsbD 3

end AddrRouter001

namespace CmdXbarDemux001

def srcValid (channel : BitVec 4) (sinkValid : Bool) (source : Nat) : Bool :=
  channel.getLsbD source && sinkValid

/-- `|(sink_channel & ready_vector)`. -/
def sinkReady (channel readyVector : BitVec 4) : Bool :=
  channel &&& readyVector != 0

end CmdXbarDemux001

namespace IdRouter003

def srcChannel (sinkData : Packet) : BitVec 4 :=
  if sinkData.destId = 0 then 0b0001 else 0b0001

end IdRouter003

namespace RspXbarDemux003

def src0Valid (channel : BitVec 4) (sinkValid : Bool) : Bool :=
  channel.getLsbD 0 && sinkValid

/-- Only the lowest bit of the ready vector is used. -/
def sinkReady (channel : BitVec 4) (src0Ready : Bool) : Bool :=
  channel &&& (BitVec.ofBool src0Ready).setWidth 4 != 0

end RspXbarDemux003

namespace RspXbarMux001

/-- The arbitration scheme `no-arb` grants every request. -/
def grant (valid : Fin 4 → Bool) : Fin 4 → Bool :=
  valid

def srcValid (valid : Fin 4 → Bool) : Bool :=
  (grant valid 0 && valid 0) || (grant valid 1 && valid 1) ||
    (grant valid 2 && valid 2) || (grant valid 3 && valid 3)

/-- A sum of products over the granted sinks. -/
def srcData (valid : Fin 4 → Bool) (data : Fin 4 → Packet) : Packet :=
  (((data 0).gated (grant valid 0)).merged
    ((data 1).gated (grant valid 1))).merged
      ((data 2).gated (grant valid 2)) |>.merged
        ((data 3).gated (grant valid 3))

def sinkReady (valid : Fin 4 → Bool) (srcReady : Bool) (sink : Fin 4) : Bool :=
  srcReady && grant valid sink

/-- When a single slave responds, its packet passes unchanged. -/
theorem srcData_of_single {valid : Fin 4 → Bool} {sink : Fin 4}
    (responds : valid sink = true)
    (single : ∀ other, other ≠ sink → valid other = false)
    (data : Fin 4 → Packet) : srcData valid data = data sink := by
  have gates (other : Fin 4) :
      (data other).gated (grant valid other) =
        if other = sink then data sink else 0 := by
    rw [grant, Packet.gated]
    by_cases same : other = sink
    · simp [same, responds]
    · simp [same, single other same]
  simp only [srcData, gates]
  fin_cases sink <;> simp

theorem srcValid_iff (valid : Fin 4 → Bool) :
    srcValid valid = true ↔ ∃ sink, valid sink = true := by
  simp only [srcValid, grant, Bool.and_self, Bool.or_eq_true]
  constructor
  · rintro (((first | second) | third) | fourth)
    · exact ⟨0, first⟩
    · exact ⟨1, second⟩
    · exact ⟨2, third⟩
    · exact ⟨3, fourth⟩
  · rintro ⟨sink, responds⟩
    fin_cases sink <;> simp_all

end RspXbarMux001

namespace AddrRouter001

/-- Every address goes to exactly one slave. -/
theorem decoded_oneHot (address : BitVec 16) :
    (decoded address).1 = 1 <<< 0 ∨ (decoded address).1 = 1 <<< 1 ∨
      (decoded address).1 = 1 <<< 2 ∨ (decoded address).1 = 1 <<< 3 := by
  unfold decoded
  split_ifs <;> decide

theorem masked_toNat (pad : Nat) (address : BitVec 16) :
    (masked pad address).toNat = address.toNat / 2 ^ pad * 2 ^ pad := by
  have below : address.toNat / 2 ^ pad * 2 ^ pad < 2 ^ 16 :=
    Nat.lt_of_le_of_lt (Nat.div_mul_le_self _ _) address.isLt
  rw [masked, BitVec.toNat_shiftLeft, BitVec.toNat_ushiftRight,
    Nat.shiftLeft_eq, Nat.shiftRight_eq_div_pow, Nat.mod_eq_of_lt below]

/-- The bridge is selected in the span of 64 bytes from its base on. -/
theorem selectsBridge_iff (address : BitVec 16) :
    selectsBridge address = true ↔
      0x9000 ≤ address.toNat ∧ address.toNat < 0x9040 := by
  have uart : masked 3 address = 0x9048 ↔
      address.toNat / 8 * 8 = 0x9048 := by
    rw [← BitVec.toNat_inj, masked_toNat]
    rfl
  have bridge : masked 6 address = 0x9000 ↔
      address.toNat / 64 * 64 = 0x9000 := by
    rw [← BitVec.toNat_inj, masked_toNat]
    rfl
  rw [selectsBridge, decoded]
  split_ifs with first second third fourth <;>
    simp only [uart, bridge] at * <;> simp <;> omega

end AddrRouter001

end TripleDes

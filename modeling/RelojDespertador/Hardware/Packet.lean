import RelojDespertador.Hardware.AddressMap
import RelojDespertador.Hardware.CommandMux

/-!
# The packets of the interconnect

Commands and responses travel as packets of 92 bits, with the fields at the
`PKT_..` positions that all components are given. A beat is a packet with its
channel and its packet marks; the multiplexers carry beats as payloads of 108
bits.
-/

namespace RelojDespertador

/-- The fields, from the highest down. -/
structure Packet where
  oriBurstSize : BitVec 3
  responseStatus : BitVec 2
  cache : BitVec 4
  protection : BitVec 3
  threadId : BitVec 1
  destId : BitVec 4
  srcId : BitVec 4
  qos : BitVec 1
  beginBurst : BitVec 1
  dataSideband : BitVec 1
  addrSideband : BitVec 1
  burstType : BitVec 2
  burstSize : BitVec 3
  burstwrap : BitVec 3
  byteCnt : BitVec 3
  transExclusive : Bool
  transLock : Bool
  transRead : Bool
  transWrite : Bool
  transPosted : Bool
  transCompressedRead : Bool
  addr : BitVec 14
  byteen : BitVec 4
  data : U32
  deriving DecidableEq, Repr, Inhabited

namespace Packet

/-- What the master agents send: no compressed burst, and no write that wants a response. -/
def Plain (p : Packet) : Prop :=
  p.transCompressedRead = false ∧ (p.transWrite = true → p.transPosted = true)

/-- The bits of a packet. -/
def toBits (p : Packet) : BitVec 92 :=
  p.oriBurstSize ++ p.responseStatus ++ p.cache ++ p.protection ++ p.threadId ++ p.destId ++
    p.srcId ++ p.qos ++ p.beginBurst ++ p.dataSideband ++ p.addrSideband ++ p.burstType ++
    p.burstSize ++ p.burstwrap ++ p.byteCnt ++ BitVec.ofBool p.transExclusive ++
    BitVec.ofBool p.transLock ++ BitVec.ofBool p.transRead ++ BitVec.ofBool p.transWrite ++
    BitVec.ofBool p.transPosted ++ BitVec.ofBool p.transCompressedRead ++ p.addr ++ p.byteen ++
    p.data

/-- The fields at their positions `PKT_.._L`. -/
def ofBits (b : BitVec 92) : Packet where
  oriBurstSize := b.extractLsb' 89 3
  responseStatus := b.extractLsb' 87 2
  cache := b.extractLsb' 83 4
  protection := b.extractLsb' 80 3
  threadId := b.extractLsb' 79 1
  destId := b.extractLsb' 75 4
  srcId := b.extractLsb' 71 4
  qos := b.extractLsb' 70 1
  beginBurst := b.extractLsb' 69 1
  dataSideband := b.extractLsb' 68 1
  addrSideband := b.extractLsb' 67 1
  burstType := b.extractLsb' 65 2
  burstSize := b.extractLsb' 62 3
  burstwrap := b.extractLsb' 59 3
  byteCnt := b.extractLsb' 56 3
  transExclusive := b.getLsbD 55
  transLock := b.getLsbD 54
  transRead := b.getLsbD 53
  transWrite := b.getLsbD 52
  transPosted := b.getLsbD 51
  transCompressedRead := b.getLsbD 50
  addr := b.extractLsb' 36 14
  byteen := b.extractLsb' 32 4
  data := b.extractLsb' 0 32

/-- The positions are those of the fields. -/
theorem ofBits_toBits (p : Packet) : ofBits p.toBits = p := by
  simp (disch := decide) only [ofBits, toBits, BitVec.extractLsb'_append_eq_of_le,
    BitVec.extractLsb'_append_eq_of_add_le, Word.getLsbD_append_of_le, Word.getLsbD_append_of_lt]
  simp

end Packet

/-- A packet on its way, with `startofpacket` and `endofpacket`. -/
structure Beat where
  channel : BitVec 14
  data : Packet
  startofpacket : Bool
  endofpacket : Bool
  deriving DecidableEq, Repr

namespace Beat

/-- `sink_payload` of a multiplexer. -/
def toPayload (b : Beat) : Payload :=
  b.channel ++ b.data.toBits ++ BitVec.ofBool b.startofpacket ++ BitVec.ofBool b.endofpacket

/-- The signals of a source from `src_payload`. -/
def ofPayload (p : Payload) : Beat where
  channel := p.extractLsb' 94 14
  data := Packet.ofBits (p.extractLsb' 2 92)
  startofpacket := p.getLsbD 1
  endofpacket := p.getLsbD 0

variable (b : Beat)

theorem ofPayload_toPayload : ofPayload b.toPayload = b := by
  simp (disch := decide) only [ofPayload, toPayload, BitVec.extractLsb'_append_eq_of_le,
    BitVec.extractLsb'_append_eq_of_add_le, Word.getLsbD_append_of_le, Word.getLsbD_append_of_lt]
  simp [Packet.ofBits_toBits]

theorem endofpacket_toPayload : b.toPayload.endofpacket = b.endofpacket :=
  congrArg endofpacket b.ofPayload_toPayload

theorem transLock_toPayload : b.toPayload.transLock = b.data.transLock := by
  rw [Payload.transLock, toPayload, Packet.toBits]
  simp (disch := decide) only [Word.getLsbD_append_of_le, Word.getLsbD_append_of_lt]
  simp

end Beat

end RelojDespertador

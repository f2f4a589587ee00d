import RelojDespertador.Hardware.BurstUncompressor
import RelojDespertador.Hardware.Fifo
import RelojDespertador.Hardware.Packet

/-!
# The port of a slave in the interconnect

In front of every slave stand its agent `altera_merlin_slave_agent.sv`, the
queue of the responses it owes, and its translator
`altera_merlin_slave_translator.sv`. The agent turns a command packet into an
access to the slave and an accepted read into a response packet for the master
that sent it.
-/

namespace RelojDespertador

/-- What the translators of the slaves are generated with: `AV_ADDRESS_W`, `AV_DATA_W`,
`AV_READLATENCY`, `USE_WAITREQUEST` and `AV_READ_WAIT_CYCLES`. -/
structure SlaveParams where
  addressW : Nat
  dataW : Nat
  readLatency : Nat
  useWaitrequest : Bool
  readWaitCycles : Nat
  deriving DecidableEq, Repr

namespace Slave

/-- The parameters of the fourteen translators. -/
def params : Slave → SlaveParams
  | debug => ⟨1, 32, 0, true, 1⟩
  | debugMem => ⟨9, 32, 0, true, 1⟩
  | sram => ⟨10, 32, 1, false, 0⟩
  | timer => ⟨3, 16, 0, false, 1⟩
  | leds | sseg _ | buttons | switch | buzzer => ⟨2, 32, 0, false, 1⟩

end Slave

/-- An item of the response queue: a command without its data. -/
structure RspItem where
  /-- The agent has to make up the response itself. -/
  generateResponse : Bool
  data : Packet
  startofpacket : Bool
  endofpacket : Bool
  deriving DecidableEq, Repr, Inhabited

/-- The response to an accepted read: the packet goes back to where it came from. -/
def RspItem.response (x : RspItem) (readdata : U32) : Beat where
  channel := 0
  data :=
    { x.data with
      data := readdata
      srcId := x.data.destId
      destId := x.data.srcId
      responseStatus := 0 }
  startofpacket := if x.data.transWrite then true else x.startofpacket
  endofpacket := x.endofpacket

/-- The widths of the uncompressor in a slave agent. -/
abbrev agentFormat : BurstFormat := ⟨14, 3, 3, 3, 4⟩

/-- What an edge finds: a command, whether the response network is ready, and the slave's
signals. -/
structure SlavePortInput where
  cpValid : Bool
  cp : Beat
  rpReady : Bool
  avReaddata : U32
  avWaitrequest : Bool

/-- The registers. `waitLatencyCounter` has two bits where it is read. -/
structure SlavePort where
  rspFifo : Fifo RspItem
  uncompressor : BurstUncompressor agentFormat
  waitLatencyCounter : BitVec 2
  waitrequestResetOverride : Bool
  readLatencyShiftReg : Bool
  avReaddataPre : U32

namespace SlavePort

/-- After reset. -/
def reset : SlavePort where
  rspFifo := Fifo.reset
  uncompressor := BurstUncompressor.reset
  waitLatencyCounter := 0
  waitrequestResetOverride := true
  readLatencyShiftReg := false
  avReaddataPre := 0

variable (P : SlaveParams) (i : SlavePortInput) (y : SlavePort)

/-! ## Commands -/

/-- The ports of the queue, for signals that do not depend on them. -/
def fifoIdle : FifoInput RspItem := ⟨false, default, false⟩

/-- `rf_source_ready`, which is also `ready_for_command`. -/
def rfSourceReady : Bool := y.rspFifo.inReady Fifo.rspFifo fifoIdle

/-- `m0_read`. -/
def m0Read : Bool :=
  y.rfSourceReady &&
    ((i.cpValid && i.cp.data.transCompressedRead) || (i.cpValid && i.cp.data.transRead))

/-- `m0_write`. -/
def m0Write : Bool := y.rfSourceReady && (i.cpValid && i.cp.data.transWrite)

/-- `m0_address`: the low bits are masked off. -/
def m0Address : BitVec 14 := i.cp.data.addr.extractLsb' 2 12 ++ 0#2

/-- `LOG2_OF_LATENCY_SUM`. -/
def log2OfLatencySum : Nat := max (Nat.log2 (P.readWaitCycles + 1) + 1) 1

/-- `av_waitrequest_generated`. -/
def avWaitrequestGenerated : Bool :=
  if log2OfLatencySum P > 1 && !P.useWaitrequest then
    if y.m0Write i then y.waitLatencyCounter.toNat != 0
    else y.waitLatencyCounter.toNat != P.readWaitCycles
  else log2OfLatencySum P != 1

/-- `uav_waitrequest`. -/
def uavWaitrequest : Bool :=
  if P.useWaitrequest then i.avWaitrequest
  else y.avWaitrequestGenerated P i || y.waitrequestResetOverride

/-- `cp_ready`. -/
def cpReady : Bool := !y.uavWaitrequest P i && y.rfSourceReady

/-- `av_read`, without set-up cycles. -/
def avRead : Bool := y.m0Read i

/-- `av_write`. -/
def avWrite : Bool :=
  if log2OfLatencySum P > 1 && !P.useWaitrequest then
    y.m0Write i && y.waitLatencyCounter.toNat == 0
  else y.m0Write i

/-- The slave takes a write at this edge: one with a wait port when it does not wait. -/
def writes : Bool := y.avWrite P i && !(P.useWaitrequest && i.avWaitrequest)

theorem m0Write_of_writes {P : SlaveParams} {i : SlavePortInput} {y : SlavePort}
    (hwrites : y.writes P i = true) : y.m0Write i = true := by
  simp only [writes, avWrite, Bool.and_eq_true] at hwrites
  obtain ⟨hwrite, -⟩ := hwrites
  split_ifs at hwrite
  · rw [Bool.and_eq_true] at hwrite
    exact hwrite.1
  · exact hwrite

/-- `av_chipselect`. -/
def avChipselect : Bool := y.m0Read i || y.m0Write i

/-- The write strobe at the port of a slave without a wait port. -/
theorem writes_eq_strobe (hP : P.useWaitrequest = false) :
    y.writes P i = (y.avChipselect i && y.avWrite P i) := by
  have hselect : y.avWrite P i = true → y.m0Write i = true := by
    intro hwrite
    apply m0Write_of_writes (P := P)
    simp [writes, hwrite, hP]
  rw [writes, hP, Bool.false_and, Bool.not_false, Bool.and_true, avChipselect]
  cases hwrite : y.avWrite P i with
  | false => simp
  | true => simp [hselect hwrite]

/-- `av_address`: that of the word. -/
def avAddress : BitVec P.addressW := (m0Address i >>> 2).setWidth P.addressW

/-- `av_byteenable`. -/
def avByteenable : BitVec 4 := i.cp.data.byteen

/-- `av_writedata`. -/
def avWritedata : BitVec P.dataW := i.cp.data.data.setWidth P.dataW

/-! ## Responses -/

/-- `nonposted_write_endofpacket`. -/
def nonpostedWriteEndofpacket : Bool :=
  !i.cp.data.transPosted && (i.cpValid && i.cp.data.transWrite) && i.cp.endofpacket

/-- `rf_source_valid`. -/
def rfSourceValid : Bool :=
  ((i.cpValid && i.cp.data.transRead) || (i.cpValid && i.cp.data.transCompressedRead) ||
    nonpostedWriteEndofpacket i) && y.rfSourceReady && y.cpReady P i

/-- `rf_source_data`. -/
def rfSourceData : RspItem where
  generateResponse := nonpostedWriteEndofpacket i
  data := { i.cp.data with data := 0, protection := i.cp.data.protection &&& 1 }
  startofpacket := i.cp.startofpacket
  endofpacket := i.cp.endofpacket

/-- `rf_sink_valid`. -/
def rfSinkValid : Bool := y.rspFifo.outValid Fifo.rspFifo fifoIdle

/-- `rf_sink_data`. -/
def rfSinkData : RspItem := y.rspFifo.outPayload Fifo.rspFifo fifoIdle

/-- `m0_readdata`. -/
def m0Readdata (avReaddata : U32) : U32 :=
  if P.readLatency ≠ 0 then (avReaddata.setWidth P.dataW).setWidth 32 else y.avReaddataPre

/-- The ports of the uncompressor. -/
def uncompressorInput (rpReady : Bool) : UncompressorInput agentFormat where
  sinkValid := y.rfSinkValid && (y.readLatencyShiftReg || y.rfSinkData.generateResponse)
  sink :=
    { startofpacket := if y.rfSinkData.data.transWrite then true else y.rfSinkData.startofpacket
      endofpacket := y.rfSinkData.endofpacket
      addr := y.rfSinkData.data.addr
      burstwrap := y.rfSinkData.data.burstwrap
      byteCnt := y.rfSinkData.data.byteCnt
      isCompressed := y.rfSinkData.data.transCompressedRead
      burstsize := y.rfSinkData.data.burstSize }
  sourceReady := rpReady

/-- `rp_valid`. -/
def rpValid : Bool := y.readLatencyShiftReg || (y.uncompressorInput false).sinkValid

/-- The source of the uncompressor, which does not depend on its `source_ready`. -/
def uncompressed : Burst agentFormat := y.uncompressor.source (y.uncompressorInput false)

/-- `rp_data`, with its packet marks. -/
def rpData (avReaddata : U32) : Beat where
  channel := 0
  data :=
    { y.rfSinkData.data with
      data := y.m0Readdata P avReaddata
      srcId := y.rfSinkData.data.destId
      destId := y.rfSinkData.data.srcId
      addr := y.uncompressed.addr
      burstwrap := y.uncompressed.burstwrap
      byteCnt := y.uncompressed.byteCnt
      transRead := y.rfSinkData.data.transRead || y.rfSinkData.data.transCompressedRead
      transCompressedRead := y.uncompressed.isCompressed
      responseStatus := 0
      burstSize := y.uncompressed.burstsize }
  startofpacket := y.uncompressed.startofpacket
  endofpacket := y.uncompressed.endofpacket

/-- One rising clock edge. -/
def edge : SlavePort where
  rspFifo :=
    y.rspFifo.edge Fifo.rspFifo
      ⟨y.rfSourceValid P i, rfSourceData i, y.uncompressor.sinkReady (y.uncompressorInput i.rpReady)⟩
  uncompressor := y.uncompressor.edge (y.uncompressorInput i.rpReady)
  waitLatencyCounter :=
    if !y.uavWaitrequest P i || y.waitrequestResetOverride then 0
    else if y.m0Read i || y.m0Write i then y.waitLatencyCounter + 1 else 0
  waitrequestResetOverride := false
  readLatencyShiftReg := y.m0Read i && !y.uavWaitrequest P i && !y.waitrequestResetOverride
  avReaddataPre := (i.avReaddata.setWidth P.dataW).setWidth 32

/-! ## What the port owes -/

/-- The port owes one response or none, and pays it in this cycle. -/
structure Holds (owed : Option RspItem) (y : SlavePort) : Prop where
  queue : y.rspFifo.Holds Fifo.rspFifo owed.toList
  idle : y.uncompressor.busy = false
  latency : y.readLatencyShiftReg = owed.isSome
  running : y.waitrequestResetOverride = false
  plain : ∀ x, owed = some x → x.generateResponse = false ∧ x.data.transCompressedRead = false

/-- The read that the port accepts in a cycle. -/
def taken : Option RspItem :=
  if i.cpValid && i.cp.data.transRead && y.cpReady P i then some (rfSourceData i) else none

section Spec

variable {P i y} {owed : Option RspItem} (h : y.Holds owed)

theorem queue_length (owed : Option RspItem) : owed.toList.length < 2 := by
  cases owed <;> simp

include h

theorem Holds.rfSourceReady_eq : y.rfSourceReady = true :=
  (h.queue.inReady_iff (by decide)).mpr (Or.inl (queue_length owed))

theorem Holds.cpReady_eq : y.cpReady P i = !y.uavWaitrequest P i := by
  rw [cpReady, h.rfSourceReady_eq, Bool.and_true]

theorem Holds.rfSinkValid_eq : y.rfSinkValid = owed.isSome := by
  have hvalid := h.queue.outValid_iff (i := fifoIdle) (by decide)
  rw [rfSinkValid, Bool.eq_iff_iff, hvalid]
  cases owed <;> simp [Fifo.rspFifo]

theorem Holds.sinkValid_eq (rpReady : Bool) :
    (y.uncompressorInput rpReady).sinkValid = owed.isSome := by
  rw [uncompressorInput, h.rfSinkValid_eq, h.latency]
  cases owed <;> rfl

/-- A response goes out exactly if one is owed. -/
theorem Holds.rpValid_eq : y.rpValid = owed.isSome := by
  rw [rpValid, h.sinkValid_eq, h.latency, Bool.or_self]

end Spec

section Response

variable {P i y} {x : RspItem} (h : y.Holds (some x))
include h

theorem Holds.rfSinkData_eq : y.rfSinkData = x :=
  h.queue.outPayload_cons (by decide)

theorem Holds.lastPacketBeat_eq (rpReady : Bool) :
    y.uncompressor.lastPacketBeat (y.uncompressorInput rpReady) = true := by
  have hsink : (y.uncompressorInput rpReady).sink.isCompressed = false := by
    rw [uncompressorInput, h.rfSinkData_eq]
    exact (h.plain x rfl).2
  rw [BurstUncompressor.lastPacketBeat, hsink, Bool.not_false, Bool.true_or]

theorem Holds.sinkReady_eq (rpReady : Bool) :
    y.uncompressor.sinkReady (y.uncompressorInput rpReady) = rpReady := by
  rw [BurstUncompressor.sinkReady, h.lastPacketBeat_eq, h.sinkValid_eq]
  simp [uncompressorInput]

/-- The response that goes out. -/
theorem Holds.rpData_eq (avReaddata : U32) :
    y.rpData P avReaddata = x.response (y.m0Readdata P avReaddata) := by
  have hfirst : y.uncompressor.firstPacketBeat (y.uncompressorInput false) = true := by
    rw [BurstUncompressor.firstPacketBeat, h.sinkValid_eq, h.idle]
    rfl
  have hlast := h.lastPacketBeat_eq false
  have hdata := h.rfSinkData_eq
  have hcompressed := (h.plain x rfl).2
  simp only [rpData, uncompressed, BurstUncompressor.source, hfirst, hlast, h.idle, if_true,
    Bool.not_false, Bool.and_true]
  simp only [uncompressorInput, hdata, RspItem.response, hcompressed, Bool.or_false]

end Response

section Step

variable {P i y} {owed : Option RspItem}

theorem nonpostedWriteEndofpacket_eq (hplain : i.cpValid = true → i.cp.data.Plain) :
    nonpostedWriteEndofpacket i = false := by
  rw [nonpostedWriteEndofpacket]
  cases hvalid : i.cpValid with
  | false => simp
  | true =>
      have hposted := (hplain hvalid).2
      cases hwrite : i.cp.data.transWrite with
      | false => simp
      | true => simp [hposted hwrite]

variable (h : y.Holds owed)
include h

theorem Holds.m0Read_eq (hplain : i.cpValid = true → i.cp.data.Plain) :
    y.m0Read i = (i.cpValid && i.cp.data.transRead) := by
  rw [m0Read, h.rfSourceReady_eq, Bool.true_and]
  cases hvalid : i.cpValid with
  | false => rfl
  | true => rw [(hplain hvalid).1, Bool.and_false, Bool.false_or]

theorem Holds.m0Write_eq : y.m0Write i = (i.cpValid && i.cp.data.transWrite) := by
  rw [m0Write, h.rfSourceReady_eq, Bool.true_and]

/-- A slave with a wait port decides itself when the command is accepted. -/
theorem Holds.cpReady_of_waitrequest (hP : P.useWaitrequest = true) :
    y.cpReady P i = !i.avWaitrequest := by
  rw [h.cpReady_eq, uavWaitrequest, if_pos hP]

/-- Without wait cycles it is accepted at once. -/
theorem Holds.cpReady_of_noWait (hP : P.useWaitrequest = false) (hzero : P.readWaitCycles = 0) :
    y.cpReady P i = true := by
  have hlog : log2OfLatencySum P = 1 := by
    rw [log2OfLatencySum, hzero]
    rfl
  simp [h.cpReady_eq, uavWaitrequest, avWaitrequestGenerated, hP, hlog, h.running]

/-- With one, a write is accepted at once and a read in the cycle after. -/
theorem Holds.cpReady_of_oneWait (hP : P.useWaitrequest = false) (hone : P.readWaitCycles = 1) :
    y.cpReady P i =
      if y.m0Write i then y.waitLatencyCounter.toNat == 0 else y.waitLatencyCounter.toNat == 1 := by
  have hlog : log2OfLatencySum P = 2 := by
    rw [log2OfLatencySum, hone]
    rfl
  rw [h.cpReady_eq, uavWaitrequest, avWaitrequestGenerated, h.running]
  simp only [hP, hlog, hone, Bool.or_false, Bool.not_false, Bool.and_true, Bool.false_eq_true,
    Nat.one_lt_ofNat, decide_true, if_true, if_false]
  split_ifs
  · exact Bool.not_not _
  · exact Bool.not_not _

/-- The counter counts the cycles for which a command has waited. -/
theorem Holds.waitLatencyCounter_edge : (y.edge P i).waitLatencyCounter =
    if !y.cpReady P i && (y.m0Read i || y.m0Write i) then y.waitLatencyCounter + 1 else 0 := by
  rw [h.cpReady_eq]
  simp only [SlavePort.edge, h.running, Bool.or_false]
  cases y.uavWaitrequest P i with
  | false => simp
  | true => simp

section OneWait

variable (hP : P.useWaitrequest = false) (hone : P.readWaitCycles = 1)
  (hcounter : y.waitLatencyCounter = 0 ∨ y.waitLatencyCounter = 1 ∧ y.m0Read i = true)
include hP hone hcounter

/-- At a port that waits for one cycle the counter is one after a read has waited, and zero
otherwise. -/
theorem Holds.counter_edge (hexclusive : y.m0Read i = true → y.m0Write i = false) :
    (y.edge P i).waitLatencyCounter = if y.m0Read i && !y.cpReady P i then 1 else 0 := by
  rw [h.waitLatencyCounter_edge, h.cpReady_of_oneWait hP hone]
  cases hread : y.m0Read i with
  | false =>
      rcases hcounter with hzero | ⟨-, htrue⟩
      · cases hwrite : y.m0Write i <;> simp [hzero]
      · exact absurd (hread.symm.trans htrue) Bool.false_ne_true
  | true =>
      rw [hexclusive hread]
      rcases hcounter with hzero | ⟨hcount, -⟩
      · simp [hzero]
      · simp [hcount]

/-- A command that waits at a port with one wait cycle is a read. -/
theorem Holds.m0Read_of_waits (hcommand : (y.m0Read i || y.m0Write i) = true)
    (hready : y.cpReady P i = false) : y.m0Read i = true := by
  by_contra hread
  rw [h.cpReady_of_oneWait hP hone] at hready
  rcases hcounter with hzero | ⟨-, htrue⟩
  · simp only [hread, Bool.false_or] at hcommand
    simp [hcommand, hzero] at hready
  · exact hread htrue

end OneWait

/-- The slave takes a write exactly in the cycle in which the command is accepted. -/
theorem Holds.writes_eq :
    y.writes P i = (i.cpValid && i.cp.data.transWrite && y.cpReady P i) := by
  have hpos : log2OfLatencySum P ≠ 1 → log2OfLatencySum P > 1 := by
    intro hne
    exact lt_of_le_of_ne (Nat.le_max_right _ 1) hne.symm
  rw [h.cpReady_eq, ← h.m0Write_eq, writes, avWrite, uavWaitrequest, avWaitrequestGenerated,
    h.running]
  cases hwait : P.useWaitrequest with
  | true => simp
  | false =>
      cases hwrite : y.m0Write i with
      | false => simp
      | true =>
          by_cases hone : log2OfLatencySum P = 1
          · simp [hone]
          · simp [hpos hone, bne]

theorem Holds.taken_eq (hplain : i.cpValid = true → i.cp.data.Plain) :
    taken P i y = if y.rfSourceValid P i then some (rfSourceData i) else none := by
  have hready := h.rfSourceReady_eq
  rw [taken, rfSourceValid, nonpostedWriteEndofpacket_eq hplain, hready]
  cases hvalid : i.cpValid with
  | false => simp
  | true => simp [(hplain hvalid).1]

/-- The queue of the next cycle is what was accepted in this one. -/
theorem Holds.queue_edge (hplain : i.cpValid = true → i.cp.data.Plain)
    (hready : owed.isSome = true → i.rpReady = true) :
    (y.edge P i).rspFifo.Holds Fifo.rspFifo (taken P i y).toList := by
  obtain ⟨q, hq, hcycle⟩ := h.queue.edge (by decide)
    (i := ⟨y.rfSourceValid P i, rfSourceData i, y.uncompressor.sinkReady (y.uncompressorInput i.rpReady)⟩)
  have hwrite : y.rspFifo.write Fifo.rspFifo ⟨y.rfSourceValid P i, rfSourceData i,
      y.uncompressor.sinkReady (y.uncompressorInput i.rpReady)⟩ = y.rfSourceValid P i := by
    rw [Fifo.write, (h.queue.inReady_iff (by decide)).mpr (Or.inl (queue_length owed)),
      Bool.true_and]
  have htaken : (if y.rfSourceValid P i then [rfSourceData i] else []) = (taken P i y).toList := by
    rw [h.taken_eq hplain]
    split_ifs <;> rfl
  rw [hwrite] at hcycle
  simp only [htaken] at hcycle
  cases owed with
  | none =>
      have hread : y.rspFifo.read Fifo.rspFifo ⟨y.rfSourceValid P i, rfSourceData i,
          y.uncompressor.sinkReady (y.uncompressorInput i.rpReady)⟩ = false := by
        rw [Bool.eq_false_iff]
        intro hread
        simpa [Fifo.rspFifo] using ((h.queue.read_iff (by decide)).mp hread).2
      rw [hread] at hcycle
      obtain rfl : (taken P i y).toList = q := by simpa using hcycle
      exact hq
  | some x =>
      have hread : y.rspFifo.read Fifo.rspFifo ⟨y.rfSourceValid P i, rfSourceData i,
          y.uncompressor.sinkReady (y.uncompressorInput i.rpReady)⟩ = true := by
        apply (h.queue.read_iff (by decide)).mpr
        refine ⟨?_, Or.inl (by simp)⟩
        rw [h.sinkReady_eq]
        exact hready rfl
      have hqueue := h.queue
      simp only [Option.toList_some] at hqueue
      rw [hread, hqueue.outPayload_cons (by decide)] at hcycle
      obtain rfl : (taken P i y).toList = q := by simpa using hcycle
      exact hq

/-- One cycle: what is owed is paid, and an accepted read is owed. -/
theorem Holds.edge (hplain : i.cpValid = true → i.cp.data.Plain)
    (hready : owed.isSome = true → i.rpReady = true) :
    (y.edge P i).Holds (taken P i y) where
  queue := h.queue_edge hplain hready
  idle := by
    cases owed with
    | none =>
        have hsink := h.sinkValid_eq i.rpReady
        simp only [SlavePort.edge, BurstUncompressor.edge, hsink, h.idle, Option.isSome_none,
          Bool.false_and, Bool.false_eq_true, if_false]
    | some x =>
        have hlast := h.lastPacketBeat_eq i.rpReady
        simp only [SlavePort.edge, BurstUncompressor.edge, hlast, h.idle, Bool.not_true, ite_self]
  latency := by
    have hread := h.m0Read_eq hplain
    simp only [SlavePort.edge, hread, h.running, Bool.not_false, Bool.and_true, taken, h.cpReady_eq]
    split_ifs with htaken
    · simpa using htaken
    · simpa using htaken
  running := rfl
  plain := by
    intro x hx
    rw [taken, Option.ite_none_right_eq_some] at hx
    obtain ⟨htaken, hitem⟩ := hx
    obtain rfl := Option.some.inj hitem
    have hvalid : i.cpValid = true := by
      simp only [Bool.and_eq_true] at htaken
      exact htaken.1.1
    exact ⟨nonpostedWriteEndofpacket_eq hplain, (hplain hvalid).1⟩

end Step

variable {P i} in
/-- In the first cycle after reset the masters send nothing. -/
theorem reset_edge (hquiet : i.cpValid = false) : (reset.edge P i).Holds none where
  queue := by
    have hreset := Fifo.reset_holds (α := RspItem) Fifo.rspFifo
    apply Fifo.Holds.edge_keep hreset
    · simp [Fifo.write, rfSourceValid, nonpostedWriteEndofpacket, hquiet]
    · rw [Bool.eq_false_iff]
      intro hread
      simpa [Fifo.rspFifo] using ((hreset.read_iff (by decide)).mp hread).2
  idle := by
    have hsink : (reset.uncompressorInput i.rpReady).sinkValid = false := rfl
    simp only [SlavePort.edge, BurstUncompressor.edge, hsink, Bool.false_and, Bool.false_eq_true,
      if_false]
    rfl
  latency := by simp [SlavePort.edge, m0Read, hquiet]
  running := rfl
  plain _ hx := by cases hx

end SlavePort

end RelojDespertador

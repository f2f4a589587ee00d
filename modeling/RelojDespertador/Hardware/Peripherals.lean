import RelojDespertador.Hardware.Latency
import RelojDespertador.Hardware.SharedMemory
import RelojDespertador.Hardware.TimerSlave

/-!
# The peripherals behind the interconnect

The parallel ports and the timer at their ports of the interconnect. A write of
the data master takes effect in one cycle, at the slave it is routed to, so the
registers are those of the chip as its software sees it; and a read is answered
with what its register was while the read was at the port.
-/

namespace RelojDespertador

namespace Slave

/-- The parallel ports and the timer. -/
def peripheral : Slave → Bool
  | leds | sseg _ | buttons | timer | switch | buzzer => true
  | debug | debugMem | sram => false

/-- Their ports let a read wait for one cycle. -/
theorem params_of_peripheral {s : Slave} (hs : s.peripheral = true) :
    s.params.useWaitrequest = false ∧ s.params.readWaitCycles = 1 := by
  cases s with
  | debug | debugMem | sram => cases hs
  | leds | sseg | buttons | timer | switch | buzzer => exact ⟨rfl, rfl⟩

end Slave

/-! ## Parallel ports -/

/-- What an edge finds at the port of a parallel output, such as `TimerWithClock_LEDS.v`. -/
structure PioPort where
  address : BitVec 2
  chipselect : Bool
  writeN : Bool
  writedata : U32

namespace PioPort

/-- `data_out` after a rising edge. -/
def edge {n : Nat} (i : PioPort) (dataOut : BitVec n) : BitVec n :=
  if i.chipselect && !i.writeN && i.address == 0 then i.writedata.setWidth n else dataOut

/-- `read_mux_out`, extended to the width of `readdata`. -/
def readMuxOut {n : Nat} (address : BitVec 2) (data : BitVec n) : U32 :=
  ((if address == 0 then BitVec.allOnes n else 0) &&& data).setWidth 32

end PioPort

/-- The levels at the input pins. -/
structure Levels where
  buttons : BitVec 4
  switch : BitVec 1

/-- The registers of the parallel ports and of the timer: `data_out` of the outputs, and
`readdata` of the inputs. -/
structure Peripherals where
  pins : Pins
  timer : TimerSlave
  buttons : U32
  switch : U32

namespace Peripherals

/-- After reset. -/
def reset : Peripherals := ⟨Pins.reset, TimerSlave.reset, 0, 0⟩

end Peripherals

namespace Interconnect

section Ports

variable (y : Interconnect) (i : InterconnectInput)

/-- The port of a parallel output or input. -/
def pioPort (s : Slave) : PioPort where
  address := (SlavePort.avAddress s.params (y.slaveInput i s)).setWidth 2
  chipselect := (y.port s).avChipselect (y.slaveInput i s)
  writeN := !(y.port s).avWrite s.params (y.slaveInput i s)
  writedata := (SlavePort.avWritedata s.params (y.slaveInput i s)).setWidth 32

/-- The port of the timer. -/
def timerPort : TimerPort where
  address := SlavePort.avAddress Slave.timer.params (y.slaveInput i .timer)
  chipselect := (y.port .timer).avChipselect (y.slaveInput i .timer)
  writeN := !(y.port .timer).avWrite Slave.timer.params (y.slaveInput i .timer)
  writedata := SlavePort.avWritedata Slave.timer.params (y.slaveInput i .timer)

/-- One rising edge of the eight parallel outputs. -/
def pinsEdge (p : Pins) : Pins where
  leds := (y.pioPort i .leds).edge p.leds
  buzzer := (y.pioPort i .buzzer).edge p.buzzer
  display :=
    { hourTens := (y.pioPort i (.sseg .hourTens)).edge p.display.hourTens
      hourUnits := (y.pioPort i (.sseg .hourUnits)).edge p.display.hourUnits
      minsTens := (y.pioPort i (.sseg .minsTens)).edge p.display.minsTens
      minUnits := (y.pioPort i (.sseg .minUnits)).edge p.display.minUnits
      secTens := (y.pioPort i (.sseg .secTens)).edge p.display.secTens
      secUnits := (y.pioPort i (.sseg .secUnits)).edge p.display.secUnits }

/-- One rising clock edge. -/
def peripheralsEdge (levels : Levels) (p : Peripherals) : Peripherals where
  pins := y.pinsEdge i p.pins
  timer := p.timer.cycle (y.timerPort i)
  buttons := PioPort.readMuxOut (y.pioPort i .buttons).address levels.buttons
  switch := PioPort.readMuxOut (y.pioPort i .switch).address levels.switch

end Ports

/-- The peripherals along a run. -/
def peripheralsAt (levels : Nat → Levels) (w : Nat → InterconnectInput) : Nat → Peripherals
  | 0 => Peripherals.reset
  | k + 1 => (stateAt w k).peripheralsEdge (w k) (levels k) (peripheralsAt levels w k)

/-- The write of the data master whose command is sent in a cycle. -/
def busAt (w : Nat → InterconnectInput) (k : Nat) : Bus :=
  if sendsAt w .data k && (w k).data.write then
    some ⟨(w k).data.address.extractLsb' 2 12 ++ 0#2, (w k).data.writedata⟩
  else none

/-- What a write of a master puts on the bus. -/
def Access.busWrite (a : Access) : BusWrite := ⟨a.address, a.writedata⟩

/-! ## Writes -/

/-- On the bus are the writes among the accesses of the data master, in the cycles in which
their commands are sent. -/
theorem busAt_eq (w : Nat → InterconnectInput) (k : Nat) :
    busAt w k = ((issuedAt w .data k).filter Access.write).map Access.busWrite := by
  rw [busAt]
  cases hsends : sendsAt w .data k with
  | false =>
      rw [issuedAt_none hsends]
      rfl
  | true =>
      obtain ⟨s, htarget, -⟩ := exists_targetAt w .data k
      rw [issuedAt_eq hsends htarget, Option.filter]
      have hwrite : (Access.ofCommand .data ((w k).av .data) (delivered w s k)).write =
          (w k).data.write := rfl
      rw [hwrite, Bool.true_and]
      split_ifs
      · rfl
      · rfl

theorem items_busAt (w : Nat → InterconnectInput) (n : Nat) :
    Streams.items (busAt w) n =
      ((Streams.items (issuedAt w .data) n).filter Access.write).map Access.busWrite := by
  rw [← Streams.items_filter, ← Streams.items_map, funext (busAt_eq w)]

/-- A write is on the bus in the cycle in which the data master is let go, or in the one
before. -/
theorem Polite.released_soon {w : Nat → InterconnectInput} {k : Nat} (hw : Polite w)
    (hbus : (busAt w k).isSome = true) : Soon 1 (fun j => completesAt w .data j = true) k := by
  apply hw.completes_soon
  by_contra hsends
  rw [busAt, Bool.eq_false_iff.mpr hsends] at hbus
  cases hbus

theorem pioPort_address {y : Interconnect} {i : InterconnectInput} {s : Slave}
    (hs : s.params = Slave.leds.params) :
    (y.pioPort i s).address = (SlavePort.m0Address (y.slaveInput i s) >>> 2).setWidth 2 := by
  rw [pioPort, SlavePort.avAddress, hs]
  exact BitVec.setWidth_eq _

section Writes

variable {w : Nat → InterconnectInput} {s : Slave} {k : Nat} (hw : Polite w)
include hw

/-- A slave takes the writes of the data master, in the cycle in which they are sent. -/
theorem Polite.writes_iff (s : Slave) (k : Nat) :
    ((stateAt w k).port s).writes s.params ((stateAt w k).slaveInput (w k) s) = true ↔
      ((stateAt w k).Through (w k) .data s ∧ (stateAt w k).slaveReady (w k) s = true) ∧
        (w k).data.write = true := by
  have hport {m : Master} (hthrough : (stateAt w k).Through (w k) m s) :
      ((stateAt w k).port s).writes s.params ((stateAt w k).slaveInput (w k) s) = true ↔
        ((stateAt w k).cpData (w k) m).transWrite = true ∧
          (stateAt w k).slaveReady (w k) s = true := by
    have hk := pos_of_offers hthrough.1
    obtain ⟨owed, hport⟩ := hw.port_holds hk s
    rw [hport.writes_eq, ← hport.m0Write_eq, hw.m0Write_eq hk hthrough, Bool.and_eq_true]
    rfl
  constructor
  · intro hwrites
    have hvalid : (stateAt w k).commandValid (w k) s = true := by
      have hwrite := SlavePort.m0Write_of_writes hwrites
      simp only [SlavePort.m0Write, Bool.and_eq_true] at hwrite
      exact hwrite.2.1
    obtain ⟨m, hthrough⟩ := (commandValid_iff (hw.cycle k).mux).mp hvalid
    obtain ⟨hwrite, hready⟩ := (hport hthrough).mp hwrites
    obtain ⟨rfl, hdata⟩ := (hw.transWrite_iff hthrough).mp hwrite
    exact ⟨⟨hthrough, hready⟩, hdata⟩
  · rintro ⟨⟨hthrough, hready⟩, hdata⟩
    exact (hport hthrough).mpr ⟨(hw.transWrite_iff hthrough).mpr ⟨rfl, hdata⟩, hready⟩

/-- What a slave takes is what the bus of the data master carries to it. -/
theorem Polite.at_busAt (s : Slave) (k : Nat) :
    Bus.at s (busAt w k) =
      if ((stateAt w k).port s).writes s.params ((stateAt w k).slaveInput (w k) s) then
        some ⟨SlavePort.m0Address ((stateAt w k).slaveInput (w k) s),
          ((stateAt w k).slaveInput (w k) s).cp.data.data⟩
      else none := by
  cases hsends : sendsAt w .data k && (w k).data.write with
  | false =>
      have hnone : ¬ ((stateAt w k).port s).writes s.params ((stateAt w k).slaveInput (w k) s) =
          true := by
        intro hwrites
        obtain ⟨⟨hthrough, hready⟩, hwrite⟩ := (hw.writes_iff s k).mp hwrites
        rw [sendsAt_of_through hthrough, hready, hwrite] at hsends
        cases hsends
      rw [busAt, hsends, if_neg hnone]
      rfl
  | true =>
      rw [busAt, hsends, if_pos rfl]
      rw [Bool.and_eq_true] at hsends
      have hreaches : BusWrite.reaches s
          ⟨(w k).data.address.extractLsb' 2 12 ++ 0#2, (w k).data.writedata⟩ =
            Master.data.reaches ((stateAt w k).cpData (w k) .data).addr
              ((stateAt w k).cpData (w k) .data).transRead s := by
        obtain ⟨s', hthrough, -⟩ := sends_iff.mp hsends.1
        have hwrite := (hw.transWrite_iff hthrough).mpr ⟨rfl, hsends.2⟩
        rw [hw.transWrite_eq hthrough, Bool.not_eq_true'] at hwrite
        rw [hwrite]
        rfl
      by_cases hs : Master.data.reaches ((stateAt w k).cpData (w k) .data).addr
          ((stateAt w k).cpData (w k) .data).transRead s = true
      · obtain ⟨hthrough, hready⟩ := sends_reaches_iff.mp ⟨hsends.1, hs⟩
        rw [if_pos ((hw.writes_iff s k).mpr ⟨⟨hthrough, hready⟩, hsends.2⟩), Bus.at, Option.filter,
          hreaches, if_pos hs]
        change _ = some (BusWrite.mk (((stateAt w k).command (w k) s).data.addr.extractLsb' 2 12 ++ 0#2)
          ((stateAt w k).command (w k) s).data.data)
        rw [hthrough.command_eq (hw.cycle k).mux]
        change _ = some (BusWrite.mk (((w k).data.address.extractLsb' 2 12 ++ 0#2).extractLsb' 2 12 ++ 0#2)
          (w k).data.writedata)
        rw [BitVec.extractLsb'_append_eq_of_le (by decide), BitVec.extractLsb'_eq_self]
      · rw [Bus.at, Option.filter, hreaches, if_neg hs, if_neg]
        intro hwrites
        obtain ⟨⟨hthrough, hready⟩, -⟩ := (hw.writes_iff s k).mp hwrites
        exact hs (sends_reaches_iff.mpr ⟨hthrough, hready⟩).2

theorem Polite.pioPort_edge {n : Nat} (hs : s.params = Slave.leds.params) (dataOut : BitVec n) :
    ((stateAt w k).pioPort (w k) s).edge dataOut = pioEdge (Bus.at s (busAt w k)) dataOut := by
  have hstrobe := SlavePort.writes_eq_strobe (P := s.params)
    (i := (stateAt w k).slaveInput (w k) s) (y := (stateAt w k).port s) (by rw [hs]; rfl)
  rw [hw.at_busAt s k, PioPort.edge]
  simp only [pioPort, Bool.not_not, ← hstrobe]
  cases hwrites : ((stateAt w k).port s).writes s.params ((stateAt w k).slaveInput (w k) s) with
  | false => simp [pioEdge]
  | true =>
      have haddress := pioPort_address (y := stateAt w k) (i := w k) hs
      change (SlavePort.avAddress s.params ((stateAt w k).slaveInput (w k) s)).setWidth 2 = _
        at haddress
      have hdata : (SlavePort.avWritedata s.params ((stateAt w k).slaveInput (w k) s)).setWidth 32 =
          ((stateAt w k).slaveInput (w k) s).cp.data.data := by
        rw [SlavePort.avWritedata, hs]
        exact (BitVec.setWidth_eq _).trans (BitVec.setWidth_eq _)
      rw [haddress, hdata, if_pos rfl, Bool.true_and]
      simp only [beq_iff_eq]
      rfl

/-- The outputs take the writes that are routed to them. -/
theorem Polite.pinsEdge_eq (p : Pins) (k : Nat) :
    (stateAt w k).pinsEdge (w k) p = p.edge (busAt w k) := by
  have hleds := hw.pioPort_edge (s := .leds) (k := k) rfl p.leds
  have hbuzzer := hw.pioPort_edge (s := .buzzer) (k := k) rfl p.buzzer
  have hsseg (base : SsegBase) (dataOut : BitVec 7) :
      ((stateAt w k).pioPort (w k) (.sseg base)).edge dataOut =
        pioEdge (Bus.at (.sseg base) (busAt w k)) dataOut :=
    hw.pioPort_edge (s := .sseg base) rfl dataOut
  simp only [pinsEdge, Pins.edge, hleds, hbuzzer, hsseg]

/-- The timer takes the writes that are routed to it. -/
theorem Polite.timerPort_bus (k : Nat) :
    ((stateAt w k).timerPort (w k)).bus = timerBus (Bus.at .timer (busAt w k)) := by
  have hstrobe := SlavePort.writes_eq_strobe (P := Slave.timer.params)
    (i := (stateAt w k).slaveInput (w k) .timer) (y := (stateAt w k).port .timer) rfl
  rw [hw.at_busAt .timer k, TimerPort.bus]
  simp only [timerPort, Bool.not_not, ← hstrobe]
  split_ifs
  · rfl
  · rfl

/-- The memory takes the writes that are routed to it, if they are of whole words. -/
theorem Polite.words_edge {sram : SramBlock} (d : U32)
    (hbytes : (w k).data.write = true → (w k).data.byteenable = 0b1111) :
    (sram.edge ((stateAt w k).sramInput (w k) d)).words =
      sramEdge (Bus.at .sram (busAt w k)) sram.words := by
  have hstrobe := SlavePort.writes_eq_strobe (P := Slave.sram.params)
    (i := (stateAt w k).slaveInput (w k) .sram) (y := (stateAt w k).port .sram) rfl
  have hwren : SramBlock.wren ((stateAt w k).sramInput (w k) d) =
      ((stateAt w k).port .sram).writes Slave.sram.params ((stateAt w k).slaveInput (w k) .sram) :=
    hstrobe.symm
  rw [hw.at_busAt .sram k, SramBlock.edge, hwren]
  cases hwrites : ((stateAt w k).port .sram).writes Slave.sram.params
      ((stateAt w k).slaveInput (w k) .sram) with
  | false => rfl
  | true =>
      obtain ⟨⟨hthrough, -⟩, hwrite⟩ := (hw.writes_iff .sram k).mp hwrites
      have hbyteenable : ((stateAt w k).sramInput (w k) d).byteenable = 0b1111 := by
        change ((stateAt w k).command (w k) .sram).data.byteen = _
        rw [hthrough.command_eq (hw.cycle k).mux]
        exact hbytes hwrite
      have hdata : ((stateAt w k).sramInput (w k) d).writedata =
          ((stateAt w k).slaveInput (w k) .sram).cp.data.data := BitVec.setWidth_eq _
      rw [hbyteenable, hdata, if_pos rfl, if_pos rfl]
      simp only [mergeBytes_all]
      rfl

/-- The chip as its software sees it, under the writes of the data master. -/
def socAt (image : Sram) (w : Nat → InterconnectInput) (k : Nat) : Soc :=
  InputMachine.states Soc.edge (Soc.reset image) (busAt w) k

/-- What software sees are the outputs, the timer and, if all writes are of whole words,
the memory. -/
theorem Polite.socAt_eq (levels : Nat → Levels) (image : SramBlock) (dontCare : Nat → U32) (n : Nat) :
    (peripheralsAt levels w n).pins = (socAt image.words w n).pins ∧
      (peripheralsAt levels w n).timer.toTimer = (socAt image.words w n).timer ∧
      ((∀ k < n, (w k).data.write = true → (w k).data.byteenable = 0b1111) →
        (sramAt image dontCare w n).words = (socAt image.words w n).sram) := by
  induction n with
  | zero => exact ⟨rfl, rfl, fun _ => rfl⟩
  | succ n ih =>
      obtain ⟨hpins, htimer, hsram⟩ := ih
      refine ⟨?_, ?_, fun hbytes => ?_⟩
      · change (stateAt w n).pinsEdge (w n) (peripheralsAt levels w n).pins = _
        rw [hw.pinsEdge_eq, hpins]
        rfl
      · change ((peripheralsAt levels w n).timer.toTimer).cycle _ = _
        rw [hw.timerPort_bus, htimer]
        rfl
      · rw [sramAt_succ, hw.words_edge _ (hbytes n (Nat.lt_succ_self n)),
          hsram fun k hk => hbytes k (Nat.lt_succ_of_lt hk)]
        rfl

end Writes

/-! ## Reads -/

section Reads

/-- The register of a display. -/
def segmentsOf (base : SsegBase) (d : Display) : BitVec 7 :=
  match base with
  | .hourTens => d.hourTens
  | .hourUnits => d.hourUnits
  | .minsTens => d.minsTens
  | .minUnits => d.minUnits
  | .secTens => d.secTens
  | .secUnits => d.secUnits

/-- What a peripheral puts out at its port: the outputs answer at once, the inputs and the
timer with what they have sampled. -/
def readdata (y : Interconnect) (i : InterconnectInput) (p : Peripherals) : Slave → Option U32
  | .leds => some (PioPort.readMuxOut (y.pioPort i .leds).address p.pins.leds)
  | .buzzer => some (PioPort.readMuxOut (y.pioPort i .buzzer).address p.pins.buzzer)
  | .sseg base =>
      some (PioPort.readMuxOut (y.pioPort i (.sseg base)).address (segmentsOf base p.pins.display))
  | .buttons => some p.buttons
  | .switch => some p.switch
  | .timer => some (p.timer.readdata.setWidth 32)
  | .debug | .debugMem | .sram => none

/-- The data at the ports of the peripherals are those that they put out. -/
def Drive (levels : Nat → Levels) (w : Nat → InterconnectInput) : Prop :=
  ∀ k s x, (stateAt w k).readdata (w k) (peripheralsAt levels w k) s = some x →
    (w k).readdata s = x

/-- What an address of a peripheral stands for in a cycle. -/
def valueAt (levels : Levels) (p : Peripherals) (address : BitVec 14) : Slave → Option U32
  | .leds => some (PioPort.readMuxOut ((address >>> 2).setWidth 2) p.pins.leds)
  | .buzzer => some (PioPort.readMuxOut ((address >>> 2).setWidth 2) p.pins.buzzer)
  | .sseg base =>
      some (PioPort.readMuxOut ((address >>> 2).setWidth 2) (segmentsOf base p.pins.display))
  | .buttons => some (PioPort.readMuxOut ((address >>> 2).setWidth 2) levels.buttons)
  | .switch => some (PioPort.readMuxOut ((address >>> 2).setWidth 2) levels.switch)
  | .timer => some ((p.timer.readMuxOut ((address >>> 2).setWidth 3)).setWidth 32)
  | .debug | .debugMem | .sram => none

/-- What an address of a peripheral stands for fits into the width of its port. -/
theorem exists_valueAt (levels : Levels) (p : Peripherals) (address : BitVec 14) {s : Slave}
    (hs : s.peripheral = true) :
    ∃ x, valueAt levels p address s = some x ∧ s.params.readLatency = 0 ∧
      (x.setWidth s.params.dataW).setWidth 32 = x := by
  cases s with
  | debug | debugMem | sram => cases hs
  | timer =>
      refine ⟨_, rfl, rfl, ?_⟩
      exact congrArg (BitVec.setWidth 32) (BitVec.setWidth_setWidth_of_le _ (by decide))
  | leds | buzzer | sseg | buttons | switch =>
      exact ⟨_, rfl, rfl, (BitVec.setWidth_eq _).trans (BitVec.setWidth_eq _)⟩

variable {levels : Nat → Levels} {w : Nat → InterconnectInput} {s : Slave} {m : Master} {k : Nat}
  (hw : Polite w)
include hw

/-- The address at a port is that of the access. -/
theorem Polite.m0Address_eq (hthrough : (stateAt w k).Through (w k) m s) :
    SlavePort.m0Address ((stateAt w k).slaveInput (w k) s) =
      ((stateAt w k).cpData (w k) m).addr := by
  change ((stateAt w k).command (w k) s).data.addr.extractLsb' 2 12 ++ 0#2 = _
  rw [hthrough.command_eq (hw.cycle k).mux]
  change (((w k).av m).address.extractLsb' 2 12 ++ 0#2).extractLsb' 2 12 ++ 0#2 =
    ((w k).av m).address.extractLsb' 2 12 ++ 0#2
  rw [BitVec.extractLsb'_append_eq_of_le (by decide), BitVec.extractLsb'_eq_self]

/-- A port that waits leaves the outputs alone. -/
theorem Polite.pins_succ (hs : s.params = Slave.leds.params)
    (hready : (stateAt w k).slaveReady (w k) s = false) {n : Nat} (dataOut : BitVec n) :
    ((stateAt w k).pioPort (w k) s).edge dataOut = dataOut := by
  have hnone : ¬ ((stateAt w k).port s).writes s.params ((stateAt w k).slaveInput (w k) s) =
      true := by
    intro hwrites
    obtain ⟨⟨-, htrue⟩, -⟩ := (hw.writes_iff s k).mp hwrites
    exact Bool.false_ne_true (hready.symm.trans htrue)
  rw [hw.pioPort_edge hs, hw.at_busAt s k, if_neg hnone]
  rfl

/-- What a peripheral puts out for a read that has waited for one cycle is what its
address stood for in that cycle. -/
theorem Polite.readdata_succ (levels : Nat → Levels) (hs : s.peripheral = true)
    (hthrough : (stateAt w k).Through (w k) m s) (hready : (stateAt w k).slaveReady (w k) s = false)
    (hnext : (stateAt w (k + 1)).Through (w (k + 1)) m s)
    (hsame : (stateAt w (k + 1)).cpData (w (k + 1)) m = (stateAt w k).cpData (w k) m) :
    (stateAt w (k + 1)).readdata (w (k + 1)) (peripheralsAt levels w (k + 1)) s =
      valueAt (levels k) (peripheralsAt levels w k) ((stateAt w k).cpData (w k) m).addr s := by
  have haddress := hw.m0Address_eq hthrough
  have hnextAddress := hw.m0Address_eq hnext
  rw [hsame] at hnextAddress
  have houtput (hs : s.params = Slave.leds.params) {n : Nat} (dataOut : BitVec n) :
      PioPort.readMuxOut ((stateAt w (k + 1)).pioPort (w (k + 1)) s).address
          (((stateAt w k).pioPort (w k) s).edge dataOut) =
        PioPort.readMuxOut ((((stateAt w k).cpData (w k) m).addr >>> 2).setWidth 2) dataOut := by
    rw [hw.pins_succ hs hready, pioPort_address hs, hnextAddress]
  have hinput (hs : s.params = Slave.leds.params) {n : Nat} (level : BitVec n) :
      PioPort.readMuxOut ((stateAt w k).pioPort (w k) s).address level =
        PioPort.readMuxOut ((((stateAt w k).cpData (w k) m).addr >>> 2).setWidth 2) level := by
    rw [pioPort_address hs, haddress]
  cases s with
  | debug | debugMem | sram => cases hs
  | leds => exact congrArg some (houtput rfl _)
  | buzzer => exact congrArg some (houtput rfl _)
  | sseg base =>
      have hpattern := houtput rfl (segmentsOf base (peripheralsAt levels w k).pins.display)
      cases base <;> exact congrArg some hpattern
  | buttons => exact congrArg some (hinput rfl (levels k).buttons)
  | switch => exact congrArg some (hinput rfl (levels k).switch)
  | timer =>
      change some (((peripheralsAt levels w k).timer.readMuxOut
        ((SlavePort.m0Address ((stateAt w k).slaveInput (w k) .timer) >>> 2).setWidth 3)).setWidth 32) = _
      rw [haddress]
      rfl

/-- A read is answered with what its address stood for in the cycle before it was
accepted, in which it was at the port already. -/
theorem Polite.readdata_eq (hdrive : Drive levels w) (hs : s.peripheral = true) {a : Access}
    (hissued : issuedTo w .data s k = some a)
    (hread : a.write = false) :
    ∃ j, k = j + 1 ∧ (stateAt w j).Through (w j) .data s ∧
      valueAt (levels j) (peripheralsAt levels w j) a.address s = some a.readdata := by
  obtain ⟨⟨hthrough, hready⟩, rfl⟩ := issuedTo_eq_some_iff.mp hissued
  have hwrite : ((stateAt w k).cpData (w k) .data).transWrite = false := by
    rw [Bool.eq_false_iff]
    intro hwrite
    have htrue := ((hw.transWrite_iff hthrough).mp hwrite).2
    exact Bool.false_ne_true (hread.symm.trans htrue)
  have htransRead : ((stateAt w k).cpData (w k) .data).transRead = true := by
    rw [hw.transWrite_eq hthrough, Bool.not_eq_false'] at hwrite
    exact hwrite
  obtain ⟨hwait, hone⟩ := Slave.params_of_peripheral hs
  obtain ⟨j, rfl, hbefore, hwaits, hsame⟩ := hw.read_waited hwait hone hthrough hready htransRead
  have hvalue := hw.readdata_succ levels hs hbefore hwaits hthrough hsame
  refine ⟨j, rfl, hbefore, ?_⟩
  have haddress : (Access.ofCommand .data ((w (j + 1)).av .data) (delivered w s (j + 1))).address =
      ((stateAt w j).cpData (w j) .data).addr := by
    rw [← hsame]
    rfl
  rw [haddress, ← hvalue]
  obtain ⟨x, hx, hlatency, hfits⟩ := exists_valueAt (levels j) (peripheralsAt levels w j)
    ((stateAt w j).cpData (w j) .data).addr hs
  rw [hx] at hvalue
  rw [hvalue, Access.ofCommand]
  have havRead : ((w (j + 1)).av .data).read = true := by
    simp only [cpData, MasterPort.cpData, MasterPort.uavRead, Bool.and_eq_true] at htransRead
    exact htransRead.1
  simp only [havRead, if_true]
  rw [delivered, hdrive (j + 1) s x hvalue, hlatency]
  simp only [ne_eq, not_true_eq_false, if_false, hfits]

/-- A read that is done is answered with what its address stood for two cycles before, in
which it was at the port already. -/
theorem Polite.readdata_of_completed (hdrive : Drive levels w) (hs : s.peripheral = true)
    {a : Access} (hdone : completedAt w .data k = some a) (hread : a.write = false)
    (hreaches : a.reaches .data s = true) :
    ∃ j, k = j + 2 ∧ (stateAt w j).Through (w j) .data s ∧
      valueAt (levels j) (peripheralsAt levels w j) a.address s = some a.readdata := by
  obtain ⟨k, rfl, hissued⟩ := hw.issuedAt_of_read hdone hread
  have hissuedTo : issuedTo w .data s k = some a := by
    rw [hw.issuedTo_eq, hissued, Option.filter_some, hreaches]
    rfl
  obtain ⟨j, rfl, hthrough, hvalue⟩ := hw.readdata_eq hdrive hs hissuedTo hread
  exact ⟨j, rfl, hthrough, hvalue⟩

end Reads

end Interconnect

end RelojDespertador

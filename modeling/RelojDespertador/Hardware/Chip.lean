import RelojDespertador.Hardware.DebugSlaves
import RelojDespertador.Hardware.Peripherals

/-!
# The chip around the processor

The interconnect with its slaves. What the slaves put out depends on what their
ports have put into them, so the loop is closed here: a run is fixed by the
signals of the two masters, the levels at the pins and what the debugger does.
The processor is not part of it.
-/

namespace RelojDespertador

/-- What an edge finds: the signals of the masters, the levels at the input pins, what the
JTAG UART and the debug memory answer, whether the debugger is using the memory, and what a
memory block reads during a write. -/
structure ChipInput where
  data : AvalonCommand
  fetchRead : Bool
  fetchAddress : BitVec 14
  levels : Levels
  debugReaddata : Slave → U32
  jtagRamAccess : Bool
  dontCare : U32

/-- The registers. -/
structure Chip where
  network : Interconnect
  peripherals : Peripherals
  sram : SramBlock
  jtagUartWait : Bool
  ociMem : OciMem

namespace Chip

/-- After reset, with an image in the memory. -/
def reset (image : SramBlock) : Chip :=
  ⟨Interconnect.reset, Peripherals.reset, image, true, OciMem.reset⟩

variable (i : ChipInput) (y : Chip)

/-- The signals of the masters alone: the addresses at the ports depend on no others. -/
def masters : InterconnectInput where
  data := i.data
  fetchRead := i.fetchRead
  fetchAddress := i.fetchAddress
  readdata := i.debugReaddata
  waitrequest _ := false

/-- What the interconnect finds at its ports. -/
def ports : InterconnectInput :=
  { masters i with
    readdata := fun s =>
      if s = .sram then y.sram.readdata
      else (y.network.readdata (masters i) y.peripherals s).getD (i.debugReaddata s)
    waitrequest := fun s => if s = .debug then y.jtagUartWait else y.ociMem.waitrequest }

/-- The port of the debug memory. -/
def ociMemInput : OciMemInput where
  addressNxt8 :=
    (SlavePort.avAddress Slave.debugMem.params (y.network.slaveInput (y.ports i) .debugMem)).msb
  readNxt := (y.network.port .debugMem).avRead (y.network.slaveInput (y.ports i) .debugMem)
  writeNxt :=
    (y.network.port .debugMem).avWrite Slave.debugMem.params
      (y.network.slaveInput (y.ports i) .debugMem)
  jtagRamAccess := i.jtagRamAccess

/-- One rising clock edge. -/
def edge : Chip where
  network := y.network.edge (y.ports i)
  peripherals := y.network.peripheralsEdge (y.ports i) i.levels y.peripherals
  sram := y.sram.edge (y.network.sramInput (y.ports i) i.dontCare)
  jtagUartWait :=
    jtagUartEdge ((y.network.port .debug).avChipselect (y.network.slaveInput (y.ports i) .debug))
      ((y.network.port .debug).avRead (y.network.slaveInput (y.ports i) .debug))
      ((y.network.port .debug).avWrite Slave.debug.params
        (y.network.slaveInput (y.ports i) .debug)) y.jtagUartWait
  ociMem := y.ociMem.edge (y.ociMemInput i)

/-! ## Runs -/

/-- The chip along a run. -/
def chipAt (image : SramBlock) (c : Nat → ChipInput) (k : Nat) : Chip :=
  InputMachine.states edge (reset image) c k

/-- The ports of the interconnect along a run. -/
def portsAt (image : SramBlock) (c : Nat → ChipInput) (k : Nat) : InterconnectInput :=
  (chipAt image c k).ports (c k)

section Run

open Interconnect

variable (image : SramBlock) (c : Nat → ChipInput)

/-- The interconnect runs as it does on its own. -/
theorem network_eq (k : Nat) : (chipAt image c k).network = stateAt (portsAt image c) k := by
  induction k with
  | zero => rfl
  | succ k ih =>
      change (chipAt image c k).network.edge (portsAt image c k) = _
      rw [ih]
      rfl

theorem peripherals_eq (k : Nat) : (chipAt image c k).peripherals =
    peripheralsAt (fun k => (c k).levels) (portsAt image c) k := by
  induction k with
  | zero => rfl
  | succ k ih =>
      change (chipAt image c k).network.peripheralsEdge (portsAt image c k) (c k).levels
        (chipAt image c k).peripherals = _
      rw [ih, network_eq]
      rfl

theorem sram_eq (k : Nat) : (chipAt image c k).sram =
    sramAt image (fun k => (c k).dontCare) (portsAt image c) k := by
  induction k with
  | zero => rfl
  | succ k ih =>
      change (chipAt image c k).sram.edge
        ((chipAt image c k).network.sramInput (portsAt image c k) (c k).dontCare) = _
      rw [ih, network_eq]
      rfl

theorem drives : Drives image (fun k => (c k).dontCare) (portsAt image c) := by
  intro k
  rw [← sram_eq]
  rfl

theorem readdata_ports (s : Slave) :
    y.network.readdata (y.ports i) y.peripherals s =
      y.network.readdata (masters i) y.peripherals s := by
  cases s <;> rfl

theorem drive : Drive (fun k => (c k).levels) (portsAt image c) := by
  intro k s x hx
  have hsram : s ≠ .sram := by
    rintro rfl
    cases hx
  have hchip : (chipAt image c k).network.readdata ((chipAt image c k).ports (c k))
      (chipAt image c k).peripherals s = some x := by
    rw [network_eq, peripherals_eq]
    exact hx
  rw [readdata_ports] at hchip
  change (if s = .sram then _ else _) = x
  rw [if_neg hsram, hchip]
  rfl

variable {image c}

/-- Masters that hold the same access all the time are polite. -/
theorem polite_of_const (hexclusive : ∀ k, (c k).data.read = true → (c k).data.write = false)
    (hdata : ∀ k, (c (k + 1)).data = (c k).data)
    (hfetch : ∀ k, (c (k + 1)).fetchRead = (c k).fetchRead ∧
      (c (k + 1)).fetchAddress = (c k).fetchAddress) : Polite (portsAt image c) where
  exclusive := hexclusive
  keeps k m _ _ := by
    obtain ⟨hread, haddress⟩ := hfetch k
    cases m with
    | data => exact hdata k
    | instruction =>
        change AvalonCommand.mk (c (k + 1)).fetchRead _ (c (k + 1)).fetchAddress _ _ _ = _
        rw [hread, haddress]
        rfl

/-- The data master writes a word of the memory all the time, and the instruction master
reads it. -/
def storing (_ : Nat) : ChipInput where
  data := ⟨false, true, 0x1000, 0b1111, 7, false⟩
  fetchRead := true
  fetchAddress := 0x1000
  levels := ⟨0b1111, 0⟩
  debugReaddata _ := 0
  jtagRamAccess := false
  dontCare := 0

/-- Both masters read the debug memory all the time. -/
def inspecting (_ : Nat) : ChipInput :=
  { storing 0 with
    data := ⟨true, false, 0x2800, 0b1111, 0, true⟩
    fetchAddress := 0x2804 }

/-- The data master reads the buttons all the time, and they change in every cycle. -/
def polling (k : Nat) : ChipInput :=
  { storing 0 with
    data := ⟨true, false, 0x3050, 0b1111, 0, false⟩
    fetchRead := false
    levels := ⟨BitVec.ofNat 4 k, 0⟩ }

variable (hpolite : Polite (portsAt image c))
include hpolite

/-! ### The slaves with a wait port -/

/-- The cycles for which a slave keeps a command waiting through its wait port, at most. -/
def waits : Slave → Nat
  | .debug => 1
  | .debugMem => 3
  | .sram | .leds | .sseg _ | .buttons | .timer | .switch | .buzzer => 0

omit hpolite in
theorem jtagUartWait_succ (k : Nat) : (chipAt image c (k + 1)).jtagUartWait =
    !((((stateAt (portsAt image c) k).port .debug).m0Read
          ((stateAt (portsAt image c) k).slaveInput (portsAt image c k) .debug) ||
        ((stateAt (portsAt image c) k).port .debug).m0Write
          ((stateAt (portsAt image c) k).slaveInput (portsAt image c k) .debug)) &&
      (chipAt image c k).jtagUartWait) := by
  rw [← network_eq]
  exact jtagUartEdge_command _ _ _

theorem jtagUart_answers {k : Nat}
    (hvalid : (stateAt (portsAt image c) k).commandValid (portsAt image c k) .debug = true) :
    Soon 1 (fun j => (portsAt image c j).waitrequest .debug = false) k := by
  obtain ⟨m, hthrough⟩ := (commandValid_iff (hpolite.cycle k).mux).mp hvalid
  have hcommand := hpolite.m0_of_through hthrough
  cases hwait : (chipAt image c k).jtagUartWait with
  | false => exact Soon.now hwait
  | true =>
      apply Soon.of_succ
      apply Soon.now
      change (chipAt image c (k + 1)).jtagUartWait = false
      rw [jtagUartWait_succ, hcommand, hwait]
      rfl

omit hpolite in
theorem ociMemInput_eq (k : Nat) :
    ((chipAt image c k).ociMemInput (c k)).readNxt =
        ((stateAt (portsAt image c) k).port .debugMem).m0Read
          ((stateAt (portsAt image c) k).slaveInput (portsAt image c k) .debugMem) ∧
      ((chipAt image c k).ociMemInput (c k)).writeNxt =
        ((stateAt (portsAt image c) k).port .debugMem).m0Write
          ((stateAt (portsAt image c) k).slaveInput (portsAt image c k) .debugMem) := by
  rw [← network_eq]
  exact ⟨rfl, rfl⟩

theorem ociMem_exclusive (k : Nat) (hread : ((chipAt image c k).ociMemInput (c k)).readNxt = true) :
    ((chipAt image c k).ociMemInput (c k)).writeNxt = false := by
  rw [(ociMemInput_eq k).1] at hread
  rw [(ociMemInput_eq k).2]
  exact hpolite.m0_exclusive hread

/-- A command that the debug memory lets wait is the same in the next cycle. -/
theorem ociMem_held {k : Nat} {m : Master}
    (hthrough : (stateAt (portsAt image c) k).Through (portsAt image c k) m .debugMem)
    (hwait : (chipAt image c k).ociMem.waitrequest = true) :
    (stateAt (portsAt image c) (k + 1)).Through (portsAt image c (k + 1)) m .debugMem ∧
      ((chipAt image c (k + 1)).ociMemInput (c (k + 1))).readNxt =
        ((chipAt image c k).ociMemInput (c k)).readNxt ∧
      ((chipAt image c (k + 1)).ociMemInput (c (k + 1))).writeNxt =
        ((chipAt image c k).ociMemInput (c k)).writeNxt := by
  obtain ⟨owed, hport⟩ := hpolite.port_holds (pos_of_offers hthrough.1) .debugMem
  have hready : (stateAt (portsAt image c) k).slaveReady (portsAt image c k) .debugMem = false := by
    rw [slaveReady, hport.cpReady_of_waitrequest rfl]
    exact congrArg not hwait
  obtain ⟨hread, hwrite⟩ := hpolite.port_succ hthrough hready
  refine ⟨hpolite.through_succ hthrough hready, ?_, ?_⟩
  · rw [(ociMemInput_eq (k + 1)).1, (ociMemInput_eq k).1, hread]
  · rw [(ociMemInput_eq (k + 1)).2, (ociMemInput_eq k).2, hwrite]

omit hpolite in
/-- Without a command there is no access. -/
theorem ociMem_idle {k : Nat}
    (hvalid : (stateAt (portsAt image c) k).commandValid (portsAt image c k) .debugMem = false) :
    ((chipAt image c k).ociMemInput (c k)).readNxt = false ∧
      ((chipAt image c k).ociMemInput (c k)).writeNxt = false := by
  rw [(ociMemInput_eq k).1, (ociMemInput_eq k).2]
  simp [SlavePort.m0Read, SlavePort.m0Write, slaveInput, hvalid]

/-- The debug memory serves the access at its port. -/
theorem ociMem_serves (k : Nat) :
    (chipAt image c k).ociMem.Serves ((chipAt image c k).ociMemInput (c k)).readNxt
      ((chipAt image c k).ociMemInput (c k)).writeNxt := by
  induction k with
  | zero => exact OciMem.free_serves false (ociMem_exclusive hpolite 0)
  | succ k ih =>
      change ((chipAt image c k).ociMem.edge ((chipAt image c k).ociMemInput (c k))).Serves _ _
      cases hvalid : (stateAt (portsAt image c) k).commandValid (portsAt image c k) .debugMem with
      | false =>
          exact ih.edge_of_done (ociMem_exclusive hpolite (k + 1)) (Or.inr (ociMem_idle hvalid))
      | true =>
          cases hwait : (chipAt image c k).ociMem.waitrequest with
          | false => exact ih.edge_of_done (ociMem_exclusive hpolite (k + 1)) (Or.inl hwait)
          | true =>
              obtain ⟨m, hthrough⟩ := (commandValid_iff (hpolite.cycle k).mux).mp hvalid
              obtain ⟨-, hread, hwrite⟩ := ociMem_held hpolite hthrough hwait
              rw [hread, hwrite]
              apply (ih.edge_of_waits hwait ?_).1
              rw [(ociMemInput_eq k).1, (ociMemInput_eq k).2, ← Bool.or_eq_true]
              exact hpolite.m0_of_through hthrough

theorem ociMem_answers {k : Nat} (hjtag : ∀ j, k ≤ j → (c j).jtagRamAccess = false)
    (hvalid : (stateAt (portsAt image c) k).commandValid (portsAt image c k) .debugMem = true) :
    Soon 3 (fun j => (portsAt image c j).waitrequest .debugMem = false) k := by
  obtain ⟨m, hthrough⟩ := (commandValid_iff (hpolite.cycle k).mux).mp hvalid
  have hstep (j : Nat) (hkj : k ≤ j)
      (hthrough : (stateAt (portsAt image c) j).Through (portsAt image c j) m .debugMem)
      (hwait : ¬ (portsAt image c j).waitrequest .debugMem = false) :
      (stateAt (portsAt image c) (j + 1)).Through (portsAt image c (j + 1)) m .debugMem ∧
        (chipAt image c (j + 1)).ociMem.rank < (chipAt image c j).ociMem.rank := by
    have hbusy : (chipAt image c j).ociMem.waitrequest = true := Bool.eq_true_of_not_eq_false hwait
    have haccess := hpolite.m0_of_through hthrough
    rw [← (ociMemInput_eq j).1, ← (ociMemInput_eq j).2, Bool.or_eq_true] at haccess
    refine ⟨(ociMem_held hpolite hthrough hbusy).1, ?_⟩
    exact ((ociMem_serves hpolite j).edge_of_waits hbusy haccess).2 (hjtag j hkj)
  have hsoon := Soon.of_rank
    (P := fun j => (stateAt (portsAt image c) j).Through (portsAt image c j) m .debugMem)
    (fun j => (chipAt image c j).ociMem.rank) hthrough hstep
  exact hsoon.mono OciMem.rank_le

/-- The slaves answer in time, the debug memory while the debugger leaves it alone. -/
theorem answers {s : Slave} {k : Nat}
    (hjtag : s = .debugMem → ∀ j, k ≤ j → (c j).jtagRamAccess = false) :
    Answers waits (portsAt image c) s k := by
  intro j hkj hs hvalid
  cases s with
  | debug => exact jtagUart_answers hpolite hvalid
  | debugMem =>
      exact ociMem_answers hpolite (fun i hji => hjtag rfl i (Nat.le_trans hkj hji)) hvalid
  | sram | leds | sseg | buttons | timer | switch | buzzer => cases hs

/-! ### The chip -/

/-- The chip is the one that its software sees: a write of the data master takes effect
once, in the cycle in which its command is sent, at the slave it is routed to, and nothing
else changes the outputs, the timer and, if all writes are of whole words, the memory.
These writes are those of the accesses that the master has sent, which are done but for the
one under way, and the master is let go in the same cycle or in the next one. -/
theorem refines_soc (n : Nat) :
    ((chipAt image c n).peripherals.pins = (socAt image.words (portsAt image c) n).pins ∧
      (chipAt image c n).peripherals.timer.toTimer =
        (socAt image.words (portsAt image c) n).timer ∧
      ((∀ k < n, (c k).data.write = true → (c k).data.byteenable = 0b1111) →
        (chipAt image c n).sram.words = (socAt image.words (portsAt image c) n).sram)) ∧
    (∃ underWay : List Access, underWay.length ≤ 1 ∧
      Streams.items (issuedAt (portsAt image c) .data) n =
        Streams.items (completedAt (portsAt image c) .data) n ++ underWay ∧
      Streams.items (busAt (portsAt image c)) n =
        ((Streams.items (issuedAt (portsAt image c) .data) n).filter Access.write).map
          Access.busWrite) ∧
    ∀ k, (busAt (portsAt image c) k).isSome = true →
      Soon 1 (fun j => completesAt (portsAt image c) .data j = true) k := by
  refine ⟨?_, ?_, fun k hbus => hpolite.released_soon hbus⟩
  · rw [peripherals_eq, sram_eq]
    exact hpolite.socAt_eq _ image _ n
  · obtain ⟨underWay, hlength, hitems⟩ := hpolite.issued_eq_completed .data n
    exact ⟨underWay, hlength, hitems, items_busAt (portsAt image c) n⟩

omit hpolite in
theorem refines_soc_storing :
    ((chipAt ⟨fun _ => 0, 0⟩ storing 4).peripherals.pins =
        (socAt (fun _ => 0) (portsAt ⟨fun _ => 0, 0⟩ storing) 4).pins ∧
      (chipAt ⟨fun _ => 0, 0⟩ storing 4).peripherals.timer.toTimer =
        (socAt (fun _ => 0) (portsAt ⟨fun _ => 0, 0⟩ storing) 4).timer ∧
      ((∀ k < 4, (storing k).data.write = true → (storing k).data.byteenable = 0b1111) →
        (chipAt ⟨fun _ => 0, 0⟩ storing 4).sram.words =
          (socAt (fun _ => 0) (portsAt ⟨fun _ => 0, 0⟩ storing) 4).sram)) ∧
    (∃ underWay : List Access, underWay.length ≤ 1 ∧
      Streams.items (issuedAt (portsAt ⟨fun _ => 0, 0⟩ storing) .data) 4 =
        Streams.items (completedAt (portsAt ⟨fun _ => 0, 0⟩ storing) .data) 4 ++ underWay ∧
      Streams.items (busAt (portsAt ⟨fun _ => 0, 0⟩ storing)) 4 =
        ((Streams.items (issuedAt (portsAt ⟨fun _ => 0, 0⟩ storing) .data) 4).filter
          Access.write).map Access.busWrite) ∧
    ∀ k, (busAt (portsAt ⟨fun _ => 0, 0⟩ storing) k).isSome = true →
      Soon 1 (fun j => completesAt (portsAt ⟨fun _ => 0, 0⟩ storing) .data j = true) k :=
  refines_soc (polite_of_const (fun _ _ => by contradiction) (fun _ => rfl) fun _ => ⟨rfl, rfl⟩) 4

/-- A read of a peripheral is fresh: it is answered with what its address stood for two
cycles before it is done, in which it was at the port already. -/
theorem reads_fresh {s : Slave} {k : Nat} {a : Access} (hs : s.peripheral = true)
    (hdone : completedAt (portsAt image c) .data k = some a) (hread : a.write = false)
    (hreaches : a.reaches .data s = true) :
    ∃ j, k = j + 2 ∧ (chipAt image c j).network.Through (portsAt image c j) .data s ∧
      valueAt (c j).levels (chipAt image c j).peripherals a.address s = some a.readdata := by
  obtain ⟨j, hj, hthrough, hvalue⟩ :=
    hpolite.readdata_of_completed (drive image c) hs hdone hread hreaches
  refine ⟨j, hj, ?_, ?_⟩
  · rw [network_eq]
    exact hthrough
  · rw [peripherals_eq]
    exact hvalue

omit hpolite in
theorem reads_fresh_polling :
    ∃ j, 3 = j + 2 ∧ (chipAt ⟨fun _ => 0, 0⟩ polling j).network.Through
        (portsAt ⟨fun _ => 0, 0⟩ polling j) .data .buttons ∧
      valueAt (polling j).levels (chipAt ⟨fun _ => 0, 0⟩ polling j).peripherals 0x3050 .buttons =
        some 1 :=
  reads_fresh (a := ⟨0x3050, false, 0b1111, 0, 1⟩)
    (polite_of_const (fun _ _ => rfl) (fun _ => rfl) fun _ => ⟨rfl, rfl⟩) rfl (by decide +kernel) rfl
    (by decide)

/-- The memory is sequentially consistent: there is one order of all accesses to it in which
those of each master are the ones that it has sent, in its order, which are done but for the
one under way, and in which each read is answered with what was last written to its word. -/
theorem memory_sequential (n : Nat) :
    ∃ history : List (Master × Access),
      (∀ m, ∃ underWay : List Access, underWay.length ≤ 1 ∧
        Streams.items (issuedAt (portsAt image c) m) n =
          Streams.items (completedAt (portsAt image c) m) n ++ underWay ∧
        (history.filter (·.1 = m)).map Prod.snd =
          (Streams.items (issuedAt (portsAt image c) m) n).filter (Access.reaches m .sram)) ∧
      (history.map Prod.snd).foldlM Access.perform image.words =
        some (chipAt image c n).sram.words := by
  rw [sram_eq]
  exact hpolite.exists_history (drives image c) n

omit hpolite in
theorem memory_sequential_storing :
    ∃ history : List (Master × Access),
      (∀ m, ∃ underWay : List Access, underWay.length ≤ 1 ∧
        Streams.items (issuedAt (portsAt ⟨fun _ => 0, 0⟩ storing) m) 4 =
          Streams.items (completedAt (portsAt ⟨fun _ => 0, 0⟩ storing) m) 4 ++ underWay ∧
        (history.filter (·.1 = m)).map Prod.snd =
          (Streams.items (issuedAt (portsAt ⟨fun _ => 0, 0⟩ storing) m) 4).filter
            (Access.reaches m .sram)) ∧
      (history.map Prod.snd).foldlM Access.perform (fun _ => 0) =
        some (chipAt ⟨fun _ => 0, 0⟩ storing 4).sram.words :=
  memory_sequential
    (polite_of_const (fun _ _ => by contradiction) (fun _ => rfl) fun _ => ⟨rfl, rfl⟩) 4

/-- The cycles within which an access is done. -/
def cycles : Slave → Nat
  | .sram => 3
  | .debugMem => 9
  | .debug | .leds | .sseg _ | .buttons | .timer | .switch | .buzzer => 2

/-- No access hangs, whatever the other master does: from the second cycle on, every access
that a master holds is done within a number of cycles that depends on the slave alone, and
an access to the debug memory is if the debugger leaves it alone from then on. -/
theorem access_latency {m : Master} {s : Slave} {k : Nat}
    (hjtag : s = .debugMem → ∀ j, k ≤ j → (c j).jtagRamAccess = false) (hk : 0 < k)
    (hactive : MasterPort.active m ((portsAt image c k).av m) = true)
    (hs : Addresses m ((portsAt image c k).av m) s) :
    Soon (cycles s) (fun j => completesAt (portsAt image c) m j = true) k := by
  have hdone := hpolite.completes_of_active (answers hpolite hjtag) hk hactive hs
  cases s <;> exact hdone

omit hpolite in
theorem access_latency_inspecting :
    Soon 9 (fun j => completesAt (portsAt ⟨fun _ => 0, 0⟩ inspecting) .instruction j = true) 1 :=
  access_latency (s := .debugMem)
    (polite_of_const (fun _ _ => rfl) (fun _ => rfl) fun _ => ⟨rfl, rfl⟩)
    (fun _ _ _ => rfl) (by decide) rfl rfl

end Run

end Chip

end RelojDespertador

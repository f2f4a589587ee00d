import RelojDespertador.Hardware.Accesses
import RelojDespertador.Hardware.Soc

/-!
# The memory that the two masters share

`TimerWithClock_SRAM.v` at its port of the interconnect. Program and data are in
the same memory, and both masters reach it at once. To them it is a sequential
memory: there is one order of all accesses in which each master's own are those
that it has sent, and every read is answered with what was last written.
-/

namespace RelojDespertador

/-! ## One memory block -/

/-- The bits of the bytes that a byte enable selects. -/
def byteMask (byteenable : BitVec 4) : U32 :=
  lane 3 ++ lane 2 ++ lane 1 ++ lane 0
where
  lane (k : Nat) : BitVec 8 := if byteenable.getLsbD k then BitVec.allOnes 8 else 0

/-- A word after a write under a byte enable. -/
def mergeBytes (byteenable : BitVec 4) (word writedata : U32) : U32 :=
  (word &&& ~~~byteMask byteenable) ||| (writedata &&& byteMask byteenable)

/-- A write of a whole word. -/
theorem mergeBytes_all (word writedata : U32) : mergeBytes 0b1111 word writedata = writedata := by
  have hmask : byteMask 0b1111 = BitVec.allOnes 32 := by decide
  rw [mergeBytes, hmask, BitVec.not_allOnes, BitVec.and_allOnes]
  simp

/-- What an edge finds: the port, and what a read during a write gives. -/
structure SramInput where
  address : BitVec 10
  byteenable : BitVec 4
  chipselect : Bool
  write : Bool
  writedata : U32
  dontCare : U32

/-- The words, and the register behind `q_a`. -/
structure SramBlock where
  words : Sram
  readdata : U32

namespace SramBlock

/-- `wren`. -/
def wren (i : SramInput) : Bool := i.chipselect && i.write

/-- One rising clock edge. -/
def edge (i : SramInput) (y : SramBlock) : SramBlock where
  words :=
    if wren i then fun word =>
      if word = i.address then mergeBytes i.byteenable (y.words word) i.writedata else y.words word
    else y.words
  readdata := if wren i then i.dontCare else y.words i.address

end SramBlock

namespace Interconnect

/-! ## What a sequential memory does -/

namespace Access

/-- The word of the memory that an access is to. -/
def word (a : Access) : BitVec 10 := a.address.extractLsb' 2 10

/-- An access to a sequential memory, unless it is a read with another answer. -/
def perform (sram : Sram) (a : Access) : Option Sram :=
  if a.write then
    some fun word =>
      if word = a.word then mergeBytes a.byteenable (sram word) a.writedata else sram word
  else if a.readdata = sram a.word then some sram else none

/-- The interconnect routes the access of a master to the slave. -/
def reaches (m : Master) (s : Slave) (a : Access) : Bool := m.reaches a.address (!a.write) s

/-- A cycle of the block does that of the access at its port. -/
theorem perform_edge {a : Access} {i : SramInput} {y : SramBlock} (hword : a.word = i.address)
    (hbyteenable : a.byteenable = i.byteenable) (hwritedata : a.writedata = i.writedata)
    (hwrite : a.write = SramBlock.wren i)
    (hanswer : a.write = false → a.readdata = (y.edge i).readdata) :
    a.perform y.words = some (y.edge i).words := by
  rw [perform, SramBlock.edge, hword, hbyteenable, hwritedata]
  cases hwren : SramBlock.wren i with
  | true =>
      rw [hwrite, hwren]
      rfl
  | false =>
      have hread := hanswer (hwrite.trans hwren)
      simp only [SramBlock.edge, hwren, Bool.false_eq_true, if_false] at hread
      simp [hwrite, hwren, hread]

end Access

/-! ## The block at its port -/

section Memory

/-- The port of the block. -/
def sramInput (y : Interconnect) (i : InterconnectInput) (dontCare : U32) : SramInput where
  address := SlavePort.avAddress Slave.sram.params (y.slaveInput i .sram)
  byteenable := SlavePort.avByteenable (y.slaveInput i .sram)
  chipselect := (y.port .sram).avChipselect (y.slaveInput i .sram)
  write := (y.port .sram).avWrite Slave.sram.params (y.slaveInput i .sram)
  writedata := SlavePort.avWritedata Slave.sram.params (y.slaveInput i .sram)
  dontCare := dontCare

/-- The block along a run, from an image. -/
def sramAt (image : SramBlock) (dontCare : Nat → U32) (w : Nat → InterconnectInput) (k : Nat) :
    SramBlock :=
  InputMachine.states SramBlock.edge image
    (fun k => (stateAt w k).sramInput (w k) (dontCare k)) k

/-- The data at the port of the memory are those of the block. -/
def Drives (image : SramBlock) (dontCare : Nat → U32) (w : Nat → InterconnectInput) : Prop :=
  ∀ k, (w k).readdata .sram = (sramAt image dontCare w k).readdata

variable {i : InterconnectInput} {y : Interconnect} {image : SramBlock} {dontCare : Nat → U32}
  {w : Nat → InterconnectInput} {m : Master} {s : Slave} {k : Nat}

theorem wren_sramInput (d : U32) :
    SramBlock.wren (y.sramInput i d) = (y.port .sram).m0Write (y.slaveInput i .sram) := by
  have hwrite : (y.port .sram).avWrite Slave.sram.params (y.slaveInput i .sram) =
      (y.port .sram).m0Write (y.slaveInput i .sram) := rfl
  simp only [SramBlock.wren, sramInput, SlavePort.avChipselect, hwrite]
  cases (y.port .sram).m0Write (y.slaveInput i .sram) <;> simp

theorem sramInput_address (d : U32) :
    (y.sramInput i d).address = (y.command i .sram).data.addr.extractLsb' 2 10 := by
  change (((y.command i .sram).data.addr.extractLsb' 2 12 ++ 0#2) >>> 2).setWidth 10 = _
  apply BitVec.eq_of_getLsbD_eq
  intro k hk
  have hlow : ¬ 2 + k < 2 := Nat.not_lt.mpr (Nat.le_add_right 2 k)
  have hcut : k < 12 := Nat.lt_of_lt_of_le hk (by decide)
  rw [BitVec.getLsbD_setWidth, BitVec.getLsbD_ushiftRight, BitVec.getLsbD_append, if_neg hlow,
    Nat.add_sub_cancel_left, BitVec.getLsbD_extractLsb', BitVec.getLsbD_extractLsb']
  rw [decide_eq_true hk, decide_eq_true hcut, Bool.true_and]

theorem sramAt_succ (image : SramBlock) (dontCare : Nat → U32) (w : Nat → InterconnectInput)
    (k : Nat) : sramAt image dontCare w (k + 1) =
      (sramAt image dontCare w k).edge ((stateAt w k).sramInput (w k) (dontCare k)) := rfl

variable (hw : Polite w)
include hw

/-- The memory is ready for every command. -/
theorem Polite.acceptedAt_sram (hvalid : (stateAt w k).commandValid (w k) .sram = true) :
    acceptedAt w .sram k =
      some (Access.ofPacket ((stateAt w k).command (w k) .sram).data (delivered w .sram k)) := by
  obtain ⟨m, hthrough⟩ := (commandValid_iff (hw.cycle k).mux).mp hvalid
  obtain ⟨owed, hport⟩ := hw.port_holds (pos_of_offers hthrough.1) .sram
  have hready : (stateAt w k).slaveReady (w k) .sram = true := hport.cpReady_of_noWait rfl rfl
  rw [acceptedAt, hvalid, hready]
  rfl

/-- The block is written by the write of a master at its port. -/
theorem Polite.through_of_wren {d : U32}
    (hwren : SramBlock.wren ((stateAt w k).sramInput (w k) d) = true) :
    ∃ m, (stateAt w k).Through (w k) m .sram ∧
      ((stateAt w k).cpData (w k) m).transWrite = true := by
  rw [wren_sramInput] at hwren
  have hvalid : (stateAt w k).commandValid (w k) .sram = true := by
    simp only [SlavePort.m0Write, Bool.and_eq_true] at hwren
    exact hwren.2.1
  obtain ⟨m, hthrough⟩ := (commandValid_iff (hw.cycle k).mux).mp hvalid
  rw [hw.m0Write_eq (pos_of_offers hthrough.1) hthrough] at hwren
  exact ⟨m, hthrough, hwren⟩

/-- One cycle: the block does what a sequential memory does with the access accepted. -/
theorem Polite.sramAt_cases (hdrives : Drives image dontCare w) (k : Nat) :
    (acceptedAt w .sram k = none ∧
      (sramAt image dontCare w (k + 1)).words = (sramAt image dontCare w k).words) ∨
    ∃ a, acceptedAt w .sram k = some a ∧ a.perform (sramAt image dontCare w k).words =
      some (sramAt image dontCare w (k + 1)).words := by
  cases hvalid : (stateAt w k).commandValid (w k) .sram with
  | false =>
      refine Or.inl ⟨by simp [acceptedAt, hvalid], ?_⟩
      have hidle : SramBlock.wren ((stateAt w k).sramInput (w k) (dontCare k)) = false := by
        rw [Bool.eq_false_iff]
        intro hwren
        obtain ⟨m, hthrough, -⟩ := hw.through_of_wren hwren
        have hbusy := (commandValid_iff (hw.cycle k).mux).mpr ⟨m, hthrough⟩
        exact Bool.false_ne_true (hvalid.symm.trans hbusy)
      rw [sramAt_succ, SramBlock.edge, hidle]
      rfl
  | true =>
      obtain ⟨m, hthrough⟩ := (commandValid_iff (hw.cycle k).mux).mp hvalid
      have hcommand := hthrough.command_eq (hw.cycle k).mux
      refine Or.inr ⟨_, hw.acceptedAt_sram hvalid, ?_⟩
      rw [sramAt_succ, hcommand]
      apply Access.perform_edge
      · rw [sramInput_address, hcommand]
        rfl
      · change _ = ((stateAt w k).command (w k) .sram).data.byteen
        rw [hcommand]
        rfl
      · change _ = (((stateAt w k).command (w k) .sram).data.data).setWidth 32
        rw [hcommand, BitVec.setWidth_eq]
        rfl
      · rw [wren_sramInput, hw.m0Write_eq (pos_of_offers hthrough.1) hthrough]
        rfl
      · intro hwrite
        have hread : ((stateAt w k).beat (w k) m).data.transRead = true := by
          have hone := hw.transWrite_eq hthrough
          rw [show ((stateAt w k).cpData (w k) m).transWrite = false from hwrite] at hone
          exact (Bool.not_eq_eq_eq_not.mp hone.symm)
        rw [← sramAt_succ, ← hdrives (k + 1)]
        simp only [Access.ofPacket, hread, if_true]
        change (((w (k + 1)).readdata .sram).setWidth 32).setWidth 32 = _
        rw [BitVec.setWidth_eq, BitVec.setWidth_eq]

/-- A run: the memory is that of a sequential one after the accesses accepted. -/
theorem Polite.sramAt_words (hdrives : Drives image dontCare w) (n : Nat) :
    (Streams.items (acceptedAt w .sram) n).foldlM Access.perform image.words =
      some (sramAt image dontCare w n).words := by
  induction n with
  | zero => rfl
  | succ n ih =>
      rcases hw.sramAt_cases hdrives n with ⟨hnone, hwords⟩ | ⟨a, ha, hperform⟩
      · rw [Streams.items_succ_of_none hnone, hwords]
        exact ih
      · rw [Streams.items_succ_of_some ha, List.foldlM_append, ih]
        simp [hperform]

/-- What a master sends to a slave are its accesses that are routed there. -/
theorem Polite.issuedTo_eq (m : Master) (s : Slave) (k : Nat) :
    issuedTo w m s k = (issuedAt w m k).filter (Access.reaches m s) := by
  cases hsends : sendsAt w m k with
  | false =>
      rw [issuedAt_none hsends]
      simp [issuedTo, hsends]
  | true =>
      obtain ⟨s₀, htarget, hreaches⟩ := exists_targetAt w m k
      obtain ⟨s', hthrough, -⟩ := sends_iff.mp hsends
      have hroute : Access.reaches m s (Access.ofCommand m ((w k).av m) (delivered w s₀ k)) =
          decide (s = s₀) := by
        rw [← hreaches s, Access.reaches, ← hw.ofPacket_eq hsends]
        change m.reaches _ (!((stateAt w k).cpData (w k) m).transWrite) s = _
        rw [hw.transWrite_eq hthrough, Bool.not_not]
        rfl
      rw [issuedAt_eq hsends htarget, Option.filter, hroute, issuedTo, hsends, hreaches s]
      by_cases hs : s = s₀
      · simp [hs]
      · simp [hs]

/-- One order of the accesses to the memory explains all of them: those of each master are
the ones that it has sent there, in its order, which are done but for the one under way,
and each read is answered with what was last written to its word. -/
theorem Polite.exists_history (hdrives : Drives image dontCare w) (n : Nat) :
    ∃ history : List (Master × Access),
      (∀ m, ∃ underWay : List Access, underWay.length ≤ 1 ∧
        Streams.items (issuedAt w m) n = Streams.items (completedAt w m) n ++ underWay ∧
        (history.filter (·.1 = m)).map Prod.snd =
          (Streams.items (issuedAt w m) n).filter (Access.reaches m .sram)) ∧
      (history.map Prod.snd).foldlM Access.perform image.words =
        some (sramAt image dontCare w n).words := by
  obtain ⟨history, hout, hparts⟩ := Streams.isMerge_items (hw.acceptedAt_cases .sram) n
  refine ⟨history, fun m => ?_, ?_⟩
  · obtain ⟨underWay, hlength, hitems⟩ := hw.issued_eq_completed m n
    refine ⟨underWay, hlength, hitems, ?_⟩
    have hfilter : issuedTo w m .sram = fun k => (issuedAt w m k).filter (Access.reaches m .sram) :=
      funext fun k => hw.issuedTo_eq m .sram k
    rw [hparts m]
    change Streams.items (issuedTo w m .sram) n = _
    rw [hfilter, Streams.items_filter]
  · rw [hout]
    exact hw.sramAt_words hdrives n

end Memory

end Interconnect

end RelojDespertador

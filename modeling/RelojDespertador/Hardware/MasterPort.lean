import RelojDespertador.Hardware.Packet

/-!
# The ports of the two masters in the interconnect

Each master of the processor has a translator `altera_merlin_master_translator.sv`
and an agent `altera_merlin_master_agent.sv`. They keep the master waiting until
its access is done and send the command of an access only once, however long the
master has to hold it.
-/

namespace RelojDespertador

/-- What a master drives. -/
structure AvalonCommand where
  read : Bool
  write : Bool
  address : BitVec 14
  byteenable : BitVec 4
  writedata : U32
  debugaccess : Bool
  deriving DecidableEq, Repr

/-- The masters of the processor. -/
inductive Master
  | data | instruction
  deriving DecidableEq, Repr

namespace Master

/-- `AV_REGISTERINCOMINGSIGNALS`. -/
def registersIncoming : Master → Bool
  | data => true
  | instruction => false

/-- `USE_WRITE`. -/
def useWrite : Master → Bool
  | data => true
  | instruction => false

/-- `ID`. -/
def id : Master → BitVec 4
  | data => 0
  | instruction => 1

/-- `BURSTWRAP_VALUE`. -/
def burstwrapValue : Master → BitVec 3
  | data => 7
  | instruction => 3

end Master

/-- What an edge finds: the master's signals, whether its command is taken, and whether
its response is there. -/
structure MasterPortInput where
  av : AvalonCommand
  cpReady : Bool
  rpValid : Bool

/-- The registers. -/
structure MasterPort where
  readAccepted : Bool
  writeAccepted : Bool
  endBegintransfer : Bool
  holdWaitrequest : Bool
  deriving DecidableEq, Repr

namespace MasterPort

/-- After reset. -/
def reset : MasterPort := ⟨false, false, false, true⟩

section Command

variable (m : Master) (c : AvalonCommand) (y : MasterPort)

/-- `uav_write_pre`. -/
def uavWritePre : Bool := m.useWrite && c.write

/-- `uav_read`. -/
def uavRead : Bool := c.read && !y.readAccepted

/-- `uav_write`. -/
def uavWrite : Bool :=
  if m.registersIncoming then uavWritePre m c && !y.writeAccepted else uavWritePre m c

/-- `internal_begintransfer`. -/
def begintransfer : Bool := (y.uavWrite m c || y.uavRead c) && !y.endBegintransfer

/-- `cp_valid`. -/
def cpValid : Bool := (y.uavWrite m c || y.uavRead c) && !y.holdWaitrequest

/-- `cp_data`. -/
def cpData : Packet where
  oriBurstSize := 2
  responseStatus := 0
  cache := 0
  protection := 0#1 ++ 1#1 ++ BitVec.ofBool c.debugaccess
  threadId := 0
  destId := 0
  srcId := m.id
  qos := 0
  beginBurst := 0
  dataSideband := 0
  addrSideband := 0
  burstType := if m.burstwrapValue.getLsbD 2 then 0b01 else 0b10
  burstSize := 2
  burstwrap := m.burstwrapValue
  byteCnt := 4
  transExclusive := false
  transLock := false
  transRead := y.uavRead c
  transWrite := y.uavWrite m c
  transPosted := y.uavWrite m c
  transCompressedRead := false
  addr := c.address.extractLsb' 2 12 ++ 0#2
  byteen := c.byteenable
  data := c.writedata

theorem cpData_plain : (y.cpData m c).Plain := ⟨rfl, fun h => h⟩

end Command

variable (m : Master) (i : MasterPortInput) (y : MasterPort)

/-- `uav_waitrequest`. -/
def uavWaitrequest : Bool := y.holdWaitrequest || !i.cpReady

/-- `av_waitrequest`. -/
def avWaitrequest : Bool :=
  if m.registersIncoming then
    if i.av.read then !i.rpValid
    else if uavWritePre m i.av then
      (y.begintransfer m i.av || y.uavWaitrequest i) && !y.writeAccepted
    else true
  else if i.av.read then !i.rpValid else y.uavWaitrequest i

/-- One rising clock edge. -/
def edge : MasterPort where
  readAccepted :=
    if !y.readAccepted then
      if y.avWaitrequest m i then i.av.read && !y.uavWaitrequest i else false
    else if i.rpValid then false else y.readAccepted
  writeAccepted :=
    if m.registersIncoming then
      if !y.avWaitrequest m i then false
      else if y.uavWrite m i.av && !y.uavWaitrequest i then true
      else y.writeAccepted
    else false
  endBegintransfer :=
    if y.begintransfer m i.av && y.uavWaitrequest i then true
    else if y.uavWaitrequest i then y.endBegintransfer else false
  holdWaitrequest := false

/-! ## An access -/

/-- The master wants an access. -/
def active (c : AvalonCommand) : Bool := c.read || uavWritePre m c

/-- The command of the access goes out. -/
def sends : Bool := y.cpValid m i.av && i.cpReady

/-- The master is let go. -/
def completes : Bool := active m i.av && !y.avWaitrequest m i

/-- The command has gone out, and the master is still waiting. -/
def pending : Bool := y.readAccepted || y.writeAccepted

/-- The registers belong to the access that the master holds. -/
structure Serves (c : AvalonCommand) : Prop where
  /-- A master does not read and write at once. -/
  exclusive : c.read = true → uavWritePre m c = false
  read : y.readAccepted = true → c.read = true
  write : y.writeAccepted = true → uavWritePre m c = true ∧ m.registersIncoming = true

theorem reset_serves {m : Master} {c : AvalonCommand}
    (hexclusive : c.read = true → uavWritePre m c = false) : reset.Serves m c where
  exclusive := hexclusive
  read hread := by cases hread
  write hwrite := by cases hwrite

section Spec

variable {m i y}

theorem Serves.write_of_not_read {c : AvalonCommand} (h : y.Serves m c)
    (hwrite : y.writeAccepted = true) :
    uavWritePre m c = true ∧ m.registersIncoming = true ∧ c.read = false := by
  obtain ⟨hpre, hregisters⟩ := h.write hwrite
  refine ⟨hpre, hregisters, ?_⟩
  by_contra hread
  rw [h.exclusive (Bool.eq_true_of_not_eq_false hread)] at hpre
  cases hpre

/-- The command of an access goes out once. -/
theorem Serves.not_cpValid {c : AvalonCommand} (h : y.Serves m c) (hpending : y.pending = true) :
    y.cpValid m c = false := by
  simp only [pending, Bool.or_eq_true] at hpending
  rcases hpending with hread | hwrite
  · have hnone := h.exclusive (h.read hread)
    simp [cpValid, uavWrite, uavRead, hread, hnone]
  · obtain ⟨hpre, hregisters, hnone⟩ := h.write_of_not_read hwrite
    simp [cpValid, uavWrite, uavRead, hwrite, hregisters, hnone]

theorem Serves.not_sends (h : y.Serves m i.av) (hpending : y.pending = true) :
    y.sends m i = false := by
  rw [sends, h.not_cpValid hpending, Bool.false_and]

/-- A command that has not gone out is there for every access that the master wants. -/
theorem cpValid_of_not_pending {c : AvalonCommand} (hpending : y.pending = false)
    (hrunning : y.holdWaitrequest = false) : y.cpValid m c = active m c := by
  simp only [pending, Bool.or_eq_false_iff] at hpending
  simp [cpValid, active, uavWrite, uavRead, hpending, hrunning, Bool.or_comm]

/-- A command that has not gone out does not depend on the registers. -/
theorem cpData_of_not_pending {c : AvalonCommand} (hpending : y.pending = false) :
    y.cpData m c = reset.cpData m c := by
  simp only [pending, Bool.or_eq_false_iff] at hpending
  simp [cpData, uavWrite, uavRead, hpending, reset]

/-- A read is done when its response is there. -/
theorem completes_of_read (hread : i.av.read = true) : y.completes m i = i.rpValid := by
  simp [completes, active, avWaitrequest, hread]

section Response

variable (h : y.Serves m i.av) (hrp : i.rpValid = y.readAccepted)
include h hrp

/-- The access that has gone out is done. -/
theorem Serves.completes_of_pending (hpending : y.pending = true) : y.completes m i = true := by
  simp only [pending, Bool.or_eq_true] at hpending
  rcases hpending with hread | hwrite
  · rw [completes_of_read (h.read hread), hrp, hread]
  · obtain ⟨hpre, hregisters, hnone⟩ := h.write_of_not_read hwrite
    simp [completes, active, avWaitrequest, hpre, hregisters, hnone, hwrite]

/-- An access is not done before its command has gone out. -/
theorem Serves.sends_of_completes (hpending : y.pending = false)
    (hdone : y.completes m i = true) : y.sends m i = true := by
  simp only [pending, Bool.or_eq_false_iff] at hpending
  obtain ⟨hread, hwrite⟩ := hpending
  cases hrd : i.av.read with
  | true =>
      rw [completes_of_read hrd, hrp, hread] at hdone
      cases hdone
  | false =>
      cases hpre : uavWritePre m i.av with
      | false => simp [completes, active, hrd, hpre] at hdone
      | true =>
          simp only [completes, active, avWaitrequest, uavWaitrequest, hrd, hpre, hwrite] at hdone
          cases m <;> simp_all [sends, cpValid, uavWrite, Master.registersIncoming]

/-- A response is owed after a read has gone out. -/
theorem Serves.readAccepted_edge :
    (y.edge m i).readAccepted = (y.sends m i && i.av.read) := by
  cases hread : y.readAccepted with
  | true =>
      rw [h.not_sends (by simp [pending, hread])]
      simp [edge, hread, hrp]
  | false =>
      cases hrd : i.av.read with
      | false => simp [edge, hread, hrd]
      | true =>
          have hwait : y.avWaitrequest m i = true := by simp [avWaitrequest, hrd, hrp, hread]
          simp [edge, sends, cpValid, uavRead, uavWaitrequest, hread, hrd, hwait]

theorem Serves.writeAccepted_edge :
    (y.edge m i).writeAccepted = (y.sends m i && !y.completes m i && !i.av.read) := by
  cases hdone : y.completes m i with
  | true =>
      have hwait : y.avWaitrequest m i = false := by
        simp only [completes, Bool.and_eq_true, Bool.not_eq_true'] at hdone
        exact hdone.2
      simp [edge, hwait]
  | false =>
      have hpending : y.pending = false := by
        by_contra hpending
        rw [h.completes_of_pending hrp (Bool.eq_true_of_not_eq_false hpending)] at hdone
        cases hdone
      simp only [pending, Bool.or_eq_false_iff] at hpending
      cases hrd : i.av.read with
      | true =>
          have hnone := h.exclusive hrd
          simp [edge, uavWrite, hnone, hpending]
      | false =>
          cases hpre : uavWritePre m i.av with
          | false => simp [edge, uavWrite, sends, cpValid, uavRead, hrd, hpre, hpending]
          | true =>
              have hdata : m = .data := by
                cases m with
                | data => rfl
                | instruction => cases hpre
              subst hdata
              have hwait : y.avWaitrequest .data i = true := by
                simpa [completes, active, hrd, hpre] using hdone
              simp [edge, Master.registersIncoming, hwait, uavWrite, uavWaitrequest, sends, cpValid,
                uavRead, hrd, hpre, hpending]

/-- The access waits on if its command has gone out and it is not done. -/
theorem Serves.pending_edge : (y.edge m i).pending = (y.sends m i && !y.completes m i) := by
  rw [pending, h.readAccepted_edge hrp, h.writeAccepted_edge hrp]
  cases hrd : i.av.read with
  | false => simp
  | true =>
      have hdone := completes_of_read (m := m) (y := y) hrd
      cases hsends : y.sends m i with
      | false => rfl
      | true =>
          cases hread : y.readAccepted with
          | false => simp [hdone, hrp, hread]
          | true =>
              rw [h.not_sends (by simp [pending, hread])] at hsends
              cases hsends

/-- The registers go on serving a master that holds its access until it is done. -/
theorem Serves.edge {c : AvalonCommand} (hexclusive : c.read = true → uavWritePre m c = false)
    (hkeep : active m i.av = true → y.completes m i = false → c = i.av) :
    (y.edge m i).Serves m c where
  exclusive := hexclusive
  read hread := by
    rw [h.readAccepted_edge hrp, Bool.and_eq_true] at hread
    obtain ⟨hsends, hrd⟩ := hread
    have hdone : y.completes m i = false := by
      rw [completes_of_read hrd, hrp, Bool.eq_false_iff]
      intro haccepted
      rw [h.not_sends (by simp [pending, haccepted])] at hsends
      cases hsends
    rw [hkeep (by simp [active, hrd]) hdone]
    exact hrd
  write hwrite := by
    rw [h.writeAccepted_edge hrp] at hwrite
    simp only [Bool.and_eq_true, Bool.not_eq_true'] at hwrite
    obtain ⟨⟨hsends, hdone⟩, hrd⟩ := hwrite
    have hpre : uavWritePre m i.av = true := by
      by_contra hpre
      simp [sends, cpValid, uavWrite, uavRead, hrd, hpre] at hsends
    have hdata : m.registersIncoming = true := by
      cases m with
      | data => rfl
      | instruction => cases hpre
    rw [hkeep (by simp [active, hpre]) hdone]
    exact ⟨hpre, hdata⟩

end Response

end Spec

end MasterPort

end RelojDespertador

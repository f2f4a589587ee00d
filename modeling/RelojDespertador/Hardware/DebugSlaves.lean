import RelojDespertador.AlarmClock

/-!
# The two slaves with a wait port

The JTAG UART `TimerWithClock_DEBUG.v` and the debug memory of the processor,
`.._cpu_nios2_oci` and `.._cpu_nios2_ocimem` in `TimerWithClock_TimerWithClock_cpu.v`:
the registers that decide how long a command has to wait. What these slaves
read and write is left out.
-/

namespace RelojDespertador

/-- `av_waitrequest` of the JTAG UART after a rising clock edge. -/
def jtagUartEdge (chipselect read write waitrequest : Bool) : Bool :=
  !(chipselect && (write || read) && waitrequest)

/-- The JTAG UART lets a command wait for one cycle. -/
theorem jtagUartEdge_command (read write waitrequest : Bool) :
    jtagUartEdge (read || write) read write waitrequest = !((read || write) && waitrequest) := by
  rw [jtagUartEdge, Bool.or_comm write, Bool.and_self]

/-- What an edge finds at the debug memory: bit 8 of `address_nxt`, which the registers of
the debugger have set, and whether the debugger is using the memory. -/
structure OciMemInput where
  addressNxt8 : Bool
  readNxt : Bool
  writeNxt : Bool
  jtagRamAccess : Bool

/-- The registers. -/
structure OciMem where
  address8 : Bool
  read : Bool
  write : Bool
  waitrequest : Bool
  readdataReady : Bool
  deriving DecidableEq, Repr

namespace OciMem

/-- After reset. -/
def reset : OciMem := ⟨false, false, false, true, false⟩

variable (i : OciMemInput) (y : OciMem)

/-- One rising clock edge. -/
def edge : OciMem where
  address8 := i.addressNxt8
  read := if y.read then y.waitrequest else i.readNxt
  write := if y.write then y.waitrequest else i.writeNxt
  waitrequest :=
    if !y.waitrequest then true
    else if y.write then !y.address8 && i.jtagRamAccess
    else if y.read then !y.readdataReady
    else true
  readdataReady :=
    if !y.waitrequest then false
    else if y.write then y.readdataReady
    else if y.read then !(!y.address8 && i.jtagRamAccess)
    else false

/-- The registers belong to the access at the port, if there is one. -/
structure Serves (readNxt writeNxt : Bool) : Prop where
  exclusive : readNxt = true → writeNxt = false
  read : y.read = true → readNxt = true
  write : y.write = true → writeNxt = true
  idle : y.read = false → y.write = false → y.waitrequest = true ∧ y.readdataReady = false

/-- The cycles for which it still has to wait, at most. -/
def rank : Nat :=
  if !y.waitrequest then 0
  else if y.write then 1
  else if y.read then if y.readdataReady then 1 else 2
  else 3

section Spec

variable {i y}

/-- Registers that hold no access are free for any. -/
theorem free_serves (address8 : Bool) {readNxt writeNxt : Bool}
    (hexclusive : readNxt = true → writeNxt = false) :
    (⟨address8, false, false, true, false⟩ : OciMem).Serves readNxt writeNxt where
  exclusive := hexclusive
  read hread := by cases hread
  write hwrite := by cases hwrite
  idle _ _ := ⟨rfl, rfl⟩

theorem rank_le : y.rank ≤ 3 := by
  rw [rank]
  split_ifs <;> decide

/-- The registers hold no access, a read or a write. -/
theorem Serves.cases {readNxt writeNxt : Bool} (h : y.Serves readNxt writeNxt) :
    (y.read = false ∧ y.write = false ∧ y.waitrequest = true ∧ y.readdataReady = false) ∨
      (y.read = true ∧ y.write = false ∧ readNxt = true ∧ writeNxt = false) ∨
      (y.read = false ∧ y.write = true ∧ readNxt = false ∧ writeNxt = true) := by
  cases hread : y.read with
  | true =>
      have hreadNxt := h.read hread
      have hwriteNxt := h.exclusive hreadNxt
      have hwrite : y.write = false := by
        rw [Bool.eq_false_iff]
        intro hwrite
        exact Bool.false_ne_true (hwriteNxt.symm.trans (h.write hwrite))
      exact Or.inr (Or.inl ⟨rfl, hwrite, hreadNxt, hwriteNxt⟩)
  | false =>
      cases hwrite : y.write with
      | true =>
          have hwriteNxt := h.write hwrite
          have hreadNxt : readNxt = false := by
            rw [Bool.eq_false_iff]
            intro hreadNxt
            exact Bool.false_ne_true ((h.exclusive hreadNxt).symm.trans hwriteNxt)
          exact Or.inr (Or.inr ⟨rfl, rfl, hreadNxt, hwriteNxt⟩)
      | false =>
          obtain ⟨hwait, hready⟩ := h.idle hread hwrite
          exact Or.inl ⟨rfl, rfl, hwait, hready⟩

/-! One edge, by what the registers hold. -/

theorem edge_done (hwait : y.waitrequest = false) : y.edge i =
    ⟨i.addressNxt8, if y.read then false else i.readNxt, if y.write then false else i.writeNxt,
      true, false⟩ := by
  simp [edge, hwait]

theorem edge_idle (hread : y.read = false) (hwrite : y.write = false)
    (hwait : y.waitrequest = true) :
    y.edge i = ⟨i.addressNxt8, i.readNxt, i.writeNxt, true, false⟩ := by
  simp [edge, hread, hwrite, hwait]

theorem edge_reading (hread : y.read = true) (hwrite : y.write = false)
    (hwait : y.waitrequest = true) :
    y.edge i = ⟨i.addressNxt8, true, i.writeNxt, !y.readdataReady,
      !(!y.address8 && i.jtagRamAccess)⟩ := by
  simp [edge, hread, hwrite, hwait]

theorem edge_writing (hread : y.read = false) (hwrite : y.write = true)
    (hwait : y.waitrequest = true) :
    y.edge i = ⟨i.addressNxt8, i.readNxt, true, !y.address8 && i.jtagRamAccess,
      y.readdataReady⟩ := by
  simp [edge, hread, hwrite, hwait]

variable (h : y.Serves i.readNxt i.writeNxt)
include h

/-- After an access, and without one, the registers are free for the next. -/
theorem Serves.edge_of_done {readNxt writeNxt : Bool}
    (hexclusive : readNxt = true → writeNxt = false)
    (hdone : y.waitrequest = false ∨ i.readNxt = false ∧ i.writeNxt = false) :
    (y.edge i).Serves readNxt writeNxt := by
  have hfree : y.edge i = ⟨i.addressNxt8, false, false, true, false⟩ := by
    rcases h.cases with ⟨hread, hwrite, hwait, -⟩ | ⟨hread, hwrite, hreadNxt, hwriteNxt⟩ |
      ⟨hread, hwrite, hreadNxt, hwriteNxt⟩
    · rcases hdone with hlow | ⟨hreadNxt, hwriteNxt⟩
      · exact absurd (hlow.symm.trans hwait) Bool.false_ne_true
      · rw [edge_idle hread hwrite hwait, hreadNxt, hwriteNxt]
    · have hlow : y.waitrequest = false :=
        hdone.resolve_right fun hnone => Bool.false_ne_true (hnone.1.symm.trans hreadNxt)
      rw [edge_done hlow, hread, hwrite, hwriteNxt]
      rfl
    · have hlow : y.waitrequest = false :=
        hdone.resolve_right fun hnone => Bool.false_ne_true (hnone.2.symm.trans hwriteNxt)
      rw [edge_done hlow, hread, hwrite, hreadNxt]
      rfl
  rw [hfree]
  exact free_serves _ hexclusive

/-- An access that waits goes on, and has to wait for one cycle less, unless the debugger
is using the memory. -/
theorem Serves.edge_of_waits (hwait : y.waitrequest = true)
    (haccess : i.readNxt = true ∨ i.writeNxt = true) :
    (y.edge i).Serves i.readNxt i.writeNxt ∧
      (i.jtagRamAccess = false → (y.edge i).rank < y.rank) := by
  rcases h.cases with ⟨hread, hwrite, -, -⟩ | ⟨hread, hwrite, hreadNxt, hwriteNxt⟩ |
    ⟨hread, hwrite, hreadNxt, hwriteNxt⟩
  · -- the access gets into the registers
    have hbefore : y.rank = 3 := by simp [rank, hwait, hread, hwrite]
    rw [edge_idle hread hwrite hwait, hbefore]
    refine ⟨⟨h.exclusive, id, id, fun _ _ => ⟨rfl, rfl⟩⟩, fun _ => ?_⟩
    cases hwriteNxt : i.writeNxt with
    | true => exact Nat.lt_of_succ_lt (Nat.lt_succ_self 2)
    | false =>
        have hreadNxt := haccess.resolve_right (by simp [hwriteNxt])
        rw [hreadNxt]
        exact Nat.lt_succ_self 2
  · -- a read waits until its data are there
    have hbefore : y.rank = if y.readdataReady then 1 else 2 := by
      simp [rank, hwait, hread, hwrite]
    rw [edge_reading hread hwrite hwait, hreadNxt, hwriteNxt, hbefore]
    refine ⟨⟨fun _ => rfl, fun _ => rfl, id, fun hnone => ?_⟩, fun hjtag => ?_⟩
    · cases hnone
    · rw [hjtag, Bool.and_false, Bool.not_false]
      cases y.readdataReady with
      | true => exact Nat.zero_lt_one
      | false => exact Nat.lt_succ_self 1
  · -- a write waits until the debugger is through
    have hbefore : y.rank = 1 := by simp [rank, hwait, hwrite]
    rw [edge_writing hread hwrite hwait, hreadNxt, hwriteNxt, hbefore]
    refine ⟨⟨fun hnone => ?_, id, fun _ => rfl, fun _ hnone => ?_⟩, fun hjtag => ?_⟩
    · cases hnone
    · cases hnone
    · rw [hjtag, Bool.and_false]
      exact Nat.zero_lt_one

end Spec

end OciMem

end RelojDespertador

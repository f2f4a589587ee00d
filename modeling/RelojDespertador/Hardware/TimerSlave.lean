import RelojDespertador.Hardware.Countdown
import RelojDespertador.Hardware.Soc

/-!
# The slave port of the interval timer

The rest of `TimerWithClock_TIMER.v`: the decoding of the port, the snapshot of
the counter, the register that answers reads, and the interrupt line. A read of
the counter takes two accesses while the counter runs on, so it goes through the
snapshot.
-/

namespace RelojDespertador

/-- What an edge finds at the port. -/
structure TimerPort where
  address : BitVec 3
  chipselect : Bool
  writeN : Bool
  writedata : BitVec 16
  deriving DecidableEq, Repr

namespace TimerPort

variable (i : TimerPort)

/-- The write strobe of an address. -/
def wrStrobe (address : BitVec 3) : Bool := i.chipselect && !i.writeN && i.address == address

/-- `snap_strobe`: a write to either half of the snapshot, whatever is written. -/
def snapStrobe : Bool := i.wrStrobe 4 || i.wrStrobe 5

/-- A write to the control register or to a half of the period. -/
def programs : Bool := i.wrStrobe 1 || i.wrStrobe 2 || i.wrStrobe 3

/-- The write to one of the registers of `Timer`, if it is one. -/
def bus : Timer.Bus :=
  if i.chipselect && !i.writeN then
    (TimerRegister.ofAddress i.address).map fun register => (register, i.writedata)
  else none

/-- The address of a register of `Timer`. -/
def addressOf : TimerRegister → BitVec 3
  | .status => 0
  | .control => 1
  | .periodl => 2
  | .periodh => 3

theorem ofAddress_eq_some_iff (address : BitVec 3) (register : TimerRegister) :
    TimerRegister.ofAddress address = some register ↔ address = addressOf register := by
  revert address
  cases register <;> decide

/-- Each strobe of `Timer` is the strobe of its address. -/
theorem strobe_bus (register : TimerRegister) :
    Timer.strobe i.bus register =
      if i.wrStrobe (addressOf register) then some i.writedata else none := by
  have hiff := ofAddress_eq_some_iff i.address register
  rw [bus, wrStrobe]
  cases i.chipselect && !i.writeN with
  | false => rfl
  | true =>
      cases haddress : TimerRegister.ofAddress i.address with
      | none =>
          have hne : i.address ≠ addressOf register := by
            intro heq
            rw [hiff.mpr heq] at haddress
            cases haddress
          simp [Timer.strobe, hne]
      | some other =>
          rw [haddress, Option.some.injEq] at hiff
          simp [Timer.strobe, hiff]

end TimerPort

/-- An edge that does not program the timer counts down. -/
theorem Timer.Counting.cycle_of_not_programs {t : Timer} {n : Nat} {i : TimerPort}
    (h : t.Counting (n + 1)) (hi : i.programs = false) : (t.cycle i.bus).Counting n := by
  simp only [TimerPort.programs, Bool.or_eq_false_iff] at hi
  obtain ⟨⟨hcontrol, hlow⟩, hhigh⟩ := hi
  have hstrobe (register : TimerRegister) (hne : register ≠ .status) :
      Timer.strobe i.bus register = none := by
    rw [TimerPort.strobe_bus]
    cases register <;> simp_all [TimerPort.addressOf]
  refine ⟨?_, ?_, ?_⟩
  · have hstop : t.doStopCounter i.bus = false := by
      simp [Timer.doStopCounter, Timer.stopStrobe, hstrobe, h.forceReload, h.counterIsZero]
    simp [Timer.cycle, Timer.startStrobe, hstrobe, hstop, h.running]
  · simp [Timer.cycle, hstrobe]
  · exact h.cycle.counter

/-- All registers of the module. -/
structure TimerSlave extends Timer where
  counterSnapshot : BitVec 32
  readdata : BitVec 16
  deriving DecidableEq, Repr

namespace TimerSlave

/-- The registers while `reset_n` is low. -/
def reset : TimerSlave where
  toTimer := Timer.reset
  counterSnapshot := 0
  readdata := 0

/-- `{16 {select}} & value`. -/
def masked (select : Bool) (value : BitVec 16) : BitVec 16 :=
  (if select then BitVec.allOnes 16 else 0) &&& value

variable (t : TimerSlave)

/-- `{counter_is_running, timeout_occurred}`. -/
def status : BitVec 2 := BitVec.ofBool t.counterIsRunning ++ BitVec.ofBool t.timeoutOccurred

/-- `read_mux_out`. -/
def readMuxOut (address : BitVec 3) : BitVec 16 :=
  masked (address == 2) t.periodLRegister |||
    masked (address == 3) t.periodHRegister |||
    masked (address == 4) (t.counterSnapshot.extractLsb' 0 16) |||
    masked (address == 5) (t.counterSnapshot.extractLsb' 16 16) |||
    masked (address == 1) (t.controlRegister.setWidth 16) |||
    masked (address == 0) (t.status.setWidth 16)

/-- `irq`. -/
def irq : Bool := t.timeoutOccurred && t.controlRegister[0]

/-- One rising clock edge. -/
def cycle (i : TimerPort) (t : TimerSlave) : TimerSlave where
  toTimer := t.toTimer.cycle i.bus
  counterSnapshot := if i.snapStrobe then t.internalCounter else t.counterSnapshot
  readdata := t.readMuxOut i.address

@[simp] theorem masked_true (value : BitVec 16) : masked true value = value :=
  BitVec.allOnes_and

@[simp] theorem masked_false (value : BitVec 16) : masked false value = 0 :=
  BitVec.zero_and

theorem readMuxOut_snapl : t.readMuxOut 4 = t.counterSnapshot.extractLsb' 0 16 := by
  simp [readMuxOut]

theorem readMuxOut_snaph : t.readMuxOut 5 = t.counterSnapshot.extractLsb' 16 16 := by
  simp [readMuxOut]

/-- The module along a run from reset. -/
def slaveAt (w : Nat → TimerPort) (n : Nat) : TimerSlave := InputMachine.states cycle reset w n

section Run

variable (w : Nat → TimerPort) {j k n : Nat}

theorem slaveAt_succ (n : Nat) : slaveAt w (n + 1) = (slaveAt w n).cycle (w n) := rfl

/-! ## The snapshot -/

/-- A write to the snapshot in cycle `n`. -/
def Snaps (n : Nat) : Prop := (w n).snapStrobe = true

instance (n : Nat) : Decidable (Snaps w n) := inferInstanceAs (Decidable (_ = true))

variable {w}

/-- The snapshot is the counter in the cycle of the latest write to it. -/
theorem counterSnapshot_of_latest (h : InputMachine.Latest (Snaps w) n j) :
    (slaveAt w n).counterSnapshot = (slaveAt w j).internalCounter := by
  induction n with
  | zero => exact absurd h.1 (Nat.not_lt_zero j)
  | succ n ih =>
      rw [slaveAt_succ, cycle]
      rcases InputMachine.latest_succ_iff.mp h with ⟨rfl, hsnap⟩ | ⟨hsnap, hlatest⟩
      · exact if_pos hsnap
      · exact (if_neg hsnap).trans (ih hlatest)

/-- A reading of the counter: a write to the snapshot in cycle `j`, and then reads of
its lower half in cycle `n` and of its upper half in cycle `k`, in either order. -/
structure Reading (w : Nat → TimerPort) (j n k : Nat) : Prop where
  low : InputMachine.Latest (Snaps w) n j
  lowAddress : (w n).address = 4
  high : InputMachine.Latest (Snaps w) k j
  highAddress : (w k).address = 5

/-- What software puts together from the answers of the two reads. -/
def counterRead (w : Nat → TimerPort) (n k : Nat) : BitVec 32 :=
  (slaveAt w (k + 1)).readdata ++ (slaveAt w (n + 1)).readdata

/-- The two halves belong together: they are the counter in one cycle. -/
theorem Reading.counterRead_eq (h : Reading w j n k) :
    counterRead w n k = (slaveAt w j).internalCounter := by
  have hlow : (slaveAt w (n + 1)).readdata = (slaveAt w j).internalCounter.extractLsb' 0 16 := by
    rw [slaveAt_succ, cycle, h.lowAddress, readMuxOut_snapl, counterSnapshot_of_latest h.low]
  have hhigh : (slaveAt w (k + 1)).readdata = (slaveAt w j).internalCounter.extractLsb' 16 16 := by
    rw [slaveAt_succ, cycle, h.highAddress, readMuxOut_snaph, counterSnapshot_of_latest h.high]
  rw [counterRead, hlow, hhigh,
    BitVec.extractLsb'_append_extractLsb'_eq_extractLsb' (by decide), BitVec.extractLsb'_eq_self]

/-! ## What the counter does after it -/

/-- As long as nobody programs the timer, a counting timer counts on. -/
theorem counting_add {v m : Nat} (hcount : (slaveAt w j).Counting v)
    (hquiet : ∀ k, j ≤ k → k < j + v → (w k).programs = false) (hm : m ≤ v) :
    (slaveAt w (j + m)).Counting (v - m) := by
  induction m with
  | zero => exact hcount
  | succ m ih =>
      have hm' : v - m = (v - (m + 1)) + 1 := by omega
      have hih := ih (Nat.le_of_succ_le hm)
      rw [hm'] at hih
      exact hih.cycle_of_not_programs (hquiet (j + m) (by omega) (by omega))

/-- A timer counts down to its next timeout event. -/
theorem timeoutEvent_iff_of_counting {v m : Nat} (hcount : (slaveAt w j).Counting v) (hpos : 0 < v)
    (hquiet : ∀ k, j ≤ k → k < j + v → (w k).programs = false) (hm : m ≤ v) :
    (slaveAt w (j + m)).timeoutEvent = true ↔ m = v := by
  obtain ⟨v, rfl⟩ := Nat.exists_eq_succ_of_ne_zero (Nat.ne_of_gt hpos)
  rcases Nat.eq_or_lt_of_le hm with rfl | hlt
  · have hone := counting_add hcount hquiet (Nat.le_succ v)
    have hzero := counting_add hcount hquiet (Nat.le_refl (v + 1))
    rw [Nat.sub_self] at hzero
    have hdelayed : (slaveAt w (j + (v + 1))).delayedCounterIsZero = false := by
      change (slaveAt w (j + v)).counterIsZero = false
      rw [hone.counterIsZero]
      simp
    rw [Timer.timeoutEvent, hzero.counterIsZero, hdelayed]
    exact iff_of_true rfl rfl
  · have hmore := counting_add hcount hquiet hm
    have hm' : v + 1 - m = (v - m) + 1 := by omega
    rw [hm'] at hmore
    rw [hmore.not_timeoutEvent]
    exact iff_of_false Bool.false_ne_true (Nat.ne_of_lt hlt)

/-- The counter read is that of the cycle of the write to the snapshot. If the counter was
running then, it is the number of cycles to the next timeout event, unless somebody
programs the timer before. -/
theorem reading_tells_timeout (w : Nat → TimerPort) (j n k : Nat) (h : Reading w j n k) :
    counterRead w n k = (slaveAt w j).internalCounter ∧
      ((slaveAt w j).counterIsRunning = true → (slaveAt w j).forceReload = false →
        0 < (counterRead w n k).toNat →
        (∀ l, j ≤ l → l < j + (counterRead w n k).toNat → (w l).programs = false) →
        ∀ m ≤ (counterRead w n k).toNat,
          ((slaveAt w (j + m)).timeoutEvent = true ↔ m = (counterRead w n k).toNat)) := by
  refine ⟨h.counterRead_eq, fun hrun hreload hpos hquiet m hm => ?_⟩
  have hcount : (slaveAt w j).Counting (counterRead w n k).toNat :=
    ⟨hrun, hreload, by rw [h.counterRead_eq]⟩
  exact timeoutEvent_iff_of_counting hcount hpos hquiet hm

/-- Two cycles to go, read in the cycle after the start of a period of three. -/
def shortPeriod : Nat → TimerPort
  | 0 => ⟨2, true, false, 2⟩
  | 1 => ⟨3, true, false, 0⟩
  | 2 => ⟨1, true, false, 7⟩
  | 3 => ⟨4, true, false, 0⟩
  | 4 => ⟨4, true, true, 0⟩
  | _ => ⟨5, true, true, 0⟩

theorem shortPeriod_reading : Reading shortPeriod 3 4 5 where
  low := ⟨by decide, by decide, fun l hl hl' => absurd hl' (by omega)⟩
  lowAddress := rfl
  high := by
    refine ⟨by decide, by decide, fun l hl hl' => ?_⟩
    obtain rfl : l = 4 := by omega
    decide
  highAddress := rfl

theorem reading_tells_timeout_shortPeriod :
    counterRead shortPeriod 4 5 = (slaveAt shortPeriod 3).internalCounter ∧
      ((slaveAt shortPeriod (3 + 2)).timeoutEvent = true ↔
        2 = (counterRead shortPeriod 4 5).toNat) := by
  obtain ⟨hread, htimeout⟩ := reading_tells_timeout shortPeriod 3 4 5 shortPeriod_reading
  have hvalue : (counterRead shortPeriod 4 5).toNat = 2 := by decide
  refine ⟨hread, htimeout (by decide) (by decide) (by decide) (fun l hl hl' => ?_) 2 (by decide)⟩
  rw [hvalue] at hl'
  obtain rfl | rfl : l = 3 ∨ l = 4 := by omega
  · decide
  · decide

/-! ## The interrupt line -/

/-- A write to the status register in cycle `n`. -/
def Clears (w : Nat → TimerPort) (n : Nat) : Prop := (w n).wrStrobe 0 = true

/-- A write to the control register in cycle `n`. -/
def Controls (w : Nat → TimerPort) (n : Nat) : Prop := (w n).wrStrobe 1 = true

instance (w : Nat → TimerPort) (n : Nat) : Decidable (Controls w n) :=
  inferInstanceAs (Decidable (_ = true))

theorem timeoutOccurred_succ (w : Nat → TimerPort) (n : Nat) :
    (slaveAt w (n + 1)).timeoutOccurred = true ↔
      ((slaveAt w n).timeoutEvent = true ∧ ¬ Clears w n) ∨
        ((slaveAt w n).timeoutOccurred = true ∧ ¬ Clears w n) := by
  have hstrobe := (w n).strobe_bus .status
  change ((slaveAt w n).toTimer.cycle (w n).bus).timeoutOccurred = true ↔ _
  rw [Timer.cycle, hstrobe, Clears, TimerPort.addressOf]
  cases (w n).wrStrobe 0 <;> cases (slaveAt w n).timeoutEvent <;> simp

/-- The flag is set exactly when the timer has expired since it was last cleared. -/
theorem timeoutOccurred_iff (w : Nat → TimerPort) (n : Nat) :
    (slaveAt w n).timeoutOccurred = true ↔
      ∃ j < n, (slaveAt w j).timeoutEvent = true ∧ ∀ k, j ≤ k → k < n → ¬ Clears w k := by
  rw [InputMachine.latched_iff (r := fun n => (slaveAt w n).timeoutOccurred = true)
    (fun h => Bool.false_ne_true h) (timeoutOccurred_succ w) n]
  refine exists_congr fun j => and_congr_right fun hj => ?_
  constructor
  · rintro ⟨⟨hevent, hclear⟩, hlater⟩
    refine ⟨hevent, fun k hjk hkn => ?_⟩
    rcases Nat.eq_or_lt_of_le hjk with rfl | hlt
    · exact hclear
    · exact hlater k hlt hkn
  · rintro ⟨hevent, hclear⟩
    exact ⟨⟨hevent, hclear j (Nat.le_refl j) hj⟩,
      fun k hjk hkn => hclear k (Nat.le_of_lt hjk) hkn⟩

theorem controlRegister_succ (w : Nat → TimerPort) (n : Nat) :
    (slaveAt w (n + 1)).controlRegister =
      if Controls w n then (w n).writedata.setWidth 4 else (slaveAt w n).controlRegister := by
  have hstrobe := (w n).strobe_bus .control
  change ((slaveAt w n).toTimer.cycle (w n).bus).controlRegister = _
  rw [Timer.cycle, hstrobe, TimerPort.addressOf]
  by_cases hcontrol : (w n).wrStrobe 1 = true
  · rw [if_pos hcontrol]
    exact (if_pos hcontrol).symm
  · rw [if_neg hcontrol]
    exact (if_neg hcontrol).symm

/-- Interrupts are enabled exactly if the latest write to the control register enabled them. -/
theorem controlRegister_iff (w : Nat → TimerPort) (n : Nat) :
    (slaveAt w n).controlRegister[0] = true ↔
      ∃ j, InputMachine.Latest (Controls w) n j ∧ (w j).writedata[0] = true := by
  induction n with
  | zero =>
      constructor
      · intro h
        have hzero : (slaveAt w 0).controlRegister[0] = false := BitVec.getElem_zero (by decide)
        exact absurd (hzero.symm.trans h) Bool.false_ne_true
      · rintro ⟨j, ⟨hj, -, -⟩, -⟩
        exact absurd hj (Nat.not_lt_zero j)
  | succ n ih =>
      simp only [controlRegister_succ, InputMachine.latest_succ_iff]
      by_cases hcontrol : Controls w n
      · simp [hcontrol, BitVec.getElem_setWidth, BitVec.getLsbD_eq_getElem]
      · simp [hcontrol, ih]

/-- The timer interrupts exactly when it has expired since the flag was last cleared,
and the latest write to the control register has enabled interrupts. -/
theorem irq_iff (w : Nat → TimerPort) (n : Nat) :
    (slaveAt w n).irq = true ↔
      (∃ j < n, (slaveAt w j).timeoutEvent = true ∧ ∀ k, j ≤ k → k < n → ¬ Clears w k) ∧
        ∃ j, InputMachine.Latest (Controls w) n j ∧ (w j).writedata[0] = true := by
  rw [← timeoutOccurred_iff, ← controlRegister_iff]
  exact Bool.and_eq_true_iff

end Run

end TimerSlave

end RelojDespertador

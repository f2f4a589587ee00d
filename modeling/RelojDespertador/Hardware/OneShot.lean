import RelojDespertador.Hardware.Schedule

/-!
# The last expiry of a counter

A counter whose continuous bit has been cleared runs down to zero once more, sets
the timeout flag and stands still. What software can rely on is then no longer a
phase: a poll loop ends because the timer runs or because the flag is already
set, and clearing the flag uses up the last expiry.
-/

namespace RelojDespertador

namespace Timer

variable {t : Timer} {value : BitVec 16}

/-- The counter reloads itself, and the edge that finds it at zero sets the flag. -/
structure Periodic (t : Timer) : Prop where
  armed : Phase.armed.Holds t
  fresh : t.counterIsZero = true → t.delayedCounterIsZero = false

/-- The counter runs down to zero for the last time. -/
structure Winding (t : Timer) : Prop where
  running : t.counterIsRunning = true
  forceReload : t.forceReload = false
  continuous : t.controlContinuous = false
  load : t.counterLoadValue ≠ 0
  fresh : t.counterIsZero = true → t.delayedCounterIsZero = false

/-- The counter stands still above zero. -/
structure Halted (t : Timer) : Prop where
  stopped : t.counterIsRunning = false
  forceReload : t.forceReload = false
  counter : t.counterIsZero = false

/-- A write to the status register is an edge that clears the flag. -/
theorem cycle_status (t : Timer) (value : BitVec 16) :
    t.cycle (some (.status, value)) = { t.cycle none with timeoutOccurred := false } := rfl

theorem Halted.cycle (h : t.Halted) :
    (t.cycle none).Halted ∧ (t.cycle none).timeoutOccurred = t.timeoutOccurred := by
  have hevent : t.timeoutEvent = false := by simp [timeoutEvent, h.counter]
  refine ⟨⟨?_, rfl, ?_⟩, ?_⟩
  · simp [Timer.cycle, startStrobe, strobe, h.stopped]
  · have hcounter : (t.cycle none).internalCounter = t.internalCounter := by
      simp [Timer.cycle, h.stopped, h.forceReload]
    rw [counterIsZero, hcounter]
    exact h.counter
  · rw [cycle_none_timeoutOccurred, hevent]
    rfl

/-- A halted timer whose flag has been cleared. -/
theorem Halted.clear (h : t.Halted) (value : BitVec 16) :
    (t.cycle (some (.status, value))).Halted ∧
      (t.cycle (some (.status, value))).timeoutOccurred = false := by
  rw [cycle_status]
  exact ⟨⟨h.cycle.1.stopped, h.cycle.1.forceReload, h.cycle.1.counter⟩, rfl⟩

/-- Above zero a winding counter goes on. -/
theorem Winding.cycle (h : t.Winding) (hpos : t.counterIsZero = false) :
    (t.cycle none).Winding where
  running := by
    have hstop : t.doStopCounter none = false := by
      simp [doStopCounter, stopStrobe, strobe, h.forceReload, hpos]
    simp [Timer.cycle, startStrobe, strobe, hstop, h.running]
  forceReload := rfl
  continuous := h.continuous
  load := h.load
  fresh _ := hpos

/-- At zero it sets the flag and stops. -/
theorem Winding.stop (h : t.Winding) (hzero : t.counterIsZero = true) :
    (t.cycle none).Halted ∧ (t.cycle none).timeoutOccurred = true := by
  refine ⟨⟨?_, rfl, ?_⟩, ?_⟩
  · have hstop : t.doStopCounter none = true := by simp [doStopCounter, hzero, h.continuous]
    simp [Timer.cycle, startStrobe, strobe, hstop]
  · have hcounter : (t.cycle none).internalCounter = t.counterLoadValue := by
      simp [Timer.cycle, h.running, hzero]
    rw [counterIsZero, hcounter]
    exact beq_eq_false_iff_ne.mpr h.load
  · rw [cycle_none_timeoutOccurred, timeoutEvent, hzero, h.fresh hzero]
    rfl

/-- A flag that is set stays set as long as nobody clears it. -/
theorem flag_idle (hflag : t.timeoutOccurred = true) (n : Nat) :
    (t.idle n).timeoutOccurred = true := by
  induction n with
  | zero => exact hflag
  | succ n ih => rw [idle_succ, cycle_none_timeoutOccurred, ih, Bool.or_true]

/-- A winding counter sets the flag no later than an armed one. -/
theorem Winding.flag (h : t.Winding) : (t.idle t.untilFlag).timeoutOccurred = true := by
  rw [untilFlag]
  split_ifs with hflag hzero
  · exact hflag
  · rw [idle, Function.iterate_succ_apply]
    exact flag_idle (h.stop (beq_iff_eq.mpr hzero)).2 _
  · exact flag_of_counter h.running h.forceReload hzero

/-- A winding counter comes to rest with the flag set. -/
theorem Winding.expires (h : t.Winding) :
    ∃ n, (t.idle n).Halted ∧ (t.idle n).timeoutOccurred = true := by
  induction hc : t.internalCounter.toNat generalizing t with
  | zero =>
      have hzero : t.counterIsZero = true := by
        rw [counterIsZero, beq_iff_eq]
        exact BitVec.eq_of_toNat_eq hc
      exact ⟨1, h.stop hzero⟩
  | succ c ih =>
      have hpos : t.counterIsZero = false := by
        rw [counterIsZero, beq_eq_false_iff_ne]
        intro hzero
        rw [hzero] at hc
        cases hc
      have hcounter : (t.cycle none).internalCounter = t.internalCounter - 1 := by
        simp [Timer.cycle, h.running, h.forceReload, hpos]
      obtain ⟨n, hn⟩ := ih (h.cycle hpos) (by rw [hcounter, Word.toNat_pred (by omega)]; omega)
      refine ⟨n + 1, ?_⟩
      rw [Timer.idle, Function.iterate_succ_apply]
      exact hn

theorem Periodic.cycle (h : t.Periodic) : (t.cycle none).Periodic where
  armed := h.armed.cycle
  fresh hzero := by
    obtain ⟨hload, hrun, -, -⟩ := h.armed
    -- a counter that was at zero has been loaded with a period that is not
    by_contra hdelayed
    have hbefore : t.counterIsZero = true := Bool.eq_true_of_not_eq_false hdelayed
    have hcounter : (t.cycle none).internalCounter = t.counterLoadValue := by
      simp [Timer.cycle, hrun, hbefore]
    rw [counterIsZero, hcounter, beq_iff_eq] at hzero
    exact hload hzero

theorem Periodic.clear (h : t.Periodic) : (t.cycle (some (.status, value))).Periodic := by
  rw [cycle_status]
  exact ⟨h.cycle.armed, h.cycle.fresh⟩

/-- Clearing the continuous bit leaves the counter its last expiry. -/
theorem Periodic.release (h : t.Periodic) (hcont : value.getLsbD 1 = false)
    (hstop : value.getLsbD 3 = false) : (t.cycle (some (.control, value))).Winding where
  running := by
    obtain ⟨-, hrun, hcontinuous, hreload⟩ := h.armed
    have hgo : t.doStopCounter (some (.control, value)) = false := by
      rw [BitVec.getLsbD_eq_getElem (by decide)] at hstop
      simp [doStopCounter, stopStrobe, strobe, hstop, hreload, hcontinuous]
    simp [Timer.cycle, hgo, hrun]
  forceReload := rfl
  continuous := by
    rw [BitVec.getLsbD_eq_getElem (by decide)] at hcont
    simpa [Timer.cycle, controlContinuous, strobe] using hcont
  load := h.armed.1
  fresh := h.cycle.fresh

end Timer

/-- Starting a period that is not zero in continuous mode. -/
theorem Setup.Holds.periodic {h l value : BitVec 16} {t : Timer} (hu : (Setup.period h l).Holds t)
    (hstarts : Phase.starts value = true) (hpos : (h ++ l : BitVec 32) ≠ 0) :
    (t.cycle (some (.control, value))).Periodic := by
  obtain ⟨hcont, hgo⟩ := Bool.and_eq_true_iff.mp hstarts
  have hcount := hu.start hgo
  have hne : (h ++ l : BitVec 32).toNat ≠ 0 := fun hzero => hpos (BitVec.eq_of_toNat_eq hzero)
  refine ⟨⟨?_, hcount.running, ?_, rfl⟩, fun hzero => ?_⟩
  · change t.counterLoadValue ≠ 0
    rw [hu.1]
    exact hpos
  · rw [BitVec.getLsbD_eq_getElem (by decide)] at hcont
    simpa [Timer.cycle, Timer.controlContinuous, Timer.strobe] using hcont
  · rw [hcount.counterIsZero] at hzero
    exact absurd (of_decide_eq_true hzero) hne

/-- How the accesses so far make the counter move. -/
inductive Motion
  /-- Nothing is known of it, but a new period may be on its way. -/
  | setup (u : Setup)
  | periodic
  /-- An expiry is still to be waited for. -/
  | lastShot
  deriving DecidableEq, Repr

namespace Motion

/-- The promise of a motion. -/
def Holds (t : Timer) : Motion → Prop
  | setup u => u.Holds t
  | periodic => t.Periodic
  | lastShot => t.timeoutOccurred = true ∨ t.Winding

/-- What of a new period is on its way. -/
def toSetup : Motion → Setup
  | setup u => u
  | _ => .none

/-- Clearing the flag uses up the last expiry. -/
def status : Motion → Motion
  | periodic => periodic
  | _ => setup .none

/-- A control word starts a complete period, or takes the continuous bit from a
counter that it lets run on. -/
def control (value : BitVec 16) : Motion → Motion
  | setup (.period h l) =>
      if Phase.starts value ∧ (h ++ l : BitVec 32) ≠ 0 then periodic else setup .none
  | periodic =>
      if value.getLsbD 1 = false ∧ value.getLsbD 3 = false then lastShot else setup .none
  | _ => setup .none

/-- Polling needs an expiry to come. -/
def poll : Motion → Option Motion
  | setup _ => none
  | m => some m

/-- The motion after an access. -/
def next (m : Motion) : TimerAccess → Option Motion
  | .poll => m.poll
  | .write .status _ => some m.status
  | .write .control value => some (m.control value)
  | .write .periodl value => some (setup (m.toSetup.next (.write .periodl value)))
  | .write .periodh value => some (setup (m.toSetup.next (.write .periodh value)))

variable {m q : Motion} {t : Timer} {value : BitVec 16}

theorem holds_unknown (t : Timer) : (setup .none).Holds t := True.intro

theorem Holds.toSetup (h : m.Holds t) : m.toSetup.Holds t := by
  cases m with
  | setup u => exact h
  | periodic | lastShot => trivial

theorem Holds.cycle (h : m.Holds t) : m.Holds (t.cycle none) := by
  cases m with
  | setup u => exact Setup.Holds.cycle h
  | periodic => exact Timer.Periodic.cycle h
  | lastShot =>
      rcases h with hflag | hwinding
      · left
        rw [Timer.cycle_none_timeoutOccurred, hflag, Bool.or_true]
      · cases hzero : t.counterIsZero with
        | true => exact Or.inl (hwinding.stop hzero).2
        | false => exact Or.inr (hwinding.cycle hzero)

theorem Holds.control (h : m.Holds t) :
    (m.control value).Holds (t.cycle (some (.control, value))) := by
  cases m with
  | setup u =>
      cases u with
      | none | low => exact holds_unknown _
      | period hi lo =>
          by_cases hstart : Phase.starts value ∧ (hi ++ lo : BitVec 32) ≠ 0
          · have hnext : Motion.control value (setup (.period hi lo)) = periodic := if_pos hstart
            rw [hnext]
            exact Setup.Holds.periodic h hstart.1 hstart.2
          · have hnext : Motion.control value (setup (.period hi lo)) = setup .none :=
              if_neg hstart
            rw [hnext]
            exact holds_unknown _
  | periodic =>
      by_cases hrelease : value.getLsbD 1 = false ∧ value.getLsbD 3 = false
      · have hnext : Motion.control value periodic = lastShot := if_pos hrelease
        rw [hnext]
        exact Or.inr (Timer.Periodic.release h hrelease.1 hrelease.2)
      · have hnext : Motion.control value periodic = setup .none := if_neg hrelease
        rw [hnext]
        exact holds_unknown _
  | lastShot => exact holds_unknown _

theorem Holds.write {register : TimerRegister} (h : m.Holds t)
    (hnext : m.next (.write register value) = some q) :
    q.Holds (t.cycle (some (register, value))) := by
  cases register with
  | status =>
      obtain rfl : m.status = q := Option.some.inj hnext
      cases m with
      | periodic => exact Timer.Periodic.clear h
      | setup | lastShot => exact holds_unknown _
  | control =>
      obtain rfl : m.control value = q := Option.some.inj hnext
      exact h.control
  | periodl =>
      obtain rfl := Option.some.inj hnext
      have hsetup : (m.toSetup.next (.write .periodl value)).Holds
        (t.cycle (some (.periodl, value))) := h.toSetup.write
      exact hsetup
  | periodh =>
      obtain rfl := Option.some.inj hnext
      have hsetup : (m.toSetup.next (.write .periodh value)).Holds
        (t.cycle (some (.periodh, value))) := h.toSetup.write
      exact hsetup

/-- The motions as a discipline. -/
def discipline : Discipline Motion where
  Holds m t := m.Holds t
  next := next
  cycle := Holds.cycle
  write := Holds.write
  poll {m q} h := by
    cases m with
    | setup u => cases h
    | periodic | lastShot => exact (Option.some.inj h).symm

/-- Where polling is allowed, the flag is set or the timer runs. -/
theorem Holds.live (h : m.Holds t) (hpoll : m.next .poll = some q) :
    t.timeoutOccurred = true ∨ t.counterIsRunning = true := by
  cases m with
  | setup u => cases hpoll
  | periodic => exact Or.inr (Timer.Periodic.armed h).2.1
  | lastShot => exact Or.imp_right Timer.Winding.running h

/-- Where polling is allowed, the flag gets set. -/
theorem pollsEnd : discipline.PollsEnd := by
  intro m q t hm hpoll
  cases m with
  | setup u => cases hpoll
  | periodic => exact (Timer.Periodic.armed hm).flag
  | lastShot =>
      rcases hm with hflag | hwinding
      · exact Timer.flag_idle hflag _
      · exact hwinding.flag

end Motion

end RelojDespertador

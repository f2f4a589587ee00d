import RelojDespertador.Hardware.TimerProtocol
import RelojDespertador.Library.Word
import Mathlib.Logic.Function.Iterate

/-!
# Counting down a period

The phases say what the timer is ready for, not when. Here its counter is
followed edge by edge: a started period is counted down to zero, the edge after
that sets the timeout flag, and what the two halves of a period leave behind is
the period that a start then counts down.
-/

namespace RelojDespertador

namespace Timer

variable {t : Timer} {n k : Nat}

/-- The registers after `n` edges without an access. -/
def idle (n : Nat) (t : Timer) : Timer := (cycle none)^[n] t

@[simp] theorem idle_zero (t : Timer) : t.idle 0 = t := rfl

theorem idle_succ (n : Nat) (t : Timer) : t.idle (n + 1) = (t.idle n).cycle none := by
  simp [idle, Function.iterate_succ_apply']

/-- The counter runs, and reaches zero at the `n`-th edge from now. -/
structure Counting (t : Timer) (n : Nat) : Prop where
  running : t.counterIsRunning = true
  forceReload : t.forceReload = false
  counter : t.internalCounter.toNat = n

theorem Counting.counterIsZero (h : t.Counting n) : t.counterIsZero = decide (n = 0) := by
  rw [Timer.counterIsZero, beq_eq_decide, ← h.counter]
  congr 1
  exact propext BitVec.toNat_inj.symm

theorem Counting.not_timeoutEvent (h : t.Counting (n + 1)) : t.timeoutEvent = false := by
  simp [timeoutEvent, h.counterIsZero]

/-- Short of zero an edge counts down. -/
theorem Counting.cycle (h : t.Counting (n + 1)) : (t.cycle none).Counting n where
  running := by
    have hstop : t.doStopCounter none = false := by
      simp [doStopCounter, stopStrobe, strobe, h.forceReload, h.counterIsZero]
    simp [Timer.cycle, startStrobe, strobe, hstop, h.running]
  forceReload := rfl
  counter := by
    have hcounter := h.counter
    have hcycle : (t.cycle none).internalCounter = t.internalCounter - 1 := by
      simp [Timer.cycle, h.running, h.forceReload, h.counterIsZero]
    rw [hcycle, Word.toNat_pred (by omega), hcounter]
    rfl

theorem cycle_none_timeoutOccurred (t : Timer) :
    (t.cycle none).timeoutOccurred = (t.timeoutEvent || t.timeoutOccurred) := by
  simp only [cycle, strobe]
  cases t.timeoutEvent <;> rfl

/-- Only a write to the status register clears the flag. -/
theorem flag_write {register : TimerRegister} {value : BitVec 16} (hne : register ≠ .status)
    (hflag : t.timeoutOccurred = true) :
    (t.cycle (some (register, value))).timeoutOccurred = true := by
  simp [cycle, strobe, hne, hflag]

/-- Until the counter is at zero the flag stays as it is. -/
theorem Counting.idle (h : t.Counting n) (hk : k ≤ n) :
    (t.idle k).Counting (n - k) ∧ (t.idle k).timeoutOccurred = t.timeoutOccurred := by
  induction k with
  | zero => exact ⟨h, rfl⟩
  | succ k ih =>
      obtain ⟨hcount, hflag⟩ := ih (Nat.le_of_succ_le hk)
      have hpos : n - k = (n - (k + 1)) + 1 := by omega
      rw [hpos] at hcount
      rw [idle_succ]
      refine ⟨hcount.cycle, ?_⟩
      rw [cycle_none_timeoutOccurred, hcount.not_timeoutEvent, hflag]
      rfl

theorem idle_counterLoadValue (n : Nat) (t : Timer) :
    (t.idle n).counterLoadValue = t.counterLoadValue := by
  induction n with
  | zero => rfl
  | succ n ih => rw [idle_succ, ← ih]; rfl

theorem idle_controlContinuous (n : Nat) (t : Timer) :
    (t.idle n).controlContinuous = t.controlContinuous := by
  induction n with
  | zero => rfl
  | succ n ih => rw [idle_succ, ← ih]; rfl

/-- At zero a continuous counter starts over. -/
theorem Counting.reload (h : t.Counting 0) (hcont : t.controlContinuous = true) :
    (t.cycle none).Counting t.counterLoadValue.toNat where
  running := by
    have hstop : t.doStopCounter none = false := by
      simp [doStopCounter, stopStrobe, strobe, h.forceReload, hcont]
    simp [Timer.cycle, startStrobe, strobe, hstop, h.running]
  forceReload := rfl
  counter := by
    simp [Timer.cycle, h.running, h.counterIsZero]

/-- The edge after the counter has reached zero sets the flag. -/
theorem Counting.expires (h : t.Counting (n + 1)) : (t.idle (n + 2)).timeoutOccurred = true := by
  obtain ⟨hcount, -⟩ := h.idle (Nat.le_succ n)
  have hone : n + 1 - n = 1 := by omega
  rw [hone] at hcount
  have hnotZero : (t.idle n).counterIsZero = false := by rw [hcount.counterIsZero]; rfl
  have hzero : (t.idle (n + 1)).counterIsZero = true := by
    rw [idle_succ, hcount.cycle.counterIsZero]
    rfl
  have hevent : (t.idle (n + 1)).timeoutEvent = true := by
    have hdelayed : (t.idle (n + 1)).delayedCounterIsZero = (t.idle n).counterIsZero := by
      rw [idle_succ]
      rfl
    rw [timeoutEvent, hzero, hdelayed, hnotZero]
    rfl
  rw [idle_succ, cycle_none_timeoutOccurred, hevent]
  rfl

/-- By then a continuous counter has started over. -/
theorem Counting.period (h : t.Counting (n + 1)) (hcont : t.controlContinuous = true) :
    (t.idle (n + 2)).Counting t.counterLoadValue.toNat := by
  obtain ⟨hcount, -⟩ := h.idle le_rfl
  rw [Nat.sub_self] at hcount
  rw [idle_succ, ← idle_counterLoadValue (n + 1) t]
  exact hcount.reload (by rw [idle_controlContinuous, hcont])

end Timer

theorem Discipline.idle {P : Type*} (D : Discipline P) {p : P} {t : Timer} (h : D.Holds p t)
    (n : Nat) : D.Holds p (t.idle n) := by
  induction n with
  | zero => exact h
  | succ n ih =>
      rw [Timer.idle_succ]
      exact D.cycle ih

theorem Phase.Holds.idle {p : Phase} {t : Timer} (h : p.Holds t) (n : Nat) : p.Holds (t.idle n) :=
  Phase.discipline.idle h n

/-- The edges until the flag of an armed timer is set: none, or those that the counter
takes to reach zero, by way of a reload if it is there already, and one more. -/
def Timer.untilFlag (t : Timer) : Nat :=
  if t.timeoutOccurred then 0
  else if t.internalCounter = 0 then t.counterLoadValue.toNat + 2
  else t.internalCounter.toNat + 1

theorem Timer.flag_of_counter {t : Timer} (hrun : t.counterIsRunning = true)
    (hreload : t.forceReload = false) (hpos : t.internalCounter ≠ 0) :
    (t.idle (t.internalCounter.toNat + 1)).timeoutOccurred = true := by
  have hne : t.internalCounter.toNat ≠ 0 := fun hzero => hpos (BitVec.toNat_inj.mp hzero)
  obtain ⟨n, hn⟩ := Nat.exists_eq_succ_of_ne_zero hne
  rw [hn]
  exact Timer.Counting.expires ⟨hrun, hreload, hn⟩

/-- An armed timer sets its flag, whatever it is doing now. -/
theorem Phase.Holds.flag {t : Timer} (h : Phase.armed.Holds t) :
    (t.idle t.untilFlag).timeoutOccurred = true := by
  obtain ⟨hload, hrun, -, hreload⟩ := id h
  rw [Timer.untilFlag]
  split_ifs with hflag hzero
  · exact hflag
  · obtain ⟨-, hrun', -, hreload'⟩ := h.cycle
    have hcounter : (t.cycle none).internalCounter = t.counterLoadValue := by
      simp [Timer.cycle, Timer.counterIsZero, hrun, hzero]
    have hnext := Timer.flag_of_counter hrun' hreload' (hcounter ▸ hload)
    rw [hcounter] at hnext
    rw [Timer.idle, Function.iterate_succ_apply]
    exact hnext
  · exact Timer.flag_of_counter hrun hreload hzero

/-- The flag of a poll loop that is allowed gets set. -/
def Discipline.PollsEnd {P : Type*} (D : Discipline P) : Prop :=
  ∀ {p q : P} {t : Timer}, D.Holds p t → D.next p .poll = some q →
    (t.idle t.untilFlag).timeoutOccurred = true

theorem Phase.pollsEnd : Phase.discipline.PollsEnd := by
  intro p q t hp hnext
  obtain rfl : p = .armed := (Phase.next_poll hnext).1
  exact Phase.Holds.flag hp

/-! ## What the last two writes of a programming sequence leave -/

/-- How far a new period has got into the timer. -/
inductive Setup
  | none
  | low (l : BitVec 16)
  | period (h l : BitVec 16)
  deriving DecidableEq, Repr

namespace Setup

/-- The promise of a setup. A complete period is the next value of the counter
or, once reloaded, its value as long as nobody starts it. -/
def Holds (t : Timer) : Setup → Prop
  | none => True
  | low l => t.periodLRegister = l
  | period h l => t.counterLoadValue = h ++ l ∧
      (t.forceReload = true ∨ (t.internalCounter = h ++ l ∧ t.counterIsRunning = false))

/-- The setup after an access. -/
def next (u : Setup) : TimerAccess → Setup
  | .write .periodl l => low l
  | .write .periodh h =>
      match u with
      | low l => period h l
      | _ => none
  | _ => none

/-- The setup after the accesses of a list. -/
def after (l : List TimerAccess) : Setup := l.foldl next none

theorem after_concat (l : List TimerAccess) (x : TimerAccess) :
    after (l ++ [x]) = (after l).next x := by
  simp [after]

variable {u : Setup} {t : Timer}

theorem Holds.cycle (h : u.Holds t) : u.Holds (t.cycle .none) := by
  cases u with
  | none => trivial
  | low l => exact h
  | period hi lo =>
      obtain ⟨hload, hreload | ⟨hcounter, hstopped⟩⟩ := h
      · refine ⟨hload, Or.inr ⟨?_, ?_⟩⟩
        · simp [Timer.cycle, hreload, hload]
        · simp [Timer.cycle, Timer.startStrobe, Timer.strobe, Timer.doStopCounter, hreload]
      · cases hreload : t.forceReload with
        | true =>
            refine ⟨hload, Or.inr ⟨?_, ?_⟩⟩
            · simp [Timer.cycle, hreload, hload]
            · simp [Timer.cycle, Timer.startStrobe, Timer.strobe, hstopped]
        | false =>
            refine ⟨hload, Or.inr ⟨?_, ?_⟩⟩
            · simp [Timer.cycle, hreload, hstopped, hcounter]
            · simp [Timer.cycle, Timer.startStrobe, Timer.strobe, hstopped]

theorem Holds.write {register : TimerRegister} {value : BitVec 16} (h : u.Holds t) :
    (u.next (.write register value)).Holds (t.cycle (some (register, value))) := by
  cases register with
  | status => trivial
  | control => trivial
  | periodl => rfl
  | periodh =>
      cases u with
      | none | period => trivial
      | low l =>
          obtain rfl : t.periodLRegister = l := h
          exact ⟨rfl, Or.inl rfl⟩

/-- Starting the counter then makes it count the period down. -/
theorem Holds.start {h l value : BitVec 16} (hu : (period h l).Holds t)
    (hstart : value.getLsbD 2 = true) :
    (t.cycle (some (.control, value))).Counting (h ++ l).toNat where
  running := by
    rw [BitVec.getLsbD_eq_getElem (by decide)] at hstart
    simp [Timer.cycle, Timer.startStrobe, Timer.strobe, hstart]
  forceReload := rfl
  counter := by
    obtain ⟨hload, hreload | ⟨hcounter, hstopped⟩⟩ := hu
    · simp [Timer.cycle, hreload, hload]
    · cases hreload : t.forceReload <;> simp [Timer.cycle, hreload, hload, hcounter, hstopped]

end Setup

namespace TimerSystem

variable {I S : Type*} {step : I → S → S} {start : S → Prop} {accesses : S → List TimerAccess}

/-- The accesses that a round has made so far set the timer up. -/
theorem Reachable.setup {y : TimerSystem S} (h : Reachable step start accesses y) :
    ∃ done, accesses y.software = done ++ y.pending ∧ (Setup.after done).Holds y.timer := by
  induction h with
  | start => exact ⟨[], rfl, trivial⟩
  | cycle _ ih =>
      obtain ⟨done, hdone, hsetup⟩ := ih
      exact ⟨done, hdone, hsetup.cycle⟩
  | @write y register value rest _ hp ih =>
      obtain ⟨done, hdone, hsetup⟩ := ih
      refine ⟨done ++ [.write register value], ?_, ?_⟩
      · rw [hdone, hp, List.append_assoc]
        rfl
      · rw [Setup.after_concat]
        exact hsetup.write
  | @expire y rest _ hp _ ih =>
      obtain ⟨done, hdone, hsetup⟩ := ih
      refine ⟨done ++ [.poll], ?_, ?_⟩
      · rw [hdone, hp, List.append_assoc]
        rfl
      · rw [Setup.after_concat]
        trivial
  | round => exact ⟨[], rfl, trivial⟩

end TimerSystem

end RelojDespertador

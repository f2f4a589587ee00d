import RelojDespertador.Hardware.Timer
import RelojDespertador.Library.InputMachine

/-!
# Programming the timer

Software and timer run side by side: between two accesses any number of clock
cycles may pass. What the software can rely on is a phase, which depends on its
own accesses only: each phase keeps its promise while the clock runs, and each
access leads to a phase whose promise the timer then keeps. A program that
polls in the armed phase alone never waits for a stopped timer.
-/

namespace RelojDespertador

/-- A way to follow what the accesses so far guarantee about the timer: promises that
time does not break, and that an access leads from one to the next. An access
without a next promise is not allowed. -/
structure Discipline (P : Type*) where
  Holds : P → Timer → Prop
  next : P → TimerAccess → Option P
  cycle : ∀ {p : P} {t : Timer}, Holds p t → Holds p (t.cycle none)
  write : ∀ {p q : P} {t : Timer} {register : TimerRegister} {value : BitVec 16}, Holds p t →
    next p (.write register value) = some q → Holds q (t.cycle (some (register, value)))
  poll : ∀ {p q : P}, next p .poll = some q → q = p

namespace Discipline

variable {P : Type*} (D : Discipline P)

/-- The promise after a list of accesses. -/
def program (p : P) (l : List TimerAccess) : Option P := l.foldlM D.next p

theorem program_cons (p : P) (x : TimerAccess) (l : List TimerAccess) :
    D.program p (x :: l) = (D.next p x).bind fun q => D.program q l := rfl

theorem program_append (p : P) (l m : List TimerAccess) :
    D.program p (l ++ m) = (D.program p l).bind fun q => D.program q m :=
  List.foldlM_append

end Discipline

/-- What the accesses so far guarantee about the timer. -/
inductive Phase
  | any
  /-- The low half of the period is `value`. -/
  | low (value : BitVec 16)
  /-- The period is not zero. -/
  | loaded
  /-- The period is not zero, and the counter runs and reloads itself. -/
  | armed
  deriving DecidableEq, Repr

namespace Phase

/-- The promise of a phase. -/
def Holds (t : Timer) : Phase → Prop
  | any => True
  | low value => t.periodLRegister = value
  | loaded => t.counterLoadValue ≠ 0
  | armed => t.counterLoadValue ≠ 0 ∧ t.counterIsRunning = true ∧ t.controlContinuous = true ∧
      t.forceReload = false

/-- The control word starts the counter and lets it reload itself. -/
def starts (value : BitVec 16) : Bool := value.getLsbD 1 && value.getLsbD 2

/-- A write to the control register arms a loaded timer if it starts the counter
in continuous mode. Without a start the counter may have stopped before. -/
def control (value : BitVec 16) : Phase → Phase
  | any => any
  | low l => low l
  | loaded => if starts value then armed else loaded
  | armed => if starts value then armed else loaded

/-- A write of the high half of the period completes it. -/
def high (value : BitVec 16) : Phase → Phase
  | low l => if (value ++ l : BitVec 32) = 0 then any else loaded
  | _ => any

/-- The phase after an access; polling needs an armed timer. -/
def next (p : Phase) : TimerAccess → Option Phase
  | .poll => if p = armed then some armed else none
  | .write .status _ => some p
  | .write .control value => some (p.control value)
  | .write .periodl value => some (low value)
  | .write .periodh value => some (p.high value)

/-- The phase after a list of accesses. -/
def program (p : Phase) (l : List TimerAccess) : Option Phase := l.foldlM next p

variable {p q : Phase} {t : Timer}

/-- Time passing breaks no promise. -/
theorem Holds.cycle (h : p.Holds t) : p.Holds (t.cycle none) := by
  cases p with
  | any => trivial
  | low value => exact h
  | loaded => exact h
  | armed =>
      obtain ⟨hload, hrun, hcont, hreload⟩ := h
      refine ⟨hload, ?_, hcont, rfl⟩
      have hstop : t.doStopCounter none = false := by
        simp [Timer.doStopCounter, Timer.stopStrobe, Timer.strobe, hreload, hcont]
      simp [Timer.cycle, Timer.startStrobe, Timer.strobe, hstop, hrun]

theorem Holds.control {value : BitVec 16} (h : p.Holds t) :
    (p.control value).Holds (t.cycle (some (.control, value))) := by
  have harm (hload : t.counterLoadValue ≠ 0) :
      Holds (t.cycle (some (.control, value))) (if starts value then armed else loaded) := by
    split_ifs with hstart
    · obtain ⟨hcont, hgo⟩ := Bool.and_eq_true_iff.mp hstart
      rw [BitVec.getLsbD_eq_getElem (by decide)] at hcont hgo
      refine ⟨hload, ?_, ?_, rfl⟩
      · simp [Timer.cycle, Timer.startStrobe, Timer.strobe, hgo]
      · simpa [Timer.cycle, Timer.controlContinuous, Timer.strobe] using hcont
    · exact hload
  cases p with
  | any => trivial
  | low l => exact h
  | loaded => exact harm h
  | armed => exact harm h.1

theorem Holds.high {value : BitVec 16} (h : p.Holds t) :
    (p.high value).Holds (t.cycle (some (.periodh, value))) := by
  cases p with
  | low l =>
      simp only [Phase.high]
      split_ifs with hzero
      · trivial
      · obtain rfl : t.periodLRegister = l := h
        exact hzero
  | any | loaded | armed => trivial

/-- A write leads to a phase that the timer is in after the edge that takes it. -/
theorem Holds.write {register : TimerRegister} {value : BitVec 16} (h : p.Holds t)
    (hnext : p.next (.write register value) = some q) :
    q.Holds (t.cycle (some (register, value))) := by
  cases register with
  | status =>
      obtain rfl : p = q := Option.some.inj hnext
      -- the edge differs from one without an access in the timeout flag only
      have hcycle := h.cycle
      cases p <;> exact hcycle
  | control =>
      obtain rfl : p.control value = q := Option.some.inj hnext
      exact h.control
  | periodl =>
      obtain rfl : low value = q := Option.some.inj hnext
      rfl
  | periodh =>
      obtain rfl : p.high value = q := Option.some.inj hnext
      exact h.high

/-- Polling needs an armed timer, and leaves it armed. -/
theorem next_poll (h : p.next .poll = some q) : p = armed ∧ q = armed := by
  simp only [Phase.next] at h
  split_ifs at h with harmed
  exact ⟨harmed, (Option.some.inj h).symm⟩

/-- The phases as a discipline. -/
def discipline : Discipline Phase where
  Holds p t := p.Holds t
  next := next
  cycle := Holds.cycle
  write := Holds.write
  poll h := (next_poll h).2.trans (next_poll h).1.symm

end Phase

/-- Software with the accesses of its current round still to be made, and the timer. -/
structure TimerSystem (S : Type*) where
  software : S
  pending : List TimerAccess
  timer : Timer

namespace TimerSystem

variable {I S : Type*} (step : I → S → S) (start : S → Prop) (accesses : S → List TimerAccess)

/-- What an interleaving of the clock with the accesses of the software reaches. -/
inductive Reachable : TimerSystem S → Prop
  | start {s : S} (h : start s) : Reachable ⟨s, accesses s, Timer.reset⟩
  /-- A clock edge without an access, or with a read that does not end a poll loop. -/
  | cycle {y : TimerSystem S} (h : Reachable y) : Reachable { y with timer := y.timer.cycle none }
  /-- A clock edge that takes a write. -/
  | write {y : TimerSystem S} {register : TimerRegister} {value : BitVec 16}
      {rest : List TimerAccess} (h : Reachable y) (hp : y.pending = .write register value :: rest) :
      Reachable { y with pending := rest, timer := y.timer.cycle (some (register, value)) }
  /-- A clock edge with the read that ends a poll loop. -/
  | expire {y : TimerSystem S} {rest : List TimerAccess} (h : Reachable y)
      (hp : y.pending = .poll :: rest) (hflag : y.timer.timeoutOccurred = true) :
      Reachable { y with pending := rest, timer := y.timer.cycle none }
  /-- The software goes on to its next round. -/
  | round {y : TimerSystem S} (i : I) (h : Reachable y) (hp : y.pending = []) :
      Reachable ⟨step i y.software, accesses (step i y.software), y.timer⟩

variable {step start accesses}

/-- If the accesses before the first round lead from a promise that always holds to
that of the first loop head, and those of every round from its loop head to the
next, then at every point of an interleaving the timer keeps a promise from which
the accesses still pending lead to that of the next loop head. -/
theorem Reachable.keeps {P : Type*} (D : Discipline P) {m : S → P} (p₀ : P)
    (hp₀ : ∀ t, D.Holds p₀ t)
    (hstart : ∀ s, start s → D.program p₀ (accesses s) = some (m s))
    (hround : ∀ i s, InputMachine.Reachable step start s →
      D.program (m s) (accesses (step i s)) = some (m (step i s)))
    {y : TimerSystem S} (h : Reachable step start accesses y) :
    InputMachine.Reachable step start y.software ∧
      ∃ p : P, D.Holds p y.timer ∧ D.program p y.pending = some (m y.software) := by
  induction h with
  | start h => exact ⟨.init h, p₀, hp₀ _, hstart _ h⟩
  | cycle _ ih =>
      obtain ⟨hs, p, hp, hprogram⟩ := ih
      exact ⟨hs, p, D.cycle hp, hprogram⟩
  | write _ hpending ih =>
      obtain ⟨hs, p, hp, hprogram⟩ := ih
      rw [hpending, D.program_cons] at hprogram
      obtain ⟨q, hnext, hq⟩ := Option.bind_eq_some_iff.mp hprogram
      exact ⟨hs, q, D.write hp hnext, hq⟩
  | expire _ hpending _ ih =>
      obtain ⟨hs, p, hp, hprogram⟩ := ih
      rw [hpending, D.program_cons] at hprogram
      obtain ⟨q, hnext, hq⟩ := Option.bind_eq_some_iff.mp hprogram
      obtain rfl := D.poll hnext
      exact ⟨hs, q, D.cycle hp, hq⟩
  | round i _ hpending ih =>
      obtain ⟨hs, p, hp, hprogram⟩ := ih
      rw [hpending] at hprogram
      obtain rfl : p = m _ := Option.some.inj hprogram
      exact ⟨hs.next i, m _, hp, hround i _ hs⟩

/-- The promise at a poll loop is one that allows it. -/
theorem Reachable.poll_allowed {P : Type*} (D : Discipline P) {m : S → P} (p₀ : P)
    (hp₀ : ∀ t, D.Holds p₀ t)
    (hstart : ∀ s, start s → D.program p₀ (accesses s) = some (m s))
    (hround : ∀ i s, InputMachine.Reachable step start s →
      D.program (m s) (accesses (step i s)) = some (m (step i s)))
    {y : TimerSystem S} (h : Reachable step start accesses y) {rest : List TimerAccess}
    (hpoll : y.pending = .poll :: rest) :
    ∃ p q : P, D.Holds p y.timer ∧ D.next p .poll = some q := by
  obtain ⟨-, p, hp, hprogram⟩ := h.keeps D p₀ hp₀ hstart hround
  rw [hpoll, D.program_cons] at hprogram
  obtain ⟨q, hnext, -⟩ := Option.bind_eq_some_iff.mp hprogram
  exact ⟨p, q, hp, hnext⟩

/-- If the accesses before the first round arm the timer, and every round polls an
armed timer only and leaves it armed, then the timer is armed at every poll. -/
theorem Reachable.armed_of_poll
    (hstart : ∀ s, start s → Phase.any.program (accesses s) = some .armed)
    (hround : ∀ i s, InputMachine.Reachable step start s →
      Phase.armed.program (accesses (step i s)) = some .armed)
    {y : TimerSystem S} (h : Reachable step start accesses y) {rest : List TimerAccess}
    (hpoll : y.pending = .poll :: rest) : Phase.armed.Holds y.timer := by
  obtain ⟨p, q, hp, hnext⟩ := h.poll_allowed Phase.discipline (m := fun _ => .armed) .any
    (fun _ => trivial) hstart hround hpoll
  obtain rfl : p = .armed := (Phase.next_poll hnext).1
  exact hp

end TimerSystem

end RelojDespertador

import RelojDespertador.Final2.Alarm
import RelojDespertador.TimerWithClock.Runs

/-!
# Final2 as a rework of TimerWithClock

Fed with the same samples, the two firmwares keep the same clock until their
alarms fire, and they fire in the same round. `Final2` tests `counting` where
`TimerWithClock` tests the switch, and it has no guard against an active
alarm. As long as nothing has fired, `counting` is the switch sample of the
round and no alarm is active, so the two tests are one.
-/

namespace RelojDespertador.Final2

open InputMachine Panel

/-- What the two firmwares have in common at their loop heads. -/
structure SamePanel (p q : Panel) : Prop where
  hora : p.hora = q.hora
  alarma : p.alarma = q.alarma
  counting : p.counting = q.counting
  prevButtonsState : p.prevButtonsState = q.prevButtonsState
  display : p.display = q.display
  leds : p.leds = q.leds

/-- Round `n` of a run of `TimerWithClock` lights the LEDs. -/
def ClockFiresAt (r : Nat → TimerWithClock.State) (n : Nat) : Prop := .leds 0x3FF ∈ (r (n + 1)).trace

/-- Neither firmware has fired its alarm in a round before `n`. -/
def QuietBefore (r : Nat → TimerWithClock.State) (r' : Nat → State) (n : Nat) : Prop :=
  ∀ k < n, ¬ ClockFiresAt r k ∧ ¬ FiresAt r' k

/-- A run of `Final2` does what the run of `TimerWithClock` does until an alarm fires. -/
structure SameUntilAlarm (r : Nat → TimerWithClock.State) (r' : Nat → State) : Prop where
  panel : ∀ n, QuietBefore r r' n → SamePanel (r n).toPanel (r' n).toPanel
  /-- Each round so far is one of both main loops. -/
  pc : ∀ n, QuietBefore r r' n → (r' n).pc = .mainLoop
  fires_iff : ∀ n, QuietBefore r r' n → (ClockFiresAt r n ↔ FiresAt r' n)
  /-- The alarms fire at the same time on the clock. -/
  fires_hora : ∀ n, QuietBefore r r' n → ClockFiresAt r n → (r (n + 1)).hora = (r' (n + 1)).hora
  fires_display : ∀ n, QuietBefore r r' n → ClockFiresAt r n →
    (r (n + 1)).display = (r' (n + 1)).display

/-- The abstract machines show the same clock, and no alarm has fired. -/
structure Agrees (t : TimerWithClock.Spec) (a : Spec) : Prop where
  clock : t.clock = a.clock
  buttons : t.buttons = a.buttons
  active : t.active = none
  lit : t.lit = false
  sounding : a.sounding = false

section Round

variable {t : TimerWithClock.Spec} {a : Spec} {i : Sample}

theorem Agrees.fires_iff (h : Agrees t a) :
    i.switchOn = true ∧ t.clock.tick.AtAlarm ↔ a.Fires i := by
  rw [Spec.Fires, h.clock]
  simp [h.sounding]

/-- A round in which no alarm fires keeps the two machines together. -/
theorem Agrees.step (h : Agrees t a) (hquiet : ¬ a.Fires i) : Agrees (t.step i) (a.step i) := by
  have hstill : t.stillLit i = false := by rw [TimerWithClock.Spec.stillLit, h.lit]; rfl
  have hcount : TimerWithClock.Spec.countOn t.active = none := by rw [h.active]; rfl
  cases hi : i.switchOn with
  | false =>
      have hclock : a.step i = { a with
          clock := a.clock.press (rising a.buttons i.buttons), buttons := i.buttons } := by
        simp [Spec.step, h.sounding, hi]
      have hclock' : t.step i = ⟨t.clock.press (rising t.buttons i.buttons), i.buttons, none,
          false⟩ := by
        simp [TimerWithClock.Spec.step, hi, hstill, hcount]
      rw [hclock, hclock', h.clock, h.buttons]
      exact ⟨rfl, rfl, rfl, rfl, h.sounding⟩
  | true =>
      have hat : ¬ t.clock.tick.AtAlarm := fun hat => hquiet (h.fires_iff.mp ⟨hi, hat⟩)
      have hat' : ¬ a.clock.tick.AtAlarm := by rwa [← h.clock]
      have hclock : a.step i = { a with clock := a.clock.tick, sounding := false } := by
        simp [Spec.step, h.sounding, hi, hat']
      have hclock' : t.step i = ⟨t.clock.tick, t.buttons, none, false⟩ := by
        simp [TimerWithClock.Spec.step, hi, hat, hstill, hcount]
      rw [hclock, hclock', h.clock, h.buttons]
      exact ⟨rfl, rfl, rfl, rfl, rfl⟩

/-- A round of `TimerWithClock` leaves the switch sample in `counting`. -/
theorem clock_counting_step {s : TimerWithClock.State} (h : TimerWithClock.Refines s t)
    (hsane : t.Sane) (i : Sample) : (TimerWithClock.step i s).counting = i.switchOn := by
  cases hi : i.switchOn with
  | false => rw [(TimerWithClock.step_set h hi).1]; rfl
  | true =>
      rw [(TimerWithClock.step_run h hsane hi).1]
      split_ifs <;> rfl

/-- A round of the main loop of `Final2` leaves the switch sample in `counting`. -/
theorem counting_step {s : State} (h : Refines s a) (hs : a.sounding = false) (i : Sample) :
    (step i s).counting = i.switchOn := by
  cases hi : i.switchOn with
  | false => rw [step_set h hs hi]; rfl
  | true =>
      rw [step_run h hs hi]
      split_ifs
      · rw [enterBuzzer_eq]
        rfl
      · rfl

end Round

section Run

variable {b : U32} {w : Nat → Sample} {n : Nat}

theorem clockFiresAt_iff : ClockFiresAt (TimerWithClock.run b w) n ↔
    (w n).switchOn = true ∧ (TimerWithClock.Spec.run b w n).clock.tick.AtAlarm := by
  rw [ClockFiresAt, TimerWithClock.run_trace]
  exact TimerWithClock.Spec.leds_mem_trace _ _

theorem run_agrees (h : QuietBefore (TimerWithClock.run b w) (run b w) n) :
    Agrees (TimerWithClock.Spec.run b w n) (Spec.run b w n) := by
  induction n with
  | zero => exact ⟨rfl, rfl, rfl, rfl, rfl⟩
  | succ n ih =>
      have hn := h n (Nat.lt_succ_self n)
      apply (ih fun k hk => h k (Nat.lt_succ_of_lt hk)).step
      rw [← firesAt_iff]
      exact hn.2

/-- At a loop head `counting` is the switch sample of the round before. -/
theorem run_counting (h : QuietBefore (TimerWithClock.run b w) (run b w) n) :
    (TimerWithClock.run b w n).counting = (run b w n).counting := by
  cases n with
  | zero =>
      change (TimerWithClock.start b).counting = (start b).counting
      rw [TimerWithClock.start_panel, start_panel]
      rfl
  | succ n =>
      have hagrees := run_agrees fun k hk => h k (Nat.lt_succ_of_lt hk)
      obtain ⟨hclock, hsane⟩ := TimerWithClock.run_refines b w n
      calc
        (TimerWithClock.run b w (n + 1)).counting = (w n).switchOn :=
          clock_counting_step hclock hsane (w n)
        _ = (run b w (n + 1)).counting :=
          (counting_step (run_refines b w n) hagrees.sounding (w n)).symm

/-- The clock after the round in which the alarms fire. -/
theorem run_clock_of_fires (h : QuietBefore (TimerWithClock.run b w) (run b w) n)
    (hfires : ClockFiresAt (TimerWithClock.run b w) n) :
    (TimerWithClock.Spec.run b w (n + 1)).clock = (Spec.run b w (n + 1)).clock := by
  have hagrees := run_agrees h
  have hi := (clockFiresAt_iff.mp hfires).1
  calc
    (TimerWithClock.Spec.run b w (n + 1)).clock = (TimerWithClock.Spec.run b w n).clock.tick :=
      TimerWithClock.Spec.step_clock_running hi
    _ = (Spec.run b w n).clock.tick := by rw [hagrees.clock]
    _ = (Spec.run b w (n + 1)).clock := (Spec.step_clock_running hagrees.sounding hi).symm

end Run

/-- For every sequence of samples the two firmwares run alike until their alarms fire. -/
theorem run_sameUntilAlarm (b : U32) (w : Nat → Sample) :
    SameUntilAlarm (TimerWithClock.run b w) (run b w) where
  panel n h := by
    have hagrees := run_agrees h
    have hclock := (TimerWithClock.run_refines b w n).1
    have hfinal := run_refines b w n
    exact {
      hora := by rw [hclock.shows.hora, hfinal.shows.hora, hagrees.clock]
      alarma := by rw [hclock.shows.alarma, hfinal.shows.alarma, hagrees.clock]
      counting := run_counting h
      prevButtonsState := by rw [hclock.buttons, hfinal.buttons, hagrees.buttons]
      display := by rw [hclock.shows.display, hfinal.shows.display, hagrees.clock]
      leds := by rw [hclock.leds, hagrees.lit, (hfinal.idle hagrees.sounding).leds]; rfl }
  pc n h := (run_refines b w n).pc_mainLoop_iff.mpr (run_agrees h).sounding
  fires_iff n h := by
    rw [clockFiresAt_iff, firesAt_iff]
    exact (run_agrees h).fires_iff
  fires_hora n h hfires := by
    rw [(TimerWithClock.run_refines b w (n + 1)).1.shows.hora, (run_refines b w (n + 1)).shows.hora,
      run_clock_of_fires h hfires]
  fires_display n h hfires := by
    rw [(TimerWithClock.run_refines b w (n + 1)).1.shows.display,
      (run_refines b w (n + 1)).shows.display, run_clock_of_fires h hfires]

end RelojDespertador.Final2

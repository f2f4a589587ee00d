import RelojDespertador.TimerWithClock.Firmware
import RelojDespertador.TimerWithClock.Spec

/-!
# The TimerWithClock firmware refines its abstract machine

Each part of the loop body has a closed form, and the alarm test agrees with
the abstract machine, which has no guard, because an active alarm keeps the
clock away from the alarm time.
-/

namespace RelojDespertador.TimerWithClock

open InputMachine Panel

/-- The alarm variables count the rounds of an active alarm. -/
def Counts (s : State) : Option (Fin 30) → Prop
  | none => s.alarmaActiva = false
  | some k => s.alarmaActiva = true ∧ s.segundosAlarmaActiva.toNat = k

/-- The firmware state `s` is one of the abstract state `a`. -/
structure Refines (s : State) (a : Spec) : Prop where
  shows : s.toPanel.Shows a.clock
  buttons : s.prevButtonsState = a.buttons
  active : Counts s a.active
  leds : s.leds = if a.lit then 1023 else 0
  periodl : s.periodl = 61567
  periodh : s.periodh = 762

/-- The relation, read off the panel that a round leaves behind. -/
theorem refines_of_panel {s : State} {a : Spec} {p : Panel} (hpanel : s.toPanel = p)
    (hactive : Counts s a.active) (hshows : p.Shows a.clock)
    (hbuttons : p.prevButtonsState = a.buttons) (hleds : p.leds = if a.lit then 1023 else 0)
    (hperiodl : p.periodl = 61567) (hperiodh : p.periodh = 762) : Refines s a := by
  subst hpanel
  exact ⟨hshows, hbuttons, hactive, hleds, hperiodl, hperiodh⟩

theorem start_panel (buttons : U32) : (start buttons).toPanel =
    showing { initTimer Panel.reset with prevButtonsState := buttons } AlarmClock.initial.time
      (timeTrace AlarmClock.initial.time) :=
  updateAll_eq { initTimer Panel.reset with prevButtonsState := buttons }
    AlarmClock.initial.time rfl

/-- Before the first round. -/
theorem start_refines (buttons : U32) : Refines (start buttons) (Spec.start buttons) :=
  refines_of_panel (start_panel buttons) rfl ⟨rfl, rfl, rfl⟩ rfl rfl rfl rfl

/-- The panel after its LEDs may have been turned off. -/
def darken (off : Bool) (p : Panel) : Panel :=
  { p with
    leds := if off then 0 else p.leds
    trace := p.trace ++ if off then [.leds 0] else [] }

theorem darken_false (p : Panel) : darken false p = p := by
  simp [darken]

/-- Counting a round of the alarm turns the LEDs off when it is the last. -/
theorem countActive_eq {s : State} {active : Option (Fin 30)} (h : Counts s active) :
    Counts s.countActive (Spec.countOn active) ∧
      s.countActive.toPanel = darken (active == some 29) s.toPanel := by
  cases active with
  | none =>
      rw [AlarmPanel.countActive_inactive h]
      exact ⟨h, (darken_false _).symm⟩
  | some k =>
      obtain ⟨hactive, hcount⟩ := h
      have hk := k.isLt
      have hsucc : (s.segundosAlarmaActiva + 1).toNat = k + 1 := by
        rw [Word.toNat_succ (by omega), hcount]
      have hlast : s.segundosAlarmaActiva + 1 = 30 ↔ k = 29 := by
        rw [← BitVec.toNat_inj, hsucc, Fin.ext_iff]
        change k.val + 1 = 30 ↔ k.val = 29
        omega
      by_cases hend : k = 29
      · subst hend
        have hdone : s.segundosAlarmaActiva + 1 = 30 := hlast.mpr rfl
        simp only [AlarmPanel.countActive, hactive, hdone, if_true]
        exact ⟨rfl, rfl⟩
      · have hmore : ¬ s.segundosAlarmaActiva + 1 = 30 := fun hdone => hend (hlast.mp hdone)
        have hlt : k.val + 1 < 30 := by
          have hne : k.val ≠ 29 := fun heq => hend (Fin.ext heq)
          omega
        simp only [AlarmPanel.countActive, hactive, hmore, if_true, if_false, Spec.countOn,
          dif_pos hlt]
        refine ⟨⟨rfl, hsucc⟩, ?_⟩
        have hfalse : (some k == some (29 : Fin 30)) = false := by simp [hend]
        rw [hfalse, darken_false]

/-- The run-mode branch of the buttons turns the LEDs off when the lamp is lit and
the buttons differ from those set mode saw last. -/
theorem dismissLeds_eq {p : Panel} {a : Spec} {i : Sample} (hbuttons : p.prevButtonsState = a.buttons)
    (hleds : p.leds = if a.lit then 1023 else 0) :
    p.dismissLeds i p.readLeds = darken (a.dismisses i) p := by
  have hlit : (p.readLeds == 1023) = a.lit := by
    rw [readLeds, hleds]
    cases a.lit <;> rfl
  have hcond : (i.buttons != p.prevButtonsState && i.switchOn && p.readLeds == 1023) =
      a.dismisses i := by
    rw [hlit, hbuttons, Spec.dismisses]
    cases a.lit <;> cases i.switchOn <;> simp
  rw [dismissLeds, hcond]
  cases a.dismisses i with
  | false => exact (darken_false p).symm
  | true => rfl

/-- The state at the top of a round: a fresh trace. -/
def freshTrace (s : State) : State := s.onPanel ({ · with trace := [] })

theorem step_eq (i : Sample) (s : State) :
    step i s = fireAlarm i ((freshTrace s).loopBody i) := rfl

section Rounds

variable {s : State} {a : Spec} {i : Sample}

/-- The panel after a set-mode round. -/
def setPanel (i : Sample) (a : Spec) (p : Panel) : Panel :=
  darken a.timesOut
    (showing { p with
        prevButtonsState := i.buttons
        alarma := Hora.ofAlarm (a.clock.press (rising a.buttons i.buttons)).alarm
        counting := false
        trace := [] }
      (a.clock.press (rising a.buttons i.buttons)).time
      (setTrace (rising a.buttons i.buttons) a.clock.time))

/-- A set-mode round presses buttons and counts a round of an active alarm. -/
theorem step_set (h : Refines s a) (hi : i.switchOn = false) :
    (step i s).toPanel = setPanel i a s.toPanel ∧ Counts (step i s) (Spec.countOn a.active) := by
  have hset := setMode_off hi
    (p := (freshTrace s).toPanel)
    ⟨h.shows.hora, h.shows.alarma, h.shows.display⟩
  rw [show (freshTrace s).prevButtonsState = a.buttons from h.buttons] at hset
  have hfire (x : State) : fireAlarm i x = x := by simp [fireAlarm, hi]
  rw [step_eq, hfire, AlarmPanel.loopBody_off hi]
  have hactive : Counts ((freshTrace s).onPanel fun p => { p.setMode i with counting := false })
      a.active := h.active
  obtain ⟨hcounts, hpanel⟩ := countActive_eq hactive
  refine ⟨?_, hcounts⟩
  rw [hpanel]
  change darken _ { (freshTrace s).toPanel.setMode i with
    counting := false } = _
  rw [hset]
  rfl

/-- The panel after the clock code of a run-mode round. -/
def runPanel (i : Sample) (a : Spec) (p : Panel) : Panel :=
  showing (darken a.timesOut (darken (a.dismisses i) { p with counting := true, trace := [] }))
    a.clock.tick.time (waitTrace 50000000 ++ .tick :: timeTrace a.clock.tick.time)

/-- A run-mode round before it counts: the LEDs may have been dismissed. -/
def dimmed (i : Sample) (s : State) : State :=
  (freshTrace s).onPanel fun p =>
    { p.dismissLeds i (freshTrace s).readLeds with counting := true }

/-- The loop body in run mode counts a round of an active alarm and a second. -/
theorem loopBody_run (h : Refines s a) (hi : i.switchOn = true) :
    ((freshTrace s).loopBody i).toPanel = runPanel i a s.toPanel ∧
      Counts ((freshTrace s).loopBody i) (Spec.countOn a.active) := by
  have hdismiss := dismissLeds_eq (p := (freshTrace s).toPanel) (i := i) h.buttons h.leds
  have hdim : (dimmed i s).toPanel =
      darken (a.dismisses i) { s.toPanel with counting := true, trace := [] } := by
    change { (freshTrace s).toPanel.dismissLeds i _ with counting := true } = _
    rw [hdismiss]
    rfl
  have hactive : Counts (dimmed i s) a.active := h.active
  obtain ⟨hcounts, hpanel⟩ := countActive_eq hactive
  rw [AlarmPanel.loopBody_on hi]
  refine ⟨?_, hcounts⟩
  change (dimmed i s).countActive.toPanel.waitForTimer.countSecond = _
  rw [hpanel, hdim, waitForTimer_countSecond (t := a.clock.time) (by exact h.shows.hora)]
  have hexpiry : (darken (a.active == some 29) (darken (a.dismisses i)
      { s.toPanel with counting := true, trace := [] })).expiry = 50000000 := by
    change (s.periodh ++ s.periodl).toNat + 1 = _
    rw [h.periodl, h.periodh]
    rfl
  rw [hexpiry]
  rfl

/-- A run-mode round counts a second, and lights the LEDs when that is the alarm time. -/
theorem step_run (h : Refines s a) (hsane : a.Sane) (hi : i.switchOn = true) :
    (step i s).toPanel =
        (if a.clock.tick.AtAlarm then (runPanel i a s.toPanel).writeLeds 0x3FF
          else runPanel i a s.toPanel) ∧
      Counts (step i s) (if a.clock.tick.AtAlarm then some 0 else Spec.countOn a.active) := by
  obtain ⟨hpanel, hcounts⟩ := loopBody_run h hi
  have hshows : Shows (runPanel i a s.toPanel) a.clock.tick := ⟨rfl, h.shows.alarma, rfl⟩
  rw [step_eq]
  generalize (freshTrace s).loopBody i = y at hpanel hcounts
  have hmatch : y.alarmMatches = decide a.clock.tick.AtAlarm := by
    rw [hpanel]
    exact hshows.alarmMatches
  by_cases hat : a.clock.tick.AtAlarm
  · have hinactive : y.alarmaActiva = false := by
      cases hcount : Spec.countOn a.active with
      | none =>
          rw [hcount] at hcounts
          exact hcounts
      | some k => exact absurd hat (hsane.not_atAlarm hcount)
    have hfire : (y.alarmMatches && i.switchOn && !y.alarmaActiva) = true := by
      rw [hmatch, decide_eq_true hat, hi, hinactive]
      rfl
    rw [fireAlarm, if_pos hfire, if_pos hat, if_pos hat, ← hpanel]
    exact ⟨rfl, rfl, rfl⟩
  · have hfire : ¬ (y.alarmMatches && i.switchOn && !y.alarmaActiva) = true := by
      rw [hmatch, decide_eq_false hat]
      exact Bool.false_ne_true
    rw [fireAlarm, if_neg hfire, if_neg hat, if_neg hat]
    exact ⟨hpanel, hcounts⟩

/-- One round keeps the firmware and the abstract machine together. -/
theorem step_refines (i : Sample) (h : Refines s a) (hsane : a.Sane) :
    Refines (step i s) (a.step i) := by
  have hdark := a.leds_stillLit i h.leds
  cases hi : i.switchOn with
  | false =>
      obtain ⟨hpanel, hcounts⟩ := step_set h hi
      have hdismiss : a.dismisses i = false := by simp [Spec.dismisses, hi]
      simp only [hdismiss, Bool.false_eq_true, if_false] at hdark
      simp only [Spec.step, hi, Bool.false_eq_true, if_false]
      exact refines_of_panel hpanel hcounts ⟨rfl, rfl, rfl⟩ rfl hdark h.periodl h.periodh
  | true =>
      obtain ⟨hpanel, hcounts⟩ := step_run h hsane hi
      have halarm := h.shows.alarma
      simp only [Spec.step, hi, if_true]
      by_cases hat : a.clock.tick.AtAlarm
      · rw [if_pos hat] at hpanel hcounts ⊢
        exact refines_of_panel hpanel hcounts ⟨rfl, halarm, rfl⟩ h.buttons rfl h.periodl h.periodh
      · rw [if_neg hat] at hpanel hcounts ⊢
        exact refines_of_panel hpanel hcounts ⟨rfl, halarm, rfl⟩ h.buttons hdark h.periodl h.periodh

/-- The trace of a round is the one the abstract machine prescribes. -/
theorem step_trace (i : Sample) (h : Refines s a) (hsane : a.Sane) :
    (step i s).trace = a.trace i := by
  cases hi : i.switchOn with
  | false =>
      rw [(step_set h hi).1]
      simp [Spec.trace, hi, setPanel, darken, showing, Spec.dismisses]
  | true =>
      rw [(step_run h hsane hi).1]
      by_cases hat : a.clock.tick.AtAlarm
      · rw [if_pos hat]
        simp [Spec.trace, hi, hat, runPanel, darken, showing, writeLeds]
      · rw [if_neg hat]
        simp [Spec.trace, hi, hat, runPanel, darken, showing]

end Rounds

end RelojDespertador.TimerWithClock

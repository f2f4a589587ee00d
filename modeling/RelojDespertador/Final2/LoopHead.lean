import RelojDespertador.Final2.Runs

/-!
# The head of main's loop in the Final2 firmware

The state of the alarm is spread over five variables and two registers. At the
head of `main`'s loop all of them are at rest, except for the progress that a
dismissed alarm has left behind. The two branches of `main` that work on an
active alarm are therefore dead: the handler does all of it.
-/

namespace RelojDespertador.Final2

open InputMachine Panel

/-- A triple of variables that is a time of day. -/
def ValidTime (h : Hora) : Prop := h.horas < 24 ∧ h.minutos < 60 ∧ h.segundos < 60

/-- The condition of the branch of `main` in which a button turns the LEDs off. -/
def dismissTaken (i : Sample) (a : AlarmPanel) : Bool :=
  i.buttons != (a.setMode i).prevButtonsState && i.switchOn && a.readLeds == 1023

/-- The condition of the 30-second branch of `main`. -/
def timeoutTaken (i : Sample) (a : AlarmPanel) : Bool :=
  let newLedsState := a.readLeds
  let a := a.onPanel (·.setMode i)
  let a := a.onPanel (·.dismissLeds i newLedsState)
  let a := a.onPanel (·.followSwitch i)
  a.alarmaActiva

/-- The loop body of `main` up to the clock code, without the two branches. -/
def restBody (i : Sample) (a : AlarmPanel) : AlarmPanel :=
  let a := a.onPanel (·.setMode i)
  let a := a.onPanel (·.followSwitch i)
  if a.counting then a.onPanel (·.waitForTimer.countSecond) else a

/-- Taking neither branch is running the body without them. -/
theorem loopBody_eq_rest {i : Sample} {a : AlarmPanel} (hdismiss : dismissTaken i a = false)
    (htimeout : timeoutTaken i a = false) : a.loopBody i = restBody i a := by
  have hskip : (a.setMode i).dismissLeds i a.readLeds = a.setMode i := by
    rw [dismissLeds, if_neg]
    rw [← Bool.not_eq_true] at hdismiss
    exact hdismiss
  have hinactive : ((a.onPanel (·.setMode i)).onPanel (·.followSwitch i)).alarmaActiva = false :=
    htimeout
  have hdismissed : (a.onPanel (·.setMode i)).onPanel (·.dismissLeds i a.readLeds) =
      a.onPanel (·.setMode i) := by
    simp only [AlarmPanel.onPanel, hskip]
  simp only [AlarmPanel.loopBody, restBody, hdismissed, AlarmPanel.countActive_inactive hinactive]

/-- What holds at a head of `main`'s loop. -/
structure LoopHead (s : State) : Prop where
  alarmaActiva : s.alarmaActiva = false
  leds : s.leds = 0
  buzzer : s.buzzer = 0
  segundosAlarmaActiva : s.segundosAlarmaActiva ≤ 29
  buzzerPwmCounter : s.buzzerPwmCounter < buzzerPwmHalfPeriod
  alarma : s.alarma = Hora.unset ∨ ValidTime s.alarma
  /-- Whatever the round samples, neither branch is taken, and the round is one
  without the two branches. -/
  dismiss : ∀ i, dismissTaken i (freshTrace s).toAlarmPanel = false
  timeout : ∀ i, timeoutTaken i (freshTrace s).toAlarmPanel = false
  body : ∀ i, (freshTrace s).loopBody i = restBody i (freshTrace s).toAlarmPanel

theorem validTime_ofTime (t : TimeOfDay) : ValidTime (Hora.ofTime t) := by
  refine ⟨?_, ?_, ?_⟩ <;> rw [BitVec.lt_def]
  · rw [Hora.toNat_horas]
    exact t.hi.isLt
  · rw [Hora.toNat_minutos]
    exact t.mid.isLt
  · rw [Hora.toNat_segundos]
    exact t.lo.isLt

/-- An alarm in the variables is the unset triple or a time of day. -/
theorem unset_or_validTime (alarm : Option TimeOfDay) :
    Hora.ofAlarm alarm = Hora.unset ∨ ValidTime (Hora.ofAlarm alarm) := by
  cases alarm with
  | none => exact Or.inl rfl
  | some t => exact Or.inr (validTime_ofTime t)

theorem Refines.loopHead {s : State} {a : Spec} (h : Refines s a) (hs : a.sounding = false) :
    LoopHead s := by
  have hidle := h.idle hs
  have hseconds := h.seconds
  have hcounter := h.counter
  have hlt := a.elapsed.isLt
  have hdismiss (i : Sample) : dismissTaken i (freshTrace s).toAlarmPanel = false := by
    have hdark : (freshTrace s).readLeds = 0 := by
      rw [readLeds, show (freshTrace s).leds = 0 from hidle.leds]
      rfl
    simp [dismissTaken, hdark]
  have htimeout (i : Sample) : timeoutTaken i (freshTrace s).toAlarmPanel = false :=
    hidle.alarmaActiva
  refine ⟨hidle.alarmaActiva, hidle.leds, hidle.buzzer, ?_, ?_, ?_, hdismiss, htimeout, ?_⟩
  · rw [BitVec.le_def, hseconds]
    change _ ≤ 29
    omega
  · rw [BitVec.lt_def, hcounter]
    exact Nat.mod_lt _ (by decide)
  · rw [h.shows.alarma]
    exact unset_or_validTime a.clock.alarm
  · intro i
    exact loopBody_eq_rest (hdismiss i) (htimeout i)

/-- Every head of `main`'s loop in every run from reset is a loop head at rest. -/
theorem run_loopHead (b : U32) (w : Nat → Sample) (n : Nat) (h : (run b w n).pc = .mainLoop) :
    LoopHead (run b w n) :=
  (run_refines b w n).loopHead ((run_refines b w n).pc_mainLoop_iff.mp h)

/-- The alarm is set and fired, and released button 0 dismisses it in its tenth half period. -/
def dismissing (n : Nat) : Sample :=
  (setAlarm ++ (List.replicate 10 ⟨1, 1⟩ : List Sample)).getD n ⟨0, 1⟩

theorem dismissing_beforeAlarm : Spec.run 0 dismissing 120 = Spec.beforeAlarm 0 false := by
  decide +kernel

theorem dismissing_beforeDismissal : Spec.run 0 dismissing 130 =
    ⟨⟨⟨0, 0, 1⟩, some ⟨0, 0, 1⟩⟩, 1, 9, true, true⟩ := by
  decide +kernel

/-- The head after the dismissal, with the half periods of the alarm left behind. -/
theorem run_loopHead_dismissed :
    .enterBuzzer ∈ (run 0 dismissing 121).trace ∧
      .leaveBuzzer .button ∈ (run 0 dismissing 131).trace ∧
      (run 0 dismissing 131).buzzerPwmCounter = 10 ∧ LoopHead (run 0 dismissing 131) := by
  have hstep : Spec.run 0 dismissing 131 =
      Spec.step (dismissing 130) ⟨⟨⟨0, 0, 1⟩, some ⟨0, 0, 1⟩⟩, 1, 9, true, true⟩ := by
    rw [← dismissing_beforeDismissal]
    exact states_succ Spec.step (Spec.start 0) dismissing 130
  have hrefines := run_refines 0 dismissing 131
  refine ⟨?_, ?_, ?_, run_loopHead 0 dismissing 131 ?_⟩
  · rw [run_trace, Spec.enterBuzzer_mem_trace, dismissing_beforeAlarm]
    exact ⟨rfl, rfl, rfl⟩
  · rw [run_trace, Spec.leaveBuzzer_mem_trace, dismissing_beforeDismissal]
    decide
  · have hcounter := hrefines.counter
    rw [hstep] at hcounter
    exact BitVec.eq_of_toNat_eq hcounter
  · rw [hrefines.pc_mainLoop_iff, hstep]
    rfl

end RelojDespertador.Final2

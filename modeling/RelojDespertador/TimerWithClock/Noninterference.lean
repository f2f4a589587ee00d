import RelojDespertador.TimerWithClock.Runs

/-!
# What buttons can influence while the clock runs

An observer who does not see the LEDs, nor the events of a round, cannot tell
from a run which buttons were down while the switch was on. The LED register is
read back, but what it steers is a write to the LEDs alone.
-/

namespace RelojDespertador

open InputMachine

namespace Panel

/-- What is left of a panel without its LEDs and the events of the round. -/
def unlit (p : Panel) : Panel := { p with leds := 0, trace := [] }

variable {f : Panel → Panel}

/-- An operation that does the same without the LEDs respects the observer. -/
theorem respects_unlit (h : ∀ p, (f p).unlit = (f p.unlit).unlit) : Respects unlit f := by
  intro p q hpq
  calc
    (f p).unlit = (f p.unlit).unlit := h p
    _ = (f q.unlit).unlit := by rw [hpq]
    _ = (f q).unlit := (h q).symm

theorem hora_of_unlit {p q : Panel} (h : p.unlit = q.unlit) : p.hora = q.hora :=
  show p.unlit.hora = q.unlit.hora from congrArg Panel.hora h

theorem prevButtonsState_of_unlit {p q : Panel} (h : p.unlit = q.unlit) :
    p.prevButtonsState = q.prevButtonsState :=
  show p.unlit.prevButtonsState = q.unlit.prevButtonsState from congrArg Panel.prevButtonsState h

theorem displayDigit_respects (base : SsegBase) (digit : U8) :
    Respects unlit (displayDigit base digit) := by
  apply respects_unlit
  intro p
  simp only [displayDigit]
  split_ifs
  · cases numToSevenSeg digit.toNat <;> rfl
  · rfl

theorem updateHours_respects : Respects unlit updateHours := by
  intro p q h
  simp only [updateHours, hora_of_unlit h]
  exact displayDigit_respects _ _ (displayDigit_respects _ _ h)

theorem updateMinutes_respects : Respects unlit updateMinutes := by
  intro p q h
  simp only [updateMinutes, hora_of_unlit h]
  exact displayDigit_respects _ _ (displayDigit_respects _ _ h)

theorem updateSeconds_respects : Respects unlit updateSeconds := by
  intro p q h
  simp only [updateSeconds, hora_of_unlit h]
  exact displayDigit_respects _ _ (displayDigit_respects _ _ h)

theorem updateAll_respects : Respects unlit updateAll :=
  (updateHours_respects.comp updateMinutes_respects).comp updateSeconds_respects

theorem log_respects (e : Event) : Respects unlit (log e) := respects_unlit fun _ => rfl

/-- Changing the time respects the observer, who sees it. -/
theorem setHora_respects (change : Hora → Hora) :
    Respects unlit fun p => { p with hora := change p.hora } :=
  respects_unlit fun _ => rfl

theorem countSecond_respects : Respects unlit countSecond := by
  intro p q h
  exact updateAll_respects (setHora_respects Hora.carry (log_respects .tick h))

theorem waitForTimer_respects : Respects unlit waitForTimer :=
  respects_unlit fun _ => rfl

theorem incSegundos_respects : Respects unlit incSegundos := by
  intro p q h
  exact updateSeconds_respects
    (setHora_respects (fun t => { t with segundos := incMod 60 t.segundos }) (log_respects (.action 0) h))

theorem incMinutos_respects : Respects unlit incMinutos := by
  intro p q h
  exact updateMinutes_respects
    (setHora_respects (fun t => { t with minutos := incMod 60 t.minutos }) (log_respects (.action 1) h))

theorem incHoras_respects : Respects unlit incHoras := by
  intro p q h
  exact updateHours_respects
    (setHora_respects (fun t => { t with horas := incMod 24 t.horas }) (log_respects (.action 2) h))

theorem captureAlarm_respects : Respects unlit captureAlarm :=
  respects_unlit fun _ => rfl

theorem setMode_respects (i : Sample) : Respects unlit (setMode i) := by
  have hbuttons : Respects unlit fun p => { p with prevButtonsState := i.buttons } :=
    respects_unlit fun _ => rfl
  intro p q h
  simp only [setMode, prevButtonsState_of_unlit h]
  by_cases hchanged : (i.buttons != q.prevButtonsState && !i.switchOn) = true
  · rw [if_pos hchanged, if_pos hchanged]
    refine captureAlarm_respects.guard _ ?_
    refine incHoras_respects.guard _ ?_
    refine incMinutos_respects.guard _ ?_
    exact incSegundos_respects.guard _ (hbuttons h)
  · rw [if_neg hchanged, if_neg hchanged]
    exact h

/-- Turning the LEDs off is not seen. -/
theorem dismissLeds_unlit (i : Sample) (newLedsState : U32) (p : Panel) :
    (p.dismissLeds i newLedsState).unlit = p.unlit := by
  simp only [dismissLeds]
  split_ifs <;> rfl

end Panel

namespace AlarmPanel

/-- What the observer sees of a panel with its alarm variables. -/
def unlit (a : AlarmPanel) : AlarmPanel := a.onPanel Panel.unlit

variable {a b : AlarmPanel} {i : Sample}

theorem unlit_eq_iff : a.unlit = b.unlit ↔
    a.toPanel.unlit = b.toPanel.unlit ∧ a.alarmaActiva = b.alarmaActiva ∧
      a.segundosAlarmaActiva = b.segundosAlarmaActiva := by
  simp [unlit, onPanel]

theorem onPanel_respects {f : Panel → Panel} (hf : Respects Panel.unlit f) :
    Respects unlit (onPanel f) := by
  intro a b h
  obtain ⟨hpanel, hactive, hcount⟩ := unlit_eq_iff.mp h
  exact unlit_eq_iff.mpr ⟨hf hpanel, hactive, hcount⟩

theorem countActive_respects : Respects unlit countActive := by
  intro a b h
  obtain ⟨hpanel, hactive, hcount⟩ := unlit_eq_iff.mp h
  apply unlit_eq_iff.mpr
  simp only [countActive, hactive, hcount]
  split_ifs
  · exact ⟨hpanel, rfl, rfl⟩
  · exact ⟨hpanel, rfl, rfl⟩
  · exact ⟨hpanel, hactive, hcount⟩

theorem waitAndCount_respects : Respects unlit (onPanel (·.waitForTimer.countSecond)) :=
  onPanel_respects (Panel.waitForTimer_respects.comp Panel.countSecond_respects)

/-- Whether lit LEDs are turned off is not seen. -/
theorem dismiss_unlit (newLedsState : U32) (counting : Bool) (a : AlarmPanel) :
    (a.onPanel fun p => { p.dismissLeds i newLedsState with counting := counting }).unlit =
      (a.onPanel ({ · with counting := counting })).unlit := by
  have hpanel := Panel.dismissLeds_unlit i newLedsState a.toPanel
  apply unlit_eq_iff.mpr
  refine ⟨?_, rfl, rfl⟩
  exact congrArg (fun p : Panel => { p with counting := counting }) hpanel

theorem setCounting_respects (counting : Bool) :
    Respects unlit (onPanel ({ · with counting := counting })) :=
  onPanel_respects (Panel.respects_unlit fun _ => rfl)

/-- In run mode the loop body does the same to the observer, whatever the buttons are. -/
theorem loopBody_unlit_on {i' : Sample} (hi : i.switchOn = true) (hi' : i'.switchOn = true)
    (h : a.unlit = b.unlit) : (a.loopBody i).unlit = (b.loopBody i').unlit := by
  rw [loopBody_on hi, loopBody_on hi']
  apply waitAndCount_respects
  apply countActive_respects
  calc
    _ = (a.onPanel ({ · with counting := true })).unlit := dismiss_unlit _ true a
    _ = (b.onPanel ({ · with counting := true })).unlit := setCounting_respects true h
    _ = _ := (dismiss_unlit _ true b).symm

theorem loopBody_respects (i : Sample) : Respects unlit (loopBody i) := by
  intro a b h
  cases hi : i.switchOn with
  | true => exact loopBody_unlit_on hi hi h
  | false =>
      rw [loopBody_off hi, loopBody_off hi]
      apply countActive_respects
      exact setCounting_respects false (onPanel_respects (Panel.setMode_respects i) h)

end AlarmPanel

namespace TimerWithClock

/-- What two runs have in common that differ in their LEDs only. -/
structure SameButLeds (s s' : State) : Prop where
  hora : s.hora = s'.hora
  alarma : s.alarma = s'.alarma
  counting : s.counting = s'.counting
  prevButtonsState : s.prevButtonsState = s'.prevButtonsState
  alarmaActiva : s.alarmaActiva = s'.alarmaActiva
  segundosAlarmaActiva : s.segundosAlarmaActiva = s'.segundosAlarmaActiva
  display : s.display = s'.display
  periodl : s.periodl = s'.periodl
  periodh : s.periodh = s'.periodh

/-- Two samples with the same switch, and with the same buttons if it is off. -/
def SameButRunButtons (i i' : Sample) : Prop :=
  i.switch = i'.switch ∧ (i.switchOn = false → i.buttons = i'.buttons)

variable {s s' : State} {i i' : Sample}

theorem sameButLeds_of_unlit (h : s.unlit = s'.unlit) : SameButLeds s s' := by
  obtain ⟨hpanel, hactive, hcount⟩ := AlarmPanel.unlit_eq_iff.mp h
  simp only [Panel.unlit, Panel.mk.injEq] at hpanel
  obtain ⟨hora, halarma, hcounting, hprev, -, hdisplay, hperiodl, hperiodh, -⟩ := hpanel
  exact ⟨hora, halarma, hcounting, hprev, hactive, hcount, hdisplay, hperiodl, hperiodh⟩

/-- The alarm test reads the switch of its sample only, and nothing of the LEDs. -/
theorem fireAlarm_unlit (hi : i.switchOn = i'.switchOn) (h : s.unlit = s'.unlit) :
    (fireAlarm i s).unlit = (fireAlarm i' s').unlit := by
  have hsame := sameButLeds_of_unlit h
  obtain ⟨hpanel, -, -⟩ := AlarmPanel.unlit_eq_iff.mp h
  have hmatch : s.alarmMatches = s'.alarmMatches := by
    rw [Panel.alarmMatches, Panel.alarmMatches, hsame.alarma, hsame.hora]
  simp only [fireAlarm, hmatch, hi, hsame.alarmaActiva]
  split_ifs
  · exact AlarmPanel.unlit_eq_iff.mpr ⟨hpanel, rfl, rfl⟩
  · exact h

theorem freshTrace_respects : Respects AlarmPanel.unlit freshTrace :=
  AlarmPanel.onPanel_respects (Panel.respects_unlit fun _ => rfl)

theorem step_respects (i : Sample) : Respects AlarmPanel.unlit (step i) := by
  intro s s' h
  rw [step_eq, step_eq]
  apply fireAlarm_unlit rfl
  exact AlarmPanel.loopBody_respects i (freshTrace_respects h)

/-- The observer cannot tell two samples apart that differ in run-mode buttons only. -/
theorem step_unlit (h : SameButRunButtons i i') (s : State) :
    (step i s).unlit = (step i' s).unlit := by
  obtain ⟨hswitch, hbuttons⟩ := h
  have hi' : i.switchOn = i'.switchOn := by rw [Sample.switchOn, Sample.switchOn, hswitch]
  cases hi : i.switchOn with
  | true =>
      rw [step_eq, step_eq]
      apply fireAlarm_unlit hi'
      exact AlarmPanel.loopBody_unlit_on hi (hi' ▸ hi) rfl
  | false =>
      have heq : i = i' := by
        cases i
        cases i'
        exact congrArg₂ Sample.mk (hbuttons hi) hswitch
      rw [heq]

/-- Two runs from one state that differ in the buttons of run-mode rounds only
differ in their LEDs only, at every loop head. -/
theorem run_mode_buttons_reach_leds_only (s : State) {v v' : Nat → Sample} {n : Nat}
    (hv : ∀ k < n, SameButRunButtons (v k) (v' k)) :
    SameButLeds (states step s v n) (states step s v' n) := by
  apply sameButLeds_of_unlit
  exact states_unwind step_respects (fun _ _ s h => step_unlit h s) rfl hv

/-- A lit alarm, dismissed by button 0 in one of the two runs. -/
theorem run_mode_buttons_midnight :
    SameButLeds (states step armed (fun _ => ⟨3, 1⟩) 2)
      (states step armed (fun k => if k = 1 then ⟨2, 1⟩ else ⟨3, 1⟩) 2) := by
  apply run_mode_buttons_reach_leds_only
  intro k _
  split_ifs
  · exact ⟨rfl, fun hi => absurd hi (by decide)⟩
  · exact ⟨rfl, fun _ => rfl⟩

end TimerWithClock

end RelojDespertador

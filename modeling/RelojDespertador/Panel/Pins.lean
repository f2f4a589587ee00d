import RelojDespertador.Panel.Bus

/-!
# The panel code accounts for the pins

The LED and display fields of a panel move only with the register writes that
the code logs, so the trace of a round says all that happens to the pins in it.
The buzzer is not part of the panel; its level is a parameter.
-/

namespace RelojDespertador

open EventLog

namespace Panel

/-- Trace and pins of a panel, with the level of the buzzer. -/
def view (level : BitVec 1) : View Panel Event Pins where
  log p := p.trace
  output p := ⟨p.leds, level, p.display⟩
  act := Pins.act

variable (level : BitVec 1) (p : Panel)

theorem accounts_log {e : Event} (h : ∀ o : Pins, o.act e = o) :
    Accounts (view level) p (p.log e) :=
  .event rfl (h _).symm

theorem accounts_writeLeds (value : U32) : Accounts (view level) p (p.writeLeds value) :=
  .event (e := .leds value) rfl rfl

theorem accounts_writeSseg (base : SsegBase) (value : U32) :
    Accounts (view level) p (p.writeSseg base value) :=
  .event (e := .sseg base value) rfl rfl

theorem accounts_writeTimer (register : TimerRegister) (value : U32) :
    Accounts (view level) p (p.writeTimer register value) := by
  refine .event (e := .timer register (value.setWidth 16)) ?_ ?_
  · cases register <;> rfl
  · cases register <;> rfl

theorem accounts_programTimer (low high : U32) :
    Accounts (view level) p (p.programTimer low high) :=
  (accounts_writeTimer level p .control 0x00).trans
    ((accounts_writeTimer level _ .periodl low).trans
      ((accounts_writeTimer level _ .periodh high).trans
        (accounts_writeTimer level _ .control 0x07)))

theorem accounts_waitForTimer : Accounts (view level) p p.waitForTimer :=
  (accounts_log level p fun _ => rfl).trans (accounts_writeTimer level _ .status 0x01)

theorem accounts_displayDigit (base : SsegBase) (digit : U8) :
    Accounts (view level) p (p.displayDigit base digit) := by
  refine (accounts_log level p (e := .displayDigit base digit) fun _ => rfl).trans ?_
  refine Accounts.guard (c := digit < 10) ?_
  cases numToSevenSeg digit.toNat with
  | some code => exact accounts_writeSseg level _ base _
  | none => exact .refl _

theorem accounts_updateHours : Accounts (view level) p p.updateHours :=
  (accounts_displayDigit level p _ _).trans (accounts_displayDigit level _ _ _)

theorem accounts_updateMinutes : Accounts (view level) p p.updateMinutes :=
  (accounts_displayDigit level p _ _).trans (accounts_displayDigit level _ _ _)

theorem accounts_updateSeconds : Accounts (view level) p p.updateSeconds :=
  (accounts_displayDigit level p _ _).trans (accounts_displayDigit level _ _ _)

theorem accounts_updateAll : Accounts (view level) p p.updateAll :=
  (accounts_updateHours level p).trans
    ((accounts_updateMinutes level _).trans (accounts_updateSeconds level _))

theorem accounts_incSegundos : Accounts (view level) p p.incSegundos :=
  calc
    Accounts (view level) p (p.log (.action 0)) := accounts_log level p fun _ => rfl
    Accounts (view level) _ { p.log (.action 0) with
        hora := { p.hora with segundos := incMod 60 p.hora.segundos } } := .silent rfl rfl
    Accounts (view level) _ p.incSegundos := accounts_updateSeconds level _

theorem accounts_incMinutos : Accounts (view level) p p.incMinutos :=
  calc
    Accounts (view level) p (p.log (.action 1)) := accounts_log level p fun _ => rfl
    Accounts (view level) _ { p.log (.action 1) with
        hora := { p.hora with minutos := incMod 60 p.hora.minutos } } := .silent rfl rfl
    Accounts (view level) _ p.incMinutos := accounts_updateMinutes level _

theorem accounts_incHoras : Accounts (view level) p p.incHoras :=
  calc
    Accounts (view level) p (p.log (.action 2)) := accounts_log level p fun _ => rfl
    Accounts (view level) _ { p.log (.action 2) with
        hora := { p.hora with horas := incMod 24 p.hora.horas } } := .silent rfl rfl
    Accounts (view level) _ p.incHoras := accounts_updateHours level _

theorem accounts_captureAlarm : Accounts (view level) p p.captureAlarm :=
  (accounts_log level p (e := .action 3) fun _ => rfl).trans (.silent rfl rfl)

theorem accounts_setMode (i : Sample) : Accounts (view level) p (p.setMode i) := by
  refine Accounts.guard ?_
  calc
    Accounts (view level) p { p with prevButtonsState := i.buttons } := .silent rfl rfl
    Accounts (view level) _ _ := .guard (accounts_incSegundos level _)
    Accounts (view level) _ _ := .guard (accounts_incMinutos level _)
    Accounts (view level) _ _ := .guard (accounts_incHoras level _)
    Accounts (view level) _ _ := .guard (accounts_captureAlarm level _)

theorem accounts_followSwitch (i : Sample) : Accounts (view level) p (p.followSwitch i) := by
  have hcounting (q : Panel) (c : Bool) : Accounts (view level) q { q with counting := c } :=
    .silent rfl rfl
  calc
    Accounts (view level) p _ := .guard (hcounting p true)
    Accounts (view level) _ (p.followSwitch i) := .guard (hcounting _ false)

theorem accounts_countSecond : Accounts (view level) p p.countSecond :=
  calc
    Accounts (view level) p (p.log .tick) := accounts_log level p fun _ => rfl
    Accounts (view level) _ { p.log .tick with hora := p.hora.carry } := .silent rfl rfl
    Accounts (view level) _ p.countSecond := accounts_updateAll level _

theorem accounts_dismissLeds (i : Sample) (newLedsState : U32) :
    Accounts (view level) p (p.dismissLeds i newLedsState) :=
  .guard (accounts_writeLeds level p _)

end Panel

namespace AlarmPanel

/-- Trace and pins of a panel with an alarm. -/
def view (level : BitVec 1) : View AlarmPanel Event Pins where
  log a := a.trace
  output a := (Panel.view level).output a.toPanel
  act := Pins.act

variable {level : BitVec 1} {a a' : AlarmPanel}

theorem accounts_of_panel (h : Accounts (Panel.view level) a.toPanel a'.toPanel) :
    Accounts (view level) a a' := h

theorem accounts_countActive (a : AlarmPanel) : Accounts (view level) a a.countActive := by
  refine Accounts.guard ?_
  have hcount : Accounts (view level) a
      { a with segundosAlarmaActiva := a.segundosAlarmaActiva + 1 } := .silent rfl rfl
  refine hcount.trans (.guard ?_)
  exact accounts_of_panel (Panel.accounts_writeLeds level a.toPanel 0x00)

theorem accounts_loopBody (i : Sample) (a : AlarmPanel) :
    Accounts (view level) a (a.loopBody i) := by
  have hset : Accounts (view level) a (a.onPanel (·.setMode i)) :=
    accounts_of_panel (Panel.accounts_setMode level a.toPanel i)
  have hdismiss (b : AlarmPanel) : Accounts (view level) b (b.onPanel (·.dismissLeds i a.readLeds)) :=
    accounts_of_panel (Panel.accounts_dismissLeds level b.toPanel i a.readLeds)
  have hfollow (b : AlarmPanel) : Accounts (view level) b (b.onPanel (·.followSwitch i)) :=
    accounts_of_panel (Panel.accounts_followSwitch level b.toPanel i)
  have hcount (b : AlarmPanel) :
      Accounts (view level) b (b.onPanel (·.waitForTimer.countSecond)) :=
    accounts_of_panel ((Panel.accounts_waitForTimer level b.toPanel).trans
      (Panel.accounts_countSecond level _))
  calc
    Accounts (view level) a _ := hset
    Accounts (view level) _ _ := hdismiss _
    Accounts (view level) _ _ := hfollow _
    Accounts (view level) _ _ := accounts_countActive _
    Accounts (view level) _ (a.loopBody i) := .guard (hcount _)

end AlarmPanel

end RelojDespertador

import RelojDespertador.Hardware.Timer
import RelojDespertador.Panel.Display

/-!
# What the firmwares share

`TimerWithC`, `TimerWithClock` and `Final2` carry the same code for the clock,
the displays, the buttons and the timer. It is translated once, over the part
of the state it works on. Every register access and every branch that a
property speaks about is appended to `trace`, which holds the events of the
current loop round in program order.

A `Sample` is what one round reads: the debounced buttons and the switch.
-/

namespace RelojDespertador

/-- The debounced buttons and the switch register, as one loop round reads them. -/
structure Sample where
  buttons : U32
  switch : U32
  deriving DecidableEq, Repr

/-- `new_switch_state & 0x01`. -/
def Sample.switchOn (i : Sample) : Bool := i.switch &&& 0x01 != 0

/-- A time of day in the variables of the source. -/
structure Hora where
  horas : U8
  minutos : U8
  segundos : U8
  deriving DecidableEq, Repr

/-- How a `handle_pwm_buzzer` call ends: by one of its two `break`s or by its loop guard. -/
inductive BuzzerExit
  | timeout | button | cycles
  deriving DecidableEq, Repr

/-- What a loop round does, as far as properties speak about it. -/
inductive Event
  /-- A write to the data register of the LEDs. -/
  | leds (value : U32)
  /-- A write to the data register of the buzzer. -/
  | buzzer (value : U32)
  /-- A write to the data register of a seven-segment display. -/
  | sseg (base : SsegBase) (value : U32)
  /-- A write to a timer register. -/
  | timer (register : TimerRegister) (value : BitVec 16)
  /-- The polling loop of `wait_for_timer`, with the length in timer cycles of
  one expiry of the period that is programmed when it runs. -/
  | waitForTimer (expiry : Nat)
  /-- A call of `display_digit`. -/
  | displayDigit (base : SsegBase) (digit : U8)
  /-- The set-mode branch of a button. -/
  | action (button : Fin 4)
  /-- The code that counts one second on the clock. -/
  | tick
  /-- A call of `handle_pwm_buzzer`. -/
  | enterBuzzer
  /-- The end of a call of `handle_pwm_buzzer`. -/
  | leaveBuzzer (exit : BuzzerExit)
  deriving DecidableEq, Repr

/-- The variables and registers that all firmwares have. -/
structure Panel where
  hora : Hora
  /-- `horas_alarma`, `minutos_alarma`, `segundos_alarma`. -/
  alarma : Hora
  counting : Bool
  prevButtonsState : U32
  leds : BitVec 10
  display : Display
  /-- The period registers of the timer, as last written. -/
  periodl : BitVec 16
  periodh : BitVec 16
  trace : List Event
  deriving DecidableEq, Repr

/-- `horas_alarma = -1, minutos_alarma = -1, segundos_alarma = -1`. -/
def Hora.unset : Hora := ⟨255, 255, 255⟩

/-- Counting one second: three increments, each rolling over into the next. -/
def Hora.carry (h : Hora) : Hora :=
  let h := { h with segundos := h.segundos + 1 }
  if h.segundos ≥ 60 then
    let h := { h with segundos := 0, minutos := h.minutos + 1 }
    if h.minutos ≥ 60 then
      let h := { h with minutos := 0, horas := h.horas + 1 }
      if h.horas ≥ 24 then { h with horas := 0 } else h
    else h
  else h

/-- `(x + 1) % m`, where the sum is an `int` and cannot wrap. -/
def incMod (m : Nat) (x : U8) : U8 := BitVec.ofNat 8 ((x.toNat + 1) % m)

namespace Panel

/-- The globals and the peripherals at reset. -/
def reset : Panel where
  hora := ⟨0, 0, 0⟩
  alarma := Hora.unset
  counting := false
  prevButtonsState := 0
  leds := 0
  display := Display.reset
  periodl := 61567
  periodh := 762
  trace := []

def log (e : Event) (p : Panel) : Panel := { p with trace := p.trace ++ [e] }

/-- The LED register keeps `writedata[9:0]`. -/
def writeLeds (value : U32) (p : Panel) : Panel :=
  { p with leds := value.setWidth 10, trace := p.trace ++ [.leds value] }

/-- Reading the LED register back. -/
def readLeds (p : Panel) : U32 := p.leds.setWidth 32

def writeSseg (base : SsegBase) (value : U32) (p : Panel) : Panel :=
  { p with display := p.display.write base value, trace := p.trace ++ [.sseg base value] }

/-- The timer keeps `writedata[15:0]`. -/
def writeTimer (register : TimerRegister) (value : U32) (p : Panel) : Panel :=
  let p := p.log (.timer register (value.setWidth 16))
  match register with
  | .periodl => { p with periodl := value.setWidth 16 }
  | .periodh => { p with periodh := value.setWidth 16 }
  | .status => p
  | .control => p

/-- Stop, load the two halves of a period, and start with interrupts: the four
writes of `init_timer`, and those that open `handle_pwm_buzzer`. -/
def programTimer (low high : U32) (p : Panel) : Panel :=
  p |>.writeTimer .control 0x00 |>.writeTimer .periodl low |>.writeTimer .periodh high
    |>.writeTimer .control 0x07

/-- The cycles one expiry takes: the counter runs from the period down to zero. -/
def expiry (p : Panel) : Nat := (p.periodh ++ p.periodl).toNat + 1

/-- `wait_for_timer`: poll until the timeout flag is set, then clear it. -/
def waitForTimer (p : Panel) : Panel :=
  p |>.log (.waitForTimer p.expiry) |>.writeTimer .status 0x01

/-- `display_digit`. -/
def displayDigit (base : SsegBase) (digit : U8) (p : Panel) : Panel :=
  let p := p.log (.displayDigit base digit)
  if digit < 10 then
    match numToSevenSeg digit.toNat with
    | some code => p.writeSseg base (code.setWidth 32)
    | none => p
  else p

/-- `update_hours`. -/
def updateHours (p : Panel) : Panel :=
  p |>.displayDigit .hourTens (p.hora.horas / 10) |>.displayDigit .hourUnits (p.hora.horas % 10)

/-- `update_minutes`. -/
def updateMinutes (p : Panel) : Panel :=
  p |>.displayDigit .minsTens (p.hora.minutos / 10)
    |>.displayDigit .minUnits (p.hora.minutos % 10)

/-- `update_seconds`. -/
def updateSeconds (p : Panel) : Panel :=
  p |>.displayDigit .secTens (p.hora.segundos / 10)
    |>.displayDigit .secUnits (p.hora.segundos % 10)

/-- `update_hours(); update_minutes(); update_seconds();`. -/
def updateAll (p : Panel) : Panel := p.updateHours.updateMinutes.updateSeconds

/-- The branch of button 0 in set mode. -/
def incSegundos (p : Panel) : Panel :=
  let p := p.log (.action 0)
  updateSeconds { p with hora := { p.hora with segundos := incMod 60 p.hora.segundos } }

/-- The branch of button 1 in set mode. -/
def incMinutos (p : Panel) : Panel :=
  let p := p.log (.action 1)
  updateMinutes { p with hora := { p.hora with minutos := incMod 60 p.hora.minutos } }

/-- The branch of button 2 in set mode. -/
def incHoras (p : Panel) : Panel :=
  let p := p.log (.action 2)
  updateHours { p with hora := { p.hora with horas := incMod 24 p.hora.horas } }

/-- The branch of button 3 in set mode. -/
def captureAlarm (p : Panel) : Panel :=
  let p := p.log (.action 3)
  { p with alarma := p.hora }

/-- `(changed_buttons & mask) && (buttons_state & mask)`. -/
def pressed (changedButtons buttonsState mask : U32) : Bool :=
  changedButtons &&& mask != 0 && buttonsState &&& mask != 0

/-- The set-mode block at the top of the main loop. -/
def setMode (i : Sample) (p : Panel) : Panel :=
  if i.buttons != p.prevButtonsState && !i.switchOn then
    let changedButtons := i.buttons ^^^ p.prevButtonsState
    let p := { p with prevButtonsState := i.buttons }
    let p := if pressed changedButtons i.buttons 0x01 then p.incSegundos else p
    let p := if pressed changedButtons i.buttons 0x02 then p.incMinutos else p
    let p := if pressed changedButtons i.buttons 0x04 then p.incHoras else p
    if pressed changedButtons i.buttons 0x08 then p.captureAlarm else p
  else p

/-- The two tests that make `counting` follow the switch. -/
def followSwitch (i : Sample) (p : Panel) : Panel :=
  let p := if i.switchOn && !p.counting then { p with counting := true } else p
  if !i.switchOn && p.counting then { p with counting := false } else p

/-- The clock counts one second and is shown: the code the main loops run after
`wait_for_timer`, which `handle_pwm_buzzer` repeats. -/
def countSecond (p : Panel) : Panel :=
  updateAll { p.log .tick with hora := p.hora.carry }

/-- The alarm time is the time. -/
def alarmMatches (p : Panel) : Bool := p.alarma == p.hora

/-- The run-mode branch of the buttons: a difference to the remembered buttons
turns lit LEDs off. -/
def dismissLeds (i : Sample) (newLedsState : U32) (p : Panel) : Panel :=
  if i.buttons != p.prevButtonsState && i.switchOn && newLedsState == 1023 then p.writeLeds 0x00
  else p

end Panel

/-- The panel with the alarm bookkeeping of `TimerWithClock` and `Final2`. -/
structure AlarmPanel extends Panel where
  alarmaActiva : Bool
  segundosAlarmaActiva : U8
  deriving DecidableEq, Repr

namespace AlarmPanel

/-- The globals and the peripherals at reset. -/
def reset : AlarmPanel where
  toPanel := Panel.reset
  alarmaActiva := false
  segundosAlarmaActiva := 0

def onPanel (f : Panel → Panel) (a : AlarmPanel) : AlarmPanel :=
  { a with toPanel := f a.toPanel }

@[simp] theorem onPanel_toPanel (f : Panel → Panel) (a : AlarmPanel) :
    (a.onPanel f).toPanel = f a.toPanel := rfl

/-- While the alarm is active: count a round and, at 30, turn the LEDs off. -/
def countActive (a : AlarmPanel) : AlarmPanel :=
  if a.alarmaActiva then
    let a := { a with segundosAlarmaActiva := a.segundosAlarmaActiva + 1 }
    if a.segundosAlarmaActiva = 30 then
      { a.onPanel (·.writeLeds 0x00) with alarmaActiva := false }
    else a
  else a

/-- The main loop from its top to the end of the clock code, which
`TimerWithClock` and `Final2` have in common. -/
def loopBody (i : Sample) (a : AlarmPanel) : AlarmPanel :=
  let newLedsState := a.readLeds
  let a := a.onPanel (·.setMode i)
  let a := a.onPanel (·.dismissLeds i newLedsState)
  let a := a.onPanel (·.followSwitch i)
  let a := a.countActive
  if a.counting then a.onPanel (·.waitForTimer.countSecond) else a

end AlarmPanel

end RelojDespertador

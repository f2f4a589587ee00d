import RelojDespertador.Panel.Basic
import RelojDespertador.Library.InputMachine

/-!
# The Final firmware

`software/Final/hello_world_small.c`, the code after the commented-out block.
It keeps its time in `int` variables, starts with the alarm triple 0:00:00,
writes the digits to the displays as numbers, and does not share its handler
with `Final2`: the loop of `handle_pwm_buzzer` runs 3000 times, reads neither
buttons nor switch, and counts a second in each iteration while `counting` is
set. A step of the model is one round of the loop that has control, and a round
of the handler ignores its sample. The polling loops are taken to return.
-/

namespace RelojDespertador.Final

/-- `buzzer_pwm_half_period`, which the program never assigns. -/
def buzzerPwmHalfPeriod : U32 := 50000

/-- `buzzer_sound_duration_ticks`, which the program never assigns. -/
def buzzerSoundDurationTicks : U32 := 3000

/-- A time of day in the variables of the source. -/
structure Hora where
  horas : Int
  minutos : Int
  segundos : Int
  deriving DecidableEq, Repr

/-- Counting one second: three increments, each rolling over into the next. -/
def Hora.carry (h : Hora) : Hora :=
  let h := { h with segundos := h.segundos + 1 }
  if h.segundos ≥ 60 then
    let h := { h with segundos := 0, minutos := h.minutos + 1 }
    if h.minutos ≥ 60 then
      let h := { h with minutos := 0, horas := h.horas + 1 }
      if h.horas ≥ 24 then { h with horas := 0 } else h
    else h
  else h

/-- The loop that has control. -/
inductive Pc
  | mainLoop
  | buzzerLoop
  deriving DecidableEq, Repr

/-- The variables and peripherals at a loop head. -/
structure State where
  hora : Hora
  /-- `horas_alarma`, `minutos_alarma`, `segundos_alarma`. -/
  alarma : Hora
  counting : Bool
  alarmaActiva : Bool
  segundosAlarmaActiva : Int
  buzzerSoundCounter : Int
  buzzerState : Bool
  prevButtonsState : U32
  leds : BitVec 10
  buzzer : BitVec 1
  display : Display
  /-- The period registers of the timer, as last written. -/
  periodl : BitVec 16
  periodh : BitVec 16
  pc : Pc
  trace : List Event
  deriving DecidableEq, Repr

namespace State

/-- The globals and the peripherals at reset. -/
def reset : State where
  hora := ⟨0, 0, 0⟩
  alarma := ⟨0, 0, 0⟩
  counting := false
  alarmaActiva := false
  segundosAlarmaActiva := 0
  buzzerSoundCounter := 0
  buzzerState := false
  prevButtonsState := 0
  leds := 0
  buzzer := 0
  display := Display.reset
  periodl := 61567
  periodh := 762
  pc := .mainLoop
  trace := []

def log (e : Event) (s : State) : State := { s with trace := s.trace ++ [e] }

/-- The LED register keeps `writedata[9:0]`. -/
def writeLeds (value : U32) (s : State) : State :=
  { s.log (.leds value) with leds := value.setWidth 10 }

/-- Reading the LED register back. -/
def readLeds (s : State) : U32 := s.leds.setWidth 32

/-- The buzzer register keeps the lowest bit of `writedata`. -/
def writeBuzzer (value : U32) (s : State) : State :=
  { s.log (.buzzer value) with buzzer := value.setWidth 1 }

/-- Writing an `int` to the data register of a display. -/
def writeSseg (base : SsegBase) (value : Int) (s : State) : State :=
  { s.log (.sseg base (BitVec.ofInt 32 value)) with
    display := s.display.write base (BitVec.ofInt 32 value) }

/-- The timer keeps `writedata[15:0]`. -/
def writeTimer (register : TimerRegister) (value : U32) (s : State) : State :=
  let s := s.log (.timer register (value.setWidth 16))
  match register with
  | .periodl => { s with periodl := value.setWidth 16 }
  | .periodh => { s with periodh := value.setWidth 16 }
  | .status => s
  | .control => s

/-- The four writes of `init_timer`, and those that open `handle_pwm_buzzer`. -/
def programTimer (low high : U32) (s : State) : State :=
  s |>.writeTimer .control 0x00 |>.writeTimer .periodl low |>.writeTimer .periodh high
    |>.writeTimer .control 0x07

/-- The cycles one expiry takes: the counter runs from the period down to zero. -/
def expiry (s : State) : Nat := (s.periodh ++ s.periodl).toNat + 1

/-- Poll until the timeout flag is set. -/
def pollTimer (s : State) : State := s.log (.waitForTimer s.expiry)

/-- `wait_for_timer`. -/
def waitForTimer (s : State) : State := s.pollTimer.writeTimer .status 0x01

/-- `update_seconds`. -/
def updateSeconds (s : State) : State :=
  s |>.writeSseg .secUnits (s.hora.segundos.tmod 10)
    |>.writeSseg .secTens (s.hora.segundos.tdiv 10)

/-- `update_minutes`. -/
def updateMinutes (s : State) : State :=
  s |>.writeSseg .minUnits (s.hora.minutos.tmod 10)
    |>.writeSseg .minsTens (s.hora.minutos.tdiv 10)

/-- `update_hours`. -/
def updateHours (s : State) : State :=
  s |>.writeSseg .hourUnits (s.hora.horas.tmod 10)
    |>.writeSseg .hourTens (s.hora.horas.tdiv 10)

end State

open State

/-- `init_timer`. -/
def initTimer (s : State) : State :=
  s.programTimer (50000000 &&& 0xFFFF) ((50000000 >>> 16) &&& 0xFFFF)

/-- The branch of button 0 in set mode. -/
def incSegundos (s : State) : State :=
  let s := s.log (.action 0)
  updateSeconds { s with hora := { s.hora with segundos := (s.hora.segundos + 1).tmod 60 } }

/-- The branch of button 1 in set mode. -/
def incMinutos (s : State) : State :=
  let s := s.log (.action 1)
  updateMinutes { s with hora := { s.hora with minutos := (s.hora.minutos + 1).tmod 60 } }

/-- The branch of button 2 in set mode. -/
def incHoras (s : State) : State :=
  let s := s.log (.action 2)
  updateHours { s with hora := { s.hora with horas := (s.hora.horas + 1).tmod 24 } }

/-- The branch of button 3 in set mode. -/
def captureAlarm (s : State) : State :=
  let s := s.log (.action 3)
  { s with alarma := s.hora }

/-- The set-mode block at the top of the main loop. -/
def setMode (i : Sample) (s : State) : State :=
  if i.buttons != s.prevButtonsState && !i.switchOn then
    let changedButtons := i.buttons ^^^ s.prevButtonsState
    let s := { s with prevButtonsState := i.buttons }
    let s := if Panel.pressed changedButtons i.buttons 0x01 then incSegundos s else s
    let s := if Panel.pressed changedButtons i.buttons 0x02 then incMinutos s else s
    let s := if Panel.pressed changedButtons i.buttons 0x04 then incHoras s else s
    if Panel.pressed changedButtons i.buttons 0x08 then captureAlarm s else s
  else s

/-- The run-mode branch of the buttons: a difference to the remembered buttons
turns lit LEDs off. -/
def dismissLeds (i : Sample) (newLedsState : U32) (s : State) : State :=
  if i.buttons != s.prevButtonsState && i.switchOn && newLedsState == 1023 then s.writeLeds 0x00
  else s

/-- The two tests that make `counting` follow the switch. -/
def followSwitch (i : Sample) (s : State) : State :=
  let s := if i.switchOn && !s.counting then { s with counting := true } else s
  if !i.switchOn && s.counting then { s with counting := false } else s

/-- While the alarm is active: count a round and, at 30, turn the LEDs off. -/
def countActive (s : State) : State :=
  if s.alarmaActiva then
    let s := { s with segundosAlarmaActiva := s.segundosAlarmaActiva + 1 }
    if s.segundosAlarmaActiva = 30 then { s.writeLeds 0x00 with alarmaActiva := false } else s
  else s

/-- The clock counts one second and is shown, in `main` and in `handle_pwm_buzzer`. -/
def countSecond (s : State) : State :=
  updateHours (updateMinutes (updateSeconds { s.log .tick with hora := s.hora.carry }))

/-- The end of `handle_pwm_buzzer`, back to the head of `main`'s loop. -/
def leaveBuzzer (s : State) : State :=
  { s |>.log (.leaveBuzzer .cycles) |>.writeBuzzer 0x00 |>.writeTimer .control 0x00 with
    pc := .mainLoop }

/-- The guard of the handler's loop, where the `int` becomes unsigned. -/
def buzzerGuard (s : State) : State :=
  if BitVec.ofInt 32 s.buzzerSoundCounter < buzzerSoundDurationTicks then
    { s with pc := .buzzerLoop }
  else leaveBuzzer s

/-- Writing `buzzer_state` to the buzzer. -/
def showBuzzer (s : State) : State := s.writeBuzzer (if s.buzzerState then 1 else 0)

/-- `handle_pwm_buzzer` up to the first test of its loop guard. -/
def enterBuzzer (s : State) : State :=
  let s := s |>.log .enterBuzzer |>.programTimer (buzzerPwmHalfPeriod &&& 0xFFFF)
    ((buzzerPwmHalfPeriod >>> 16) &&& 0xFFFF)
  buzzerGuard (showBuzzer { s with buzzerSoundCounter := 0, buzzerState := false })

/-- One iteration of the loop of `handle_pwm_buzzer`. -/
def buzzerRound (s : State) : State :=
  let s := s.pollTimer
  let s := showBuzzer { s with buzzerState := !s.buzzerState }
  let s := { s with buzzerSoundCounter := s.buzzerSoundCounter + 1 }
  let s := s.writeTimer .status 0x01
  buzzerGuard (if s.counting then countSecond s else s)

/-- The alarm test of `main`. -/
def fireAlarm (s : State) : State :=
  if s.hora == s.alarma then
    enterBuzzer { s.writeLeds 1023 with alarmaActiva := true, segundosAlarmaActiva := 0 }
  else s

/-- The main loop from its top to the clock code. -/
def loopBody (i : Sample) (s : State) : State :=
  let newLedsState := s.readLeds
  let s := setMode i s
  let s := dismissLeds i newLedsState s
  let s := followSwitch i s
  countActive s

/-- One iteration of the loop of `main`. -/
def mainRound (i : Sample) (s : State) : State :=
  let s := loopBody i s
  if s.counting then fireAlarm (countSecond s.waitForTimer) else s

/-- One round of the loop that has control. The trace starts afresh. -/
def step (i : Sample) (s : State) : State :=
  let s := { s with trace := [] }
  match s.pc with
  | .mainLoop => mainRound i s
  | .buzzerLoop => buzzerRound s

/-- The head of `main`'s loop, reached from reset with the buttons that `main`
has read before it. -/
def start (buttonsState : U32) : State :=
  updateSeconds (updateMinutes (updateHours
    { initTimer State.reset with prevButtonsState := buttonsState }))

end RelojDespertador.Final

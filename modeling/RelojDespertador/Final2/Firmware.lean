import RelojDespertador.Panel.Basic
import RelojDespertador.Library.InputMachine

/-!
# The Final2 firmware

`software/Final2/hello_world_small.c`, the code after the commented-out block.
The program has two loops, the one of `main` and the one of
`handle_pwm_buzzer`, and both read the buttons and the switch once in every
round. A step of the model is one round of the loop that has control: the body
of `main` up to and including the call of `handle_pwm_buzzer`, or one
iteration of the handler's loop and, when it is the last, the way back to the
head of `main`'s loop. `wait_for_timer` is taken to return.
-/

namespace RelojDespertador.Final2

/-- `CLOCK_FREQUENCY`. -/
def clockFrequency : U32 := 50000000

/-- `PWM_FREQUENCY`. -/
def pwmFrequency : U32 := 3480

/-- `PWM_PERIOD`. -/
def pwmPeriod : U32 := clockFrequency / pwmFrequency

/-- `buzzer_pwm_half_period`, which the program never assigns. -/
def buzzerPwmHalfPeriod : U32 := pwmPeriod / 2

/-- The loop that has control; `handle_pwm_buzzer` was called with an argument. -/
inductive Pc
  | mainLoop
  | buzzerLoop (prevButtonsState : U32)
  deriving DecidableEq, Repr

/-- The variables and peripherals at a loop head. -/
structure State extends AlarmPanel where
  buzzerState : Bool
  buzzerPwmCounter : U32
  buzzerPwmCycles : U32
  buzzer : BitVec 1
  pc : Pc
  deriving DecidableEq, Repr

namespace State

def onAlarm (f : AlarmPanel → AlarmPanel) (s : State) : State :=
  { s with toAlarmPanel := f s.toAlarmPanel }

def onPanel (f : Panel → Panel) (s : State) : State := s.onAlarm (·.onPanel f)

@[simp] theorem onAlarm_toAlarmPanel (f : AlarmPanel → AlarmPanel) (s : State) :
    (s.onAlarm f).toAlarmPanel = f s.toAlarmPanel := rfl

@[simp] theorem onPanel_toPanel (f : Panel → Panel) (s : State) :
    (s.onPanel f).toPanel = f s.toPanel := rfl

/-- The buzzer register keeps the lowest bit of `writedata`. -/
def writeBuzzer (value : U32) (s : State) : State :=
  { s.onPanel (·.log (.buzzer value)) with buzzer := value.setWidth 1 }

end State

/-- `init_timer`. -/
def initTimer (p : Panel) : Panel :=
  p.programTimer (clockFrequency &&& 0xFFFF) (clockFrequency >>> 16)

/-- The end of `handle_pwm_buzzer` and what `main` does when it returns. -/
def leaveBuzzer (exit : BuzzerExit) (s : State) : State :=
  let s := s.onPanel (·.log (.leaveBuzzer exit) |>.writeTimer .control 0x00)
  let s := s.onAlarm ({ · with alarmaActiva := false })
  { s.onPanel initTimer with pc := .mainLoop }

/-- The guard of the handler's loop. -/
def buzzerGuard (prevButtonsState : U32) (s : State) : State :=
  if s.buzzerPwmCycles > 0 then { s with pc := .buzzerLoop prevButtonsState }
  else leaveBuzzer .cycles s

/-- `handle_pwm_buzzer` up to the first test of its loop guard. -/
def enterBuzzer (prevButtonsState : U32) (s : State) : State :=
  let s := s.onPanel (·.log .enterBuzzer |>.programTimer (buzzerPwmHalfPeriod &&& 0xFFFF)
    ((buzzerPwmHalfPeriod >>> 16) &&& 0xFFFF))
  buzzerGuard prevButtonsState
    { s with buzzerPwmCycles := (1000 * 1000) / (2 * buzzerPwmHalfPeriod) }

/-- Invert the level of the buzzer. -/
def toggleBuzzer (s : State) : State :=
  let s := { s with buzzerState := !s.buzzerState }
  s.writeBuzzer (if s.buzzerState then 1 else 0)

/-- Count a half period; enough of them make a second on the clock. -/
def countHalfPeriod (s : State) : State :=
  let s := { s with buzzerPwmCounter := s.buzzerPwmCounter + 1 }
  if s.buzzerPwmCounter ≥ buzzerPwmHalfPeriod then
    let s := { s with buzzerPwmCounter := 0, buzzerPwmCycles := s.buzzerPwmCycles - 1 }
    let s := s.onAlarm fun a => { a with segundosAlarmaActiva := a.segundosAlarmaActiva + 1 }
    s.onPanel (·.countSecond)
  else s

/-- Turn the LEDs and the buzzer off. -/
def silence (s : State) : State := (s.onPanel (·.writeLeds 0x00)).writeBuzzer 0

/-- One iteration of the loop of `handle_pwm_buzzer`. -/
def buzzerRound (prevButtonsState : U32) (i : Sample) (s : State) : State :=
  let newLedsState := s.readLeds
  let s := s.onPanel (·.waitForTimer)
  let s := toggleBuzzer s
  let s := countHalfPeriod s
  if s.segundosAlarmaActiva = 30 then
    let s := silence s
    leaveBuzzer .timeout (s.onAlarm ({ · with segundosAlarmaActiva := 0 }))
  else if i.buttons != prevButtonsState && i.switchOn && newLedsState == 1023 then
    leaveBuzzer .button (silence s)
  else buzzerGuard prevButtonsState s

/-- The alarm test of `main`. -/
def fireAlarm (s : State) : State :=
  if s.alarmMatches && s.counting then
    (s.onAlarm ({ · with alarmaActiva := true })).onPanel (·.writeLeds 1023)
  else s

/-- One iteration of the loop of `main`. -/
def mainRound (i : Sample) (s : State) : State :=
  let s := fireAlarm (s.onAlarm (·.loopBody i))
  if s.alarmaActiva then enterBuzzer s.prevButtonsState s else s

/-- One round of the loop that has control. The trace starts afresh. -/
def step (i : Sample) (s : State) : State :=
  let s := s.onPanel ({ · with trace := [] })
  match s.pc with
  | .mainLoop => mainRound i s
  | .buzzerLoop prevButtonsState => buzzerRound prevButtonsState i s

/-- The head of `main`'s loop, reached from reset with the buttons that `main`
has read before it. -/
def start (buttonsState : U32) : State where
  toAlarmPanel := AlarmPanel.reset.onPanel fun p =>
    Panel.updateAll { initTimer p with prevButtonsState := buttonsState }
  buzzerState := false
  buzzerPwmCounter := 0
  buzzerPwmCycles := 0
  buzzer := 0
  pc := .mainLoop

/-- A state at a loop head of some run from reset. -/
def Reachable : State → Prop :=
  InputMachine.Reachable step fun s => ∃ buttonsState, s = start buttonsState

theorem Reachable.next {s : State} (h : Reachable s) (i : Sample) : Reachable (step i s) :=
  InputMachine.Reachable.next i h

end RelojDespertador.Final2

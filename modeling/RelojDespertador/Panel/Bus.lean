import RelojDespertador.Hardware.Soc
import RelojDespertador.Library.EventLog
import RelojDespertador.Panel.Trace

/-!
# The events of a round on the bus

Every register write of a trace is an `IOWR` at the base address that the
firmwares define for the register. It reaches the register the event names and
nothing else; in particular, no event is a write to the memory.
-/

namespace RelojDespertador

/-! ## The addresses the firmwares define -/

/-- `LEDS_BASE`. -/
def ledsBase : Nat := 0x30a0

/-- `BUZZER_BASE`. -/
def buzzerBase : Nat := 0x0

/-- `TIMER_BASE`. -/
def timerBase : Nat := 0x3000

/-- `BUTTONS_BASE`. -/
def buttonsBase : Nat := 0x3050

/-- `SWITCH_BASE`. -/
def switchBase : Nat := 0x3020

/-- `SSEG_HOUR_TENS_BASE` and the five others. -/
def SsegBase.address : SsegBase → Nat
  | hourTens => 0x3030
  | hourUnits => 0x3090
  | minsTens => 0x3060
  | minUnits => 0x3080
  | secTens => 0x3040
  | secUnits => 0x3070

/-- The register numbers of `altera_avalon_timer_regs.h`. -/
def TimerRegister.regnum : TimerRegister → Nat
  | status => 0
  | control => 1
  | periodl => 2
  | periodh => 3

/-! ## Events as accesses -/

/-- The access that an event stands for. -/
def Event.busAccess : Event → Option BusAccess
  | .leds value => some (.write (iowr ledsBase 0 value))
  | .buzzer value => some (.write (iowr buzzerBase 0 value))
  | .sseg base value => some (.write (iowr base.address 0 value))
  | .timer register value => some (.write (iowr timerBase register.regnum (value.setWidth 32)))
  | .waitForTimer _ => some .poll
  | _ => none

/-- The accesses of a trace, in order. -/
def busAccesses (l : List Event) : List BusAccess := l.filterMap Event.busAccess

/-- What an event does to the output pins. -/
def Pins.act (p : Pins) : Event → Pins
  | .leds value => { p with leds := value.setWidth 10 }
  | .buzzer value => { p with buzzer := value.setWidth 1 }
  | .sseg base value => { p with display := p.display.write base value }
  | _ => p

section Writes

variable {s : Slave} {regnum : Nat} {data : U32}

/-- An `IOWR` to a register of a slave is a write for this slave. -/
theorem takes_iowr (hlow : 4 * regnum < s.span) (hhigh : s.base + s.span ≤ 2 ^ 14)
    (hwrite : s.readOnly = false) : s.Takes (iowr s.base regnum data).address false := by
  have haddress : (iowr s.base regnum data).address.toNat = s.base + 4 * regnum :=
    Word.toNat_ofNat (by omega)
  refine ⟨?_, by simp [hwrite]⟩
  rw [Slave.Contains, haddress]
  omega

theorem takes_leds : Slave.leds.Takes (iowr ledsBase 0 data).address false :=
  takes_iowr (s := .leds) (by decide) (by decide) rfl

theorem takes_buzzer : Slave.buzzer.Takes (iowr buzzerBase 0 data).address false :=
  takes_iowr (s := .buzzer) (by decide) (by decide) rfl

theorem takes_timer (register : TimerRegister) :
    Slave.timer.Takes (iowr timerBase register.regnum data).address false := by
  refine takes_iowr (s := .timer) ?_ (by decide) rfl
  cases register <;> decide

theorem takes_sseg (base : SsegBase) :
    (Slave.sseg base).Takes (iowr base.address 0 data).address false := by
  have hbase : base.address = (Slave.sseg base).base := by cases base <;> rfl
  rw [hbase]
  refine takes_iowr ?_ ?_ rfl
  · cases base <;> decide
  · cases base <;> decide

end Writes

/-- The slave that a register write of an event is for. -/
def Event.slave : Event → Option Slave
  | .leds _ => some .leds
  | .buzzer _ => some .buzzer
  | .sseg base _ => some (.sseg base)
  | .timer _ _ => some .timer
  | _ => none

namespace Event

variable {e : Event} {b : BusWrite}

theorem takes_of_busAccess (h : e.busAccess = some (.write b)) :
    ∃ s, e.slave = some s ∧ s.Takes b.address false := by
  cases e with
  | leds value =>
      obtain rfl := BusAccess.write.inj (Option.some.inj h)
      exact ⟨.leds, rfl, takes_leds⟩
  | buzzer value =>
      obtain rfl := BusAccess.write.inj (Option.some.inj h)
      exact ⟨.buzzer, rfl, takes_buzzer⟩
  | sseg base value =>
      obtain rfl := BusAccess.write.inj (Option.some.inj h)
      exact ⟨.sseg base, rfl, takes_sseg base⟩
  | timer register value =>
      obtain rfl := BusAccess.write.inj (Option.some.inj h)
      exact ⟨.timer, rfl, takes_timer register⟩
  | waitForTimer expiry => cases h
  | displayDigit | action | tick | enterBuzzer | leaveBuzzer => cases h

/-- No event is a write to the memory. -/
theorem not_reaches_sram (h : e.busAccess = some (.write b)) : b.reaches .sram = false := by
  obtain ⟨s, hs, htakes⟩ := takes_of_busAccess h
  have hne : Slave.sram ≠ s := by
    rintro rfl
    cases e <;> cases hs
  rw [b.reaches_of_route htakes.route]
  exact decide_eq_false hne

/-- On the pins the write of an event does what the event says. -/
theorem edge_of_busAccess (h : e.busAccess = some (.write b)) (p : Pins) :
    p.edge (some b) = p.act e := by
  cases e with
  | leds value =>
      obtain rfl := BusAccess.write.inj (Option.some.inj h)
      have hregister : (iowr ledsBase 0 value).register 2 = 0 := by
        rw [BusWrite.register_iowr]
        decide
      simp only [Pins.edge, pioEdge_at takes_leds, hregister]
      simp [Pins.act, iowr]
  | buzzer value =>
      obtain rfl := BusAccess.write.inj (Option.some.inj h)
      have hregister : (iowr buzzerBase 0 value).register 2 = 0 := by
        rw [BusWrite.register_iowr]
        decide
      simp only [Pins.edge, pioEdge_at takes_buzzer, hregister]
      simp [Pins.act, iowr]
  | sseg base value =>
      obtain rfl := BusAccess.write.inj (Option.some.inj h)
      have hregister : (iowr base.address 0 value).register 2 = 0 := by
        rw [BusWrite.register_iowr]
        cases base <;> decide
      simp only [Pins.edge, pioEdge_at (takes_sseg base), hregister]
      cases base <;> simp [Pins.act, Display.write, iowr]
  | timer register value =>
      obtain rfl := BusAccess.write.inj (Option.some.inj h)
      simp only [Pins.edge, pioEdge_at (takes_timer register)]
      simp [Pins.act]
  | waitForTimer expiry => cases h
  | displayDigit | action | tick | enterBuzzer | leaveBuzzer => cases h

/-- An event that is no register write leaves the pins alone. -/
theorem act_of_not_write (h : ∀ b, e.busAccess ≠ some (.write b)) (p : Pins) : p.act e = p := by
  cases e with
  | leds value => exact absurd rfl (h _)
  | buzzer value => exact absurd rfl (h _)
  | sseg base value => exact absurd rfl (h _)
  | _ => rfl

/-- The timer sees of an event what the trace says it sees. -/
theorem timerAccess_busAccess (e : Event) :
    e.busAccess.bind BusAccess.timerAccess = e.timerAccess := by
  cases e with
  | leds value =>
      simp only [busAccess, Option.bind_some, BusAccess.timerAccess, Bus.at_of_takes takes_leds]
      rfl
  | buzzer value =>
      simp only [busAccess, Option.bind_some, BusAccess.timerAccess, Bus.at_of_takes takes_buzzer]
      rfl
  | sseg base value =>
      simp only [busAccess, Option.bind_some, BusAccess.timerAccess,
        Bus.at_of_takes (takes_sseg base)]
      rfl
  | timer register value =>
      have hdata : (value.setWidth 32).setWidth 16 = value := by simp
      have hregister : TimerRegister.ofAddress
          ((iowr timerBase register.regnum (value.setWidth 32)).register 3) = some register := by
        rw [BusWrite.register_iowr]
        cases register <;> decide
      simp only [busAccess, Option.bind_some, BusAccess.timerAccess, timerBus,
        Bus.at_of_takes (takes_timer register), if_true, hregister, Option.map_some]
      exact congrArg (fun v => some (TimerAccess.write register v)) hdata
  | waitForTimer expiry => rfl
  | displayDigit | action | tick | enterBuzzer | leaveBuzzer => rfl

end Event

/-! ## Traces on the bus -/

section Traces

variable (l : List Event)

/-- The timer sees the timer accesses of the trace. -/
theorem timerAccess_busAccesses :
    (busAccesses l).filterMap BusAccess.timerAccess = timerAccesses l := by
  rw [busAccesses, List.filterMap_filterMap, timerAccesses]
  exact congrArg (fun f => l.filterMap f) (funext Event.timerAccess_busAccess)

/-- The writes of a trace do to the pins what its events say. -/
theorem replay_busAccesses (p : Pins) :
    (BusAccess.writes (busAccesses l)).foldl (fun p b => p.edge (some b)) p =
      l.foldl Pins.act p := by
  induction l generalizing p with
  | nil => rfl
  | cons e l ih =>
      rw [List.foldl_cons, ← ih]
      cases he : e.busAccess with
      | none =>
          rw [busAccesses, List.filterMap_cons_none he, Event.act_of_not_write (by simp [he])]
          rfl
      | some access =>
          rw [busAccesses, List.filterMap_cons_some he]
          cases access with
          | poll =>
              rw [BusAccess.writes_poll, Event.act_of_not_write (by simp [he])]
              rfl
          | write b =>
              rw [BusAccess.writes_write, List.foldl_cons, Event.edge_of_busAccess he]
              rfl

end Traces

end RelojDespertador

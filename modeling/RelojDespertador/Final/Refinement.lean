import RelojDespertador.Final.Spec

/-!
# The Final firmware refines its abstract machine

The variables are `int`s here, which the digits of a clock never leave, and the
displays show the digits as numbers. Each part of a round has a closed form; a
round of `main` is one of the alarm clock with a lamp, and what the tone adds
is the state of the handler's loop.
-/

namespace RelojDespertador.Final

open InputMachine State
open Panel (rising pressed_twoPow waitTrace programTrace)

/-- A time of day in the variables of the source. -/
def Hora.ofTime (t : TimeOfDay) : Hora where
  horas := (t.hi : Nat)
  minutos := (t.mid : Nat)
  segundos := (t.lo : Nat)

/-- Different times are different in the variables. -/
theorem Hora.ofTime_injective : Function.Injective Hora.ofTime := by
  intro t u h
  apply MixedRadix.ext <;> apply Fin.ext
  · exact Int.ofNat.inj (congrArg Hora.horas h)
  · exact Int.ofNat.inj (congrArg Hora.minutos h)
  · exact Int.ofNat.inj (congrArg Hora.segundos h)

/-- The three-level carry of the source is the ripple-carry increment. -/
theorem Hora.carry_ofTime (t : TimeOfDay) : (Hora.ofTime t).carry = Hora.ofTime t.tick := by
  have hs : ((t.lo : Nat) : Int) + 1 ≥ 60 ↔ ¬ (t.lo : Nat) + 1 < 60 := by omega
  have hm : ((t.mid : Nat) : Int) + 1 ≥ 60 ↔ ¬ (t.mid : Nat) + 1 < 60 := by omega
  have hh : ((t.hi : Nat) : Int) + 1 ≥ 24 ↔ ¬ (t.hi : Nat) + 1 < 24 := by omega
  simp only [Hora.carry, Hora.ofTime, hs, hm, hh, MixedRadix.tick]
  by_cases hlo : (t.lo : Nat) + 1 < 60
  · simp [hlo]
  by_cases hmid : (t.mid : Nat) + 1 < 60
  · simp [hlo, hmid]
  by_cases hhi : (t.hi : Nat) + 1 < 24
  · simp [hlo, hmid, hhi]
  · simp [hlo, hmid, hhi]

/-- `(x + 1) % m` on a digit below its radix. -/
theorem tmod_succ {m : Nat} [NeZero m] (x : Fin m) :
    (((x : Nat) : Int) + 1).tmod m = ((x + 1 : Fin m) : Nat) := by
  rw [Fin.val_add, Fin.val_one', Nat.add_mod_mod, Int.ofNat_tmod]
  rfl

/-- The display registers that show a time of day as numbers. -/
def numbers (t : TimeOfDay) : Display where
  hourTens := (digitWord (t.hi / 10)).setWidth 7
  hourUnits := (digitWord (t.hi % 10)).setWidth 7
  minsTens := (digitWord (t.mid / 10)).setWidth 7
  minUnits := (digitWord (t.mid % 10)).setWidth 7
  secTens := (digitWord (t.lo / 10)).setWidth 7
  secUnits := (digitWord (t.lo % 10)).setWidth 7

theorem ofInt_tmod_ten (n : Nat) : BitVec.ofInt 32 ((n : Int).tmod 10) = digitWord (n % 10) :=
  BitVec.ofInt_natCast 32 (n % 10)

theorem ofInt_tdiv_ten (n : Nat) : BitVec.ofInt 32 ((n : Int).tdiv 10) = digitWord (n / 10) :=
  BitVec.ofInt_natCast 32 (n / 10)

namespace State

variable (s : State) (t : TimeOfDay)

theorem updateSeconds_eq (h : s.hora.segundos = (t.lo : Nat)) :
    s.updateSeconds =
      { s with
        display := { s.display with
          secTens := (numbers t).secTens
          secUnits := (numbers t).secUnits }
        trace := s.trace ++ secondsTrace t } := by
  rw [updateSeconds, h, writeSseg, writeSseg, ofInt_tmod_ten, ofInt_tdiv_ten]
  simp [log, Display.write, numbers, secondsTrace]

theorem updateMinutes_eq (h : s.hora.minutos = (t.mid : Nat)) :
    s.updateMinutes =
      { s with
        display := { s.display with
          minsTens := (numbers t).minsTens
          minUnits := (numbers t).minUnits }
        trace := s.trace ++ minutesTrace t } := by
  rw [updateMinutes, h, writeSseg, writeSseg, ofInt_tmod_ten, ofInt_tdiv_ten]
  simp [log, Display.write, numbers, minutesTrace]

theorem updateHours_eq (h : s.hora.horas = (t.hi : Nat)) :
    s.updateHours =
      { s with
        display := { s.display with
          hourTens := (numbers t).hourTens
          hourUnits := (numbers t).hourUnits }
        trace := s.trace ++ hoursTrace t } := by
  rw [updateHours, h, writeSseg, writeSseg, ofInt_tmod_ten, ofInt_tdiv_ten]
  simp [log, Display.write, numbers, hoursTrace]

/-- The state `s` after its clock and its displays have been set to `t` by the
events `l`. All closed forms below are stated with it. -/
def showing (t : TimeOfDay) (l : List Event) : State :=
  { s with
    hora := Hora.ofTime t
    display := numbers t
    trace := s.trace ++ l }

end State

/-- Counting a second makes the clock tick and shows the new time. -/
theorem countSecond_eq (s : State) (t : TimeOfDay) (h : s.hora = Hora.ofTime t) :
    countSecond s = s.showing t.tick (.tick :: timeTrace t.tick) := by
  have hcarry : (s.log .tick).hora.carry = Hora.ofTime t.tick := by
    change s.hora.carry = _
    rw [h, Hora.carry_ofTime]
  rw [countSecond]
  change updateHours (updateMinutes (updateSeconds
    { s.log .tick with hora := (s.log .tick).hora.carry })) = _
  rw [hcarry, updateSeconds_eq _ t.tick rfl, updateMinutes_eq _ t.tick rfl,
    updateHours_eq _ t.tick rfl]
  simp [showing, log, timeTrace]

theorem waitForTimer_eq (s : State) :
    s.waitForTimer = { s with trace := s.trace ++ waitTrace s.expiry } := by
  simp [waitForTimer, pollTimer, log, writeTimer, waitTrace]

theorem programTimer_eq (low high : U32) (s : State) :
    s.programTimer low high =
      { s with
        periodl := low.setWidth 16
        periodh := high.setWidth 16
        trace := s.trace ++ programTrace (low.setWidth 16) (high.setWidth 16) } := by
  simp [programTimer, log, writeTimer, programTrace]

/-! ## The set-mode block -/

section SetMode

variable (s : State) (t : TimeOfDay) (l : List Event)

/-- The branch of button 0, taken or not. -/
theorem incSegundos_if (d : Bool) :
    (if d then incSegundos (s.showing t l) else s.showing t l) =
      s.showing (if d then t.incLo else t)
        (l ++ if d then .action 0 :: secondsTrace (if d then t.incLo else t) else []) := by
  have hinc : (((t.lo : Nat) : Int) + 1).tmod 60 = (t.incLo.lo : Nat) := tmod_succ t.lo
  cases d with
  | false => simp
  | true =>
      simp only [if_true]
      rw [incSegundos, updateSeconds_eq _ t.incLo hinc]
      simpa [showing, log, numbers, Hora.ofTime, MixedRadix.incLo] using hinc

/-- The branch of button 1, taken or not. -/
theorem incMinutos_if (d : Bool) :
    (if d then incMinutos (s.showing t l) else s.showing t l) =
      s.showing (if d then t.incMid else t)
        (l ++ if d then .action 1 :: minutesTrace (if d then t.incMid else t) else []) := by
  have hinc : (((t.mid : Nat) : Int) + 1).tmod 60 = (t.incMid.mid : Nat) := tmod_succ t.mid
  cases d with
  | false => simp
  | true =>
      simp only [if_true]
      rw [incMinutos, updateMinutes_eq _ t.incMid hinc]
      simpa [showing, log, numbers, Hora.ofTime, MixedRadix.incMid] using hinc

/-- The branch of button 2, taken or not. -/
theorem incHoras_if (d : Bool) :
    (if d then incHoras (s.showing t l) else s.showing t l) =
      s.showing (if d then t.incHi else t)
        (l ++ if d then .action 2 :: hoursTrace (if d then t.incHi else t) else []) := by
  have hinc : (((t.hi : Nat) : Int) + 1).tmod 24 = (t.incHi.hi : Nat) := tmod_succ t.hi
  cases d with
  | false => simp
  | true =>
      simp only [if_true]
      rw [incHoras, updateHours_eq _ t.incHi hinc]
      simpa [showing, log, numbers, Hora.ofTime, MixedRadix.incHi] using hinc

/-- The branch of button 3, taken or not. -/
theorem captureAlarm_if (d : Bool) :
    (if d then captureAlarm (s.showing t l) else s.showing t l) =
      State.showing { s with alarma := if d then Hora.ofTime t else s.alarma } t
        (l ++ if d then [.action 3] else []) := by
  cases d <;> simp [captureAlarm, log, showing]

end SetMode

/-! ## The relation -/

/-- The two alarm variables count the rounds of an active alarm. -/
def Counts (alarmaActiva : Bool) (segundosAlarmaActiva : Int) : Option (Fin 30) → Prop
  | none => alarmaActiva = false
  | some k => alarmaActiva = true ∧ segundosAlarmaActiva = (k : Nat)

/-- The variables of the handler's loop after `k` half periods. -/
structure Sounding (s : State) (k : Nat) : Prop where
  counting : s.counting = true
  counter : s.buzzerSoundCounter = k
  level : s.buzzerState = decide (k % 2 = 1)

/-- The firmware state `s` is one of the abstract state `a`. -/
structure Refines (s : State) (a : Spec) : Prop where
  hora : s.hora = Hora.ofTime a.clock.time
  alarma : a.clock.alarm.map Hora.ofTime = some s.alarma
  display : s.display = numbers a.clock.time
  buttons : s.prevButtonsState = a.buttons
  active : Counts s.alarmaActiva s.segundosAlarmaActiva a.active
  leds : s.leds = if a.lit then 1023 else 0
  pc : s.pc = a.mode.pc
  expiry : s.expiry = a.mode.expiry
  tone : ∀ k, a.mode = .tone k → Sounding s k

/-- Before the first round. -/
theorem start_refines (buttonsState : U32) :
    Refines (start buttonsState) (Spec.start buttonsState) where
  hora := rfl
  alarma := rfl
  display := rfl
  buttons := rfl
  active := rfl
  leds := rfl
  pc := rfl
  expiry := by
    change ((762 : BitVec 16) ++ (61568 : BitVec 16)).toNat + 1 = 50000001
    rfl
  tone k h := by cases h

/-- The source compares the two triples of variables; that is the clock showing its alarm. -/
theorem hora_eq_alarma_iff {c : AlarmClock} {hora alarma : Hora} (hhora : hora = Hora.ofTime c.time)
    (halarma : c.alarm.map Hora.ofTime = some alarma) : hora = alarma ↔ c.AtAlarm := by
  change _ ↔ c.alarm = some c.time
  rw [hhora, ← (Option.map_injective Hora.ofTime_injective).eq_iff, halarma, Option.map_some,
    Option.some.injEq]
  exact eq_comm

/-- The state at the top of a round: a fresh trace. -/
def freshTrace (s : State) : State := { s with trace := [] }

theorem Refines.fresh {s : State} {a : Spec} (h : Refines s a) : Refines (freshTrace s) a :=
  ⟨h.hora, h.alarma, h.display, h.buttons, h.active, h.leds, h.pc, h.expiry,
    fun k hk => ⟨(h.tone k hk).counting, (h.tone k hk).counter, (h.tone k hk).level⟩⟩

/-! ## A round of `main` -/

/-- The state after its LEDs may have been turned off. -/
def darken (off : Bool) (s : State) : State :=
  { s with
    leds := if off then 0 else s.leds
    trace := s.trace ++ if off then [.leds 0] else [] }

theorem darken_false (s : State) : darken false s = s := by
  simp [darken]

/-- With the switch off, the set-mode block presses the buttons whose bit rose
since the last sample it has seen. -/
theorem setMode_off {i : Sample} (h : i.switchOn = false) {s : State} {t : TimeOfDay}
    (hhora : s.hora = Hora.ofTime t) (hdisplay : s.display = numbers t) :
    setMode i s =
      State.showing { s with
          prevButtonsState := i.buttons
          alarma :=
            if rising s.prevButtonsState i.buttons 3 then
              Hora.ofTime (AlarmClock.advance (rising s.prevButtonsState i.buttons) t)
            else s.alarma }
        (AlarmClock.advance (rising s.prevButtonsState i.buttons) t)
        (setTrace (rising s.prevButtonsState i.buttons) t) := by
  have hshows : s = s.showing t [] := by
    rw [showing, ← hhora, ← hdisplay, List.append_nil]
  by_cases heq : i.buttons = s.prevButtonsState
  · have hnone : rising s.prevButtonsState i.buttons = fun _ => false := by
      funext k
      simp [rising, heq]
    have hkeep : setMode i s = s := by simp [setMode, heq]
    rw [hkeep, hnone]
    simp only [Bool.false_eq_true, if_false, heq]
    exact hshows
  · have hcond : (i.buttons != s.prevButtonsState && !i.switchOn) = true := by simp [heq, h]
    rw [setMode, if_pos hcond]
    have h0 := pressed_twoPow s.prevButtonsState i.buttons 0
    have h1 := pressed_twoPow s.prevButtonsState i.buttons 1
    have h2 := pressed_twoPow s.prevButtonsState i.buttons 2
    have h3 := pressed_twoPow s.prevButtonsState i.buttons 3
    change Panel.pressed _ _ 0x01 = _ at h0
    change Panel.pressed _ _ 0x02 = _ at h1
    change Panel.pressed _ _ 0x04 = _ at h2
    change Panel.pressed _ _ 0x08 = _ at h3
    simp only [h0, h1, h2, h3]
    generalize rising s.prevButtonsState i.buttons = down
    have hpressed : { s with prevButtonsState := i.buttons } =
        State.showing { s with prevButtonsState := i.buttons } t [] := by
      simp only [showing, ← hhora, ← hdisplay, List.append_nil]
    rw [hpressed, incSegundos_if, incMinutos_if, incHoras_if, captureAlarm_if]
    simp only [AlarmClock.advance, setTrace, List.nil_append]

/-- The run-mode branch of the buttons turns the LEDs off when the lamp is lit and
the buttons differ from those set mode saw last. -/
theorem dismissLeds_eq {s : State} {a : Spec} (h : Refines s a) (i : Sample) :
    dismissLeds i s.readLeds s = darken (a.dismisses i) s := by
  have hlit : (s.readLeds == 1023) = a.lit := by
    rw [readLeds, h.leds]
    cases a.lit <;> rfl
  have hcond : (i.buttons != s.prevButtonsState && i.switchOn && s.readLeds == 1023) =
      a.dismisses i := by
    rw [hlit, h.buttons, TimerWithClock.Spec.dismisses]
    cases a.lit <;> cases i.switchOn <;> simp
  rw [dismissLeds, hcond]
  cases a.dismisses i with
  | false => exact (darken_false s).symm
  | true => rfl

/-- After the two tests `counting` is the switch. -/
theorem followSwitch_eq (i : Sample) (s : State) :
    followSwitch i s = { s with counting := i.switchOn } := by
  obtain ⟨hora, alarma, counting, alarmaActiva, segundosAlarmaActiva, buzzerSoundCounter,
    buzzerState, prev, leds, buzzer, display, periodl, periodh, pc, trace⟩ := s
  cases hi : i.switchOn <;> cases counting <;> simp [followSwitch, hi]

/-- Counting a round of the alarm turns the LEDs off when it is the last, and
touches nothing else but its two variables. -/
theorem countActive_eq {s : State} {active : Option (Fin 30)}
    (h : Counts s.alarmaActiva s.segundosAlarmaActiva active) :
    ∃ activa segundos, Counts activa segundos (TimerWithClock.Spec.countOn active) ∧
      countActive s =
        { darken (active == some 29) s with
          alarmaActiva := activa
          segundosAlarmaActiva := segundos } := by
  cases active with
  | none =>
      refine ⟨s.alarmaActiva, s.segundosAlarmaActiva, h, ?_⟩
      have hactive : s.alarmaActiva = false := h
      have hfalse : ((none : Option (Fin 30)) == some 29) = false := rfl
      rw [countActive, hfalse, darken_false, if_neg (by simp [hactive])]
  | some k =>
      obtain ⟨hactive, hcount⟩ := h
      by_cases hend : k = 29
      · subst hend
        have hdone : s.segundosAlarmaActiva + 1 = 30 := by rw [hcount]; rfl
        refine ⟨false, s.segundosAlarmaActiva + 1, rfl, ?_⟩
        simp only [countActive, hactive, hdone, if_true]
        rfl
      · have hlt : k.val + 1 < 30 := by
          have hk := k.isLt
          have hne : k.val ≠ 29 := fun heq => hend (Fin.ext heq)
          omega
        have hmore : ¬ s.segundosAlarmaActiva + 1 = 30 := by omega
        have hfalse : (some k == some (29 : Fin 30)) = false := by simp [hend]
        refine ⟨true, s.segundosAlarmaActiva + 1, ?_, ?_⟩
        · simp only [TimerWithClock.Spec.countOn, dif_pos hlt]
          refine ⟨rfl, ?_⟩
          rw [hcount]
          rfl
        · rw [hfalse, darken_false]
          simp only [countActive, hactive, hmore, if_true, if_false]

/-- The guard of the handler's loop on a counter that is not negative. -/
theorem buzzerGuard_eq {s : State} {n : Nat} (h : s.buzzerSoundCounter = n) (hn : n ≤ 3000) :
    buzzerGuard s = if n < 3000 then { s with pc := .buzzerLoop } else leaveBuzzer s := by
  have hval : (BitVec.ofNat 32 n).toNat = n := by
    rw [BitVec.toNat_ofNat]
    omega
  have hguard : BitVec.ofInt 32 (n : Int) < buzzerSoundDurationTicks ↔ n < 3000 := by
    rw [BitVec.ofInt_natCast, BitVec.lt_def, hval]
    rfl
  simp only [buzzerGuard, h, hguard]

theorem enterBuzzer_eq (s : State) :
    enterBuzzer s =
      { s with
        buzzerSoundCounter := 0
        buzzerState := false
        buzzer := 0
        periodl := 50000
        periodh := 0
        pc := .buzzerLoop
        trace := s.trace ++ ([.enterBuzzer] ++ programTrace 50000 0 ++ [.buzzer 0]) } := by
  rw [enterBuzzer, buzzerGuard_eq (n := 0) rfl (Nat.zero_le _), if_pos (by decide), programTimer_eq]
  simp [showBuzzer, writeBuzzer, log, buzzerPwmHalfPeriod]

theorem fireAlarm_of_eq {s : State} (h : s.hora = s.alarma) :
    fireAlarm s =
      enterBuzzer { s.writeLeds 1023 with alarmaActiva := true, segundosAlarmaActiva := 0 } :=
  if_pos (beq_iff_eq.mpr h)

theorem fireAlarm_of_ne {s : State} (h : s.hora ≠ s.alarma) : fireAlarm s = s :=
  if_neg (mt beq_iff_eq.mp h)

section Main

variable {s : State} {a : Spec} {i : Sample}

/-- The state after a set-mode round, but for the variables of an active alarm. -/
def setState (i : Sample) (a : Spec) (s : State) : State :=
  darken a.timesOut
    (State.showing { s with
        prevButtonsState := i.buttons
        alarma :=
          if rising a.buttons i.buttons 3 then
            Hora.ofTime (AlarmClock.advance (rising a.buttons i.buttons) a.clock.time)
          else s.alarma
        counting := false
        trace := [] }
      (AlarmClock.advance (rising a.buttons i.buttons) a.clock.time)
      (setTrace (rising a.buttons i.buttons) a.clock.time))

/-- A set-mode round presses buttons and counts a round of an active alarm. -/
theorem mainRound_off (h : Refines s a) (hi : i.switchOn = false) :
    ∃ activa segundos, Counts activa segundos (TimerWithClock.Spec.countOn a.active) ∧
      mainRound i (freshTrace s) =
        { setState i a s with
          alarmaActiva := activa
          segundosAlarmaActiva := segundos } := by
  have hset := setMode_off hi h.fresh.hora h.fresh.display
  rw [h.fresh.buttons] at hset
  have hkeep (value : U32) (x : State) : dismissLeds i value x = x := by simp [dismissLeds, hi]
  have hbody : loopBody i (freshTrace s) =
      countActive { setMode i (freshTrace s) with counting := false } := by
    simp only [loopBody, hkeep, followSwitch_eq, hi]
  have hkept : Counts (setMode i (freshTrace s)).alarmaActiva
      (setMode i (freshTrace s)).segundosAlarmaActiva a.active := by
    rw [hset]
    exact h.active
  obtain ⟨activa, segundos, hcounts, hactive⟩ := countActive_eq
    (s := { setMode i (freshTrace s) with counting := false }) hkept
  rw [hactive, hset] at hbody
  refine ⟨activa, segundos, hcounts, ?_⟩
  simp only [mainRound, hbody]
  rfl

/-- The state after the loop body in run mode, but for the variables of an active alarm. -/
def dimmed (i : Sample) (a : Spec) (s : State) : State :=
  darken a.timesOut (darken (a.dismisses i) { s with counting := true, trace := [] })

/-- The loop body in run mode counts a round of an active alarm. -/
theorem loopBody_on (h : Refines s a) (hi : i.switchOn = true) :
    ∃ activa segundos, Counts activa segundos (TimerWithClock.Spec.countOn a.active) ∧
      loopBody i (freshTrace s) =
        { dimmed i a s with
          alarmaActiva := activa
          segundosAlarmaActiva := segundos } := by
  have hset (x : State) : setMode i x = x := by simp [setMode, hi]
  have hbody : loopBody i (freshTrace s) = countActive
      { dismissLeds i (freshTrace s).readLeds (freshTrace s) with counting := true } := by
    simp only [loopBody, hset, followSwitch_eq, hi]
  rw [dismissLeds_eq h.fresh i] at hbody
  rw [hbody]
  exact countActive_eq (s := { darken (a.dismisses i) (freshTrace s) with counting := true })
    h.fresh.active

/-- The state after the clock code of a run-mode round, but for the variables of an
active alarm. -/
def runState (i : Sample) (a : Spec) (s : State) : State :=
  State.showing (dimmed i a s) a.clock.time.tick
    (waitTrace a.mode.expiry ++ .tick :: timeTrace a.clock.time.tick)

/-- A run-mode round counts a second and then tests the alarm. -/
theorem mainRound_on (h : Refines s a) (hi : i.switchOn = true) :
    ∃ activa segundos, Counts activa segundos (TimerWithClock.Spec.countOn a.active) ∧
      mainRound i (freshTrace s) =
        fireAlarm { runState i a s with
          alarmaActiva := activa
          segundosAlarmaActiva := segundos } := by
  obtain ⟨activa, segundos, hcounts, hbody⟩ := loopBody_on h hi
  refine ⟨activa, segundos, hcounts, ?_⟩
  have hround : mainRound i (freshTrace s) =
      fireAlarm (countSecond (loopBody i (freshTrace s)).waitForTimer) := by
    rw [mainRound, hbody]
    exact if_pos rfl
  have hexpiry : (loopBody i (freshTrace s)).expiry = a.mode.expiry := by
    rw [hbody]
    exact h.expiry
  have hhora : (loopBody i (freshTrace s)).waitForTimer.hora = Hora.ofTime a.clock.time := by
    rw [waitForTimer_eq, hbody]
    exact h.hora
  rw [hround, countSecond_eq _ a.clock.time hhora, waitForTimer_eq, hexpiry, hbody]
  simp only [showing, runState, List.append_assoc]

/-- A set-mode round keeps the firmware and the abstract machine together. -/
theorem mainRound_off_refines (h : Refines s a) (hpc : a.mode.pc = .mainLoop)
    (hi : i.switchOn = false) :
    Refines (mainRound i (freshTrace s)) (a.mainStep i) ∧
      (mainRound i (freshTrace s)).trace = a.mainTrace i := by
  obtain ⟨activa, segundos, hcounts, hround⟩ := mainRound_off h hi
  have hdismiss : a.dismisses i = false := by simp [TimerWithClock.Spec.dismisses, hi]
  have hdark := a.leds_stillLit i h.leds
  simp only [hdismiss, Bool.false_eq_true, if_false] at hdark
  rw [hround]
  constructor
  · simp only [Spec.mainStep, TimerWithClock.Spec.step, hi, Bool.false_eq_true, if_false]
    refine ⟨rfl, ?_, rfl, rfl, hcounts, hdark, h.pc, h.expiry, fun k hk => ?_⟩
    · simp only [AlarmClock.press]
      change Option.map Hora.ofTime _ = some (if _ then _ else s.alarma)
      split_ifs
      · rfl
      · exact h.alarma
    · exact absurd hk (Mode.pc_eq_mainLoop_iff.mp hpc k)
  · simp [Spec.mainTrace, hi, hdismiss, setState, darken, showing]

/-- A run-mode round that reaches the alarm time enters the handler. -/
theorem mainRound_fires (h : Refines s a) (hi : i.switchOn = true) (hat : a.clock.tick.AtAlarm) :
    Refines (mainRound i (freshTrace s)) (a.mainStep i) ∧
      (mainRound i (freshTrace s)).trace = a.mainTrace i := by
  obtain ⟨activa, segundos, -, hround⟩ := mainRound_on h hi
  have hmatch : Hora.ofTime a.clock.time.tick = s.alarma :=
    (hora_eq_alarma_iff (c := a.clock.tick) rfl h.alarma).mpr hat
  rw [hround, fireAlarm_of_eq (by exact hmatch), enterBuzzer_eq]
  constructor
  · simp only [Spec.mainStep, TimerWithClock.Spec.step, hi, if_true, if_pos hat]
    refine ⟨rfl, h.alarma, rfl, h.buttons, ⟨rfl, rfl⟩, rfl, rfl, ?_, fun k hk => ?_⟩
    · change ((0 : BitVec 16) ++ (50000 : BitVec 16)).toNat + 1 = 50001
      rfl
    · obtain rfl : k = ⟨0, by decide⟩ := (Mode.tone.inj hk).symm
      exact ⟨rfl, rfl, rfl⟩
  · simp [Spec.mainTrace, hi, hat, runState, dimmed, darken, showing, writeLeds, log,
      Spec.enterTrace]

/-- Any other run-mode round stays in `main`. -/
theorem mainRound_waits (h : Refines s a) (hpc : a.mode.pc = .mainLoop) (hi : i.switchOn = true)
    (hat : ¬ a.clock.tick.AtAlarm) :
    Refines (mainRound i (freshTrace s)) (a.mainStep i) ∧
      (mainRound i (freshTrace s)).trace = a.mainTrace i := by
  obtain ⟨activa, segundos, hcounts, hround⟩ := mainRound_on h hi
  have hmatch : ¬ Hora.ofTime a.clock.time.tick = s.alarma := fun heq =>
    hat ((hora_eq_alarma_iff (c := a.clock.tick) rfl h.alarma).mp heq)
  have hdark := a.leds_stillLit i h.leds
  rw [hround, fireAlarm_of_ne (by exact hmatch)]
  constructor
  · simp only [Spec.mainStep, TimerWithClock.Spec.step, hi, if_true, if_neg hat]
    refine ⟨rfl, h.alarma, rfl, h.buttons, hcounts, hdark, ?_, ?_, fun k hk => ?_⟩
    · rw [Mode.waited_pc]
      exact h.pc
    · rw [Mode.waited_expiry]
      exact h.expiry
    · have hwaited : a.mode.waited.pc = .mainLoop := by rw [Mode.waited_pc, hpc]
      exact absurd hk (Mode.pc_eq_mainLoop_iff.mp hwaited k)
  · simp [Spec.mainTrace, hi, hat, runState, dimmed, darken, showing]

/-- A round of `main` is one of the alarm clock with a lamp. -/
theorem mainRound_refines (h : Refines s a) (hpc : a.mode.pc = .mainLoop) :
    Refines (mainRound i (freshTrace s)) (a.mainStep i) ∧
      (mainRound i (freshTrace s)).trace = a.mainTrace i := by
  cases hi : i.switchOn with
  | false => exact mainRound_off_refines h hpc hi
  | true =>
      by_cases hat : a.clock.tick.AtAlarm
      · exact mainRound_fires h hi hat
      · exact mainRound_waits h hpc hi hat

end Main

/-! ## A round of the handler -/

section Tone

variable {s : State} {a : Spec} {k : Fin 3000}

/-- The buzzer in the half period after `k` of them. -/
def level (k : Nat) : U32 := if k % 2 = 0 then 1 else 0

/-- The state after a half period, before the clock code. -/
def toggled (k : Fin 3000) (s : State) : State :=
  { s with
    buzzerState := !s.buzzerState
    buzzerSoundCounter := s.buzzerSoundCounter + 1
    buzzer := (level k).setWidth 1
    trace := [.waitForTimer 50001, .buzzer (level k), .timer .status 1] }

/-- The state after the clock code, at the test of the loop guard. -/
def toneState (a : Spec) (k : Fin 3000) (s : State) : State :=
  (toggled k s).showing a.clock.time.tick (.tick :: timeTrace a.clock.time.tick)

/-- Toggling the level of the `k`-th half period. -/
theorem toggle_level {state : Bool} {k : Nat} (h : state = decide (k % 2 = 1)) :
    (!state) = decide (k % 2 = 0) := by
  rw [h]
  rcases Nat.mod_two_eq_zero_or_one k with hparity | hparity <;> simp [hparity]

theorem showBuzzer_eq {state : Bool} {k : Nat} (h : state = decide (k % 2 = 0)) (s : State)
    (hs : s.buzzerState = state) : showBuzzer s = s.writeBuzzer (level k) := by
  rw [showBuzzer, hs, h, level]
  simp only [decide_eq_true_eq]

/-- A half period toggles the buzzer and counts a second. -/
theorem buzzerRound_eq (h : Refines s a) (hk : a.mode = .tone k) :
    buzzerRound (freshTrace s) = buzzerGuard (toneState a k s) := by
  obtain ⟨hcounting, -, hlevel⟩ := h.tone k hk
  have hexpiry : (freshTrace s).expiry = 50001 := by
    rw [h.fresh.expiry, hk]
    rfl
  have hshow := showBuzzer_eq (k := k) (toggle_level hlevel)
    { (freshTrace s).pollTimer with buzzerState := !(freshTrace s).pollTimer.buzzerState } rfl
  have hround : buzzerRound (freshTrace s) = buzzerGuard
      (if (toggled k s).counting then countSecond (toggled k s) else toggled k s) := by
    simp only [buzzerRound, hshow]
    rw [pollTimer, hexpiry]
    rfl
  rw [hround, if_pos (by exact hcounting), countSecond_eq _ a.clock.time (by exact h.hora)]
  rfl

/-- A round of the handler keeps the firmware and the abstract machine together. -/
theorem buzzerRound_refines (h : Refines s a) (hk : a.mode = .tone k) :
    Refines (buzzerRound (freshTrace s)) { a with clock := a.clock.tick, mode := .toneAfter k } ∧
      (buzzerRound (freshTrace s)).trace = a.toneTrace k := by
  obtain ⟨hcounting, hcounter, hlevel⟩ := h.tone k hk
  have hsucc : (toneState a k s).buzzerSoundCounter = (k + 1 : Nat) := by
    change s.buzzerSoundCounter + 1 = _
    rw [hcounter]
    rfl
  have hexpiry : s.expiry = 50001 := by
    rw [h.expiry, hk]
    rfl
  rw [buzzerRound_eq h hk, buzzerGuard_eq hsucc k.isLt]
  by_cases hmore : k.val + 1 < 3000
  · rw [if_pos hmore]
    have hmode : Mode.toneAfter k = .tone ⟨k + 1, hmore⟩ := dif_pos hmore
    rw [hmode]
    refine ⟨⟨rfl, h.alarma, rfl, h.buttons, h.active, h.leds, rfl, hexpiry, fun j hj => ?_⟩, ?_⟩
    · obtain rfl := Mode.tone.inj hj
      refine ⟨hcounting, hsucc, ?_⟩
      have hparity : k.val % 2 = 0 ↔ (k.val + 1) % 2 = 1 := by omega
      exact (toggle_level hlevel).trans (decide_eq_decide.mpr hparity)
    · simp [Spec.toneTrace, toneState, toggled, showing, level, hmore]
  · rw [if_neg hmore, Mode.toneAfter_last hmore]
    refine ⟨⟨rfl, h.alarma, rfl, h.buttons, h.active, h.leds, rfl, hexpiry, ?_⟩, ?_⟩
    · intro j hj
      cases hj
    · simp [Spec.toneTrace, toneState, toggled, showing, level, hmore, leaveBuzzer, writeBuzzer,
        writeTimer, log, Spec.leaveTrace]

end Tone

/-! ## Every round -/

section Rounds

variable {s : State} {a : Spec}

theorem step_mainLoop {i : Sample} (h : s.pc = .mainLoop) : step i s = mainRound i (freshTrace s) := by
  simp only [step, freshTrace, h]

theorem step_buzzerLoop {i : Sample} (h : s.pc = .buzzerLoop) :
    step i s = buzzerRound (freshTrace s) := by
  simp only [step, freshTrace, h]

/-- A round of either loop. -/
theorem step_refines_trace (i : Sample) (h : Refines s a) :
    Refines (step i s) (a.step i) ∧ (step i s).trace = a.trace i := by
  rcases a.mode_cases with ⟨k, hk⟩ | hmain
  · have hpc : s.pc = .buzzerLoop := h.pc.trans (Mode.pc_eq_buzzerLoop_iff.mpr ⟨k, hk⟩)
    rw [step_buzzerLoop hpc, Spec.step_tone hk, Spec.trace_tone hk]
    exact buzzerRound_refines h hk
  · rw [step_mainLoop (h.pc.trans hmain), Spec.step_main hmain, Spec.trace_main hmain]
    exact mainRound_refines h hmain

/-- One round keeps the firmware and the abstract machine together. -/
theorem step_refines (i : Sample) (h : Refines s a) : Refines (step i s) (a.step i) :=
  (step_refines_trace i h).1

/-- The trace of a round is the one the abstract machine prescribes. -/
theorem step_trace (i : Sample) (h : Refines s a) : (step i s).trace = a.trace i :=
  (step_refines_trace i h).2

end Rounds

end RelojDespertador.Final

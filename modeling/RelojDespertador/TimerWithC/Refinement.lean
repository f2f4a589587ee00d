import RelojDespertador.TimerWithC.Firmware
import RelojDespertador.TimerWithC.Spec

/-!
# The TimerWithC firmware refines its abstract machine

Each part of the loop has a closed form on the panels of an abstract state. The
machine needs no invariant for this: it evaluates the alarm test in every
run-mode round, as the firmware does.
-/

namespace RelojDespertador.TimerWithC

open InputMachine Panel

/-- The firmware state `s` is one of the abstract state `a`. -/
structure Refines (s : State) (a : Spec) : Prop where
  shows : s.toPanel.Shows a.clock
  buttons : s.prevButtonsState = a.last.buttons
  switch : s.switchState = a.last.switch
  counting : s.counting = (a.moved && a.last.switchOn)
  leds : s.leds = if a.lit then 1023 else 0
  periodl : s.periodl = 61567
  periodh : s.periodh = 762

theorem start_panel (boot : Sample) : (start boot).toPanel =
    showing { initTimer Panel.reset with prevButtonsState := boot.buttons } AlarmClock.initial.time
      (timeTrace AlarmClock.initial.time) :=
  updateAll_eq { initTimer Panel.reset with prevButtonsState := boot.buttons }
    AlarmClock.initial.time rfl

/-- Before the first round. -/
theorem start_refines (boot : Sample) : Refines (start boot) (Spec.start boot) where
  shows := by rw [start_panel]; exact ⟨rfl, rfl, rfl⟩
  buttons := by rw [start_panel]; rfl
  switch := rfl
  counting := by rw [start_panel]; rfl
  leds := by rw [start_panel]; rfl
  periodl := by rw [start_panel]; rfl
  periodh := by rw [start_panel]; rfl

/-- With the switch off, the run-mode branch of the buttons does nothing. -/
theorem runMode_off {i : Sample} (h : i.switchOn = false) (newLedsState : U32) (p : Panel) :
    runMode i newLedsState p = p := by
  simp [runMode, h]

/-- The panel after the run-mode branch of the buttons. -/
def runPressed (i : Sample) (a : Spec) (p : Panel) : Panel :=
  { p with
    prevButtonsState := i.buttons
    leds := if a.lit && a.dismisses i then 0 else p.leds
    trace := p.trace ++ if a.lit && a.dismisses i then [.leds 0] else [] }

/-- With the switch on, a press of button 3 turns lit LEDs off. -/
theorem runMode_on {p : Panel} {a : Spec} {i : Sample} (hi : i.switchOn = true)
    (hbuttons : p.prevButtonsState = a.last.buttons) (hleds : p.leds = if a.lit then 1023 else 0) :
    runMode i p.readLeds p = runPressed i a p := by
  have hlit : (p.readLeds &&& 0x3FF != 0) = a.lit := by
    rw [readLeds, hleds]
    cases a.lit <;> rfl
  have hdown : pressed (i.buttons ^^^ a.last.buttons) i.buttons 0x08 = a.down i 3 :=
    pressed_twoPow a.last.buttons i.buttons 3
  have hdismisses : a.dismisses i = a.down i 3 := by rw [Spec.dismisses, hi, Bool.true_and]
  by_cases hsame : i.buttons = p.prevButtonsState
  · have hnone : a.down i 3 = false := by
      simp [Spec.down, rising, hsame, hbuttons]
    have hkeep : runMode i p.readLeds p = p := by simp [runMode, hsame]
    rw [hkeep, runPressed, hdismisses, hnone, Bool.and_false, hsame]
    simp
  · have hcond : (i.buttons != p.prevButtonsState && i.switchOn) = true := by simp [hsame, hi]
    rw [runMode, if_pos hcond]
    simp only [hbuttons, hlit, hdown, runPressed, hdismisses]
    cases a.down i 3 <;> cases a.lit <;> simp [writeLeds]

/-- After the test of the switch register the firmware counts exactly if the switch
is on and its register has ever changed. -/
theorem followChange_eq {s : State} {a : Spec} {i : Sample} (hswitch : s.switchState = a.last.switch)
    (hcounting : s.counting = (a.moved && a.last.switchOn)) :
    followChange i s =
      { s.onPanel ({ · with counting := a.counts i }) with switchState := i.switch } := by
  obtain ⟨⟨hora, alarma, counting, prev, leds, display, periodl, periodh, trace⟩, switchState⟩ := s
  obtain rfl : switchState = a.last.switch := hswitch
  obtain rfl : counting = (a.moved && a.last.switchOn) := hcounting
  by_cases hsame : i.switch = a.last.switch
  · have hon : i.switchOn = a.last.switchOn := by rw [Sample.switchOn, Sample.switchOn, hsame]
    simp [followChange, Spec.counts, Spec.moves, hsame, hon, State.onPanel]
  · cases hi : i.switchOn <;>
      simp [followChange, Spec.counts, Spec.moves, hsame, hi, State.onPanel]

/-- The state at the top of a round: a fresh trace. -/
def freshTrace (s : State) : State := s.onPanel ({ · with trace := [] })

/-- A round up to its alarm test. -/
def loopBody (i : Sample) (s : State) : State :=
  let s := followChange i
    ((s.onPanel (·.setMode i)).onPanel (runMode i s.readLeds))
  if s.counting then s.onPanel (·.waitForTimer.countSecond) else s

theorem step_eq (i : Sample) (s : State) : step i s = fireAlarm i (loopBody i (freshTrace s)) := rfl

section Rounds

variable {s : State} {a : Spec} {i : Sample}

/-- The panel after the loop body of a set-mode round. -/
def setPanel (i : Sample) (a : Spec) (p : Panel) : Panel :=
  showing { p with
      prevButtonsState := i.buttons
      alarma := Hora.ofAlarm (a.nextClock i).alarm
      counting := false
      trace := [] }
    (a.nextClock i).time (setTrace (a.down i) a.clock.time)

theorem loopBody_set (h : Refines s a) (hi : i.switchOn = false) :
    loopBody i (freshTrace s) =
      { toPanel := setPanel i a s.toPanel, switchState := i.switch } := by
  have hset := setMode_off hi
    (p := (freshTrace s).toPanel)
    ⟨h.shows.hora, h.shows.alarma, h.shows.display⟩
  rw [show (freshTrace s).prevButtonsState = a.last.buttons from h.buttons] at hset
  have hnext : a.nextClock i = a.clock.press (a.down i) := by simp [Spec.nextClock, hi]
  have hcounts : a.counts i = false := by simp [Spec.counts, hi]
  have hfollow := followChange_eq (a := a) (i := i)
    (s := (freshTrace s).onPanel (·.setMode i)) h.switch (by
      change ((freshTrace s).toPanel.setMode i).counting = _
      rw [hset]
      exact h.counting)
  have hskip : ((freshTrace s).onPanel (·.setMode i)).onPanel (runMode i (freshTrace s).readLeds) =
      (freshTrace s).onPanel (·.setMode i) := by
    simp only [State.onPanel, runMode_off hi]
  simp only [loopBody, hskip, hfollow, hcounts]
  rw [if_neg (by exact Bool.false_ne_true), setPanel, hnext]
  change State.mk { (freshTrace s).toPanel.setMode i with counting := false } i.switch = _
  rw [hset]
  rfl

/-- The panel after the loop body of a run-mode round. -/
def runPanel (i : Sample) (a : Spec) (p : Panel) : Panel :=
  let p := { runPressed i a { p with trace := [] } with counting := a.moves i }
  if a.moves i then
    p.showing a.clock.tick.time (waitTrace 50000000 ++ .tick :: timeTrace a.clock.tick.time)
  else p

theorem loopBody_run (h : Refines s a) (hi : i.switchOn = true) :
    loopBody i (freshTrace s) =
      { toPanel := runPanel i a s.toPanel, switchState := i.switch } := by
  have hset : (freshTrace s).onPanel (·.setMode i) = freshTrace s := by
    simp only [State.onPanel, setMode_on hi]
  have hpress : (freshTrace s).onPanel (runMode i (freshTrace s).readLeds) =
      { toPanel := runPressed i a (freshTrace s).toPanel, switchState := s.switchState } := by
    have hrun := runMode_on (p := (freshTrace s).toPanel) hi h.buttons h.leds
    rw [State.onPanel, hrun]
    rfl
  have hcounts : a.counts i = a.moves i := by rw [Spec.counts, hi, Bool.and_true]
  have hfollow := followChange_eq (a := a) (i := i)
    (s := { toPanel := runPressed i a (freshTrace s).toPanel, switchState := s.switchState })
    h.switch h.counting
  simp only [loopBody, hset, hpress, hfollow, hcounts]
  cases hmoves : a.moves i with
  | false =>
      rw [if_neg (by exact Bool.false_ne_true), runPanel, hmoves]
      rfl
  | true =>
      have hexpiry : (runPressed i a (freshTrace s).toPanel).expiry = 50000000 := by
        change (s.periodh ++ s.periodl).toNat + 1 = _
        rw [h.periodl, h.periodh]
        rfl
      have hwait := waitForTimer_countSecond (t := a.clock.time)
        (p := { runPressed i a (freshTrace s).toPanel with counting := true })
        h.shows.hora
      rw [if_pos (by rfl), runPanel, hmoves, if_pos rfl, ← hexpiry]
      change State.mk (Panel.countSecond (Panel.waitForTimer
        { runPressed i a (freshTrace s).toPanel with counting := true })) i.switch = _
      rw [hwait]
      rfl

theorem step_set (h : Refines s a) (hi : i.switchOn = false) :
    step i s = { toPanel := setPanel i a s.toPanel, switchState := i.switch } := by
  rw [step_eq, loopBody_set h hi]
  simp [fireAlarm, hi]

theorem runPanel_shows (h : s.toPanel.Shows a.clock) (hi : i.switchOn = true) :
    (runPanel i a s.toPanel).Shows (a.nextClock i) := by
  simp only [runPanel, Spec.nextClock, hi, if_true]
  split_ifs
  · exact ⟨rfl, h.alarma, rfl⟩
  · exact ⟨h.hora, h.alarma, h.display⟩

/-- A run-mode round ends with the alarm test. -/
theorem step_run (h : Refines s a) (hi : i.switchOn = true) :
    step i s = { toPanel := if a.lights i then (runPanel i a s.toPanel).writeLeds 0x3FF
                   else runPanel i a s.toPanel
                 switchState := i.switch } := by
  have hmatch : (runPanel i a s.toPanel).alarmMatches = a.lights i := by
    rw [(runPanel_shows h.shows hi).alarmMatches, Spec.lights, hi, Bool.true_and]
  rw [step_eq, loopBody_run h hi]
  simp only [fireAlarm, hmatch, hi, Bool.and_true]
  split_ifs <;> rfl

theorem runPanel_fields (h : Refines s a) :
    (runPanel i a s.toPanel).prevButtonsState = i.buttons ∧
      (runPanel i a s.toPanel).counting = a.moves i ∧
      (runPanel i a s.toPanel).leds = (if a.lit && !a.dismisses i then 1023 else 0) ∧
      (runPanel i a s.toPanel).periodl = 61567 ∧ (runPanel i a s.toPanel).periodh = 762 := by
  have hleds : (if a.lit && a.dismisses i then (0 : BitVec 10) else s.leds) =
      if a.lit && !a.dismisses i then 1023 else 0 := by
    rw [h.leds]
    cases a.lit <;> cases a.dismisses i <;> rfl
  cases hmoves : a.moves i with
  | false =>
      rw [runPanel, hmoves, if_neg Bool.false_ne_true]
      exact ⟨rfl, rfl, hleds, h.periodl, h.periodh⟩
  | true =>
      rw [runPanel, hmoves, if_pos rfl]
      exact ⟨rfl, rfl, hleds, h.periodl, h.periodh⟩

/-- One round keeps the firmware and the abstract machine together. -/
theorem step_refines (i : Sample) (h : Refines s a) : Refines (step i s) (a.step i) := by
  cases hi : i.switchOn with
  | false =>
      have hdark : a.lights i = false ∧ a.dismisses i = false := by
        simp [Spec.lights, Spec.dismisses, hi]
      have hlit : (a.step i).lit = a.lit := by simp [Spec.step, hdark]
      rw [step_set h hi]
      exact {
        shows := ⟨rfl, rfl, rfl⟩
        buttons := rfl
        switch := rfl
        counting := by simp [setPanel, showing, Spec.step, hi]
        leds := by rw [hlit]; exact h.leds
        periodl := h.periodl
        periodh := h.periodh }
  | true =>
      obtain ⟨hbuttons, hcounting, hleds, hperiodl, hperiodh⟩ := runPanel_fields (i := i) h
      have hshows := runPanel_shows h.shows hi
      have hmoved : ((a.step i).moved && (a.step i).last.switchOn) = a.moves i := by
        simp [Spec.step, hi]
      rw [step_run h hi]
      cases hlights : a.lights i with
      | true =>
          exact {
            shows := ⟨hshows.hora, hshows.alarma, hshows.display⟩
            buttons := hbuttons
            switch := rfl
            counting := hcounting.trans hmoved.symm
            leds := by simp [Spec.step, hlights, writeLeds]
            periodl := hperiodl
            periodh := hperiodh }
      | false =>
          exact {
            shows := hshows
            buttons := hbuttons
            switch := rfl
            counting := hcounting.trans hmoved.symm
            leds := by simpa [Spec.step, hlights] using hleds
            periodl := hperiodl
            periodh := hperiodh }

/-- The trace of a round is the one the abstract machine prescribes. -/
theorem step_trace (i : Sample) (h : Refines s a) : (step i s).trace = a.trace i := by
  cases hi : i.switchOn with
  | false =>
      rw [step_set h hi]
      simp [Spec.trace, Spec.dismisses, Spec.counts, Spec.lights, hi, setPanel, showing]
  | true =>
      have hcounts : a.counts i = a.moves i := by rw [Spec.counts, hi, Bool.and_true]
      rw [step_run h hi]
      simp only [Spec.trace, hi, if_true, hcounts, List.nil_append, runPanel, runPressed]
      cases a.lights i <;> cases a.moves i <;> simp [showing, writeLeds]

end Rounds

end RelojDespertador.TimerWithC

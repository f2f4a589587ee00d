import RelojDespertador.Panel.Basic

/-!
# The panel code refines the alarm clock

A panel shows an alarm clock when its variables hold the clock's digits, its
alarm triple holds the alarm or the unset triple, and its display registers
show the time. On such panels each piece of the shared code has a closed form:
the move of the alarm clock it makes, and the events it adds to the trace.
-/

namespace RelojDespertador

/-- A time of day in the variables of the source. -/
def Hora.ofTime (t : TimeOfDay) : Hora where
  horas := BitVec.ofNat 8 t.hi
  minutos := BitVec.ofNat 8 t.mid
  segundos := BitVec.ofNat 8 t.lo

/-- An alarm in the variables of the source; not set is 255:255:255. -/
def Hora.ofAlarm : Option TimeOfDay → Hora
  | none => Hora.unset
  | some t => Hora.ofTime t

private theorem toNat_ofNat_digit {n : Nat} (x : Fin n) (h : n ≤ 256) :
    (BitVec.ofNat 8 (x : Nat)).toNat = x := by
  have hx := x.isLt
  apply Word.toNat_ofNat
  omega

@[simp] theorem Hora.toNat_horas (t : TimeOfDay) : (Hora.ofTime t).horas.toNat = t.hi :=
  toNat_ofNat_digit t.hi (by decide)

@[simp] theorem Hora.toNat_minutos (t : TimeOfDay) : (Hora.ofTime t).minutos.toNat = t.mid :=
  toNat_ofNat_digit t.mid (by decide)

@[simp] theorem Hora.toNat_segundos (t : TimeOfDay) : (Hora.ofTime t).segundos.toNat = t.lo :=
  toNat_ofNat_digit t.lo (by decide)

/-- Different times are different in the variables. -/
theorem Hora.ofTime_injective : Function.Injective Hora.ofTime := by
  intro t u h
  apply MixedRadix.ext <;> apply Fin.ext
  · simpa using congrArg (fun x => x.horas.toNat) h
  · simpa using congrArg (fun x => x.minutos.toNat) h
  · simpa using congrArg (fun x => x.segundos.toNat) h

/-- The unset triple is not a time of day. -/
theorem Hora.unset_ne_ofTime (t : TimeOfDay) : Hora.unset ≠ Hora.ofTime t := by
  intro h
  have hhi := congrArg (fun x => x.horas.toNat) h
  have hlt := t.hi.isLt
  simp only [Hora.toNat_horas] at hhi
  have h255 : Hora.unset.horas.toNat = 255 := rfl
  omega

/-- An increment in eight bits reaches the radix exactly at the top digit. -/
private theorem radix_le_succ_iff {m : Nat} (x : Fin m) (hm : m < 256) :
    BitVec.ofNat 8 m ≤ BitVec.ofNat 8 x + 1 ↔ ¬ (x : Nat) + 1 < m := by
  have hx := x.isLt
  have hval := toNat_ofNat_digit x hm.le
  rw [BitVec.le_def, Word.toNat_succ (by omega), Word.toNat_ofNat hm, hval]
  omega

/-- The three-level carry of the source is the ripple-carry increment. -/
theorem Hora.carry_ofTime (t : TimeOfDay) : (Hora.ofTime t).carry = Hora.ofTime t.tick := by
  have hs : (60 : U8) ≤ BitVec.ofNat 8 t.lo + 1 ↔ _ := radix_le_succ_iff t.lo (by decide)
  have hm : (60 : U8) ≤ BitVec.ofNat 8 t.mid + 1 ↔ _ := radix_le_succ_iff t.mid (by decide)
  have hh : (24 : U8) ≤ BitVec.ofNat 8 t.hi + 1 ↔ _ := radix_le_succ_iff t.hi (by decide)
  have hsucc (x : Nat) : BitVec.ofNat 8 x + 1#8 = BitVec.ofNat 8 (x + 1) :=
    (BitVec.ofNat_add x 1).symm
  simp only [Hora.carry, Hora.ofTime, ge_iff_le, hs, hm, hh, MixedRadix.tick]
  by_cases hlo : (t.lo : Nat) + 1 < 60
  · simp [hlo, hsucc]
  by_cases hmid : (t.mid : Nat) + 1 < 60
  · simp [hlo, hmid, hsucc]
  by_cases hhi : (t.hi : Nat) + 1 < 24
  · simp [hlo, hmid, hhi, hsucc]
  · simp [hlo, hmid, hhi]

/-- `(x + 1) % m` on a digit below its radix. -/
theorem incMod_ofNat {m : Nat} [NeZero m] (x : Fin m) (hm : m ≤ 256) :
    incMod m (BitVec.ofNat 8 x) = BitVec.ofNat 8 (x + 1 : Fin m) := by
  rw [incMod, toNat_ofNat_digit x hm, Fin.val_add, Fin.val_one', Nat.add_mod_mod]

section Advance

variable (down : Fin 4 → Bool) (t : TimeOfDay)

/-- Each button advances its own variable. -/
theorem Hora.segundos_advance : (Hora.ofTime (AlarmClock.advance down t)).segundos =
    if down 0 then incMod 60 (Hora.ofTime t).segundos else (Hora.ofTime t).segundos := by
  have hinc : incMod 60 (Hora.ofTime t).segundos = BitVec.ofNat 8 (t.lo + 1 : Fin 60) :=
    incMod_ofNat t.lo (by decide)
  rw [hinc]
  simp only [AlarmClock.advance]
  cases down 0 <;> cases down 1 <;> cases down 2 <;> rfl

theorem Hora.minutos_advance : (Hora.ofTime (AlarmClock.advance down t)).minutos =
    if down 1 then incMod 60 (Hora.ofTime t).minutos else (Hora.ofTime t).minutos := by
  have hinc : incMod 60 (Hora.ofTime t).minutos = BitVec.ofNat 8 (t.mid + 1 : Fin 60) :=
    incMod_ofNat t.mid (by decide)
  rw [hinc]
  simp only [AlarmClock.advance]
  cases down 0 <;> cases down 1 <;> cases down 2 <;> rfl

theorem Hora.horas_advance : (Hora.ofTime (AlarmClock.advance down t)).horas =
    if down 2 then incMod 24 (Hora.ofTime t).horas else (Hora.ofTime t).horas := by
  have hinc : incMod 24 (Hora.ofTime t).horas = BitVec.ofNat 8 (t.hi + 1 : Fin 24) :=
    incMod_ofNat t.hi (by decide)
  rw [hinc]
  simp only [AlarmClock.advance]
  cases down 0 <;> cases down 1 <;> cases down 2 <;> rfl

end Advance

/-- The tens digit of a variable. -/
private theorem ofNat_div_ten {x : Nat} (h : x < 256) :
    BitVec.ofNat 8 x / 10 = BitVec.ofNat 8 (x / 10) := by
  apply (Word.eq_ofNat_iff (by omega)).mpr
  rw [BitVec.toNat_udiv, Word.toNat_ofNat h]
  rfl

/-- The units digit of a variable. -/
private theorem ofNat_mod_ten {x : Nat} (h : x < 256) :
    BitVec.ofNat 8 x % 10 = BitVec.ofNat 8 (x % 10) := by
  apply (Word.eq_ofNat_iff (by omega)).mpr
  rw [BitVec.toNat_umod, Word.toNat_ofNat h]
  rfl

namespace Panel

/-- The events of showing one digit. -/
def shown (base : SsegBase) (digit : Nat) : List Event :=
  [.displayDigit base (BitVec.ofNat 8 digit), .sseg base (Display.digitCode digit)]

def hoursTrace (t : TimeOfDay) : List Event :=
  shown .hourTens (t.hi / 10) ++ shown .hourUnits (t.hi % 10)

def minutesTrace (t : TimeOfDay) : List Event :=
  shown .minsTens (t.mid / 10) ++ shown .minUnits (t.mid % 10)

def secondsTrace (t : TimeOfDay) : List Event :=
  shown .secTens (t.lo / 10) ++ shown .secUnits (t.lo % 10)

/-- The events of showing all six digits. -/
def timeTrace (t : TimeOfDay) : List Event :=
  hoursTrace t ++ minutesTrace t ++ secondsTrace t

/-- The guard of `display_digit` lets every decimal digit through to its register. -/
theorem displayDigit_eq (base : SsegBase) {digit : Nat} (h : digit < 10) (p : Panel) :
    p.displayDigit base (BitVec.ofNat 8 digit) =
      { p with
        display := p.display.write base (Display.digitCode digit)
        trace := p.trace ++ shown base digit } := by
  obtain ⟨code, hcode, hwrite⟩ := Display.numToSevenSeg_eq_some h
  have hval : (BitVec.ofNat 8 digit).toNat = digit := Word.toNat_ofNat (by omega)
  have hguard : BitVec.ofNat 8 digit < 10 := by
    rw [BitVec.lt_def, hval]
    exact h
  simp only [displayDigit, if_pos hguard, hval, hcode]
  simp [log, writeSseg, shown, hwrite]

/-- The panel `p` after its clock and its displays have been set to `t` by the
events `l`. All closed forms below are stated with it. -/
def showing (p : Panel) (t : TimeOfDay) (l : List Event) : Panel :=
  { p with
    hora := Hora.ofTime t
    display := Display.ofTime t
    trace := p.trace ++ l }

theorem updateHours_eq (p : Panel) (t : TimeOfDay) (h : p.hora.horas = (Hora.ofTime t).horas) :
    p.updateHours =
      { p with
        display := { p.display with
          hourTens := (Display.ofTime t).hourTens
          hourUnits := (Display.ofTime t).hourUnits }
        trace := p.trace ++ hoursTrace t } := by
  have ht := t.hi.isLt
  have h' : p.hora.horas = BitVec.ofNat 8 t.hi := h
  rw [updateHours, h', ofNat_div_ten (by omega), ofNat_mod_ten (by omega),
    displayDigit_eq _ (by omega), displayDigit_eq _ (by omega)]
  simp [Display.write, Display.ofTime, Display.segments, hoursTrace]

theorem updateMinutes_eq (p : Panel) (t : TimeOfDay) (h : p.hora.minutos = (Hora.ofTime t).minutos) :
    p.updateMinutes =
      { p with
        display := { p.display with
          minsTens := (Display.ofTime t).minsTens
          minUnits := (Display.ofTime t).minUnits }
        trace := p.trace ++ minutesTrace t } := by
  have ht := t.mid.isLt
  have h' : p.hora.minutos = BitVec.ofNat 8 t.mid := h
  rw [updateMinutes, h', ofNat_div_ten (by omega), ofNat_mod_ten (by omega),
    displayDigit_eq _ (by omega), displayDigit_eq _ (by omega)]
  simp [Display.write, Display.ofTime, Display.segments, minutesTrace]

theorem updateSeconds_eq (p : Panel) (t : TimeOfDay) (h : p.hora.segundos = (Hora.ofTime t).segundos) :
    p.updateSeconds =
      { p with
        display := { p.display with
          secTens := (Display.ofTime t).secTens
          secUnits := (Display.ofTime t).secUnits }
        trace := p.trace ++ secondsTrace t } := by
  have ht := t.lo.isLt
  have h' : p.hora.segundos = BitVec.ofNat 8 t.lo := h
  rw [updateSeconds, h', ofNat_div_ten (by omega), ofNat_mod_ten (by omega),
    displayDigit_eq _ (by omega), displayDigit_eq _ (by omega)]
  simp [Display.write, Display.ofTime, Display.segments, secondsTrace]

/-- Updating all displays shows the time that the variables hold. -/
theorem updateAll_eq (p : Panel) (t : TimeOfDay) (h : p.hora = Hora.ofTime t) :
    p.updateAll = p.showing t (timeTrace t) := by
  rw [updateAll, updateHours_eq p t (by rw [h]), updateMinutes_eq _ t (by simp only [h]),
    updateSeconds_eq _ t (by simp only [h])]
  simp [showing, h, timeTrace]

/-- Counting a second makes the clock tick and shows the new time. -/
theorem countSecond_eq (p : Panel) (t : TimeOfDay) (h : p.hora = Hora.ofTime t) :
    p.countSecond = p.showing t.tick (.tick :: timeTrace t.tick) := by
  rw [countSecond, updateAll_eq _ t.tick (by rw [log, h, Hora.carry_ofTime])]
  simp [showing, log]

section SetMode

variable (p : Panel) (t : TimeOfDay) (l : List Event)

/-- The branch of button 0, taken or not. -/
theorem incSegundos_if (d : Bool) :
    (if d then (p.showing t l).incSegundos else p.showing t l) =
      p.showing (if d then t.incLo else t)
        (l ++ if d then .action 0 :: secondsTrace (if d then t.incLo else t) else []) := by
  have hinc := incMod_ofNat t.lo (by decide)
  cases d with
  | false => simp
  | true =>
      simp only [if_true]
      rw [incSegundos, updateSeconds_eq _ t.incLo hinc]
      simp [showing, log, Display.ofTime, Hora.ofTime, MixedRadix.incLo, hinc]

/-- The branch of button 1, taken or not. -/
theorem incMinutos_if (d : Bool) :
    (if d then (p.showing t l).incMinutos else p.showing t l) =
      p.showing (if d then t.incMid else t)
        (l ++ if d then .action 1 :: minutesTrace (if d then t.incMid else t) else []) := by
  have hinc := incMod_ofNat t.mid (by decide)
  cases d with
  | false => simp
  | true =>
      simp only [if_true]
      rw [incMinutos, updateMinutes_eq _ t.incMid hinc]
      simp [showing, log, Display.ofTime, Hora.ofTime, MixedRadix.incMid, hinc]

/-- The branch of button 2, taken or not. -/
theorem incHoras_if (d : Bool) :
    (if d then (p.showing t l).incHoras else p.showing t l) =
      p.showing (if d then t.incHi else t)
        (l ++ if d then .action 2 :: hoursTrace (if d then t.incHi else t) else []) := by
  have hinc := incMod_ofNat t.hi (by decide)
  cases d with
  | false => simp
  | true =>
      simp only [if_true]
      rw [incHoras, updateHours_eq _ t.incHi hinc]
      simp [showing, log, Display.ofTime, Hora.ofTime, MixedRadix.incHi, hinc]

/-- The branch of button 3, taken or not. -/
theorem captureAlarm_if (d : Bool) :
    (if d then (p.showing t l).captureAlarm else p.showing t l) =
      showing { p with alarma := if d then Hora.ofTime t else p.alarma } t
        (l ++ if d then [.action 3] else []) := by
  cases d <;> simp [captureAlarm, log, showing]

end SetMode

/-- A button bit that was 0 in the earlier word and is 1 in the later one. -/
def rising (before now : U32) (k : Fin 4) : Bool := now.getLsbD k && !before.getLsbD k

/-- The mask tests on the changed and the current buttons detect a rising bit. -/
theorem pressed_twoPow (before now : U32) (k : Fin 4) :
    pressed (now ^^^ before) now (BitVec.twoPow 32 k) = rising before now k := by
  have hpow : ∀ k : Fin 4, BitVec.twoPow 32 k ≠ 0#32 := by decide
  have hne (x : U32) : (x &&& BitVec.twoPow 32 k != 0) = x.getLsbD k := by
    rw [BitVec.and_twoPow]
    cases x.getLsbD k <;> simp [hpow k]
  rw [pressed, hne, hne, BitVec.getLsbD_xor, rising]
  cases now.getLsbD k <;> cases before.getLsbD k <;> rfl

/-- The events of pressing the buttons in `down` together at time `t`. -/
def setTrace (down : Fin 4 → Bool) (t : TimeOfDay) : List Event :=
  let t0 := if down 0 then t.incLo else t
  let t1 := if down 1 then t0.incMid else t0
  let t2 := if down 2 then t1.incHi else t1
  (if down 0 then .action 0 :: secondsTrace t0 else []) ++
  (if down 1 then .action 1 :: minutesTrace t1 else []) ++
  (if down 2 then .action 2 :: hoursTrace t2 else []) ++
  (if down 3 then [.action 3] else [])

/-- The panel holds and displays the state `c` of the alarm clock. -/
structure Shows (p : Panel) (c : AlarmClock) : Prop where
  hora : p.hora = Hora.ofTime c.time
  alarma : p.alarma = Hora.ofAlarm c.alarm
  display : p.display = Display.ofTime c.time

/-- The source compares the two triples of variables; that is the alarm being set
and being now, because the unset triple is not a time of day. -/
theorem Shows.alarmMatches {p : Panel} {c : AlarmClock} (h : p.Shows c) :
    p.alarmMatches = decide c.AtAlarm := by
  change _ = decide (c.alarm = some c.time)
  rw [Panel.alarmMatches, h.alarma, h.hora]
  cases hc : c.alarm with
  | none => simp [Hora.ofAlarm, Hora.unset_ne_ofTime]
  | some t =>
      have hinj : Hora.ofTime t = Hora.ofTime c.time ↔ t = c.time := Hora.ofTime_injective.eq_iff
      simp only [Hora.ofAlarm, Option.some.injEq, beq_eq_decide, hinj]

theorem Shows.showing_nil {p : Panel} {c : AlarmClock} (h : p.Shows c) :
    p.showing c.time [] = p := by
  rw [showing, ← h.hora, ← h.display, List.append_nil]

/-- With the switch on, the set-mode block does nothing. -/
theorem setMode_on {i : Sample} (h : i.switchOn = true) (p : Panel) : p.setMode i = p := by
  simp [setMode, h]

/-- With the switch off, the set-mode block presses the buttons whose bit rose
since the last sample it has seen. -/
theorem setMode_off {i : Sample} (h : i.switchOn = false) {p : Panel} {c : AlarmClock}
    (hs : p.Shows c) :
    p.setMode i =
      showing { p with
          prevButtonsState := i.buttons
          alarma := Hora.ofAlarm (c.press (rising p.prevButtonsState i.buttons)).alarm }
        (AlarmClock.advance (rising p.prevButtonsState i.buttons) c.time)
        (setTrace (rising p.prevButtonsState i.buttons) c.time) := by
  by_cases heq : i.buttons = p.prevButtonsState
  · have hnone : rising p.prevButtonsState i.buttons = fun _ => false := by
      funext k
      simp [rising, heq]
    have hkeep : p.setMode i = p := by simp [setMode, heq]
    rw [hkeep, hnone]
    simp [AlarmClock.press, AlarmClock.advance, setTrace, heq, ← hs.alarma, hs.showing_nil]
  · have hcond : (i.buttons != p.prevButtonsState && !i.switchOn) = true := by simp [heq, h]
    rw [setMode, if_pos hcond]
    have h0 := pressed_twoPow p.prevButtonsState i.buttons 0
    have h1 := pressed_twoPow p.prevButtonsState i.buttons 1
    have h2 := pressed_twoPow p.prevButtonsState i.buttons 2
    have h3 := pressed_twoPow p.prevButtonsState i.buttons 3
    change pressed _ _ 0x01 = _ at h0
    change pressed _ _ 0x02 = _ at h1
    change pressed _ _ 0x04 = _ at h2
    change pressed _ _ 0x08 = _ at h3
    simp only [h0, h1, h2, h3]
    generalize rising p.prevButtonsState i.buttons = down
    have hq : { p with prevButtonsState := i.buttons } =
        showing { p with prevButtonsState := i.buttons } c.time [] := by
      simp only [showing, ← hs.hora, ← hs.display, List.append_nil]
    rw [hq, incSegundos_if, incMinutos_if, incHoras_if, captureAlarm_if]
    simp only [hs.alarma, AlarmClock.press, AlarmClock.advance, setTrace, List.nil_append]
    cases down 3 <;> rfl

/-- After the two tests `counting` is the switch. -/
theorem followSwitch_eq (i : Sample) (p : Panel) :
    p.followSwitch i = { p with counting := i.switchOn } := by
  obtain ⟨hora, alarma, counting, prev, leds, display, periodl, periodh, trace⟩ := p
  cases hi : i.switchOn <;> cases counting <;> simp [followSwitch, hi]

/-- With the switch off, the run-mode branch of the buttons does nothing. -/
theorem dismissLeds_off {i : Sample} (h : i.switchOn = false) (newLedsState : U32) (p : Panel) :
    p.dismissLeds i newLedsState = p := by
  simp [dismissLeds, h]

end Panel

namespace AlarmPanel

theorem countActive_inactive {a : AlarmPanel} (h : a.alarmaActiva = false) :
    a.countActive = a := by
  simp [countActive, h]

/-- The switch alone decides whether `counting` holds after the alarm bookkeeping. -/
theorem countActive_counting (a : AlarmPanel) : a.countActive.counting = a.counting := by
  simp only [countActive]
  split_ifs <;> rfl

/-- The common part of the main loops in set mode. -/
theorem loopBody_off {i : Sample} (h : i.switchOn = false) (a : AlarmPanel) :
    a.loopBody i = (a.onPanel fun p => { p.setMode i with counting := false }).countActive := by
  simp only [loopBody, onPanel, Panel.dismissLeds_off h, Panel.followSwitch_eq, h]
  rw [if_neg]
  rw [countActive_counting]
  exact Bool.false_ne_true

/-- The common part of the main loops in run mode. -/
theorem loopBody_on {i : Sample} (h : i.switchOn = true) (a : AlarmPanel) :
    a.loopBody i =
      (a.onPanel fun p => { p.dismissLeds i a.readLeds with counting := true }).countActive.onPanel
        (·.waitForTimer.countSecond) := by
  simp only [loopBody, onPanel, Panel.setMode_on h, Panel.followSwitch_eq, h]
  rw [if_pos]
  rw [countActive_counting]

end AlarmPanel

end RelojDespertador

import RelojDespertador.Final2.Runs

/-!
# What the displays of the Final2 firmware show

The registers are always the digits of the variables, because every site that
changes the time is followed by the updates of the digits it has changed. And
every call of `display_digit` gets a decimal digit, so its guard drops nothing
and the pattern table is read inside its bounds.
-/

namespace RelojDespertador.Final2

open InputMachine Panel

/-- The six registers hold the codes of the tens and units of the three variables. -/
structure ShowsDigits (h : Hora) (d : Display) : Prop where
  hourTens : d.hourTens = Display.segments (h.horas.toNat / 10)
  hourUnits : d.hourUnits = Display.segments (h.horas.toNat % 10)
  minsTens : d.minsTens = Display.segments (h.minutos.toNat / 10)
  minUnits : d.minUnits = Display.segments (h.minutos.toNat % 10)
  secTens : d.secTens = Display.segments (h.segundos.toNat / 10)
  secUnits : d.secUnits = Display.segments (h.segundos.toNat % 10)

theorem showsDigits_ofTime (t : TimeOfDay) : ShowsDigits (Hora.ofTime t) (Display.ofTime t) := by
  constructor <;> simp [Display.ofTime]

/-- Every call of `display_digit` in a trace passes a decimal digit, finds its
code in the pattern table, and writes it to its register at once. -/
def AllShown : List Event → Prop
  | [] => True
  | .displayDigit base digit :: l =>
      (digit < 10 ∧ ∃ code, numToSevenSeg digit.toNat = some code ∧
        l.head? = some (.sseg base (code.setWidth 32))) ∧ AllShown l
  | _ :: l => AllShown l

theorem AllShown.append {l m : List Event} (hl : AllShown l) (hm : AllShown m) :
    AllShown (l ++ m) := by
  induction l with
  | nil => exact hm
  | cons e l ih =>
      cases e with
      | displayDigit base digit =>
          obtain ⟨⟨hdigit, code, hcode, hhead⟩, hrest⟩ := hl
          have hhead' : (l ++ m).head? = some (.sseg base (code.setWidth 32)) := by
            rw [List.head?_append, hhead]
            rfl
          exact ⟨⟨hdigit, code, hcode, hhead'⟩, ih hrest⟩
      | _ => exact ih hl

theorem allShown_shown (base : SsegBase) {digit : Nat} (h : digit < 10) :
    AllShown (shown base digit) := by
  obtain ⟨code, hcode, hwrite⟩ := Display.numToSevenSeg_eq_some h
  have hval : (BitVec.ofNat 8 digit).toNat = digit := Word.toNat_ofNat (by omega)
  refine ⟨⟨?_, code, ?_, ?_⟩, trivial⟩
  · rw [BitVec.lt_def, hval]
    exact h
  · rw [hval, hcode]
  · rw [← hwrite]
    rfl

section Traces

variable (t : TimeOfDay)

theorem allShown_hoursTrace : AllShown (hoursTrace t) := by
  have hlt := t.hi.isLt
  exact (allShown_shown _ (by omega)).append (allShown_shown _ (by omega))

theorem allShown_minutesTrace : AllShown (minutesTrace t) := by
  have hlt := t.mid.isLt
  exact (allShown_shown _ (by omega)).append (allShown_shown _ (by omega))

theorem allShown_secondsTrace : AllShown (secondsTrace t) := by
  have hlt := t.lo.isLt
  exact (allShown_shown _ (by omega)).append (allShown_shown _ (by omega))

theorem allShown_timeTrace : AllShown (timeTrace t) :=
  ((allShown_hoursTrace t).append (allShown_minutesTrace t)).append (allShown_secondsTrace t)

/-- The branch of a button, taken or not. -/
theorem allShown_if (d : Bool) {l : List Event} (h : AllShown l) :
    AllShown (if d then l else []) := by
  cases d with
  | false => trivial
  | true => exact h

theorem allShown_setTrace (down : Fin 4 → Bool) : AllShown (setTrace down t) := by
  refine AllShown.append (AllShown.append (AllShown.append ?_ ?_) ?_) ?_
  · exact allShown_if _ (allShown_secondsTrace _)
  · exact allShown_if _ (allShown_minutesTrace _)
  · exact allShown_if _ (allShown_hoursTrace _)
  · exact allShown_if _ trivial

end Traces

theorem Spec.allShown_trace (i : Sample) (a : Spec) : AllShown (a.trace i) := by
  have htick : AllShown (.tick :: timeTrace a.clock.time.tick) := allShown_timeTrace _
  unfold Spec.trace
  split
  · refine AllShown.append (AllShown.append (AllShown.append ?_ ?_) ?_) ?_
    · trivial
    · trivial
    · split_ifs
      · exact htick
      · trivial
    · split_ifs <;> trivial
  · split
    · refine AllShown.append (AllShown.append ?_ htick) ?_
      · trivial
      · split_ifs <;> trivial
    · exact allShown_setTrace _ _

/-- In every run, at every loop head of `main` and of the handler: the registers
are the digits of the variables, decoding them gives the time back, and the
round before has shown every digit it was asked to show. Digits have different codes. -/
theorem display_never_lies (b : U32) (w : Nat → Sample) :
    (∀ n, ShowsDigits (run b w n).hora (run b w n).display ∧
      (run b w n).display.decode = some ((run b w n).hora.horas.toNat,
        (run b w n).hora.minutos.toNat, (run b w n).hora.segundos.toNat) ∧
      AllShown (run b w n).trace) ∧
    ∀ d < 10, ∀ e < 10, Display.segments d = Display.segments e → d = e := by
  constructor
  · intro n
    have hshows := (run_refines b w n).shows
    refine ⟨?_, ?_, ?_⟩
    · rw [hshows.hora, hshows.display]
      exact showsDigits_ofTime _
    · rw [hshows.hora, hshows.display, Display.decode_ofTime, Hora.toNat_horas,
        Hora.toNat_minutos, Hora.toNat_segundos]
    · cases n with
      | zero =>
          change AllShown (start b).trace
          rw [start_trace]
          exact allShown_timeTrace _
      | succ n =>
          rw [run_trace]
          exact Spec.allShown_trace _ _
  · intro d hd e he h
    have hdecode := congrArg Display.digitOf h
    rw [Display.digitOf_segments d hd, Display.digitOf_segments e he] at hdecode
    exact Option.some.inj hdecode

end RelojDespertador.Final2

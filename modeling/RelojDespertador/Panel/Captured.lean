import RelojDespertador.Panel.Refinement
import RelojDespertador.Library.InputMachine

/-!
# The alarm as the time captured last

What the alarm triple of a run is, told by the events of the run: the time at
the end of the latest round that captured it, or the unset triple before there
is one. This holds for every firmware whose panels follow an alarm clock.
-/

namespace RelojDespertador.Panel

open InputMachine

/-- Panels that show the clocks `c` along a run in which the rounds of `P`, and
no others, set the alarm, to the time they end with. -/
structure Captured (p : Nat → Panel) (c : Nat → AlarmClock) (P : Nat → Prop) : Prop where
  shows : ∀ n, (p n).Shows (c n)
  start : (c 0).alarm = none
  set : ∀ n, P n → (c (n + 1)).alarm = some (c (n + 1)).time
  keep : ∀ n, ¬ P n → (c (n + 1)).alarm = (c n).alarm

namespace Captured

variable {p : Nat → Panel} {c : Nat → AlarmClock} {P : Nat → Prop} {n : Nat}

/-- The alarm is the time of the latest capture. -/
theorem alarm_eq_some_iff (h : Captured p c P) (t : TimeOfDay) :
    (c n).alarm = some t ↔ ∃ j, Latest P n j ∧ (c (j + 1)).time = t :=
  eq_some_iff_latest (r := fun n => (c n).alarm) (v := fun j => (c (j + 1)).time)
    h.start h.set h.keep n t

/-- A capture copies the time to the alarm triple. -/
theorem alarma_eq_hora (h : Captured p c P) (hn : P n) : (p (n + 1)).alarma = (p (n + 1)).hora := by
  rw [(h.shows (n + 1)).alarma, h.set n hn, (h.shows (n + 1)).hora]
  rfl

/-- The time after a round is the time captured last before it exactly when it
is the alarm of the clock. -/
theorem hora_eq_latest_iff (h : Captured p c P) :
    (∃ j, Latest P n j ∧ (p (n + 1)).hora = (p (j + 1)).alarma) ↔
      (c n).alarm = some (c (n + 1)).time := by
  rw [h.alarm_eq_some_iff]
  apply exists_congr
  intro j
  apply and_congr_right
  intro hj
  rw [h.alarma_eq_hora hj.2.1, (h.shows (n + 1)).hora, (h.shows (j + 1)).hora,
    Hora.ofTime_injective.eq_iff]
  exact eq_comm

theorem alarm_eq_none (h : Captured p c P) (hn : ∀ j < n, ¬ P j) : (c n).alarm = none := by
  apply Option.eq_none_iff_forall_ne_some.mpr
  intro t halarm
  obtain ⟨j, hj, -⟩ := (h.alarm_eq_some_iff t).mp halarm
  exact hn j hj.1 hj.2.1

/-- Before the first capture the alarm triple is 255:255:255. -/
theorem alarma_eq_unset (h : Captured p c P) (hn : ∀ j < n, ¬ P j) :
    (p n).alarma = Hora.unset := by
  rw [(h.shows n).alarma, h.alarm_eq_none hn]
  rfl

end Captured

end RelojDespertador.Panel

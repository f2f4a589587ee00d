import RelojDespertador.TimerWithClock.Lamp
import Mathlib.Algebra.BigOperators.Intervals

/-!
# The seconds between lighting the LEDs and turning them off

A round counts towards the 30 of an active alarm before it waits for the timer,
and whether it waits or not. An alarm that nobody dismisses is over in the 30th
round after the one that lit the LEDs, and no more than 29 seconds of the clock
pass in between.
-/

namespace RelojDespertador.TimerWithClock

open InputMachine Panel

/-- The events before the first `e` of a round, and those after it. -/
def before (e : Event) (l : List Event) : List Event := l.takeWhile (· != e)

def after (e : Event) (l : List Event) : List Event := (l.dropWhile (· != e)).tail

/-- Counted from `s`, round `m` is the first that writes 0 to the LEDs. -/
def DarkAt (s : State) (v : Nat → Sample) (m : Nat) : Prop :=
  .leds 0 ∈ (states step s v (m + 1)).trace ∧ ∀ k < m, .leds 0 ∉ (states step s v (k + 1)).trace

/-- The seconds the clock counts from the write of 0x3FF in the round that ends in
`s` to the write of 0 in round `m` after it. -/
def litTicks (s : State) (v : Nat → Sample) (m : Nat) : Nat :=
  ticks (after (.leds 0x3FF) s.trace) +
    ∑ k ∈ Finset.range m, ticks (states step s v (k + 1)).trace +
    ticks (before (.leds 0) (states step s v (m + 1)).trace)

/-- The LEDs lit in the round that ends in `s` are turned off after 30 seconds of the clock. -/
def LitThirtySeconds (s : State) (v : Nat → Sample) : Prop :=
  ∃ m, DarkAt s v m ∧ litTicks s v m = 30

/-- No button sample differs from the remembered buttons while the switch is on. -/
def Undisturbed (s : State) (v : Nat → Sample) : Prop :=
  ∀ k, (v k).switchOn = true → (v k).buttons = (states step s v k).prevButtonsState

theorem DarkAt.unique {s : State} {v : Nat → Sample} {m m' : Nat} (h : DarkAt s v m)
    (h' : DarkAt s v m') : m = m' := by
  rcases Nat.lt_trichotomy m m' with hlt | heq | hlt
  · exact absurd h.1 (h'.2 m hlt)
  · exact heq
  · exact absurd h'.1 (h.2 m' hlt)

namespace Spec

variable {a : Spec} {i : Sample} {w : Nat → Sample} {n : Nat}

/-- Nobody dismisses a lit lamp: its alarm counts to 30. -/
theorem lit_of_quiet (h : ∀ k, (states step a w k).Sane) (hactive : a.active = some 0)
    (hlit : a.lit = true) (hquiet : ∀ k, (states step a w k).dismisses (w k) = false)
    (hn : n < 30) :
    (states step a w n).active = some ⟨n, hn⟩ ∧ (states step a w n).lit = true := by
  induction n with
  | zero => exact ⟨hactive, hlit⟩
  | succ n ih =>
      obtain ⟨hj, hl⟩ := ih (Nat.lt_of_succ_lt hn)
      obtain ⟨hactive', hlit'⟩ := step_of_not_fires ((h n).not_fires (i := w n) hj)
      have hmore : (states step a w n).timesOut = false := by
        rw [timesOut, hj, beq_eq_false_iff_ne]
        intro heq
        have hval := congrArg Fin.val (Option.some.inj heq)
        change n = 29 at hval
        omega
      constructor
      · rw [states_succ, hactive', hj]
        simp only [countOn, dif_pos hn]
      · rw [states_succ, hlit', stillLit, hl, hquiet n, hmore]
        rfl

/-- Lighting the LEDs is the last event of its round. -/
theorem after_trace (h : a.Fires i) : after (.leds 0x3FF) (a.trace i) = [] := by
  obtain ⟨hi, hat⟩ := h
  have htime : ∀ e ∈ timeTrace a.clock.time.tick, (e != .leds 0x3FF) = true := by
    intro e he
    rw [bne_iff_ne]
    rintro rfl
    exact absurd he (not_mem_timeTrace rfl)
  have hrest : ∀ e ∈ (if a.dismisses i then [.leds 0] else []) ++
      (if a.timesOut then [.leds 0] else []) ++
      (waitTrace 50000000 ++ .tick :: timeTrace a.clock.time.tick),
      (e != Event.leds 0x3FF) = true := by
    intro e he
    simp only [List.mem_append, List.mem_cons, List.mem_ite_nil_right, List.not_mem_nil, or_false,
      waitTrace] at he
    rcases he with (⟨-, rfl⟩ | ⟨-, rfl⟩) | ((rfl | rfl) | (rfl | he))
    all_goals first
      | rfl
      | exact htime e he
  simp only [after, trace, hi, hat, and_self, if_true, List.nil_append]
  rw [List.dropWhile_append_of_pos hrest]
  rfl

/-- Before a time-out turns the LEDs off, the round has counted no second. -/
theorem before_trace (hdis : a.dismisses i = false) (hout : a.timesOut = true) :
    ticks (before (.leds 0) (a.trace i)) = 0 := by
  have hset : ∀ e ∈ (if i.switchOn then [] else
      setTrace (rising a.buttons i.buttons) a.clock.time), (e != Event.leds 0) = true := by
    intro e he
    rw [bne_iff_ne]
    rintro rfl
    split_ifs at he
    · cases he
    · exact not_mem_setTrace rfl (by simp) he
  simp only [before, trace, hdis, hout, if_true, Bool.false_eq_true, if_false, List.append_nil,
    List.append_assoc, List.cons_append, List.nil_append]
  rw [List.takeWhile_append_of_pos hset, List.takeWhile_cons_of_neg (by simp), List.append_nil]
  split_ifs
  · rfl
  · exact ticks_setTrace _ _

end Spec

section Window

variable {s : State} {a : Spec} {v : Nat → Sample} {k : Nat}

theorem Undisturbed.dismisses (hquiet : Undisturbed s v) (h : Refines s a) (hsane : a.Sane)
    (k : Nat) : (states Spec.step a v k).dismisses (v k) = false := by
  cases hi : (v k).switchOn with
  | false => simp [Spec.dismisses, hi]
  | true =>
      have hbuttons : (v k).buttons = (states Spec.step a v k).buttons :=
        (hquiet k hi).trans (h.along hsane v k).1.buttons
      simp [Spec.dismisses, hbuttons]

/-- Samples with the switch on and the buttons of set mode disturb nothing. -/
theorem Refines.undisturbed (h : Refines s a) (hsane : a.Sane)
    (hi : Sample.switchOn ⟨a.buttons, 1⟩ = true) : Undisturbed s fun _ => ⟨a.buttons, 1⟩ := by
  have hkept : ∀ k, (states Spec.step a (fun _ => ⟨a.buttons, 1⟩) k).buttons = a.buttons := by
    intro k
    induction k with
    | zero => rfl
    | succ k ih => rw [states_succ, Spec.step_buttons, hi, if_pos rfl, ih]
  intro k _
  exact ((h.along hsane _ k).1.buttons.trans (hkept k)).symm

/-- In an undisturbed window the alarm has counted `k` rounds before round `k`. -/
theorem Undisturbed.active (hquiet : Undisturbed s v) (h : Refines s a) (hsane : a.Sane)
    (hactive : a.active = some 0) (hlit : a.lit = true) (hk : k < 30) :
    (states Spec.step a v k).active = some ⟨k, hk⟩ := by
  have hcounts := Spec.lit_of_quiet (n := k) (fun k => (h.along hsane v k).2) hactive hlit
    (hquiet.dismisses h hsane) hk
  exact hcounts.1

/-- The LEDs go dark in the round that counts to 30, which is round 29. -/
theorem Undisturbed.leds_zero_mem_iff (hquiet : Undisturbed s v) (h : Refines s a)
    (hsane : a.Sane) (hactive : a.active = some 0) (hlit : a.lit = true) (hk : k < 30) :
    .leds 0 ∈ (states step s v (k + 1)).trace ↔ k = 29 := by
  rw [h.along_trace hsane, Spec.leds_zero_mem_trace, hquiet.dismisses h hsane, Spec.timesOut,
    hquiet.active h hsane hactive hlit hk, beq_iff_eq, Option.some.injEq, Fin.ext_iff]
  change false = true ∨ k = 29 ↔ k = 29
  simp

/-- The seconds counted up to the round that turns the LEDs off are those of its 29
predecessors that found the switch on. -/
theorem Undisturbed.litTicks_eq (hquiet : Undisturbed s v) (h : Refines s a) (hsane : a.Sane)
    (hactive : a.active = some 0) (hlit : a.lit = true) (hlast : after (.leds 0x3FF) s.trace = []) :
    litTicks s v 29 = ((Finset.range 29).filter fun k => (v k).switchOn = true).card := by
  have hrounds : ∀ k ∈ Finset.range 29,
      ticks (states step s v (k + 1)).trace = if (v k).switchOn = true then 1 else 0 := by
    intro k _
    rw [h.along_trace hsane, Spec.ticks_trace]
  have hout : (states Spec.step a v 29).timesOut = true := by
    rw [Spec.timesOut, hquiet.active h hsane hactive hlit (by decide : 29 < 30)]
    rfl
  have hbefore : ticks (before (.leds 0) (states step s v (29 + 1)).trace) = 0 := by
    rw [h.along_trace hsane]
    exact Spec.before_trace (hquiet.dismisses h hsane 29) hout
  calc
    litTicks s v 29 = ∑ k ∈ Finset.range 29, ticks (states step s v (k + 1)).trace := by
        rw [litTicks, hlast, hbefore, ticks_nil, Nat.zero_add, Nat.add_zero]
    _ = ∑ k ∈ Finset.range 29, if (v k).switchOn = true then 1 else 0 :=
        Finset.sum_congr rfl hrounds
    _ = _ := (Finset.card_filter _ _).symm

theorem not_litThirtySeconds (hdark : DarkAt s v 29) (hticks : litTicks s v 29 < 30) :
    ¬ LitThirtySeconds s v := by
  rintro ⟨m, hm, hthirty⟩
  obtain rfl := hm.unique hdark
  omega

/-- The window that a round opens by lighting the LEDs. -/
theorem Undisturbed.window {i : Sample} (hquiet : Undisturbed (step i s) v) (h : Refines s a)
    (hsane : a.Sane) (hlit : .leds 0x3FF ∈ (step i s).trace) :
    DarkAt (step i s) v 29 ∧
      litTicks (step i s) v 29 =
        ((Finset.range 29).filter fun k => (v k).switchOn = true).card := by
  have htrace := step_trace i h hsane
  have hfires : a.Fires i := by
    rw [htrace] at hlit
    exact (Spec.leds_mem_trace i a).mp hlit
  obtain ⟨hactive, hlamp⟩ := Spec.step_of_fires hfires
  have hnext := step_refines i h hsane
  have hsane' := Spec.step_sane i hsane
  have hlast : after (.leds 0x3FF) (step i s).trace = [] := by
    rw [htrace]
    exact Spec.after_trace hfires
  refine ⟨⟨?_, ?_⟩, hquiet.litTicks_eq hnext hsane' hactive hlamp hlast⟩
  · exact (hquiet.leds_zero_mem_iff hnext hsane' hactive hlamp (by decide)).mpr rfl
  · intro k hk hmem
    have hdark := (hquiet.leds_zero_mem_iff hnext hsane' hactive hlamp (by omega)).mp hmem
    omega

end Window

/-- An alarm nobody dismisses turns the LEDs off in the 30th round after the one
that lit them, whose count comes before its wait. So the clock never counts 30
seconds in between: it counts one for each of the 29 rounds before that found
the switch on. -/
theorem lit_window {s : State} {i : Sample} {v : Nat → Sample} (hs : Reachable s)
    (hlit : .leds 0x3FF ∈ (step i s).trace) (hquiet : Undisturbed (step i s) v) :
    DarkAt (step i s) v 29 ∧
      litTicks (step i s) v 29 = ((Finset.range 29).filter fun k => (v k).switchOn = true).card ∧
      ¬ LitThirtySeconds (step i s) v := by
  obtain ⟨a, h, hsane⟩ := hs.refines
  obtain ⟨hdark, hticks⟩ := hquiet.window h hsane hlit
  have hle : litTicks (step i s) v 29 ≤ 29 := by
    rw [hticks]
    exact (Finset.card_filter_le _ _).trans_eq (Finset.card_range 29)
  exact ⟨hdark, hticks, not_litThirtySeconds hdark (Nat.lt_succ_of_le hle)⟩

theorem armed_lights : .leds 0x3FF ∈ (step ⟨3, 1⟩ armed).trace := by
  rw [step_trace _ armed_refines armed_sane, Spec.leds_mem_trace]
  decide

theorem armed_undisturbed : Undisturbed (step ⟨3, 1⟩ armed) fun _ => ⟨3, 1⟩ :=
  (step_refines ⟨3, 1⟩ armed_refines armed_sane).undisturbed (Spec.step_sane _ armed_sane)
    (by decide)

/-- The window that opens at midnight, with the clock running and nobody at the buttons. -/
theorem lit_window_midnight :
    DarkAt (step ⟨3, 1⟩ armed) (fun _ => ⟨3, 1⟩) 29 ∧
      litTicks (step ⟨3, 1⟩ armed) (fun _ => ⟨3, 1⟩) 29 =
        ((Finset.range 29).filter fun _ => Sample.switchOn ⟨3, 1⟩ = true).card ∧
      ¬ LitThirtySeconds (step ⟨3, 1⟩ armed) fun _ => ⟨3, 1⟩ :=
  lit_window armed_reachable armed_lights armed_undisturbed

/-- The LEDs lit at midnight go off after 29 seconds, not after 30. -/
theorem midnight_lit_29 :
    Reachable armed ∧ .leds 0x3FF ∈ (step ⟨3, 1⟩ armed).trace ∧
      Undisturbed (step ⟨3, 1⟩ armed) (fun _ => ⟨3, 1⟩) ∧
      DarkAt (step ⟨3, 1⟩ armed) (fun _ => ⟨3, 1⟩) 29 ∧
      litTicks (step ⟨3, 1⟩ armed) (fun _ => ⟨3, 1⟩) 29 = 29 ∧
      ¬ LitThirtySeconds (step ⟨3, 1⟩ armed) fun _ => ⟨3, 1⟩ := by
  obtain ⟨hdark, hcount⟩ :=
    armed_undisturbed.window armed_refines armed_sane armed_lights
  have hticks : litTicks (step ⟨3, 1⟩ armed) (fun _ => ⟨3, 1⟩) 29 = 29 := by
    rw [hcount]
    decide
  refine ⟨armed_reachable, armed_lights, armed_undisturbed, hdark, hticks, ?_⟩
  exact not_litThirtySeconds hdark (by omega)

end RelojDespertador.TimerWithClock

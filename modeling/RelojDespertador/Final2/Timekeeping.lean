import RelojDespertador.Final2.Clock
import RelojDespertador.Final2.Handler

/-!
# Clock ticks and timer cycles in the Final2 firmware

A wait consumes one expiry of the period that is programmed: 50000001 cycles
in `main`, 7184 in the handler. The displayed second is therefore one cycle too
long in `main` and 1602672 cycles too long in the handler, and half periods of
a dismissed alarm are time that no tick accounts for. The error is below a
second exactly as long as these add up to less than one.
-/

namespace RelojDespertador.Final2

open InputMachine Panel

/-- After `n` rounds from `s` the ticks of the clock are less than a second away
from the timer cycles consumed. -/
def KeepsTime (s : State) (w : Nat → Sample) (n : Nat) : Prop :=
  |(countRounds cycles s w n : Int) - clockFrequency.toNat * countRounds ticks s w n| <
    clockFrequency.toNat

/-- The cycles that no tick accounts for after `main` rounds of `main` and
`handler` rounds of the handler, whose sub-second counter started at
`counter`: one for each second of `main`, 1602672 for each second of the
handler, and 7184 for each half period that has not made a second yet. -/
def overrun (counter main handler : Nat) : Nat :=
  main + 1602672 * ((counter + handler) / 7183) + 7184 * ((counter + handler) % 7183)

section Counts

variable {s : State} {a : Spec} {w : Nat → Sample} {n : Nat}

/-- The cycles consumed by the waits of the two loops. -/
theorem Spec.sum_cycles
    (h : ∀ k < n, (states step a w k).sounding = false → (w k).switchOn = true) :
    ∑ k ∈ Finset.range n, cycles ((states step a w k).trace (w k)) =
      50000001 * quietRounds a w n + 7184 * soundingRounds a w n := by
  induction n with
  | zero => rfl
  | succ n ih =>
      rw [Finset.sum_range_succ, ih fun k hk => h k (Nat.lt_succ_of_lt hk), quietRounds_succ,
        soundingRounds_succ, cycles_trace]
      cases hs : (states step a w n).sounding with
      | false =>
          rw [h n (Nat.lt_succ_self n) hs]
          simp only [Bool.false_eq_true, if_false, if_true]
          omega
      | true =>
          simp only [if_true]
          omega

theorem Refines.countRounds_cycles (h : Refines s a) (hmode : RunMode s w n) :
    countRounds cycles s w n = 50000001 * mainRounds s w n + 7184 * handlerRounds s w n := by
  rw [h.countRounds_eq, Spec.sum_cycles (h.runMode_iff.mp hmode), h.mainRounds_eq,
    h.handlerRounds_eq]

/-- The ticks of the two loops. -/
theorem Refines.countRounds_ticks_runMode (h : Refines s a) (hmode : RunMode s w n) :
    countRounds ticks s w n =
      mainRounds s w n + (s.buzzerPwmCounter.toNat + handlerRounds s w n) / 7183 := by
  rw [h.countRounds_eq, Spec.sum_ticks (h.runMode_iff.mp hmode), h.mainRounds_eq,
    h.handlerRounds_eq, h.counter]

/-- A handler that ends in round `j` has had `j + 1` rounds, and `main` goes on. -/
theorem Refines.rounds_of_handlerEnds {j : Nat} (h : Refines s a) (hend : HandlerEnds s w j) :
    mainRounds s w (j + 2) = 1 ∧ handlerRounds s w (j + 2) = j + 1 := by
  obtain ⟨hstay, hover⟩ := h.handlerEnds_iff.mp hend
  have hbefore : ∀ n ≤ j + 1, Spec.quietRounds a w n = 0 ∧ Spec.soundingRounds a w n = n := by
    intro n hn
    induction n with
    | zero => exact ⟨rfl, rfl⟩
    | succ n ih =>
        obtain ⟨hquiet, hsounding⟩ := ih (Nat.le_of_succ_le hn)
        have hs := hstay n (Nat.le_of_succ_le_succ hn)
        rw [Spec.quietRounds_succ, Spec.soundingRounds_succ, hquiet, hsounding, hs]
        exact ⟨rfl, rfl⟩
  obtain ⟨hquiet, hsounding⟩ := hbefore (j + 1) le_rfl
  rw [h.mainRounds_eq, h.handlerRounds_eq, Spec.quietRounds_succ, Spec.soundingRounds_succ, hquiet,
    hsounding, hover]
  exact ⟨rfl, rfl⟩

end Counts

/-- In run mode the clock keeps time exactly while the cycles that no tick
accounts for stay below a second, beyond those the counter started with. The
start `s` may be the head after any tick. -/
theorem keepsTime_iff {s : State} (hs : Reachable s) (w : Nat → Sample) (n : Nat)
    (hmode : RunMode s w n) :
    KeepsTime s w n ↔
      overrun s.buzzerPwmCounter.toNat (mainRounds s w n) (handlerRounds s w n) <
        50000000 + 7184 * s.buzzerPwmCounter.toNat := by
  obtain ⟨a, h, -⟩ := hs.refines
  have hfreq : clockFrequency.toNat = 50000000 := by decide
  have hcounter : s.buzzerPwmCounter.toNat < 7183 := by
    rw [h.counter]
    exact Nat.mod_lt _ (by decide)
  rw [KeepsTime, h.countRounds_cycles hmode, h.countRounds_ticks_runMode hmode, hfreq, abs_lt,
    overrun]
  push_cast
  omega

/-- Ten thousand rounds after the tick that fires the alarm. -/
theorem keepsTime_armed :
    KeepsTime (step ⟨1, 1⟩ armed) (fun _ => ⟨1, 1⟩) 10000 ↔
      overrun (step ⟨1, 1⟩ armed).buzzerPwmCounter.toNat
          (mainRounds (step ⟨1, 1⟩ armed) (fun _ => ⟨1, 1⟩) 10000)
          (handlerRounds (step ⟨1, 1⟩ armed) (fun _ => ⟨1, 1⟩) 10000) <
        50000000 + 7184 * (step ⟨1, 1⟩ armed).buzzerPwmCounter.toNat :=
  keepsTime_iff (armed_reachable.next ⟨1, 1⟩) (fun _ => ⟨1, 1⟩) 10000 fun _ _ _ => switchOn_one 1

/-- Nobody touches the buttons for 7181 rounds of the handler; then button 0 is
released for good. -/
def releaseLate (k : Nat) : Sample := if k < 7181 then ⟨1, 1⟩ else ⟨0, 1⟩

theorem releaseLate_switchOn (k : Nat) : (releaseLate k).switchOn = true := by
  simp only [releaseLate]
  split_ifs
  · exact switchOn_one 1
  · exact switchOn_one 0

theorem releaseLate_ends : HandlerEnds (step ⟨1, 1⟩ armed) releaseLate 7181 := by
  obtain ⟨hsound, helapsed, hbuttons⟩ := armed_refines.enter (armed_enters 1)
  have hstay : ∀ k ≤ 7181,
      (states Spec.step (Spec.step ⟨1, 1⟩ (Spec.beforeAlarm 0 false)) releaseLate k).sounding =
        true := by
    apply (Spec.sounding_through_iff hsound).mpr
    rw [helapsed]
    refine ⟨by decide, fun k hk => ?_⟩
    rw [Spec.dismisses, hbuttons, releaseLate, if_pos hk]
    decide
  apply (step_refines ⟨1, 1⟩ armed_refines).handlerEnds_iff.mpr
  refine ⟨hstay, (Spec.sounding_ends_iff hstay).mpr (Or.inr ?_)⟩
  rw [Spec.dismisses, hbuttons]
  decide

theorem releaseLate_rounds : mainRounds (step ⟨1, 1⟩ armed) releaseLate 7183 = 1 ∧
    handlerRounds (step ⟨1, 1⟩ armed) releaseLate 7183 = 7182 :=
  (step_refines ⟨1, 1⟩ armed_refines).rounds_of_handlerEnds releaseLate_ends

/-- The alarm is dismissed one half period before its first second is over. At
the next tick of `main` the clock has missed more than a second. -/
theorem armed_loses_second :
    Reachable (step ⟨1, 1⟩ armed) ∧ .tick ∈ (step ⟨1, 1⟩ armed).trace ∧
      RunMode (step ⟨1, 1⟩ armed) releaseLate 7183 ∧
      countRounds ticks (step ⟨1, 1⟩ armed) releaseLate 7183 = 1 ∧
      countRounds cycles (step ⟨1, 1⟩ armed) releaseLate 7183 = 101595489 ∧
      ¬ KeepsTime (step ⟨1, 1⟩ armed) releaseLate 7183 := by
  obtain ⟨hsound, helapsed, -⟩ := armed_refines.enter (armed_enters 1)
  obtain ⟨hmain, hhandler⟩ := releaseLate_rounds
  have h := step_refines ⟨1, 1⟩ armed_refines
  have hmode : RunMode (step ⟨1, 1⟩ armed) releaseLate 7183 := fun k _ _ => releaseLate_switchOn k
  have hticks : countRounds ticks (step ⟨1, 1⟩ armed) releaseLate 7183 = 1 := by
    rw [h.countRounds_ticks_runMode hmode, hmain, hhandler, h.counter, helapsed]
    rfl
  have hcycles : countRounds cycles (step ⟨1, 1⟩ armed) releaseLate 7183 = 101595489 := by
    rw [h.countRounds_cycles hmode, hmain, hhandler]
  refine ⟨armed_reachable.next ⟨1, 1⟩, ?_, hmode, hticks, hcycles, ?_⟩
  · rw [step_trace _ armed_refines, Spec.tick_mem_trace]
    exact switchOn_one 1
  · rw [KeepsTime, hticks, hcycles]
    decide

end RelojDespertador.Final2

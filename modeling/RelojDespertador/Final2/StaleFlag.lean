import RelojDespertador.Final2.Polling
import RelojDespertador.Hardware.Schedule

/-!
# The first second after an alarm in the Final2 firmware

The timer goes on counting half periods of the buzzer between the handler's last
STATUS write and the new period that `init_timer` writes, and none of the
writes in between clears the flag. If such a half period expires there, the
next wait of `main` returns at once.
-/

namespace RelojDespertador.Final2

open Panel

/-- An interleaving watched from `y` on, over all samples. -/
abbrev Runs (y : TimerSystem State) : Tally → TimerSystem State → Prop :=
  TimerSystem.Run step (fun s => timerAccesses s.trace) (fun s => ticks s.trace) (fun _ => True) y

/-- The handler has returned, and the last write of `init_timer` is still to be made. -/
structure Returned (y : TimerSystem State) : Prop where
  interleaving : Interleaving y
  left : ∃ exit, .leaveBuzzer exit ∈ y.software.trace
  pending : y.pending = [.write .control 7]

/-- The edge that takes the last write of `init_timer`. -/
def initDone (y : TimerSystem State) : TimerSystem State :=
  { y with pending := [], timer := y.timer.cycle (some (.control, 7)) }

/-- From `y` on, the first wait does not return before the timer has counted down
`CLOCK_FREQUENCY`. -/
def WaitsFullPeriod (y : TimerSystem State) : Prop :=
  ∀ c z, Runs y c z → 0 < c.polls → clockFrequency.toNat < c.edges

namespace Spec

variable {a : Spec} {i : Sample}

/-- The accesses of a round that leaves the handler. -/
theorem accesses_of_leave {exit : BuzzerExit} (h : .leaveBuzzer exit ∈ a.trace i) :
    (a.step i).sounding = false ∧
      timerAccesses (a.trace i) = [.poll, .write .status 1, .write .control 0, .write .control 0,
        .write .periodl 61568, .write .periodh 762, .write .control 7] := by
  obtain ⟨hs, hleave⟩ := (leaveBuzzer_mem_trace i a exit).mp h
  have hdone (e : BuzzerExit) : timerAccesses (leaveTrace e) = [.write .control 0,
      .write .control 0, .write .periodl 61568, .write .periodh 762, .write .control 7] := rfl
  have htick : timerAccesses (if a.secondDone then .tick :: timeTrace a.clock.time.tick else []) =
      [] := by
    split_ifs
    · simp [Event.timerAccess]
    · rfl
  have hwait : timerAccesses (waitTrace 7184 ++ [.buzzer (if a.level then 0 else 1)]) =
      [.poll, .write .status 1] := rfl
  have hend : (a.step i).sounding = false ∧ ∃ e, (if a.elapsed.val + 1 = 215490 then
      leaveTrace .timeout else if a.dismisses i then leaveTrace .button else []) = leaveTrace e := by
    rw [← Bool.not_eq_true, step_sounding, if_pos hs]
    split_ifs at hleave ⊢ with hlast hdismiss
    · exact ⟨fun hmore => hmore.1 hlast, .timeout, rfl⟩
    · exact ⟨fun hmore => by simp [hdismiss] at hmore, .button, rfl⟩
    · exact absurd hleave.1 hdismiss
  obtain ⟨hsilent, e, he⟩ := hend
  refine ⟨hsilent, ?_⟩
  rw [trace, if_pos hs, he, timerAccesses_append, timerAccesses_append, hwait, htick, hdone]
  rfl

/-- A run-mode round of `main` begins with a wait. -/
theorem accesses_on (hs : a.sounding = false) (hi : i.switchOn = true) :
    ∃ rest, timerAccesses (a.trace i) = .poll :: rest := by
  have hwait : timerAccesses (waitTrace 50000001) = [.poll, .write .status 1] := rfl
  rw [trace, hs, if_neg Bool.false_ne_true, if_pos hi, timerAccesses_append,
    timerAccesses_append, hwait]
  exact ⟨_, rfl⟩

/-- A round of `main` begins with a wait, or it makes no access to the timer. -/
theorem accesses_main (hs : a.sounding = false) :
    (timerAccesses (a.trace i) = [] ∧ (a.step i).sounding = false) ∨
      ∃ rest, timerAccesses (a.trace i) = .poll :: rest := by
  cases hi : i.switchOn with
  | false =>
      refine Or.inl ⟨?_, ?_⟩
      · simp [trace, hs, hi]
      · simp [step, hs, hi]
  | true => exact Or.inr (accesses_on hs hi)

end Spec

/-- No alarm sounds. -/
def Silent (s : State) : Prop := ∃ a, Refines s a ∧ a.sounding = false

section Returned

variable {y : TimerSystem State}

/-- When the handler has returned, no alarm sounds. -/
theorem Returned.software (h : Returned y) :
    Silent y.software ∧
      timerAccesses y.software.trace = [.poll, .write .status 1, .write .control 0,
        .write .control 0, .write .periodl 61568, .write .periodh 762, .write .control 7] := by
  obtain ⟨exit, hleft⟩ := h.left
  have hs := h.interleaving.software
  generalize y.software = s at hs hleft
  cases hs with
  | init hstart =>
      obtain ⟨b, rfl⟩ := hstart
      rw [start_trace] at hleft
      simp only [programTrace, List.cons_append, List.nil_append, List.mem_cons, reduceCtorEq,
        false_or] at hleft
      exact absurd hleft (not_mem_timeTrace rfl)
  | @next s i hs =>
      obtain ⟨a, hrefines, -⟩ := Reachable.refines hs
      rw [step_trace i hrefines] at hleft ⊢
      obtain ⟨hsilent, haccesses⟩ := Spec.accesses_of_leave hleft
      exact ⟨⟨a.step i, step_refines i hrefines, hsilent⟩, haccesses⟩

/-- The last write of `init_timer` starts the countdown of `CLOCK_FREQUENCY`. -/
theorem Returned.counting (h : Returned y) :
    (initDone y).timer.Counting clockFrequency.toNat := by
  obtain ⟨done, hdone, hsetup⟩ := h.interleaving.setup
  rw [h.software.2, h.pending] at hdone
  have hbefore : done = [.poll, .write .status 1, .write .control 0, .write .control 0,
      .write .periodl 61568, .write .periodh 762] := by
    simpa using (congrArg List.dropLast hdone).symm
  rw [hbefore] at hsetup
  have hstart : (7 : BitVec 16).getLsbD 2 = true := by decide
  exact Setup.Holds.start hsetup hstart

theorem silent_round (i : Sample) (s : State) (hs : Silent s) :
    (timerAccesses (step i s).trace = [] ∧ Silent (step i s)) ∨
      ∃ rest, timerAccesses (step i s).trace = .poll :: rest := by
  obtain ⟨a, hrefines, hsilent⟩ := hs
  rw [step_trace i hrefines]
  rcases Spec.accesses_main hsilent with ⟨hnone, hnext⟩ | hpolls
  · exact Or.inl ⟨hnone, a.step i, step_refines i hrefines, hnext⟩
  · exact Or.inr hpolls

/-- With a stale flag the wait of the next round returns at once. -/
theorem Returned.returns_at_once (h : Returned y)
    (hflag : (initDone y).timer.timeoutOccurred = true) : ¬ WaitsFullPeriod (initDone y) := by
  intro hfull
  obtain ⟨⟨a, hrefines, hs⟩, -⟩ := h.software
  obtain ⟨rest, hpending⟩ : ∃ rest,
      timerAccesses (step ⟨0, 1⟩ y.software).trace = .poll :: rest := by
    rw [step_trace ⟨0, 1⟩ hrefines]
    exact a.accesses_on hs (switchOn_one 0)
  have hstart : Runs (initDone y) Tally.zero (initDone y) := .refl
  have hround := hstart.round ⟨0, 1⟩ trivial rfl
  have hlate : clockFrequency.toNat < 1 :=
    hfull _ _ (hround.expire hpending hflag) Nat.one_pos
  exact absurd hlate (by decide)

end Returned

/-- After an alarm the first wait of `main` takes the full second in every
interleaving exactly when the flag is clear as `init_timer` completes. -/
theorem waitsFullPeriod_iff {y : TimerSystem State} (h : Returned y) :
    WaitsFullPeriod (initDone y) ↔ (initDone y).timer.timeoutOccurred = false := by
  constructor
  · intro hfull
    by_contra hflag
    exact h.returns_at_once (Bool.eq_true_of_not_eq_false hflag) hfull
  · intro hclear c z hrun hpoll
    exact Nat.lt_of_succ_lt
      (hrun.first_poll (y := initDone y) silent_round h.software.1 rfl h.counting hclear hpoll)

/-! ## An alarm dismissed at once -/

theorem Interleaving.next {y : TimerSystem State} (h : Interleaving y) (hp : y.pending = [])
    (i : Sample) :
    Interleaving ⟨step i y.software, timerAccesses (step i y.software).trace, y.timer⟩ :=
  TimerSystem.Reachable.round i h hp

/-- The first loop head, with all accesses made promptly. -/
def boot : TimerSystem State :=
  ⟨start 0, [], (timerAccesses (start 0).trace).foldl TimerSystem.serve Timer.reset⟩

/-- The alarm has just begun to sound. -/
def ringing : TimerSystem State :=
  (setAlarm ++ [⟨1, 1⟩] : List Sample).foldl
    (TimerSystem.promptRound step fun s => timerAccesses s.trace) boot

/-- Button 0 is released, which ends the handler after one half period. Before the
handler stops the timer, another half period expires. -/
def released (y : TimerSystem State) : TimerSystem State where
  software := step ⟨0, 1⟩ y.software
  pending := [.write .control 7]
  timer :=
    let t := [TimerAccess.poll, .write .status 1].foldl TimerSystem.serve y.timer
    [TimerAccess.write .control 0, .write .control 0, .write .periodl 61568,
      .write .periodh 762].foldl TimerSystem.serve (t.idle t.untilFlag)

theorem boot_interleaving : Interleaving boot ∧ Phase.armed.Holds boot.timer := by
  have hstart : Interleaving ⟨start 0, timerAccesses (start 0).trace, Timer.reset⟩ :=
    TimerSystem.Reachable.start ⟨0, rfl⟩
  exact hstart.serve (p := .any) (List.append_nil _).symm trivial (program_start 0)

theorem ringing_interleaving :
    Interleaving ringing ∧ ringing.pending = [] ∧ Phase.armed.Holds ringing.timer ∧
      ringing.software = step ⟨1, 1⟩ armed := by
  obtain ⟨hboot, harmed⟩ := boot_interleaving
  have hprompt : Interleaving ringing ∧ ringing.pending = [] ∧ Phase.armed.Holds ringing.timer ∧
      ringing.software = InputMachine.feed step (start 0) (setAlarm ++ [⟨1, 1⟩]) :=
    hboot.prompt program_round rfl harmed _
  rw [InputMachine.feed_append, InputMachine.feed_cons, InputMachine.feed_nil] at hprompt
  exact hprompt

/-- The accesses of the round that leaves the handler. -/
theorem released_accesses {s : State} (hs : s = step ⟨1, 1⟩ armed) :
    .leaveBuzzer .button ∈ (step ⟨0, 1⟩ s).trace ∧
      timerAccesses (step ⟨0, 1⟩ s).trace = [.poll, .write .status 1] ++ [.write .control 0,
        .write .control 0, .write .periodl 61568, .write .periodh 762, .write .control 7] := by
  have hleave : .leaveBuzzer .button ∈
      (Spec.step ⟨1, 1⟩ (Spec.beforeAlarm 0 false)).trace ⟨0, 1⟩ := by
    decide
  rw [hs, step_trace ⟨0, 1⟩ (step_refines ⟨1, 1⟩ armed_refines)]
  exact ⟨hleave, (Spec.accesses_of_leave hleave).2⟩

theorem released_stale {y : TimerSystem State} (h : Interleaving y) (hp : y.pending = [])
    (harmed : Phase.armed.Holds y.timer) (hs : y.software = step ⟨1, 1⟩ armed) :
    Returned (released y) ∧ (initDone (released y)).timer.timeoutOccurred = true := by
  obtain ⟨hleave, haccesses⟩ := released_accesses hs
  -- the wait of the handler, the stray half period, the writes up to the last
  have hround := h.next hp ⟨0, 1⟩
  rw [haccesses] at hround
  obtain ⟨hwait, hready⟩ := hround.serve rfl harmed rfl
  obtain ⟨hreleased, -⟩ := (hwait.idle _).serve (m := [.write .control 7])
    (l := [.write .control 0, .write .control 0, .write .periodl 61568, .write .periodh 762])
    rfl (hready.idle _) rfl
  refine ⟨⟨hreleased, ⟨.button, hleave⟩, rfl⟩, ?_⟩
  apply Timer.flag_write (by decide)
  exact TimerSystem.flag_serve (by simp) hready.flag

theorem ringing_released :
    Returned (released ringing) ∧
      (initDone (released ringing)).timer.timeoutOccurred = true := by
  obtain ⟨hring, hpending, harmed, hsoftware⟩ := ringing_interleaving
  exact released_stale hring hpending harmed hsoftware

theorem waitsFullPeriod_ringing :
    WaitsFullPeriod (initDone (released ringing)) ↔
      (initDone (released ringing)).timer.timeoutOccurred = false :=
  waitsFullPeriod_iff ringing_released.1

/-- The stray half period counts as the first second after the alarm. -/
theorem ringing_not_waitsFullPeriod :
    Returned (released ringing) ∧
      (initDone (released ringing)).timer.timeoutOccurred = true ∧
      ¬ WaitsFullPeriod (initDone (released ringing)) := by
  obtain ⟨hreturned, hflag⟩ := ringing_released
  exact ⟨hreturned, hflag, hreturned.returns_at_once hflag⟩

end RelojDespertador.Final2

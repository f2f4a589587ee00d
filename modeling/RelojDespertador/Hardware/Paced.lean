import RelojDespertador.Hardware.Schedule

/-!
# Rounds that wait for the timer and count a second

Software whose rounds each end one poll loop, clear the flag and count a second.
Every poll loop needs the flag, and only an expiry sets it, so the seconds are
paid for by expiries. The one that may not be is the first, when the flag has
been set before.
-/

namespace RelojDespertador.TimerSystem

variable {I S : Type*} {step : I → S → S} {accesses : S → List TimerAccess} {seconds : S → Nat}
  {P : I → Prop} {y z : TimerSystem S} {c : Tally}

section Paced

variable {v : BitVec 16} {Q : S → Prop}

/-- How far the last round has got with polling the flag and clearing it. -/
inductive Stage (v : BitVec 16) (c : Tally) (z : TimerSystem S) : Prop
  | head (hp : z.pending = []) (hticks : c.ticks = c.polls)
  | waiting (hp : z.pending = [.poll, .write .status v]) (hticks : c.ticks = c.polls + 1)
  | clearing (hp : z.pending = [.write .status v]) (hticks : c.ticks = c.polls)

/-- The poll loops that will end without another expiry: one if the flag is set
and has not ended a poll loop yet. -/
def owed (v : BitVec 16) (z : TimerSystem S) : Nat :=
  if z.pending = [.write .status v] then 0 else z.timer.timeoutOccurred.toNat

/-- Every poll loop that has ended or could end now has had its expiry. -/
def Paid (v : BitVec 16) (c : Tally) (z : TimerSystem S) : Prop := c.polls + owed v z ≤ c.expiries

theorem owed_le_one (v : BitVec 16) (z : TimerSystem S) : owed v z ≤ 1 := by
  simp only [owed]
  split_ifs
  · exact Nat.zero_le 1
  · exact Bool.toNat_le z.timer.timeoutOccurred

theorem owed_of_clearing (hp : z.pending = [.write .status v]) : owed v z = 0 := if_pos hp

theorem owed_cycle_le (v : BitVec 16) (z : TimerSystem S) :
    owed v { z with timer := z.timer.cycle none } ≤ z.timer.timeoutEvent.toNat + owed v z := by
  simp only [owed, Timer.cycle_none_timeoutOccurred]
  split_ifs
  · exact Nat.zero_le _
  · cases z.timer.timeoutEvent <;> cases z.timer.timeoutOccurred <;> decide

theorem owed_of_flag {rest : List TimerAccess} (hp : z.pending = .poll :: rest)
    (hflag : z.timer.timeoutOccurred = true) : owed v z = 1 := by
  rw [owed, hp, if_neg (by simp), hflag]
  rfl

/-- Clearing the flag leaves no poll loop that could end at once. -/
theorem owed_clear (s : S) (t : Timer) (l : List TimerAccess) :
    owed v ⟨s, l, t.cycle (some (.status, v))⟩ = 0 := by
  have hclear : (t.cycle (some (.status, v))).timeoutOccurred = false := rfl
  simp only [owed, hclear]
  split_ifs <;> rfl

theorem Stage.of_poll {rest : List TimerAccess} (h : Stage v c z)
    (hp : z.pending = .poll :: rest) :
    rest = [.write .status v] ∧ c.ticks = c.polls + 1 := by
  cases h with
  | waiting hw hticks => exact ⟨(List.cons.inj (hp.symm.trans hw)).2, hticks⟩
  | head hw => cases hp.symm.trans hw
  | clearing hw => cases hp.symm.trans hw

theorem Stage.of_write {register : TimerRegister} {value : BitVec 16} {rest : List TimerAccess}
    (h : Stage v c z) (hp : z.pending = .write register value :: rest) :
    register = .status ∧ value = v ∧ rest = [] ∧ c.ticks = c.polls := by
  cases h with
  | clearing hw hticks =>
      obtain ⟨hwrite, hrest⟩ := List.cons.inj (hp.symm.trans hw)
      cases hwrite
      exact ⟨rfl, rfl, hrest, hticks⟩
  | head hw => cases hp.symm.trans hw
  | waiting hw => cases hp.symm.trans hw

theorem Stage.of_nil (h : Stage v c z) (hp : z.pending = []) : c.ticks = c.polls := by
  cases h with
  | head _ hticks => exact hticks
  | waiting hw => cases hp.symm.trans hw
  | clearing hw => cases hp.symm.trans hw

theorem Stage.cycle (h : Stage v c z) :
    Stage v (c.edge z.timer) { z with timer := z.timer.cycle none } := by
  cases h with
  | head hp hticks => exact .head hp hticks
  | waiting hp hticks => exact .waiting hp hticks
  | clearing hp hticks => exact .clearing hp hticks

theorem Paid.cycle (h : Paid v c z) :
    Paid v (c.edge z.timer) { z with timer := z.timer.cycle none } := by
  have howed := owed_cycle_le v z
  change c.polls + owed v _ ≤ c.expiries + z.timer.timeoutEvent.toNat
  change c.polls + owed v z ≤ c.expiries at h
  omega

/-- A poll loop that ends uses up the expiry that set the flag. -/
theorem Paid.expire {t : Timer} {rest : List TimerAccess} (h : Paid v c z)
    (hp : z.pending = .poll :: rest) (hflag : z.timer.timeoutOccurred = true)
    (hrest : rest = [.write .status v]) :
    Paid v (c.edge z.timer).poll ⟨z.software, rest, t⟩ := by
  have howed : owed v z = 1 := owed_of_flag hp hflag
  have hnone : owed v (⟨z.software, rest, t⟩ : TimerSystem S) = 0 := owed_of_clearing hrest
  change c.polls + 1 + owed v _ ≤ c.expiries + z.timer.timeoutEvent.toNat
  change c.polls + owed v z ≤ c.expiries at h
  omega

theorem Paid.clear {rest : List TimerAccess} (h : Paid v c z) :
    Paid v (c.edge z.timer) ⟨z.software, rest, z.timer.cycle (some (.status, v))⟩ := by
  have hnone := owed_clear (v := v) z.software z.timer rest
  change c.polls + owed v _ ≤ c.expiries + z.timer.timeoutEvent.toNat
  change c.polls + owed v z ≤ c.expiries at h
  omega

/-- An observation that began at `y` with an expiry due on one of the next two edges. -/
inductive Early (v : BitVec 16) (y : TimerSystem S) (c : Tally) (z : TimerSystem S) : Prop
  | start (htimer : z.timer = y.timer) (hpolls : c.polls = 0)
      (hexpiries : c.expiries = 0) (hp : z.pending ≠ [.write .status v])
  | edge (htimer : z.timer = y.timer.cycle none) (hexpiries : c.expiries = y.timer.timeoutEvent.toNat)
      (hpolls : c.polls = 0 ∨ c.polls = 1 ∧ z.pending = [.write .status v])

theorem due_le_edge (hdue : y.timer.timeoutEvent = true ∨ (y.timer.cycle none).timeoutEvent = true)
    (htimer : z.timer = y.timer.cycle none) (hexpiries : c.expiries = y.timer.timeoutEvent.toNat) :
    1 ≤ (c.edge z.timer).expiries := by
  change 1 ≤ c.expiries + z.timer.timeoutEvent.toNat
  rw [hexpiries, htimer]
  rcases hdue with h | h <;> simp [h]

theorem Early.cycle (h : Early v y c z)
    (hdue : y.timer.timeoutEvent = true ∨ (y.timer.cycle none).timeoutEvent = true) :
    Early v y (c.edge z.timer) { z with timer := z.timer.cycle none } ∨
      Paid v (c.edge z.timer) { z with timer := z.timer.cycle none } := by
  cases h with
  | start htimer hpolls hexpiries hp =>
      refine Or.inl (.edge (by rw [htimer]) ?_ (Or.inl hpolls))
      change c.expiries + z.timer.timeoutEvent.toNat = _
      rw [hexpiries, htimer, Nat.zero_add]
  | edge htimer hexpiries hpolls =>
      refine Or.inr (le_trans ?_ (due_le_edge hdue htimer hexpiries))
      change c.polls + owed v { z with timer := z.timer.cycle none } ≤ 1
      rcases hpolls with hnone | ⟨honce, hp⟩
      · rw [hnone, Nat.zero_add]
        exact owed_le_one v _
      · have howed : owed v { z with timer := z.timer.cycle none } = 0 := owed_of_clearing hp
        rw [honce, howed]

theorem Early.expire {rest : List TimerAccess} (h : Early v y c z)
    (hdue : y.timer.timeoutEvent = true ∨ (y.timer.cycle none).timeoutEvent = true)
    (hp : z.pending = .poll :: rest) (hrest : rest = [.write .status v]) :
    Early v y (c.edge z.timer).poll { z with pending := rest, timer := z.timer.cycle none } ∨
      Paid v (c.edge z.timer).poll { z with pending := rest, timer := z.timer.cycle none } := by
  cases h with
  | start htimer hpolls hexpiries _ =>
      refine Or.inl (.edge (by rw [htimer]) ?_ (Or.inr ⟨congrArg (· + 1) hpolls, hrest⟩))
      change c.expiries + z.timer.timeoutEvent.toNat = _
      rw [hexpiries, htimer, Nat.zero_add]
  | edge htimer hexpiries hpolls =>
      refine Or.inr (le_trans ?_ (due_le_edge hdue htimer hexpiries))
      have howed : owed v { z with pending := rest, timer := z.timer.cycle none } = 0 :=
        owed_of_clearing hrest
      change c.polls + 1 + owed v { z with pending := rest, timer := z.timer.cycle none } ≤ 1
      rcases hpolls with hnone | ⟨-, hclearing⟩
      · rw [hnone, howed]
      · cases hp.symm.trans hclearing

theorem Early.clear {rest : List TimerAccess} (h : Early v y c z)
    (hdue : y.timer.timeoutEvent = true ∨ (y.timer.cycle none).timeoutEvent = true)
    (hp : z.pending = [.write .status v]) :
    Paid v (c.edge z.timer) ⟨z.software, rest, z.timer.cycle (some (.status, v))⟩ := by
  cases h with
  | start _ _ _ hne => exact absurd hp hne
  | edge htimer hexpiries hpolls =>
      refine le_trans ?_ (due_le_edge hdue htimer hexpiries)
      change c.polls + owed v _ ≤ 1
      rw [owed_clear]
      rcases hpolls with hnone | ⟨honce, -⟩
      · rw [hnone]
        exact Nat.zero_le 1
      · rw [honce]

variable (hround : ∀ i s, P i → Q s → Q (step i s) ∧
  accesses (step i s) = [.poll, .write .status v] ∧ seconds (step i s) = 1)

include hround

/-- Rounds poll once, clear the flag once, and count one second. -/
theorem Run.stage (hq : Q y.software) (hp : y.pending = [])
    (h : Run step accesses seconds P y c z) : Q z.software ∧ Stage v c z := by
  induction h with
  | refl => exact ⟨hq, .head hp rfl⟩
  | cycle _ ih => exact ⟨ih.1, ih.2.cycle⟩
  | write _ hwrite ih =>
      obtain ⟨-, -, hrest, hticks⟩ := ih.2.of_write hwrite
      exact ⟨ih.1, .head hrest hticks⟩
  | expire _ hpoll _ ih =>
      obtain ⟨hrest, hticks⟩ := ih.2.of_poll hpoll
      exact ⟨ih.1, .clearing hrest hticks⟩
  | @round c z i hi _ hnil ih =>
      obtain ⟨hq', haccesses, hseconds⟩ := hround i _ hi ih.1
      refine ⟨hq', .waiting haccesses ?_⟩
      change c.ticks + seconds (step i z.software) = c.polls + 1
      rw [hseconds, ih.2.of_nil hnil]

/-- Either an expiry has yet to come that was due at the start, or all is paid for. -/
theorem Run.early_or_paid (hq : Q y.software) (hp : y.pending = [])
    (hdue : y.timer.timeoutOccurred = false ∨ y.timer.timeoutEvent = true ∨
      (y.timer.cycle none).timeoutEvent = true)
    (h : Run step accesses seconds P y c z) :
    ((y.timer.timeoutEvent = true ∨ (y.timer.cycle none).timeoutEvent = true) ∧ Early v y c z) ∨
      Paid v c z := by
  induction h with
  | refl =>
      rcases hdue with hclear | hdue
      · refine Or.inr ?_
        change 0 + owed v y ≤ 0
        simp [owed, hp, hclear]
      · exact Or.inl ⟨hdue, .start rfl rfl rfl (by simp [hp])⟩
  | cycle _ ih =>
      rcases ih with ⟨hdue, hearly⟩ | hpaid
      · exact (hearly.cycle hdue).imp_left fun h => ⟨hdue, h⟩
      · exact Or.inr hpaid.cycle
  | write h hwrite ih =>
      obtain ⟨rfl, rfl, rfl, -⟩ := (h.stage hround hq hp).2.of_write hwrite
      rcases ih with ⟨hdue, hearly⟩ | hpaid
      · exact Or.inr (hearly.clear hdue hwrite)
      · exact Or.inr hpaid.clear
  | expire h hpoll hflag ih =>
      obtain ⟨hrest, -⟩ := (h.stage hround hq hp).2.of_poll hpoll
      rcases ih with ⟨hdue, hearly⟩ | hpaid
      · exact (hearly.expire hdue hpoll hrest).imp_left fun h => ⟨hdue, h⟩
      · exact Or.inr (hpaid.expire hpoll hflag hrest)
  | @round c z i hi h hnil ih =>
      obtain ⟨-, haccesses, -⟩ := hround i _ hi (h.stage hround hq hp).1
      rcases ih with ⟨hdue, hearly⟩ | hpaid
      · refine Or.inl ⟨hdue, ?_⟩
        cases hearly with
        | start htimer hpolls hexpiries _ =>
            exact .start htimer hpolls hexpiries (by simp [haccesses])
        | edge htimer hexpiries hpolls =>
            refine .edge htimer hexpiries (hpolls.imp_right fun hclearing => ?_)
            cases hnil.symm.trans hclearing.2
      · refine Or.inr ?_
        change c.polls + owed v z ≤ c.expiries at hpaid
        change c.polls + owed v _ ≤ c.expiries
        simpa only [owed, haccesses, hnil, reduceCtorEq, if_false, List.cons.injEq, false_and]
          using hpaid

/-- A second is counted only after its expiry, if the flag is clear when the rounds
begin, or is about to be set again by an expiry that falls on one of the next two
edges, before the first round can have polled the flag and cleared it. -/
theorem Run.ticks_le_expiries (hq : Q y.software) (hp : y.pending = [])
    (hdue : y.timer.timeoutOccurred = false ∨ y.timer.timeoutEvent = true ∨
      (y.timer.cycle none).timeoutEvent = true)
    (h : Run step accesses seconds P y c z) (hnil : z.pending = []) : c.ticks ≤ c.expiries := by
  have hstage := (h.stage hround hq hp).2
  have hinv := h.early_or_paid hround hq hp hdue
  have hticks := hstage.of_nil hnil
  rcases hinv with ⟨-, hearly⟩ | hpaid
  · cases hearly with
    | start _ hpolls hexpiries _ => omega
    | edge _ _ hpolls =>
        rcases hpolls with hnone | ⟨-, hclearing⟩
        · omega
        · cases hnil.symm.trans hclearing
  · have hle : c.polls + owed v z ≤ c.expiries := hpaid
    omega

end Paced

end RelojDespertador.TimerSystem

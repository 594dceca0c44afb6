import FlyingSquirrel.Proof.Pause

/-!
# The notice of a refused pause

A flagged fix in Suspicious whose pause is refused should be heard of: once in each streak of
flagged fixes for the cap on the streak, once in each episode for the budget. The machine keeps
a flag for the budget, `pause_budget_warned`, and it is exactly that. For the streak it has no
flag: **the counter is compared with the one value after the cap**, and the counter runs in
Normal too. A streak that passes the value there has nothing left to notice when the episode
opens.

`Heard` is what an observer would keep instead.
-/

set_option autoImplicit false

namespace FlyingSquirrel

open Lib

/-- Which refusals there have been already. -/
structure Heard where
  /-- For the streak cap, in the present streak of flagged fixes. -/
  streak : Bool
  /-- For the budget, in the present episode. -/
  budget : Bool
deriving DecidableEq, Repr

namespace StateMachine

variable {α : Type} [Zero α] [One α] [Neg α] [Add α] [Sub α] [Mul α] [Div α] [NatCast α]
  [OfScientific α] [LT α] [LE α] [DecidableLT α] [DecidableLE α] [BEq α] [Max α]
  [FiniteTest α]

/-- The next fix's pause is refused for the streak: flagged, in Suspicious, past the cap. -/
def RefusedByStreak (m : StateMachine α) : Prop :=
  m.state = .suspicious ∧ m.dropoutRecovery = true ∧
    maxConsecutiveDropout < succU8 m.consecutiveDropout

def RefusedByBudget (m : StateMachine α) : Prop :=
  m.state = .suspicious ∧ m.dropoutRecovery = true ∧ ¬ m.pausedCumulativeS < m.cfg.maxDwellPauseS

instance (m : StateMachine α) : Decidable m.RefusedByStreak :=
  inferInstanceAs (Decidable (_ ∧ _ ∧ _))

instance (m : StateMachine α) : Decidable m.RefusedByBudget :=
  inferInstanceAs (Decidable (_ ∧ _ ∧ ¬ _))

/-- An unflagged fix ends a streak. Opening an episode and committing a clear renew the budget,
    and a reset ends both. -/
def trackRefusals (g : Heard) (m : StateMachine α) (op : Op α) (m' : StateMachine α) : Heard :=
  match op with
  | .evaluate _ _ _ _ =>
    { streak := m.dropoutRecovery && (g.streak || decide m.RefusedByStreak)
      budget :=
        if m.state = .normal ∧ m'.state = .suspicious then false
        else g.budget || decide m.RefusedByBudget }
  | .manualResetToNormal => ⟨false, false⟩
  | .commitSuspToNormal => { g with budget := false }
  | _ => g

def heardStep : StateMachine α × Heard → Op α → (StateMachine α × Heard) × List Event :=
  ghost opStep trackRefusals

/-- The fix itself sets the notice, whether or not an earlier one is still waiting. -/
def setsNotice (m : StateMachine α) (r : Residual α) (t : α) (hdop : Option α)
    (sats : Option Nat) : Bool :=
  ({ m with dwellPauseExceededPending := false }.evaluate r t hdop sats).1.dwellPauseExceededPending

/-- The first refusal of a streak for its cap and the first of an episode for the budget set the
    notice, and no fix in Normal does. -/
def ReportsRefusals (x : StateMachine α × Heard) : Op α → Prop
  | .evaluate r t hdop sats =>
    (x.1.RefusedByStreak → x.2.streak = false → x.1.setsNotice r t hdop sats = true) ∧
    (x.1.RefusedByBudget → x.2.budget = false → x.1.setsNotice r t hdop sats = true) ∧
    (x.1.state = .normal → x.1.setsNotice r t hdop sats = false)
  | _ => True

/-- The first refusal of a streak for its cap finds the counter right at the cap, or is the first
    for the budget as well. -/
def AtTheCap (x : StateMachine α × Heard) : Op α → Prop
  | .evaluate _ _ _ _ =>
    x.1.RefusedByStreak → x.2.streak = false →
      succU8 x.1.consecutiveDropout = maxConsecutiveDropout + 1 ∨
        x.1.RefusedByBudget ∧ x.2.budget = false
  | _ => True

instance (x : StateMachine α × Heard) (op : Op α) : Decidable (ReportsRefusals x op) :=
  match op with
  | .evaluate _ _ _ _ => inferInstanceAs (Decidable ((_ → _ → _) ∧ (_ → _ → _) ∧ (_ → _)))
  | .setPosDetectorsEnabled _ | .noteDropoutRecovery | .noteExternalAnomaly | .takeDwellNotice
  | .manualResetToNormal | .forceBackToSuspicious _ _ | .commitSuspToNormal | .onCleanAnchor =>
    .isTrue trivial

/-! ## When a fix sets the notice -/

variable {m : StateMachine α}

theorem refusePause_pending {α : Type} (m : StateMachine α) (budgetOk : Bool) :
    (m.refusePause budgetOk).dwellPauseExceededPending = true ↔
      m.dwellPauseExceededPending = true ∨
        m.state = .suspicious ∧ (m.consecutiveDropout = maxConsecutiveDropout + 1 ∨
          budgetOk = false ∧ m.pauseBudgetWarned = false) := by
  unfold refusePause
  split
  · rename_i h
    exact iff_of_true rfl (.inr h)
  · rename_i h
    exact ⟨.inl, fun h' => h'.resolve_right h⟩

theorem refusePause_warned {α : Type} (m : StateMachine α) (budgetOk : Bool) :
    (m.refusePause budgetOk).pauseBudgetWarned = true ↔
      m.pauseBudgetWarned = true ∨ m.state = .suspicious ∧ budgetOk = false := by
  unfold refusePause
  cases budgetOk with
  | true => split <;> simp
  | false =>
    by_cases hs : m.state = .suspicious
    · split
      · simp [hs]
      · rename_i hr
        have hw : m.pauseBudgetWarned = true := by
          by_contra hw
          exact hr ⟨hs, .inr ⟨rfl, by simpa using hw⟩⟩
        simp [hs, hw]
    · rw [if_neg fun h => hs h.1]
      simp [hs]

theorem grantPause_notice {α : Type} [Zero α] [Add α] [Sub α] [Max α] (m : StateMachine α) (t : α) :
    (m.grantPause t).dwellPauseExceededPending = m.dwellPauseExceededPending ∧
      (m.grantPause t).pauseBudgetWarned = m.pauseBudgetWarned := by
  unfold grantPause
  split <;> exact ⟨rfl, rfl⟩

/-- The notice of a flagged fix: in Suspicious, at the one value, or for the budget unwarned. -/
theorem accountDropout_pending {α : Type} [Zero α] [Add α] [Sub α] [LT α] [DecidableLT α] [Max α]
    (m : StateMachine α) (flagged : Bool) (t : α)
    (hp : m.dwellPauseExceededPending = false) :
    (m.accountDropout flagged t).dwellPauseExceededPending = true ↔
      m.state = .suspicious ∧ flagged = true ∧
        (succU8 m.consecutiveDropout = maxConsecutiveDropout + 1 ∨
          ¬ m.pausedCumulativeS < m.cfg.maxDwellPauseS ∧ m.pauseBudgetWarned = false) := by
  unfold accountDropout
  cases flagged with
  | false => simp [hp]
  | true =>
    rw [if_pos rfl]
    dsimp only
    split
    · -- under both caps
      rename_i hcaps
      rw [(grantPause_notice _ t).1]
      refine iff_of_false (by simp [hp]) ?_
      rintro ⟨-, -, hat | ⟨hover, -⟩⟩
      · have hle := hcaps.1
        rw [hat] at hle
        exact absurd hle (Nat.not_succ_le_self _)
      · exact hover (of_decide_eq_true hcaps.2)
    · rw [refusePause_pending]
      simp [hp]

theorem accountDropout_warned {α : Type} [Zero α] [Add α] [Sub α] [LT α] [DecidableLT α] [Max α]
    (m : StateMachine α) (flagged : Bool) (t : α) :
    (m.accountDropout flagged t).pauseBudgetWarned = true ↔
      m.pauseBudgetWarned = true ∨ m.state = .suspicious ∧ flagged = true ∧
        ¬ m.pausedCumulativeS < m.cfg.maxDwellPauseS := by
  unfold accountDropout
  cases flagged with
  | false => simp
  | true =>
    rw [if_pos rfl]
    dsimp only
    split
    · rename_i hcaps
      rw [(grantPause_notice _ t).2]
      simp [of_decide_eq_true hcaps.2]
    · rw [refusePause_warned]
      simp

variable (r : Residual α) (t : α) (hdop : Option α) (sats : Option Nat)

theorem assess_notice (m : StateMachine α) :
    (m.assess r t hdop sats).1.dwellPauseExceededPending =
        (m.drainFlags.accountDropout m.dropoutRecovery t).dwellPauseExceededPending ∧
      (m.assess r t hdop sats).1.pauseBudgetWarned =
        (m.drainFlags.accountDropout m.dropoutRecovery t).pauseBudgetWarned := by
  obtain ⟨jump, drift, hd⟩ :=
    runDetectors_eq (m.drainFlags.accountDropout m.dropoutRecovery t) r hdop sats
  unfold assess
  rw [hd]
  exact ⟨rfl, rfl⟩

theorem Arm.notice {α : Type} [Zero α] [Sub α] [LE α]
    {m m' : StateMachine α} {t : α} {clean firing : Bool} {out : List Event}
    (h : Arm m t clean firing m' out) :
    m'.dwellPauseExceededPending = m.dwellPauseExceededPending ∧
      m'.pauseBudgetWarned =
        if m.state = .normal ∧ m'.state = .suspicious then false else m.pauseBudgetWarned := by
  cases h with
  | enter hs => simp [hs]
  | idle hs => simp [hs]
  | clear hs _ => simp
  | cleaning hs _ => simp [hs]
  | escalate hs _ => simp
  | dwelling hs _ => simp [hs]
  | stagnate hs => simp [hs]

theorem setsNotice_iff (m : StateMachine α) :
    m.setsNotice r t hdop sats = true ↔
      m.state = .suspicious ∧ m.dropoutRecovery = true ∧
        (succU8 m.consecutiveDropout = maxConsecutiveDropout + 1 ∨
          ¬ m.pausedCumulativeS < m.cfg.maxDwellPauseS ∧ m.pauseBudgetWarned = false) := by
  unfold setsNotice
  by_cases hs : m.state = .spoofed
  · rw [evaluate_spoofed (m := { m with dwellPauseExceededPending := false }) r t hdop sats hs]
    simp [drainFlags, hs]
  · obtain ⟨m', out, he, ha⟩ :=
      evaluate_arm (m := { m with dwellPauseExceededPending := false }) r t hdop sats hs
    rw [he, ha.notice.1, (assess_notice r t hdop sats _).1]
    exact accountDropout_pending _ _ _ rfl

/-! ## What is remembered of the refusals -/

/-- The machine's flag for the budget is what there is to remember. -/
def WarnedHeard (x : StateMachine α × Heard) : Prop := x.1.pauseBudgetWarned = x.2.budget

theorem WarnedHeard.evaluate {m : StateMachine α} {g : Heard} (h : WarnedHeard (m, g)) :
    WarnedHeard (heardStep (m, g) (.evaluate r t hdop sats)).1 := by
  change m.pauseBudgetWarned = g.budget at h
  show (m.evaluate r t hdop sats).1.pauseBudgetWarned =
    if m.state = .normal ∧ (m.evaluate r t hdop sats).1.state = .suspicious then false
    else g.budget || decide m.RefusedByBudget
  by_cases hs : m.state = .spoofed
  · rw [evaluate_spoofed _ _ _ _ hs]
    simp [hs, h, drainFlags, RefusedByBudget]
  · obtain ⟨m', out, he, ha⟩ := evaluate_arm r t hdop sats hs
    rw [he, ha.notice.2, (assess_keeps m r t hdop sats).1]
    refine if_congr Iff.rfl rfl ?_
    rw [(assess_notice r t hdop sats m).2, Bool.eq_iff_iff, accountDropout_warned,
      Bool.or_eq_true, decide_eq_true_eq, ← h]
    exact Iff.rfl

theorem WarnedHeard.next {x : StateMachine α × Heard} (h : WarnedHeard x) (op : Op α) :
    WarnedHeard (heardStep x op).1 := by
  obtain ⟨m, g⟩ := x
  cases op with
  | evaluate r t hdop sats => exact WarnedHeard.evaluate r t hdop sats h
  | setPosDetectorsEnabled on =>
    exact (setPosDetectorsEnabled_same m on).pauseBudgetWarned.trans h
  | onCleanAnchor => exact (onCleanAnchor_same m).pauseBudgetWarned.trans h
  | forceBackToSuspicious t since =>
    show WarnedHeard (m.forceBackToSuspicious t since, g)
    unfold forceBackToSuspicious
    split <;> exact h
  | manualResetToNormal => exact rfl
  | commitSuspToNormal => exact rfl
  | noteDropoutRecovery => exact h
  | noteExternalAnomaly => exact h
  | takeDwellNotice => exact h

theorem WarnedHeard.reportsRefusals_iff {x : StateMachine α × Heard} (h : WarnedHeard x)
    (op : Op α) : ReportsRefusals x op ↔ AtTheCap x op := by
  obtain ⟨m, g⟩ := x
  change m.pauseBudgetWarned = g.budget at h
  cases op with
  | evaluate r t hdop sats =>
    show ((_ → _ → _) ∧ (_ → _ → _) ∧ (_ → _)) ↔ (_ → _ → _)
    dsimp only
    have hbudget : m.RefusedByBudget → g.budget = false → m.setsNotice r t hdop sats = true := by
      rintro ⟨hs, hd, hover⟩ hfirst
      exact (setsNotice_iff r t hdop sats m).mpr ⟨hs, hd, .inr ⟨hover, h.trans hfirst⟩⟩
    have hnormal : m.state = .normal → m.setsNotice r t hdop sats = false := by
      intro hn
      rw [← Bool.not_eq_true, setsNotice_iff, hn]
      simp
    rw [and_iff_left ⟨hbudget, hnormal⟩]
    refine forall_congr' fun hr => forall_congr' fun _ => ?_
    rw [setsNotice_iff, and_iff_right hr.1, and_iff_right hr.2.1, h]
    refine or_congr Iff.rfl (and_congr_left fun _ => ?_)
    exact ⟨fun hover => ⟨hr.1, hr.2.1, hover⟩, fun hb => hb.2.2⟩
  | _ => exact Iff.rfl

/-- **When a refused pause is always reported.** In every run, the first refusal of each streak
    for the cap and the first of each episode for the budget set the notice, and no fix in
    Normal does, if and only if each streak that is refused for the cap is refused first right
    at the cap, or where the budget is refused first. -/
theorem reports_refusals_iff (cfg : DetectConfig α) (ops : List (Op α)) :
    Along heardStep ReportsRefusals (.new cfg, ⟨false, false⟩) ops ↔
      Along heardStep AtTheCap (.new cfg, ⟨false, false⟩) ops :=
  along_congr_of_invariant (fun _ op hx => hx.next op) (fun _ op hx => hx.reportsRefusals_iff op)
    (show WarnedHeard (StateMachine.new cfg, (⟨false, false⟩ : Heard)) from rfl)

/-! ## A streak that begins in Normal -/

/-- A flagged fix. -/
def flagged (r : Residual ℚ) (t : ℚ) : List (Op ℚ) :=
  [.noteDropoutRecovery, .evaluate r t none none]

/-- Six flagged fixes in Normal, and two that fire. -/
def streakFromNormal : List (Op ℚ) :=
  [3, 6, 9, 12, 15, 18].flatMap (flagged atRest) ++ flagged farOff 21 ++ flagged farOff 24

/-- The last fix is refused, by the cap alone, and sets no notice. -/
theorem refusal_unreported :
    (run opStep (.new .default) streakFromNormal).state = .suspicious ∧
      (run opStep (.new .default) streakFromNormal).suspiciousSince = some 21 ∧
      (run opStep (.new .default) streakFromNormal).dwellPauseExceededPending = false ∧
      ¬ Along heardStep ReportsRefusals (.new .default, ⟨false, false⟩) streakFromNormal := by
  decide +kernel

end StateMachine

end FlyingSquirrel

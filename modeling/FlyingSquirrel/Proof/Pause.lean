import FlyingSquirrel.Detect.Drive
import FlyingSquirrel.Proof.ClearDwell

/-!
# What a dropout pause absorbs

A granted pause pushes the dwell clock, and charges the episode's budget, by the time since a
reference. The reference is the fix before **if that one was flagged too**, and the clock itself
if not; so after an unflagged fix the pause reaches back over dwell that was served, and
`absorbs_gap_iff` says that this is the only way for it to absorb more than the gap.

Both caps are looked at before the pause and neither looks at how long it is, so the last pause
granted in an episode may take the charge past the budget (`within_budget_iff`).

Runs are over `Op`: any calls of the machine's interface, in any order.
-/

set_option autoImplicit false

namespace FlyingSquirrel

open Lib

/-- The time of the fix an operation evaluates. -/
def Op.fixTime {α : Type} : Op α → Option α
  | .evaluate _ t _ _ => some t
  | _ => none

namespace StateMachine

section Model

variable {α : Type} [Zero α] [One α] [Neg α] [Add α] [Sub α] [Mul α] [Div α] [NatCast α]
  [OfScientific α] [LT α] [LE α] [DecidableLT α] [DecidableLE α] [BEq α] [Max α]
  [FiniteTest α]

/-- The next fix is granted a pause: it is flagged, in Suspicious, and under both caps. -/
def GrantsPause (m : StateMachine α) : Prop :=
  m.state = .suspicious ∧ m.dropoutRecovery = true ∧ m.pauseAllowed

/-- `suspicious_since` as the transition of a fix reads it. -/
def dwellClock (m : StateMachine α) (r : Residual α) (t : α) (hdop : Option α)
    (sats : Option Nat) : Option α :=
  (m.assess r t hdop sats).1.suspiciousSince

def trackFixTime (last : Option α) (_ : StateMachine α) (op : Op α) (_ : StateMachine α) :
    Option α :=
  op.fixTime.or last

/-- The machine with the time of the last fix it evaluated. -/
def timedStep : StateMachine α × Option α → Op α → (StateMachine α × Option α) × List Event :=
  ghost opStep trackFixTime

/-- Fix times do not decrease. -/
def InOrder (x : StateMachine α × Option α) (op : Op α) : Prop :=
  ∀ last ∈ x.2, ∀ t ∈ op.fixTime, last ≤ t

/-- A granted pause pushes the dwell clock by the time since the fix before, and any other fix
    leaves it alone; the clock is then what the fix was judged by, while the episode lasts. -/
def AbsorbsGap (x : StateMachine α × Option α) : Op α → Prop
  | .evaluate r t hdop sats =>
    (x.1.GrantsPause → ∃ since ∈ x.1.suspiciousSince, ∃ last ∈ x.2,
      x.1.dwellClock r t hdop sats = some (since + (t - last))) ∧
    (¬ x.1.GrantsPause → x.1.dwellClock r t hdop sats = x.1.suspiciousSince) ∧
    (x.1.state = .suspicious → (x.1.evaluate r t hdop sats).1.state = .suspicious →
      (x.1.evaluate r t hdop sats).1.suspiciousSince = x.1.dwellClock r t hdop sats)
  | _ => True

/-- A granted pause has nothing but the gap to reach back over: the fix before was flagged too,
    or no dwell has been served since the clock's time, or no time has passed at all. -/
def NothingServed (x : StateMachine α × Option α) : Op α → Prop
  | .evaluate _ t _ _ => x.1.GrantsPause → ∃ since ∈ x.1.suspiciousSince, ∃ last ∈ x.2,
      x.1.lastDropoutT.isSome = true ∨ since = last ∨ t = last ∧ last ≤ since
  | _ => True

/-- A granted pause fits what is left of the budget. -/
def FitsBudget (m : StateMachine α) : Op α → Prop
  | .evaluate _ t _ _ =>
    m.GrantsPause → m.pausedCumulativeS + m.pauseLength t ≤ m.cfg.maxDwellPauseS
  | _ => True

instance (m : StateMachine α) : Decidable m.GrantsPause := inferInstanceAs (Decidable (_ ∧ _ ∧ _))

instance (x : StateMachine α × Option α) (op : Op α) : Decidable (InOrder x op) :=
  inferInstanceAs (Decidable (∀ last ∈ x.2, ∀ t ∈ op.fixTime, _))

instance [DecidableEq α] (x : StateMachine α × Option α) (op : Op α) :
    Decidable (AbsorbsGap x op) :=
  match op with
  | .evaluate _ _ _ _ => inferInstanceAs (Decidable ((_ → _) ∧ (_ → _) ∧ (_ → _ → _)))
  | .setPosDetectorsEnabled _ | .noteDropoutRecovery | .noteExternalAnomaly | .takeDwellNotice
  | .manualResetToNormal | .forceBackToSuspicious _ _ | .commitSuspToNormal | .onCleanAnchor =>
    .isTrue trivial

instance [DecidableEq α] (x : StateMachine α × Option α) (op : Op α) :
    Decidable (NothingServed x op) :=
  match op with
  | .evaluate _ _ _ _ => inferInstanceAs (Decidable (_ → _))
  | .setPosDetectorsEnabled _ | .noteDropoutRecovery | .noteExternalAnomaly | .takeDwellNotice
  | .manualResetToNormal | .forceBackToSuspicious _ _ | .commitSuspToNormal | .onCleanAnchor =>
    .isTrue trivial

/-! ## What an assessment does to the clock and the charge -/

variable {m : StateMachine α} (r : Residual α) (t : α) (hdop : Option α) (sats : Option Nat)

theorem assess_granted {since : α} (h : m.GrantsPause) (hc : m.suspiciousSince = some since) :
    m.dwellClock r t hdop sats = some (since + max (t - m.lastDropoutT.getD since) 0) ∧
      (m.assess r t hdop sats).1.pausedCumulativeS = m.pausedCumulativeS + m.pauseLength t := by
  obtain ⟨hs, hd, hcaps⟩ := h
  obtain ⟨hsince, -, hpaused⟩ := assess_clock m r t hdop sats
  unfold dwellClock pauseLength
  rw [hsince, hpaused, hd, hs, hc]
  unfold accountDropout
  rw [if_pos rfl]
  dsimp only
  rw [if_pos ⟨hcaps.1, decide_eq_true hcaps.2⟩]
  have hs' : m.drainFlags.state = .suspicious := hs
  have hc' : m.drainFlags.suspiciousSince = some since := hc
  simp only [grantPause, hs', hc']
  exact ⟨rfl, rfl⟩

theorem assess_ungranted (h : ¬ m.GrantsPause) :
    m.dwellClock r t hdop sats = m.suspiciousSince ∧
      (m.assess r t hdop sats).1.pausedCumulativeS = m.pausedCumulativeS := by
  obtain ⟨hsince, -, hpaused⟩ := assess_clock m r t hdop sats
  unfold dwellClock
  rw [hsince, hpaused]
  unfold accountDropout
  cases hd : m.dropoutRecovery with
  | false => exact ⟨rfl, rfl⟩
  | true =>
    rw [if_pos rfl]
    dsimp only
    split
    · rename_i hcaps
      have hs : m.state ≠ .suspicious := fun hs =>
        h ⟨hs, hd, hcaps.1, of_decide_eq_true hcaps.2⟩
      unfold grantPause
      split
      · rename_i hsusp _
        exact absurd hsusp hs
      · exact ⟨rfl, rfl⟩
    · obtain ⟨w, p, hrefuse⟩ := refusePause_eq _ _
      rw [hrefuse]
      exact ⟨rfl, rfl⟩

theorem evaluate_cfg (m : StateMachine α) : (m.evaluate r t hdop sats).1.cfg = m.cfg := by
  by_cases hs : m.state = .spoofed
  · rw [evaluate_spoofed _ _ _ _ hs]
    rfl
  · obtain ⟨m', out, he, ha⟩ := evaluate_arm r t hdop sats hs
    rw [he]
    exact ha.keeps.1.trans (assess_keeps m r t hdop sats).2.1

/-- While the episode lasts a fix leaves the clock it was judged by; it opens one at itself. -/
theorem evaluate_since (h : (m.evaluate r t hdop sats).1.state = .suspicious) :
    (m.state = .suspicious ∧
      (m.evaluate r t hdop sats).1.suspiciousSince = m.dwellClock r t hdop sats) ∨
    (m.state = .normal ∧ (m.evaluate r t hdop sats).1.suspiciousSince = some t) := by
  have hstate := (assess_keeps m r t hdop sats).1
  by_cases hs : m.state = .spoofed
  · rw [evaluate_spoofed _ _ _ _ hs] at h
    exact absurd (hs.symm.trans h) (by simp)
  · obtain ⟨m', out, he, ha⟩ := evaluate_arm r t hdop sats hs
    rw [he] at h ⊢
    rcases ha.clock h with ⟨hm, hc, -⟩ | ⟨hm, hc, -⟩
    · exact .inl ⟨hstate.symm.trans hm, hc⟩
    · exact .inr ⟨hstate.symm.trans hm, hc⟩

/-- Opening an episode renews the budget, and no other arm touches the charge. -/
theorem evaluate_charge (m : StateMachine α) :
    (m.evaluate r t hdop sats).1.pausedCumulativeS =
        (m.assess r t hdop sats).1.pausedCumulativeS ∨
      m.state = .normal ∧ (m.evaluate r t hdop sats).1.pausedCumulativeS = 0 := by
  by_cases hs : m.state = .spoofed
  · rw [evaluate_spoofed _ _ _ _ hs]
    refine .inl ?_
    rw [(assess_ungranted r t hdop sats fun h => absurd (h.1.symm.trans hs) (by simp)).2]
    rfl
  · obtain ⟨m', out, he, ha⟩ := evaluate_arm r t hdop sats hs
    have hstate := (assess_keeps m r t hdop sats).1
    rw [he]
    generalize m.firing r t hdop sats = fire at ha
    generalize (m.assess r t hdop sats).1.sampleClean r fire = clean at ha
    cases ha with
    | enter hn => exact .inr ⟨hstate.symm.trans hn, rfl⟩
    | idle _ => exact .inl rfl
    | clear _ _ => exact .inl rfl
    | cleaning _ _ => exact .inl rfl
    | escalate _ _ => exact .inl rfl
    | dwelling _ _ => exact .inl rfl
    | stagnate _ => exact .inl rfl

/-! ## An open episode has a clock -/

def Clocked (m : StateMachine α) : Prop :=
  m.state = .suspicious → m.suspiciousSince.isSome = true

theorem dwellClock_isSome (h : m.suspiciousSince.isSome = true) :
    (m.dwellClock r t hdop sats).isSome = true := by
  obtain ⟨since, hc⟩ := Option.isSome_iff_exists.mp h
  by_cases hg : m.GrantsPause
  · rw [(assess_granted r t hdop sats hg hc).1]
    rfl
  · rw [(assess_ungranted r t hdop sats hg).1]
    exact h

theorem Clocked.of_same {α : Type} {m : StateMachine α}
    {m' : StateMachine α} (h : m.Clocked) (hsame : SameEpisode m m') :
    m'.Clocked := by
  unfold Clocked
  rw [hsame.state, hsame.suspiciousSince]
  exact h

theorem Clocked.next (h : m.Clocked) (op : Op α) : (m.opStep op).1.Clocked := by
  cases op with
  | evaluate r t hdop sats =>
    intro hs
    show (m.evaluate r t hdop sats).1.suspiciousSince.isSome = true
    rcases evaluate_since r t hdop sats hs with ⟨hm, hc⟩ | ⟨-, hc⟩
    · rw [hc]
      exact dwellClock_isSome r t hdop sats (h hm)
    · rw [hc]
      rfl
  | setPosDetectorsEnabled on => exact h.of_same (setPosDetectorsEnabled_same m on)
  | onCleanAnchor => exact h.of_same (onCleanAnchor_same m)
  | manualResetToNormal => exact fun hs => absurd hs (by simp [opStep, manualResetToNormal])
  | forceBackToSuspicious t since =>
    show (m.forceBackToSuspicious t since).Clocked
    unfold forceBackToSuspicious
    split
    · exact h
    · intro _
      cases since <;> rfl
  | noteDropoutRecovery => exact h
  | noteExternalAnomaly => exact h
  | takeDwellNotice => exact h
  | commitSuspToNormal => exact h

theorem opStep_cfg (m : StateMachine α) (op : Op α) : (m.opStep op).1.cfg = m.cfg := by
  cases op with
  | evaluate r t hdop sats => exact evaluate_cfg r t hdop sats m
  | setPosDetectorsEnabled on => exact (setPosDetectorsEnabled_same m on).cfg
  | onCleanAnchor => exact (onCleanAnchor_same m).cfg
  | forceBackToSuspicious t since =>
    show (m.forceBackToSuspicious t since).cfg = m.cfg
    unfold forceBackToSuspicious
    split <;> rfl
  | _ => rfl

/-! ## The budget -/

/-- No more than the budget has been charged. -/
def WithinBudget (m : StateMachine α) : Prop := m.pausedCumulativeS ≤ m.cfg.maxDwellPauseS

instance (m : StateMachine α) : Decidable m.WithinBudget := inferInstanceAs (Decidable (_ ≤ _))

theorem WithinBudget.of_same {α : Type} [LE α] {m : StateMachine α}
    {m' : StateMachine α} (h : m.WithinBudget)
    (hsame : SameEpisode m m') : m'.WithinBudget := by
  unfold WithinBudget
  rw [hsame.pausedCumulativeS, hsame.cfg]
  exact h

theorem withinBudget_evaluate (hzero : 0 ≤ m.cfg.maxDwellPauseS) (hclock : m.Clocked)
    (h : m.WithinBudget) :
    (m.evaluate r t hdop sats).1.WithinBudget ↔ m.FitsBudget (.evaluate r t hdop sats) := by
  unfold WithinBudget FitsBudget
  rw [evaluate_cfg]
  rcases evaluate_charge r t hdop sats m with hp | ⟨hn, hp⟩
  · rw [hp]
    by_cases hg : m.GrantsPause
    · obtain ⟨since, hc⟩ := Option.isSome_iff_exists.mp (hclock hg.1)
      rw [(assess_granted r t hdop sats hg hc).2]
      exact ⟨fun hle _ => hle, fun hle => hle hg⟩
    · rw [(assess_ungranted r t hdop sats hg).2]
      exact iff_of_true h fun hg' => absurd hg' hg
  · rw [hp]
    exact iff_of_true hzero fun hg => absurd (hn.symm.trans hg.1) (by simp)

theorem withinBudget_next (hzero : 0 ≤ m.cfg.maxDwellPauseS) (hclock : m.Clocked)
    (h : m.WithinBudget) (op : Op α) : (m.opStep op).1.WithinBudget ↔ m.FitsBudget op := by
  cases op with
  | evaluate r t hdop sats => exact withinBudget_evaluate r t hdop sats hzero hclock h
  | setPosDetectorsEnabled on =>
    exact iff_of_true (h.of_same (setPosDetectorsEnabled_same m on)) trivial
  | onCleanAnchor => exact iff_of_true (h.of_same (onCleanAnchor_same m)) trivial
  | forceBackToSuspicious t since =>
    refine iff_of_true ?_ trivial
    show (m.forceBackToSuspicious t since).WithinBudget
    unfold forceBackToSuspicious
    split <;> exact h
  | manualResetToNormal => exact iff_of_true hzero trivial
  | commitSuspToNormal => exact iff_of_true hzero trivial
  | noteDropoutRecovery => exact iff_of_true h trivial
  | noteExternalAnomaly => exact iff_of_true h trivial
  | takeDwellNotice => exact iff_of_true h trivial

/-- **When the budget is a hard cap.** Under any sequence of calls and any fix times, the charge
    stays within the budget in every state reached if and only if the budget is not negative and
    every pause granted fits what is left of it. -/
theorem within_budget_iff (cfg : DetectConfig α) (ops : List (Op α)) :
    (∀ pre post, ops = pre ++ post → (run opStep (.new cfg) pre).WithinBudget) ↔
      0 ≤ cfg.maxDwellPauseS ∧ Along opStep FitsBudget (.new cfg) ops := by
  have hreached (hzero : 0 ≤ cfg.maxDwellPauseS) :
      (∀ pre post, ops = pre ++ post → (run opStep (StateMachine.new cfg) pre).WithinBudget) ↔
        Along opStep FitsBudget (StateMachine.new cfg) ops :=
    reached_iff_along_all (I := WithinBudget) (J := fun m => m.cfg = cfg ∧ m.Clocked)
      (fun m op hj => ⟨(opStep_cfg m op).trans hj.1, hj.2.next op⟩)
      (fun m op hj h => withinBudget_next (by rw [hj.1]; exact hzero) hj.2 h op)
      ⟨rfl, fun hs => absurd hs (by simp [new])⟩ hzero
  constructor
  · intro h
    have hzero : 0 ≤ cfg.maxDwellPauseS := h [] ops rfl
    exact ⟨hzero, (hreached hzero).mp h⟩
  · rintro ⟨hzero, h⟩
    exact (hreached hzero).mpr h

end Model

/-- An episode that opens at 0 s, and one dropout of 25 s. -/
def longDropout : List (Op ℚ) :=
  [.evaluate farOff 0 none none, .noteDropoutRecovery, .evaluate farOff 25 none none]

/-- It is paused in full, under a budget of 20 s. -/
theorem long_dropout_over_budget :
    ¬ ∀ pre post, longDropout = pre ++ post → (run opStep (.new .default) pre).WithinBudget := by
  intro h
  have hlast : ¬ (run opStep (.new .default) longDropout).WithinBudget := by decide +kernel
  exact hlast (h longDropout [] (List.append_nil _).symm)

/-! ## The gap -/

section Runs

variable {F : Type} [Field F] [LinearOrder F]

/-- What the machine holds of the fix before. -/
structure Timed (x : StateMachine F × Option F) : Prop where
  clocked : x.1.Clocked
  dropout : x.1.state ≠ .spoofed → x.1.lastDropoutT = none ∨ x.1.lastDropoutT = x.2

theorem evaluate_lastDropoutT (m : StateMachine F) (r : Residual F) (t : F) (hdop : Option F)
    (sats : Option Nat) (h : (m.evaluate r t hdop sats).1.state ≠ .spoofed) :
    (m.evaluate r t hdop sats).1.lastDropoutT = none ∨
      (m.evaluate r t hdop sats).1.lastDropoutT = some t := by
  by_cases hs : m.state = .spoofed
  · rw [evaluate_spoofed _ _ _ _ hs] at h
    exact absurd hs h
  · obtain ⟨m', out, he, ha⟩ := evaluate_arm r t hdop sats hs
    rw [he, ha.lastDropoutT, (assess_clock m r t hdop sats).2.1]
    exact accountDropout_lastDropoutT _ _ _

theorem Timed.dropout_of_same {F : Type}
    {m m' : StateMachine F} {last : Option F} (h : Timed (m, last))
    (hsame : SameEpisode m m') (hs : m'.state ≠ .spoofed) :
    m'.lastDropoutT = none ∨ m'.lastDropoutT = last := by
  rw [hsame.lastDropoutT]
  exact h.dropout fun hm => hs (hsame.state.trans hm)

theorem Timed.next {x : StateMachine F × Option F} (h : Timed x) (op : Op F) :
    Timed (timedStep x op).1 := by
  obtain ⟨m, last⟩ := x
  refine ⟨h.clocked.next op, fun hs => ?_⟩
  cases op with
  | evaluate r t hdop sats => exact evaluate_lastDropoutT m r t hdop sats hs
  | setPosDetectorsEnabled on => exact h.dropout_of_same (setPosDetectorsEnabled_same m on) hs
  | onCleanAnchor => exact h.dropout_of_same (onCleanAnchor_same m) hs
  | forceBackToSuspicious t since =>
    show (m.forceBackToSuspicious t since).lastDropoutT = none ∨
      (m.forceBackToSuspicious t since).lastDropoutT = last
    change (m.forceBackToSuspicious t since).state ≠ .spoofed at hs
    unfold forceBackToSuspicious at hs ⊢
    split at hs
    · rename_i hn
      rw [if_pos hn]
      exact h.dropout hs
    · rename_i hn
      rw [if_neg hn]
      exact h.dropout fun hm => hn (by rw [hm]; simp)
  | manualResetToNormal => exact .inl rfl
  | noteDropoutRecovery => exact h.dropout hs
  | noteExternalAnomaly => exact h.dropout hs
  | takeDwellNotice => exact h.dropout hs
  | commitSuspToNormal => exact h.dropout hs

variable [IsStrictOrderedRing F]

/-- A pause back to `ref` is the gap since `last` only where they are the same, or both empty. -/
theorem max_sub_eq_iff {t ref last : F} (hle : last ≤ t) :
    max (t - ref) 0 = t - last ↔ ref = last ∨ t = last ∧ last ≤ ref := by
  constructor
  · intro h
    rcases le_total (t - ref) 0 with hneg | hpos
    · rw [max_eq_right hneg] at h
      exact .inr ⟨by linarith, by linarith⟩
    · rw [max_eq_left hpos] at h
      exact .inl (by linarith)
  · rintro (rfl | ⟨rfl, href⟩)
    · exact max_eq_left (by linarith)
    · rw [sub_self]
      exact max_eq_right (by linarith)

theorem Timed.absorbsGap_iff {x : StateMachine F × Option F} (h : Timed x) {op : Op F}
    (htimes : InOrder x op) : AbsorbsGap x op ↔ NothingServed x op := by
  obtain ⟨m, last⟩ := x
  cases op with
  | evaluate r t hdop sats =>
    have hkept (hs : m.state = .suspicious)
        (hs' : (m.evaluate r t hdop sats).1.state = .suspicious) :
        (m.evaluate r t hdop sats).1.suspiciousSince = m.dwellClock r t hdop sats := by
      rcases evaluate_since r t hdop sats hs' with ⟨-, hc⟩ | ⟨hn, -⟩
      · exact hc
      · exact absurd (hn.symm.trans hs) (by simp)
    show (_ ∧ _ ∧ _) ↔ _
    rw [and_iff_left ⟨fun hg => (assess_ungranted r t hdop sats hg).1, hkept⟩]
    refine forall_congr' fun hg => ?_
    obtain ⟨since, hc⟩ := Option.isSome_iff_exists.mp (h.clocked hg.1)
    rw [(assess_granted r t hdop sats hg hc).1]
    refine exists_congr fun since' => and_congr_right fun hmem => ?_
    refine exists_congr fun last' => and_congr_right fun hlast => ?_
    obtain rfl : since = since' := Option.some.inj (hc.symm.trans hmem)
    obtain rfl : last = some last' := hlast
    rw [Option.some.injEq, add_right_inj, max_sub_eq_iff (htimes last' rfl t rfl)]
    rcases h.dropout (by rw [show m.state = .suspicious from hg.1]; simp) with hd | hd
    · -- the fix before was not flagged: the pause reaches back to the clock
      dsimp only at hd
      simp [hd]
    · dsimp only at hd
      simp [hd]
  | _ => exact Iff.rfl

/-- **When a pause absorbs exactly the gap.** In every run with fix times that do not decrease,
    every granted pause pushes the clock by the time since the fix before, and every other fix
    leaves it alone, if and only if no pause is granted where dwell was served on an unflagged
    fix just before. -/
theorem absorbs_gap_iff (cfg : DetectConfig F) (ops : List (Op F))
    (htimes : Along timedStep InOrder (.new cfg, none) ops) :
    Along timedStep AbsorbsGap (.new cfg, none) ops ↔
      Along timedStep NothingServed (.new cfg, none) ops := by
  have hstart : Timed (StateMachine.new cfg, (none : Option F)) :=
    ⟨fun hs => absurd hs (by simp [new]), fun _ => .inl rfl⟩
  exact along_congr_of_guarded (fun x op _ hx => hx.next op)
    (fun x op hx hop => hx.absorbsGap_iff hop) hstart htimes

end Runs

/-- An episode that opens at 0 s, an unflagged fix at 4 s, and a dropout of 3 s. -/
def servedThenDropout : List (Op ℚ) :=
  [.evaluate farOff 0 none none, .evaluate farOff 4 none none, .noteDropoutRecovery,
    .evaluate farOff 7 none none]

/-- The pause takes 7 s, the 4 s that were served with it. -/
theorem pause_takes_served_dwell :
    Along timedStep InOrder (.new .default, none) servedThenDropout ∧
      (run opStep (.new .default) servedThenDropout).suspiciousSince = some 7 ∧
      ¬ Along timedStep AbsorbsGap (.new .default, none) servedThenDropout := by
  decide +kernel

/-- The same dropouts right after the opening, and an unflagged fix after them. -/
theorem absorbs_gap_from_opening :
    Along timedStep AbsorbsGap (.new .default, none)
      [.evaluate farOff 0 none none, .noteDropoutRecovery, .evaluate farOff 3 none none,
        .noteDropoutRecovery, .evaluate farOff 7 none none, .evaluate farOff 8 none none] :=
  (absorbs_gap_iff .default _ (by decide +kernel)).mpr (by decide +kernel)

end StateMachine

end FlyingSquirrel

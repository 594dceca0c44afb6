import FlyingSquirrel.Detect.StateMachine

/-!
# What one fix does to the state machine

`evaluate` before its match on the state is `assess`: flags drained, dropout accounted for,
detectors run. It leaves the state, the clean streak and the configuration alone, and of
the dwell clock it moves only what a granted pause moves. The match is then an `Arm`.
`evaluate_arm` puts the two together, and it is **the only place where `evaluate` is
unfolded**.
-/

set_option autoImplicit false

namespace FlyingSquirrel
namespace StateMachine

open Lib

theorem refusePause_eq {α : Type} (m : StateMachine α) (budgetOk : Bool) :
    ∃ w p, m.refusePause budgetOk =
      { m with pauseBudgetWarned := w, dwellPauseExceededPending := p } := by
  unfold refusePause
  split
  · exact ⟨_, _, rfl⟩
  · exact ⟨_, _, rfl⟩

theorem setPosDetectorsEnabled_eq {α : Type} [Zero α] (m : StateMachine α) (on : Bool) :
    ∃ drift jump, m.setPosDetectorsEnabled on =
      { m with drift := drift, jump := jump, posDetectorsEnabled := on } := by
  unfold setPosDetectorsEnabled
  split
  · exact ⟨_, _, rfl⟩
  · exact ⟨_, _, rfl⟩

theorem onCleanAnchor_eq {α : Type} [Zero α] (m : StateMachine α) :
    ∃ drift, m.onCleanAnchor = { m with drift := drift } := by
  unfold onCleanAnchor
  split
  · exact ⟨_, rfl⟩
  · exact ⟨_, rfl⟩

/-- The episode is as it was: the machines differ in detectors, gate and flags at most. -/
structure SameEpisode {α : Type} (m m' : StateMachine α) : Prop where
  cfg : m'.cfg = m.cfg
  state : m'.state = m.state
  suspiciousSince : m'.suspiciousSince = m.suspiciousSince
  lastCleanSince : m'.lastCleanSince = m.lastCleanSince
  lastDropoutT : m'.lastDropoutT = m.lastDropoutT
  pausedCumulativeS : m'.pausedCumulativeS = m.pausedCumulativeS
  pauseBudgetWarned : m'.pauseBudgetWarned = m.pauseBudgetWarned

theorem setPosDetectorsEnabled_same {α : Type} [Zero α] (m : StateMachine α) (on : Bool) :
    SameEpisode m (m.setPosDetectorsEnabled on) := by
  obtain ⟨_, _, h⟩ := setPosDetectorsEnabled_eq m on
  rw [h]
  exact ⟨rfl, rfl, rfl, rfl, rfl, rfl, rfl⟩

theorem onCleanAnchor_same {α : Type} [Zero α] (m : StateMachine α) :
    SameEpisode m m.onCleanAnchor := by
  obtain ⟨_, h⟩ := onCleanAnchor_eq m
  rw [h]
  exact ⟨rfl, rfl, rfl, rfl, rfl, rfl, rfl⟩

variable {α : Type} [Zero α] [One α] [Neg α] [Add α] [Sub α] [Mul α] [Div α] [NatCast α]
  [OfScientific α] [LT α] [LE α] [DecidableLT α] [DecidableLE α] [BEq α] [Max α]
  [FiniteTest α]

/-! ## The stages and what they keep -/

theorem grantPause_keeps {α : Type} [Zero α] [Add α] [Sub α] [Max α] (m : StateMachine α) (t : α) :
    (m.grantPause t).state = m.state ∧ (m.grantPause t).cfg = m.cfg ∧
    (m.grantPause t).jump = m.jump ∧ (m.grantPause t).drift = m.drift ∧
    (m.grantPause t).lastCleanSince = m.lastCleanSince ∧
    (m.grantPause t).externalAnomaly = m.externalAnomaly ∧
    (m.grantPause t).dropoutRecovery = m.dropoutRecovery ∧
    (m.grantPause t).posDetectorsEnabled = m.posDetectorsEnabled := by
  unfold grantPause
  split <;> exact ⟨rfl, rfl, rfl, rfl, rfl, rfl, rfl, rfl⟩

theorem accountDropout_keeps {α : Type} [Zero α] [Add α] [Sub α] [LT α] [DecidableLT α] [Max α]
    (m : StateMachine α) (t : α) (b : Bool) :
    (m.accountDropout b t).state = m.state ∧ (m.accountDropout b t).cfg = m.cfg ∧
    (m.accountDropout b t).jump = m.jump ∧ (m.accountDropout b t).drift = m.drift ∧
    (m.accountDropout b t).lastCleanSince = m.lastCleanSince ∧
    (m.accountDropout b t).externalAnomaly = m.externalAnomaly ∧
    (m.accountDropout b t).dropoutRecovery = m.dropoutRecovery ∧
    (m.accountDropout b t).posDetectorsEnabled = m.posDetectorsEnabled := by
  unfold accountDropout
  cases b with
  | false => exact ⟨rfl, rfl, rfl, rfl, rfl, rfl, rfl, rfl⟩
  | true =>
    rw [if_pos rfl]
    dsimp only
    split
    · exact grantPause_keeps _ t
    · obtain ⟨w, p, h⟩ := refusePause_eq _ _
      rw [h]
      exact ⟨rfl, rfl, rfl, rfl, rfl, rfl, rfl, rfl⟩

theorem accountDropout_lastDropoutT {α : Type} [Zero α] [Add α] [Sub α] [LT α] [DecidableLT α]
    [Max α] (m : StateMachine α) (t : α) (b : Bool) :
    (m.accountDropout b t).lastDropoutT = none ∨
      (m.accountDropout b t).lastDropoutT = some t := by
  unfold accountDropout
  cases b with
  | false => exact .inl rfl
  | true => exact .inr rfl

/-- What dropout accounting does to the clock of an open episode: nothing, or one pause, under
    both caps and back to the reference time. -/
theorem accountDropout_clock {α : Type} [Zero α] [Add α] [Sub α] [LT α] [DecidableLT α] [Max α]
    {m : StateMachine α} {s : α} (hs : m.state = .suspicious)
    (hc : m.suspiciousSince = some s) (b : Bool) (t : α) :
    ((m.accountDropout b t).suspiciousSince = some s ∧
      (m.accountDropout b t).pausedCumulativeS = m.pausedCumulativeS) ∨
    (succU8 m.consecutiveDropout ≤ maxConsecutiveDropout ∧
      m.pausedCumulativeS < m.cfg.maxDwellPauseS ∧
      (m.accountDropout b t).suspiciousSince =
        some (s + max (t - m.lastDropoutT.getD s) 0) ∧
      (m.accountDropout b t).pausedCumulativeS =
        m.pausedCumulativeS + max (t - m.lastDropoutT.getD s) 0) := by
  unfold accountDropout
  cases b with
  | false => exact .inl ⟨hc, rfl⟩
  | true =>
    rw [if_pos rfl]
    dsimp only
    split
    · rename_i hgrant
      refine .inr ⟨hgrant.1, of_decide_eq_true hgrant.2, ?_, ?_⟩
      · simp [grantPause, hs, hc]
      · simp [grantPause, hs, hc]
    · obtain ⟨w, p, h⟩ := refusePause_eq _ _
      rw [h]
      exact .inl ⟨hc, rfl⟩

theorem runDetectors_eq (m : StateMachine α) (r : Residual α) (hdop : Option α)
    (sats : Option Nat) : ∃ jump drift,
    (m.runDetectors r hdop sats).1 = { m with jump := jump, drift := drift } := by
  unfold runDetectors
  split
  · exact ⟨_, _, rfl⟩
  · exact ⟨_, _, rfl⟩

/-! ## A fix -/

/-- `evaluate` before its match on the state. -/
def assess (m : StateMachine α) (r : Residual α) (t : α) (hdop : Option α)
    (sats : Option Nat) : StateMachine α × Option JumpReason × Option DriftReason :=
  (m.drainFlags.accountDropout m.dropoutRecovery t).runDetectors r hdop sats

/-- Whether anything fires on the fix: a detector of the machine, or one outside it. -/
def firing (m : StateMachine α) (r : Residual α) (t : α) (hdop : Option α)
    (sats : Option Nat) : Bool :=
  (m.assess r t hdop sats).2.1.isSome || (m.assess r t hdop sats).2.2.isSome ||
    m.externalAnomaly

variable {m : StateMachine α} (r : Residual α) (t : α) (hdop : Option α) (sats : Option Nat)

theorem evaluate_spoofed (h : m.state = .spoofed) :
    m.evaluate r t hdop sats = (m.drainFlags, []) := if_pos h

/-- **A fix outside Spoofed is an assessment and then an arm.** -/
theorem evaluate_arm (h : m.state ≠ .spoofed) : ∃ m' out,
    m.evaluate r t hdop sats =
      (m', detectorEvents (m.assess r t hdop sats).2.1 (m.assess r t hdop sats).2.2 ++ out) ∧
    Arm (m.assess r t hdop sats).1 t
      ((m.assess r t hdop sats).1.sampleClean r (m.firing r t hdop sats))
      (m.firing r t hdop sats) m' out := by
  refine ⟨_, _, if_neg h, transition_arm ?_ _ _ _⟩
  obtain ⟨jump, drift, hd⟩ :=
    runDetectors_eq (m.drainFlags.accountDropout m.dropoutRecovery t) r hdop sats
  unfold assess
  rw [hd]
  show (m.drainFlags.accountDropout m.dropoutRecovery t).state ≠ .spoofed
  rw [(accountDropout_keeps _ _ _).1]
  exact h

variable {r t hdop sats}

theorem assess_keeps (m : StateMachine α) (r : Residual α) (t : α) (hdop : Option α)
    (sats : Option Nat) :
    (m.assess r t hdop sats).1.state = m.state ∧ (m.assess r t hdop sats).1.cfg = m.cfg ∧
    (m.assess r t hdop sats).1.lastCleanSince = m.lastCleanSince ∧
    (m.assess r t hdop sats).1.externalAnomaly = false ∧
    (m.assess r t hdop sats).1.dropoutRecovery = false := by
  obtain ⟨jump, drift, hd⟩ :=
    runDetectors_eq (m.drainFlags.accountDropout m.dropoutRecovery t) r hdop sats
  obtain ⟨hs, hc, -, -, hl, he, hdr, -⟩ :=
    accountDropout_keeps m.drainFlags t m.dropoutRecovery
  unfold assess
  rw [hd]
  exact ⟨hs, hc, hl, he, hdr⟩

theorem assess_clock (m : StateMachine α) (r : Residual α) (t : α) (hdop : Option α)
    (sats : Option Nat) :
    let m₁ := m.drainFlags.accountDropout m.dropoutRecovery t
    (m.assess r t hdop sats).1.suspiciousSince = m₁.suspiciousSince ∧
    (m.assess r t hdop sats).1.lastDropoutT = m₁.lastDropoutT ∧
    (m.assess r t hdop sats).1.pausedCumulativeS = m₁.pausedCumulativeS := by
  obtain ⟨jump, drift, hd⟩ :=
    runDetectors_eq (m.drainFlags.accountDropout m.dropoutRecovery t) r hdop sats
  unfold assess
  rw [hd]
  exact ⟨rfl, rfl, rfl⟩

theorem accountDropout_streak {α : Type} [Zero α] [Add α] [Sub α] [LT α] [DecidableLT α] [Max α]
    (m : StateMachine α) (b : Bool) (t : α) :
    (m.accountDropout b t).consecutiveDropout =
      if b then succU8 m.consecutiveDropout else 0 := by
  unfold accountDropout
  cases b with
  | false => rfl
  | true =>
    rw [if_pos rfl, if_pos rfl]
    dsimp only
    split
    · unfold grantPause
      split <;> rfl
    · obtain ⟨w, p, h⟩ := refusePause_eq _ _
      rw [h]

theorem assess_streak (m : StateMachine α) (r : Residual α) (t : α) (hdop : Option α)
    (sats : Option Nat) :
    (m.assess r t hdop sats).1.consecutiveDropout =
      if m.dropoutRecovery then succU8 m.consecutiveDropout else 0 := by
  obtain ⟨jump, drift, hd⟩ :=
    runDetectors_eq (m.drainFlags.accountDropout m.dropoutRecovery t) r hdop sats
  unfold assess
  rw [hd]
  exact accountDropout_streak _ _ _

theorem assess_detectors (m : StateMachine α) (r : Residual α) (t : α) (hdop : Option α)
    (sats : Option Nat) :
    (m.assess r t hdop sats).1.drift =
      (if m.posDetectorsEnabled then (m.drift.evaluate r hdop sats).1 else m.drift) ∧
    (m.assess r t hdop sats).1.jump =
      (if m.posDetectorsEnabled then (m.jump.evaluate r hdop sats).1 else m.jump) ∧
    (m.assess r t hdop sats).2 =
      if m.posDetectorsEnabled then
        ((m.jump.evaluate r hdop sats).2, (m.drift.evaluate r hdop sats).2)
      else (none, none) := by
  obtain ⟨-, -, hj, hd, -, -, -, hp⟩ := accountDropout_keeps m.drainFlags t m.dropoutRecovery
  have hpos : m.drainFlags.posDetectorsEnabled = m.posDetectorsEnabled := rfl
  have hdrift : m.drainFlags.drift = m.drift := rfl
  have hjump : m.drainFlags.jump = m.jump := rfl
  unfold assess runDetectors
  rw [hp, hpos]
  by_cases hon : m.posDetectorsEnabled = true
  · simp only [if_pos hon, hj, hd, hdrift, hjump, and_self]
  · simp only [if_neg hon, hj, hd, hdrift, hjump, and_self]

theorem sampleClean_firing {α : Type} [Mul α] [OfScientific α] [LT α] [DecidableLT α] [Max α]
    (m : StateMachine α) (r : Residual α) :
    m.sampleClean r true = false := by simp [sampleClean]

theorem evaluate_firing (hs : m.state = .suspicious) (hf : m.firing r t hdop sats = true) :
    (t - (m.assess r t hdop sats).1.suspiciousSince.getD t ≥
        m.cfg.suspiciousToSpoofedDwellS ∧
      (m.evaluate r t hdop sats).1.state = .spoofed) ∨
    (¬ t - (m.assess r t hdop sats).1.suspiciousSince.getD t ≥
        m.cfg.suspiciousToSpoofedDwellS ∧
      (m.evaluate r t hdop sats).1 =
        { (m.assess r t hdop sats).1 with lastCleanSince := none }) := by
  obtain ⟨hstate, hcfg, -⟩ := assess_keeps m r t hdop sats
  obtain ⟨m', out, he, ha⟩ :=
    evaluate_arm r t hdop sats (by rw [hs]; simp)
  rw [hf, sampleClean_firing] at ha
  rw [he]
  cases ha with
  | enter hn => rw [hstate, hs] at hn; exact absurd hn (by simp)
  | escalate _ hd => rw [hcfg] at hd; exact .inl ⟨hd, rfl⟩
  | dwelling _ hd => rw [hcfg] at hd; exact .inr ⟨hd, rfl⟩

theorem detectorEvents_silent {j : Option JumpReason} {d : Option DriftReason}
    (hj : j.isSome = false) (hd : d.isSome = false) : detectorEvents j d = [] := by
  cases j with
  | some _ => exact absurd hj (by simp)
  | none =>
    cases d with
    | some _ => exact absurd hd (by simp)
    | none => rfl

/-- A fix in Normal on which nothing fires is its assessment, and is silent. -/
theorem evaluate_idles (hs : m.state = .normal) (hf : m.firing r t hdop sats = false) :
    m.evaluate r t hdop sats = ((m.assess r t hdop sats).1, []) := by
  have hstate := (assess_keeps m r t hdop sats).1
  have hquiet := hf
  unfold firing at hquiet
  rw [Bool.or_eq_false_iff, Bool.or_eq_false_iff] at hquiet
  obtain ⟨m', out, he, ha⟩ := evaluate_arm r t hdop sats (by rw [hs]; simp)
  rw [hf] at ha
  rw [he, detectorEvents_silent hquiet.1.1 hquiet.1.2]
  generalize (m.assess r t hdop sats).1.sampleClean r false = clean at ha
  cases ha with
  | idle _ => rfl
  | clear hn => rw [hstate, hs] at hn; exact absurd hn (by simp)
  | cleaning hn => rw [hstate, hs] at hn; exact absurd hn (by simp)
  | stagnate hn => rw [hstate, hs] at hn; exact absurd hn (by simp)

theorem evaluate_enters (hs : m.state = .normal) (hf : m.firing r t hdop sats = true) :
    (m.evaluate r t hdop sats).1.state = .suspicious := by
  have hstate := (assess_keeps m r t hdop sats).1
  obtain ⟨m', out, he, ha⟩ := evaluate_arm r t hdop sats (by rw [hs]; simp)
  rw [hf, sampleClean_firing] at ha
  rw [he]
  cases ha with
  | enter _ => rfl
  | escalate hn => rw [hstate, hs] at hn; exact absurd hn (by simp)
  | dwelling hn => rw [hstate, hs] at hn; exact absurd hn (by simp)

theorem evaluate_opens (hs : m.state = .normal)
    (he : (m.evaluate r t hdop sats).1.state = .suspicious) :
    (m.evaluate r t hdop sats).1 =
      { (m.assess r t hdop sats).1 with
        suspiciousSince := some t
        lastCleanSince := none
        pausedCumulativeS := 0
        pauseBudgetWarned := false
        state := .suspicious } := by
  have hstate := (assess_keeps m r t hdop sats).1
  obtain ⟨m', out, heq, ha⟩ :=
    evaluate_arm r t hdop sats (by rw [hs]; simp)
  rw [heq] at he ⊢
  rcases ha.announced with ⟨-, hm⟩ | ⟨rfl, -, -⟩ | ⟨-, hm, -⟩ | ⟨-, hm, -⟩
  · rw [hm, hstate, hs] at he; exact absurd he (by simp)
  · generalize m.firing r t hdop sats = fire at ha
    generalize (m.assess r t hdop sats).1.sampleClean r fire = clean at ha
    cases ha with
    | enter _ => rfl
  · rw [hstate, hs] at hm; exact absurd hm (by simp)
  · rw [hstate, hs] at hm; exact absurd hm (by simp)

end StateMachine
end FlyingSquirrel

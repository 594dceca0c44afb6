import FlyingSquirrel.Detect.Evaluate
import FlyingSquirrel.Lib.Run

/-!
# The calls the fusion loop makes on the state machine

The loop does not use the machine's interface in any order it likes. It captures
`suspicious_since` before `evaluate`, and a clear that `evaluate` announces is answered at
once: **taken back with the captured time, or committed**. A `FusionCall` is one call of the
loop's, with that answer as part of the call of `evaluate`.

`callStep_fix` says what such a call comes to. `pauseGranted` and `clearsOn` are what it
depends on: the seconds the dwell clock is pushed over a dropout, and whether the fix ends
its clean streak.
-/

set_option autoImplicit false

namespace FlyingSquirrel

open Lib

inductive FusionCall (α : Type)
  | setPosDetectorsEnabled (on : Bool)
  | noteDropoutRecovery
  | noteExternalAnomaly
  | takeDwellNotice
  | onCleanAnchor
  | manualResetToNormal
  /-- `evaluate`; `veto` is how the loop answers a clear. -/
  | fix (r : Residual α) (t : α) (hdop : Option α) (sats : Option Nat) (veto : Bool)

/-- The time of a fix. -/
def FusionCall.time {α : Type} : FusionCall α → Option α
  | .fix _ t _ _ _ => some t
  | _ => none

namespace StateMachine

variable {α : Type} [Zero α] [One α] [Neg α] [Add α] [Sub α] [Mul α] [Div α] [NatCast α]
  [OfScientific α] [LT α] [LE α] [DecidableLT α] [DecidableLE α] [BEq α] [Max α]
  [FiniteTest α]

/-- The machine `m` that `evaluate` left, after the loop has answered a clear. -/
def answered (m : StateMachine α) (evs : List Event) (t : α) (since : Option α)
    (veto : Bool) : StateMachine α :=
  if Event.transition .suspicious .normal ∈ evs then
    if veto then m.forceBackToSuspicious t since else m.commitSuspToNormal
  else m

def callStep (m : StateMachine α) : FusionCall α → StateMachine α × List Event
  | .setPosDetectorsEnabled on => (m.setPosDetectorsEnabled on, [])
  | .noteDropoutRecovery => (m.noteDropoutRecovery, [])
  | .noteExternalAnomaly => (m.noteExternalAnomaly, [])
  | .takeDwellNotice => ({ m with dwellPauseExceededPending := false }, [])
  | .onCleanAnchor => (m.onCleanAnchor, [])
  | .manualResetToNormal => (m.manualResetToNormal, [])
  | .fix r t hdop sats veto =>
    let since := m.suspiciousSince
    let (m', evs) := m.evaluate r t hdop sats
    (m'.answered evs t since veto, evs)

/-! ## What a fix's call depends on -/

/-- Both caps still allow the dwell clock to be paused on the next fix. -/
def pauseAllowed (m : StateMachine α) : Prop :=
  succU8 m.consecutiveDropout ≤ maxConsecutiveDropout ∧
    m.pausedCumulativeS < m.cfg.maxDwellPauseS

instance (m : StateMachine α) : Decidable m.pauseAllowed := inferInstanceAs (Decidable (_ ∧ _))

/-- How far a pause at `t` reaches back: to the previous fix of the dropout streak, or to
    the dwell clock itself. -/
def pauseLength (m : StateMachine α) (t : α) : α :=
  match m.state, m.suspiciousSince with
  | .suspicious, some suspT => max (t - m.lastDropoutT.getD suspT) 0
  | _, _ => 0

/-- The seconds a fix at `t` pushes the dwell clock forward. -/
def pauseGranted (m : StateMachine α) (t : α) : α :=
  if m.dropoutRecovery = true ∧ m.pauseAllowed then m.pauseLength t else 0

/-- The fix is clean: quiet detectors, and a residual and sums small enough. -/
def cleanOn (m : StateMachine α) (r : Residual α) (t : α) (hdop : Option α)
    (sats : Option Nat) : Bool :=
  (m.assess r t hdop sats).1.sampleClean r (m.firing r t hdop sats)

/-- The fix completes a clear. -/
def clearsOn (m : StateMachine α) (r : Residual α) (t : α) (hdop : Option α)
    (sats : Option Nat) : Bool :=
  decide (m.state = .suspicious) && m.cleanOn r t hdop sats &&
    decide (t - m.lastCleanSince.getD t ≥ m.cfg.normalClearDwellS)

/-! ## What a fix's call does -/

section Fix

variable (m : StateMachine α) (r : Residual α) (t : α) (hdop : Option α) (sats : Option Nat)
  (veto : Bool)

/-- The machine after a fix, by the way the fix took. -/
inductive FixCall : StateMachine α → List Event → Prop
  | latched (hs : m.state = .spoofed) : FixCall m.drainFlags []
  /-- Any arm but a clear. -/
  | arm {m' out} (hs : m.state ≠ .spoofed) (hno : m.clearsOn r t hdop sats = false)
      (ha : Arm (m.assess r t hdop sats).1 t (m.cleanOn r t hdop sats)
        (m.firing r t hdop sats) m' out) :
      FixCall m' (detectorEvents (m.assess r t hdop sats).2.1 (m.assess r t hdop sats).2.2 ++ out)
  /-- A clear, from `m'`, answered. -/
  | clear {m'} (hc : m.clearsOn r t hdop sats = true)
      (hm : m' = { (m.assess r t hdop sats).1 with
        state := .normal, suspiciousSince := none, lastCleanSince := none }) :
      FixCall (if veto then m'.forceBackToSuspicious t m.suspiciousSince
          else m'.commitSuspToNormal)
        (detectorEvents (m.assess r t hdop sats).2.1 (m.assess r t hdop sats).2.2 ++
          [.transition .suspicious .normal])

theorem transition_mem_iff {j : Option JumpReason} {d : Option DriftReason}
    {out : List Event} {source target : NavStateKind} :
    Event.transition source target ∈ detectorEvents j d ++ out ↔
      Event.transition source target ∈ out := by
  cases j <;> cases d <;> simp [detectorEvents]

theorem Arm.cleared {α : Type} [Zero α] [Sub α] [LE α]
    {m m' : StateMachine α} {t : α} {clean firing : Bool}
    (h : Arm m t clean firing m' [.transition .suspicious .normal]) :
    m' = { m with state := .normal, suspiciousSince := none, lastCleanSince := none } := by
  cases h with
  | clear hs hd => rfl

variable {r t hdop sats}

/-- The arm taken is a clear exactly on the fixes that `clearsOn` names. -/
theorem clearsOn_iff {m' : StateMachine α} {out : List Event}
    (h : Arm (m.assess r t hdop sats).1 t (m.cleanOn r t hdop sats) (m.firing r t hdop sats)
      m' out) :
    m.clearsOn r t hdop sats = true ↔ out = [.transition .suspicious .normal] := by
  obtain ⟨hstate, hcfg, hlast, -⟩ := assess_keeps m r t hdop sats
  unfold clearsOn
  rw [← hstate, ← hlast, ← hcfg, Bool.and_eq_true, Bool.and_eq_true, decide_eq_true_eq,
    decide_eq_true_eq]
  generalize (m.assess r t hdop sats).1 = a at h ⊢
  generalize m.cleanOn r t hdop sats = clean at h ⊢
  generalize m.firing r t hdop sats = fire at h
  cases h with
  | idle hs => simp [hs]
  | enter hs => simp [hs]
  | clear hs hd => exact iff_of_true ⟨⟨hs, rfl⟩, hd⟩ rfl
  | cleaning hs hd => exact iff_of_false (fun h => hd h.2) (by simp)
  | escalate hs hd => simp
  | dwelling hs hd => simp
  | stagnate hs => simp

variable (r t hdop sats)

theorem callStep_fix : FixCall m r t hdop sats veto (m.callStep (.fix r t hdop sats veto)).1
    (m.callStep (.fix r t hdop sats veto)).2 := by
  unfold callStep answered
  dsimp only
  by_cases hs : m.state = .spoofed
  · rw [evaluate_spoofed _ _ _ _ hs, if_neg List.not_mem_nil]
    exact .latched hs
  · obtain ⟨m', out, he, ha⟩ := evaluate_arm r t hdop sats hs
    rw [he]
    simp only [transition_mem_iff]
    have hiff := clearsOn_iff m ha
    rcases ha.announced with ⟨rfl, -⟩ | ⟨rfl, -⟩ | ⟨rfl, -⟩ | ⟨rfl, -⟩
    · rw [if_neg List.not_mem_nil]
      exact .arm hs (Bool.eq_false_iff.mpr fun h => absurd (hiff.mp h) (by simp)) ha
    · rw [if_neg (by simp)]
      exact .arm hs (Bool.eq_false_iff.mpr fun h => absurd (hiff.mp h) (by simp)) ha
    · rw [if_neg (by simp)]
      exact .arm hs (Bool.eq_false_iff.mpr fun h => absurd (hiff.mp h) (by simp)) ha
    · rw [if_pos List.mem_cons_self]
      exact .clear (hiff.mpr rfl) ha.cleared

/-- `evaluate` announces a clear exactly on the fixes that `clearsOn` names. -/
theorem evaluate_clear_iff : Event.transition .suspicious .normal ∈ (m.evaluate r t hdop sats).2 ↔
    m.clearsOn r t hdop sats = true := by
  by_cases hs : m.state = .spoofed
  · rw [evaluate_spoofed _ _ _ _ hs]
    simp [clearsOn, hs]
  · obtain ⟨m', out, he, ha⟩ := evaluate_arm r t hdop sats hs
    rw [he, clearsOn_iff m ha, transition_mem_iff]
    rcases ha.announced with ⟨rfl, -⟩ | ⟨rfl, -⟩ | ⟨rfl, -⟩ | ⟨rfl, -⟩ <;> simp

end Fix

section Pause

variable {F : Type} [Field F] [LinearOrder F]

theorem map_add_zero {F : Type} [Field F] (o : Option F) : o.map (· + 0) = o := by cases o <;> simp

theorem grantPause_pause (m : StateMachine F) (t : F) :
    (m.grantPause t).suspiciousSince = m.suspiciousSince.map (· + m.pauseLength t) ∧
      (m.grantPause t).pausedCumulativeS = m.pausedCumulativeS + m.pauseLength t := by
  unfold grantPause pauseLength
  cases hs : m.state <;> cases hc : m.suspiciousSince <;> simp [hc]

theorem accountDropout_pause (m : StateMachine F) (b : Bool) (t : F) :
    (m.accountDropout b t).suspiciousSince =
        m.suspiciousSince.map (· + if b = true ∧ m.pauseAllowed then m.pauseLength t else 0) ∧
      (m.accountDropout b t).pausedCumulativeS =
        m.pausedCumulativeS + if b = true ∧ m.pauseAllowed then m.pauseLength t else 0 := by
  unfold accountDropout
  cases b with
  | false =>
    rw [if_neg (by simp), if_neg (by simp), map_add_zero, add_zero]
    exact ⟨rfl, rfl⟩
  | true =>
    rw [if_pos rfl]
    dsimp only
    by_cases hgrant : m.pauseAllowed
    · rw [if_pos (show _ ∧ _ from ⟨hgrant.1, decide_eq_true hgrant.2⟩), if_pos ⟨rfl, hgrant⟩]
      exact grantPause_pause _ t
    · rw [if_neg fun h => hgrant ⟨h.1, of_decide_eq_true h.2⟩, if_neg fun h => hgrant h.2,
        map_add_zero, add_zero]
      obtain ⟨w, p, h⟩ := refusePause_eq _ _
      rw [h]
      exact ⟨rfl, rfl⟩

/-- **An assessment pushes the dwell clock by exactly what it charges.** -/
theorem assess_pause (m : StateMachine F) (r : Residual F) (t : F) (hdop : Option F)
    (sats : Option Nat) :
    (m.assess r t hdop sats).1.suspiciousSince =
        m.suspiciousSince.map (· + m.pauseGranted t) ∧
      (m.assess r t hdop sats).1.pausedCumulativeS =
        m.pausedCumulativeS + m.pauseGranted t := by
  obtain ⟨hsince, -, hpaused⟩ := assess_clock m r t hdop sats
  rw [hsince, hpaused]
  exact accountDropout_pause m.drainFlags m.dropoutRecovery t

end Pause

end StateMachine

end FlyingSquirrel

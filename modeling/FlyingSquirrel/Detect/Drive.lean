import FlyingSquirrel.Detect.Evaluate

/-!
# Driving the state machine

Two alphabets for runs of the machine on its own. A `FixIn` is one fix the way the fusion
loop hands it over: the gate and the two flags, then `evaluate`. An `Op` is any one call of
the machine's interface, in any order, which is what a fact about *every* use of the
machine is stated over.
-/

set_option autoImplicit false

namespace FlyingSquirrel

open Lib

/-- What the fusion loop tells the machine about one fix. -/
structure FixIn (α : Type) where
  posDetectorsEnabled : Bool
  dropoutRecovery : Bool
  externalAnomaly : Bool
  r : Residual α
  t : α
  hdop : Option α
  sats : Option Nat

inductive Op (α : Type)
  | setPosDetectorsEnabled (on : Bool)
  | noteDropoutRecovery
  | noteExternalAnomaly
  | takeDwellNotice
  | evaluate (r : Residual α) (t : α) (hdop : Option α) (sats : Option Nat)
  | manualResetToNormal
  | forceBackToSuspicious (t : α) (originalSuspiciousSince : Option α)
  | commitSuspToNormal
  | onCleanAnchor

namespace StateMachine

variable {α : Type} [Zero α] [One α] [Neg α] [Add α] [Sub α] [Mul α] [Div α] [NatCast α]
  [OfScientific α] [LT α] [LE α] [DecidableLT α] [DecidableLE α] [BEq α] [Max α]
  [FiniteTest α]

/-- The machine with the fix's gate and flags set, about to evaluate it. -/
def noted (m : StateMachine α) (i : FixIn α) : StateMachine α :=
  let m := m.setPosDetectorsEnabled i.posDetectorsEnabled
  let m := if i.dropoutRecovery then m.noteDropoutRecovery else m
  if i.externalAnomaly then m.noteExternalAnomaly else m

def fixStep (m : StateMachine α) (i : FixIn α) : StateMachine α × List Event :=
  (m.noted i).evaluate i.r i.t i.hdop i.sats

/-- Whether anything fires on the fix: jump, drift, or a detector outside the machine. -/
def firesOn (m : StateMachine α) (i : FixIn α) : Bool :=
  (m.noted i).firing i.r i.t i.hdop i.sats

def opStep (m : StateMachine α) : Op α → StateMachine α × List Event
  | .setPosDetectorsEnabled on => (m.setPosDetectorsEnabled on, [])
  | .noteDropoutRecovery => (m.noteDropoutRecovery, [])
  | .noteExternalAnomaly => (m.noteExternalAnomaly, [])
  | .takeDwellNotice => ({ m with dwellPauseExceededPending := false }, [])
  | .evaluate r t hdop sats => m.evaluate r t hdop sats
  | .manualResetToNormal => (m.manualResetToNormal, [])
  | .forceBackToSuspicious t since => (m.forceBackToSuspicious t since, [])
  | .commitSuspToNormal => (m.commitSuspToNormal, [])
  | .onCleanAnchor => (m.onCleanAnchor, [])

theorem noted_eq {α : Type} [Zero α] (m : StateMachine α) (i : FixIn α) : ∃ drift jump d e,
    m.noted i =
      { m with
        drift := drift
        jump := jump
        posDetectorsEnabled := i.posDetectorsEnabled
        dropoutRecovery := d
        externalAnomaly := e } := by
  obtain ⟨drift, jump, h⟩ := setPosDetectorsEnabled_eq m i.posDetectorsEnabled
  unfold noted
  rw [h]
  dsimp only
  split <;> split <;> exact ⟨drift, jump, _, _, rfl⟩

theorem noted_keeps {α : Type} [Zero α] (m : StateMachine α) (i : FixIn α) :
    (m.noted i).cfg = m.cfg ∧ (m.noted i).state = m.state ∧
    (m.noted i).suspiciousSince = m.suspiciousSince ∧
    (m.noted i).lastCleanSince = m.lastCleanSince ∧
    (m.noted i).lastDropoutT = m.lastDropoutT ∧
    (m.noted i).pausedCumulativeS = m.pausedCumulativeS := by
  obtain ⟨_, _, _, _, h⟩ := noted_eq m i
  rw [h]
  exact ⟨rfl, rfl, rfl, rfl, rfl, rfl⟩

/-- With the gate open a fix sets flags and touches no detector. -/
theorem noted_open {α : Type} [Zero α]
    {m : StateMachine α} {i : FixIn α} (hon : i.posDetectorsEnabled = true) :
    m.noted i =
      { m with
        posDetectorsEnabled := true
        dropoutRecovery := i.dropoutRecovery || m.dropoutRecovery
        externalAnomaly := i.externalAnomaly || m.externalAnomaly } := by
  have hset : m.setPosDetectorsEnabled true = { m with posDetectorsEnabled := true } := by
    unfold setPosDetectorsEnabled
    rw [if_neg (by simp)]
  unfold noted
  rw [hon, hset]
  cases i.dropoutRecovery <;> cases i.externalAnomaly <;> rfl

theorem fixStep_spoofed {m : StateMachine α} (h : m.state = .spoofed) (i : FixIn α) :
    (m.fixStep i).1.state = .spoofed := by
  have hs : (m.noted i).state = .spoofed := (noted_keeps m i).2.1.trans h
  unfold fixStep
  rw [evaluate_spoofed _ _ _ _ hs]
  exact hs

end StateMachine

end FlyingSquirrel

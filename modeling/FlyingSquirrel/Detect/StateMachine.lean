import FlyingSquirrel.Detect.Drift
import FlyingSquirrel.Detect.Jump

/-!
# The detector state machine (`detect/state_machine.rs`)

`NORMAL → SUSPICIOUS → SPOOFED`, the last one latched. `evaluate` handles one fix, and
**each paragraph of its body is a definition here**, in the order they run:

* `drainFlags`, the two per-fix flags, before anything can return;
* the latch: in `spoofed` nothing else happens;
* `accountDropout`, which walks the dwell clock over a dropout, under two caps;
* `runDetectors`, then `sampleClean`, which decides whether the fix counts towards clearing;
* `transition`, the match on the state.

`Arm` lists what `transition` can do, one constructor for each way through it, guards
included. Every later proof about a fix is a case analysis on `Arm`.
-/

set_option autoImplicit false

namespace FlyingSquirrel

open Lib

inductive Event
  | jump (j : JumpReason)
  | drift (d : DriftReason)
  | transition (source target : NavStateKind)
deriving DecidableEq, Repr

structure StateMachine (α : Type) where
  cfg : DetectConfig α
  state : NavStateKind
  jump : JumpDetector α
  drift : DriftDetector α
  suspiciousSince : Option α
  lastCleanSince : Option α
  /-- The next `evaluate` is on the far side of a GPS dropout. -/
  dropoutRecovery : Bool
  /-- A detector outside the machine fired for the next `evaluate`. -/
  externalAnomaly : Bool
  lastDropoutT : Option α
  dropoutRecoveryCount : Nat
  consecutiveDropout : Nat
  /-- Dwell seconds absorbed by pauses in the current Suspicious episode. -/
  pausedCumulativeS : α
  pauseBudgetWarned : Bool
  dwellPauseExceededPending : Bool
  posDetectorsEnabled : Bool
deriving Repr

namespace StateMachine

section Model

variable {α : Type} [Zero α] [One α] [Neg α] [Add α] [Sub α] [Mul α] [Div α] [NatCast α]
  [OfScientific α] [LT α] [LE α] [DecidableLT α] [DecidableLE α] [BEq α] [Max α]
  [FiniteTest α]

/-- Dropout fixes in a row for which the dwell clock is still paused. -/
def maxConsecutiveDropout : Nat := 5

def clearNoiseFactor : α := 3.0
def clearQuiescentFraction : α := 0.25

def new (cfg : DetectConfig α) : StateMachine α where
  cfg := cfg
  state := .normal
  jump := JumpDetector.new cfg
  drift := DriftDetector.new cfg
  suspiciousSince := none
  lastCleanSince := none
  dropoutRecovery := false
  externalAnomaly := false
  lastDropoutT := none
  dropoutRecoveryCount := 0
  consecutiveDropout := 0
  pausedCumulativeS := 0
  pauseBudgetWarned := false
  dwellPauseExceededPending := false
  posDetectorsEnabled := true

def setPosDetectorsEnabled (m : StateMachine α) (on : Bool) : StateMachine α :=
  let m := if on = false ∧ m.posDetectorsEnabled = true then
    { m with drift := m.drift.reset, jump := m.jump.reset } else m
  { m with posDetectorsEnabled := on }

def noteDropoutRecovery (m : StateMachine α) : StateMachine α :=
  { m with dropoutRecovery := true }

def noteExternalAnomaly (m : StateMachine α) : StateMachine α :=
  { m with externalAnomaly := true }

def drainFlags (m : StateMachine α) : StateMachine α :=
  { m with dropoutRecovery := false, externalAnomaly := false }

/-- Push the dwell clock forward over a dropout, and charge the episode's budget. -/
def grantPause (m : StateMachine α) (t : α) : StateMachine α :=
  match m.state, m.suspiciousSince with
  | .suspicious, some suspT =>
    let prevT := m.lastDropoutT.getD suspT
    let elapsed := max (t - prevT) 0
    { m with
      suspiciousSince := some (suspT + elapsed)
      pausedCumulativeS := m.pausedCumulativeS + elapsed }
  | _, _ => m

/-- The first dropout fix past either cap, in Suspicious, asks for a notice. -/
def refusePause (m : StateMachine α) (budgetOk : Bool) : StateMachine α :=
  if m.state = .suspicious ∧ (m.consecutiveDropout = maxConsecutiveDropout + 1 ∨
      (budgetOk = false ∧ m.pauseBudgetWarned = false)) then
    { m with
      pauseBudgetWarned := if budgetOk then m.pauseBudgetWarned else true
      dwellPauseExceededPending := true }
  else m

/-- Dropout accounting for one fix. The pause is granted under both caps: the streak and
    the episode's cumulative budget. -/
def accountDropout (m : StateMachine α) (inDropoutRecovery : Bool) (t : α) :
    StateMachine α :=
  if inDropoutRecovery then
    let m := { m with
      dropoutRecoveryCount := succU64 m.dropoutRecoveryCount
      consecutiveDropout := succU8 m.consecutiveDropout }
    let budgetOk := decide (m.pausedCumulativeS < m.cfg.maxDwellPauseS)
    let m := if m.consecutiveDropout ≤ maxConsecutiveDropout ∧ budgetOk = true
      then m.grantPause t else m.refusePause budgetOk
    { m with lastDropoutT := some t }
  else { m with lastDropoutT := none, consecutiveDropout := 0 }

/-- Run both residual detectors, unless they are gated off. -/
def runDetectors (m : StateMachine α) (r : Residual α) (hdop : Option α)
    (sats : Option Nat) : StateMachine α × Option JumpReason × Option DriftReason :=
  if m.posDetectorsEnabled then
    let (jump, j) := m.jump.evaluate r hdop sats
    let (drift, d) := m.drift.evaluate r hdop sats
    ({ m with jump := jump, drift := drift }, j, d)
  else (m, none, none)

/-- The largest of the sums the clear gate looks at. -/
def cusumPeak (st : CusumState α) : α :=
  max (max (max (max st.sPosN st.sNegN) st.sPosE) st.sNegE) st.sMag

/-- Every sum the gate looks at is below a fraction of the firing threshold. -/
def driftQuiescent (m : StateMachine α) : Bool :=
  decide (cusumPeak m.drift.state < m.cfg.cusumHM * clearQuiescentFraction)

def posClean (m : StateMachine α) (r : Residual α) : Bool :=
  let basePosThresh := if r.dvelKnown then m.cfg.cusumKM else m.cfg.cusumKM * 0.5
  decide (r.magPos < max basePosThresh (m.drift.magNoiseFloor * clearNoiseFactor))

def velClean (m : StateMachine α) (r : Residual α) : Bool :=
  !r.dvelKnown || decide (r.magVel < m.cfg.maxVelocityMismatchMps * 0.25)

def sampleClean (m : StateMachine α) (r : Residual α) (detectorFiring : Bool) : Bool :=
  m.posClean r && m.velClean r && m.driftQuiescent && !detectorFiring

def transition (m : StateMachine α) (t : α) (sampleClean detectorFiring : Bool) :
    StateMachine α × List Event :=
  match m.state with
  | .normal =>
    if detectorFiring then
      ({ m with
          suspiciousSince := some t
          lastCleanSince := none
          pausedCumulativeS := 0
          pauseBudgetWarned := false
          state := .suspicious },
        [.transition .normal .suspicious])
    else (m, [])
  | .suspicious =>
    let entered := m.suspiciousSince.getD t
    if sampleClean then
      let cleanSince := m.lastCleanSince.getD t
      if t - cleanSince ≥ m.cfg.normalClearDwellS then
        ({ m with state := .normal, suspiciousSince := none, lastCleanSince := none },
          [.transition .suspicious .normal])
      else ({ m with lastCleanSince := some cleanSince }, [])
    else if detectorFiring then
      if t - entered ≥ m.cfg.suspiciousToSpoofedDwellS then
        ({ m with state := .spoofed, suspiciousSince := none, lastCleanSince := none },
          [.transition .suspicious .spoofed])
      else ({ m with lastCleanSince := none }, [])
    else ({ m with lastCleanSince := none }, [])
  -- `unreachable!()` in the source: `evaluate` has returned by then
  | .spoofed => (m, [])

/-- The detector events of a fix, before its transition. -/
def detectorEvents (j : Option JumpReason) (d : Option DriftReason) : List Event :=
  (j.map Event.jump).toList ++ (d.map Event.drift).toList

/-- What `evaluate` does once the flags are drained and the latch is not set. -/
def evaluateLive (m : StateMachine α) (inDropoutRecovery pendingExternal : Bool)
    (r : Residual α) (t : α) (hdop : Option α) (sats : Option Nat) :
    StateMachine α × List Event :=
  let (m, j, d) := (m.accountDropout inDropoutRecovery t).runDetectors r hdop sats
  let detectorFiring := j.isSome || d.isSome || pendingExternal
  let (m', out) := m.transition t (m.sampleClean r detectorFiring) detectorFiring
  (m', detectorEvents j d ++ out)

/-- One fix of evaluation: the next state and the events it generated. -/
def evaluate (m : StateMachine α) (r : Residual α) (t : α) (hdop : Option α)
    (sats : Option Nat) : StateMachine α × List Event :=
  let drained := m.drainFlags
  if drained.state = .spoofed then (drained, [])
  else drained.evaluateLive m.dropoutRecovery m.externalAnomaly r t hdop sats

/-- Operator-driven reset: clears the latch and every trace of the episode. -/
def manualResetToNormal (m : StateMachine α) : StateMachine α :=
  { m with
    state := .normal
    suspiciousSince := none
    lastCleanSince := none
    drift := m.drift.reset
    jump := m.jump.reset
    dropoutRecovery := false
    externalAnomaly := false
    consecutiveDropout := 0
    pausedCumulativeS := 0
    pauseBudgetWarned := false
    dwellPauseExceededPending := false
    lastDropoutT := none }

/-- Undo a clear the fusion loop vetoed, with the entry time from before it. -/
def forceBackToSuspicious (m : StateMachine α) (t : α) (originalSuspiciousSince : Option α) :
    StateMachine α :=
  if m.state ≠ .normal then m
  else
    { m with
      state := .suspicious
      suspiciousSince := originalSuspiciousSince.or (some t)
      lastCleanSince := none }

/-- Accept a clear: the episode is over, so the sums and the pause budget are renewed. -/
def commitSuspToNormal (m : StateMachine α) : StateMachine α :=
  { m with
    drift := m.drift.reset
    jump := m.jump.reset
    pausedCumulativeS := 0
    pauseBudgetWarned := false }

def onCleanAnchor (m : StateMachine α) : StateMachine α :=
  if m.state = .normal then { m with drift := m.drift.reset } else m

end Model

/-! ## What `transition` can do -/

section Arms

variable {α : Type} [Zero α] [Sub α] [LT α] [LE α] [DecidableLE α]

/-- The ways through `transition`: the guards taken, the state reached, and the transition
    announced. -/
inductive Arm (m : StateMachine α) (t : α) : Bool → Bool → StateMachine α → List Event → Prop
  /-- Normal, and nothing fires. -/
  | idle {clean} (hs : m.state = .normal) : Arm m t clean false m []
  /-- Normal, and something fires: an episode opens at `t`. -/
  | enter {clean} (hs : m.state = .normal) :
      Arm m t clean true
        { m with
          suspiciousSince := some t
          lastCleanSince := none
          pausedCumulativeS := 0
          pauseBudgetWarned := false
          state := .suspicious }
        [.transition .normal .suspicious]
  /-- A clean fix that ends a long enough clean streak. -/
  | clear {firing} (hs : m.state = .suspicious)
      (hd : t - m.lastCleanSince.getD t ≥ m.cfg.normalClearDwellS) :
      Arm m t true firing
        { m with state := .normal, suspiciousSince := none, lastCleanSince := none }
        [.transition .suspicious .normal]
  /-- A clean fix that starts or extends a clean streak. -/
  | cleaning {firing} (hs : m.state = .suspicious)
      (hd : ¬ t - m.lastCleanSince.getD t ≥ m.cfg.normalClearDwellS) :
      Arm m t true firing { m with lastCleanSince := some (m.lastCleanSince.getD t) } []
  /-- A firing fix with the dwell served: the latch. -/
  | escalate (hs : m.state = .suspicious)
      (hd : t - m.suspiciousSince.getD t ≥ m.cfg.suspiciousToSpoofedDwellS) :
      Arm m t false true
        { m with state := .spoofed, suspiciousSince := none, lastCleanSince := none }
        [.transition .suspicious .spoofed]
  /-- A firing fix before the dwell is served. -/
  | dwelling (hs : m.state = .suspicious)
      (hd : ¬ t - m.suspiciousSince.getD t ≥ m.cfg.suspiciousToSpoofedDwellS) :
      Arm m t false true { m with lastCleanSince := none } []
  /-- Neither clean nor firing. -/
  | stagnate (hs : m.state = .suspicious) :
      Arm m t false false { m with lastCleanSince := none } []

theorem transition_arm {α : Type} [Zero α] [Sub α] [LE α] [DecidableLE α]
    {m : StateMachine α} (hm : m.state ≠ .spoofed) (t : α)
    (clean firing : Bool) :
    Arm m t clean firing (m.transition t clean firing).1 (m.transition t clean firing).2 := by
  unfold transition
  split
  case h_1 hs =>
    cases firing
    · exact .idle hs
    · exact .enter hs
  case h_2 hs =>
    cases clean with
    | true =>
      rw [if_pos rfl]
      dsimp only
      split
      · rename_i hd; exact .clear hs hd
      · rename_i hd; exact .cleaning hs hd
    | false =>
      rw [if_neg (by simp)]
      cases firing with
      | true =>
        rw [if_pos rfl]
        split
        · rename_i hd; exact .escalate hs hd
        · rename_i hd; exact .dwelling hs hd
      | false => exact .stagnate hs
  case h_3 hs => exact absurd hs hm

section

omit [LT α] [DecidableLE α]

theorem Arm.announced {m m' : StateMachine α} {t : α} {clean firing : Bool}
    {out : List Event} (h : Arm m t clean firing m' out) :
    (out = [] ∧ m'.state = m.state) ∨
    (out = [.transition .normal .suspicious] ∧ m.state = .normal ∧
      m'.state = .suspicious) ∨
    (out = [.transition .suspicious .spoofed] ∧ m.state = .suspicious ∧
      m'.state = .spoofed) ∨
    (out = [.transition .suspicious .normal] ∧ m.state = .suspicious ∧
      m'.state = .normal) := by
  cases h with
  | idle hs => exact .inl ⟨rfl, rfl⟩
  | enter hs => exact .inr (.inl ⟨rfl, hs, rfl⟩)
  | clear hs => exact .inr (.inr (.inr ⟨rfl, hs, rfl⟩))
  | cleaning hs => exact .inl ⟨rfl, rfl⟩
  | escalate hs => exact .inr (.inr (.inl ⟨rfl, hs, rfl⟩))
  | dwelling hs => exact .inl ⟨rfl, rfl⟩
  | stagnate hs => exact .inl ⟨rfl, rfl⟩

theorem Arm.transitioned {m m' : StateMachine α} {t : α} {clean firing : Bool}
    {source target : NavStateKind} (h : Arm m t clean firing m' [.transition source target]) :
    m.state = source ∧ m'.state = target := by
  cases h with
  | enter hs => exact ⟨hs, rfl⟩
  | clear hs => exact ⟨hs, rfl⟩
  | escalate hs => exact ⟨hs, rfl⟩

theorem Arm.silent {m m' : StateMachine α} {t : α} {clean firing : Bool}
    (h : Arm m t clean firing m' []) : m'.state = m.state := by
  cases h <;> rfl

theorem Arm.keeps {m m' : StateMachine α} {t : α} {clean firing : Bool} {out : List Event}
    (h : Arm m t clean firing m' out) :
    m'.cfg = m.cfg ∧ m'.externalAnomaly = m.externalAnomaly ∧
    m'.dropoutRecovery = m.dropoutRecovery ∧ m'.drift = m.drift := by
  cases h <;> exact ⟨rfl, rfl, rfl, rfl⟩

end

theorem forceBackToSuspicious_eq {α : Type} {m : StateMachine α} (hn : m.state = .normal) (t : α)
    (since : Option α) : m.forceBackToSuspicious t since =
      { m with
        state := .suspicious
        suspiciousSince := since.or (some t)
        lastCleanSince := none } :=
  if_neg (by simp [hn])

section

omit [LT α] [DecidableLE α]

theorem Arm.escalated {m m' : StateMachine α} {t : α} {clean firing : Bool}
    (h : Arm m t clean firing m' [.transition .suspicious .spoofed]) :
    firing = true ∧ t - m.suspiciousSince.getD t ≥ m.cfg.suspiciousToSpoofedDwellS := by
  cases h with
  | escalate _ hd => exact ⟨rfl, hd⟩

theorem Arm.opened {m m' : StateMachine α} {t : α} {clean firing : Bool}
    (h : Arm m t clean firing m' [.transition .normal .suspicious]) : firing = true := by
  cases h with
  | enter _ => rfl

theorem Arm.quiet {m m' : StateMachine α} {t : α} {clean firing : Bool}
    (h : Arm m t clean firing m' []) (hn : m.state = .normal) : firing = false := by
  cases h with
  | idle _ => rfl
  | cleaning hs _ => exact absurd (hs.symm.trans hn) (by simp)
  | dwelling hs _ => exact absurd (hs.symm.trans hn) (by simp)
  | stagnate _ => rfl

theorem Arm.clock {m m' : StateMachine α} {t : α} {clean firing : Bool} {out : List Event}
    (h : Arm m t clean firing m' out) (hs : m'.state = .suspicious) :
    (m.state = .suspicious ∧ m'.suspiciousSince = m.suspiciousSince ∧
      m'.pausedCumulativeS = m.pausedCumulativeS) ∨
    (m.state = .normal ∧ m'.suspiciousSince = some t ∧ m'.pausedCumulativeS = 0) := by
  cases h with
  | idle hn => rw [hn] at hs; exact absurd hs (by simp)
  | enter hn => exact .inr ⟨hn, rfl, rfl⟩
  | clear _ _ => exact absurd hs (by simp)
  | cleaning hn _ => exact .inl ⟨hn, rfl, rfl⟩
  | escalate _ _ => exact absurd hs (by simp)
  | dwelling hn _ => exact .inl ⟨hn, rfl, rfl⟩
  | stagnate hn => exact .inl ⟨hn, rfl, rfl⟩

end

end Arms

end StateMachine

end FlyingSquirrel

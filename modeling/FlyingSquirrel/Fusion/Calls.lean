import FlyingSquirrel.Detect.Calls
import FlyingSquirrel.Detect.Drive
import FlyingSquirrel.Fusion.Spec

/-!
# The calls a run of the task makes

What the task does to its state machine, it does by `FusionCall`s. `calls` writes down which
ones a step makes, and `run_fsm` that nothing else touches the machine: **the machine of a run
is the machine run on the calls of the run**. So what is known of every sequence of calls is
known of the machine in the task.

The one call with an argument in it is the decision: the answer to a clear is the plausibility
check against the dead-reckoned position.
-/

set_option autoImplicit false

namespace FlyingSquirrel

open Lib

variable {α : Type} [Zero α] [One α] [Neg α] [Add α] [Sub α] [Mul α] [Div α] [NatCast α]
  [OfScientific α] [LT α] [LE α] [DecidableLT α] [DecidableLE α] [BEq α] [Max α]
  [FiniteTest α]

/-! ## A call as operations of the interface -/

/-- `evaluate` is followed by the answer where it cleared; every other call is one operation. -/
def FusionCall.ops (m : StateMachine α) : FusionCall α → List (Op α)
  | .setPosDetectorsEnabled on => [.setPosDetectorsEnabled on]
  | .noteDropoutRecovery => [.noteDropoutRecovery]
  | .noteExternalAnomaly => [.noteExternalAnomaly]
  | .takeDwellNotice => [.takeDwellNotice]
  | .onCleanAnchor => [.onCleanAnchor]
  | .manualResetToNormal => [.manualResetToNormal]
  | .fix r t hdop sats veto =>
    .evaluate r t hdop sats ::
      if Event.transition .suspicious .normal ∈ (m.evaluate r t hdop sats).2 then
        [if veto then .forceBackToSuspicious t m.suspiciousSince else .commitSuspToNormal]
      else []

namespace StateMachine

/-- The operations a sequence of calls comes to. -/
def opsOf (m : StateMachine α) : List (FusionCall α) → List (Op α)
  | [] => []
  | c :: calls => c.ops m ++ opsOf (m.callStep c).1 calls

theorem run_ops (m : StateMachine α) (c : FusionCall α) :
    run opStep m (c.ops m) = (m.callStep c).1 := by
  cases c with
  | fix r t hdop sats veto =>
    unfold FusionCall.ops callStep answered
    dsimp only
    rw [run_cons]
    dsimp only [opStep]
    split
    · cases veto <;> rfl
    · rfl
  | _ => rfl

theorem run_opsOf (m : StateMachine α) (calls : List (FusionCall α)) :
    run opStep m (m.opsOf calls) = run callStep m calls := by
  induction calls generalizing m with
  | nil => rfl
  | cons c calls ih =>
    rw [opsOf, run_append, run_ops]
    exact ih _

end StateMachine

namespace Fusion

open StateMachine (callStep opStep opsOf)

/-! ## The trackers -/

def gapCalls (f : Fusion α) (t : α) : List (FusionCall α) :=
  if f.dropoutSeconds t > f.gpsDropoutFreezeS then [.noteDropoutRecovery] else []

theorem noteGap_fsm (f : Fusion α) (t : α) :
    (f.noteGap t).fsm = run callStep f.fsm (f.gapCalls t) := by
  unfold noteGap gapCalls
  dsimp only
  split <;> rfl

def noticeCalls (f : Fusion α) : List (FusionCall α) :=
  if f.fsm.dwellPauseExceededPending then [.takeDwellNotice] else []

theorem drainDwellNotice_fsm (f : Fusion α) (fix : GpsFix α) :
    (f.drainDwellNotice fix).1.fsm = run callStep f.fsm f.noticeCalls := by
  unfold drainDwellNotice noticeCalls
  split <;> rfl

theorem trackFrozen_fsm {α : Type} [Zero α] [Neg α] [Add α] [Sub α] [Mul α] [OfScientific α]
    [LT α] [DecidableLT α] [Libm α] (f : Fusion α) (fix : GpsFix α) :
    (f.trackFrozen fix).fsm = f.fsm := by
  unfold trackFrozen
  split <;> rfl

/-! ## The detectors outside the machine -/

def verticalCalls (f : Fusion α) (altM t : α) : List (FusionCall α) :=
  if f.verticalAlarm altM t then [.noteExternalAnomaly] else []

theorem checkVerticalRate_fsm (f : Fusion α) (fix : GpsFix α) (t : α) (r : Residual α) :
    (f.checkVerticalRate fix t r).1.fsm = run callStep f.fsm (f.verticalCalls fix.altM t) := by
  unfold checkVerticalRate verticalCalls
  split <;> rfl

section Frozen

variable [Libm α]

def frozenCalls (f : Fusion α) (dropoutS : α) (candidate : Bool) (vImu : NedVel α) :
    List (FusionCall α) :=
  if candidate = true ∧ (f.accrueFrozen dropoutS vImu.horizontalNorm).frozenImuDisplacementM ≥
      frozenMinImuDisplacementM then [.noteExternalAnomaly]
  else []

theorem checkFrozen_fsm (f : Fusion α) (fix : GpsFix α) (dropoutS : α) (candidate : Bool)
    (vImu : NedVel α) (r : Residual α) : (f.checkFrozen fix dropoutS candidate vImu r).1.fsm =
      run callStep f.fsm (f.frozenCalls dropoutS candidate vImu) := by
  unfold checkFrozen frozenCalls
  cases candidate with
  | false => rfl
  | true =>
    simp only [if_true, true_and]
    split <;> rfl

end Frozen

/-! ## The calls of a step -/

variable [Min α] [Libm α]

/-- The gate, and then `evaluate` with the answer to a clear. -/
def decisionCalls (f : Fusion α) (fix : GpsFix α) (gpsNed : NedPos α) (t : α) (r : Residual α) :
    List (FusionCall α) :=
  [.setPosDetectorsEnabled (r.dvelKnown || decide (f.noDopplerStreak < noDopplerGateStreak)),
    .fix r t fix.hdop fix.sats
      (!(validateFixAgainstReference gpsNed f.nav.drPos f.reAnchorMaxDistanceM).toBool)]

def evaluateCalls (f : Fusion α) (fix : GpsFix α) (gpsNed : NedPos α) (t dropoutS : α)
    (candidate : Bool) (vImu : NedVel α) (r : Residual α) : List (FusionCall α) :=
  let f := f.captureForensic fix t r
  let frozen := (f.checkFrozen fix dropoutS candidate vImu r).1
  let counted := ((frozen.checkVerticalRate fix t r).1.checkDoppler fix r).1
  f.frozenCalls dropoutS candidate vImu ++ frozen.verticalCalls fix.altM t ++
    counted.decisionCalls fix gpsNed t r

def armedCalls (f : Fusion α) (fix : GpsFix α) (gpsNed : NedPos α) : List (FusionCall α) :=
  let t := f.tSecs fix.t
  let tracked := ((f.noteGap t).drainDwellNotice fix).1.trackFrozen fix
  f.gapCalls t ++ (f.noteGap t).noticeCalls ++
    match tracked.buffer.interpolate t with
    | .error _ => []
    | .ok (pImu, vImu) =>
      tracked.evaluateCalls fix gpsNed t (f.dropoutSeconds t) (f.frozenCandidate fix) vImu
        (tracked.residual fix gpsNed pImu vImu)

/-- A fix that re-anchors before preflight is ready. -/
def preflightCalls (f : Fusion α) (fix : GpsFix α) : List (FusionCall α) :=
  if f.buffer.isEmpty = true ∨ (f.buffer.interpolate (f.tSecs fix.t)).toBool = false then
    [.onCleanAnchor]
  else []

/-- The calls a step makes on the machine, in order. -/
def calls (f : Fusion α) : Input α → List (FusionCall α)
  | .imu _ => []
  | .gps fix env =>
    match f.nav.gpsInNed fix with
    | none => []
    | some gpsNed =>
      if f.preflight ≠ .ready then (f.refreshPreflight env fix.t).1.preflightCalls fix
      else f.armedCalls fix gpsNed
  | .reset _ => [.manualResetToNormal]
  | .background _ _ => []

/-! ## A fix -/

/-- The decision is the gate, and then `evaluate` with the answer to a clear. -/
theorem decideFix_fsm (f : Fusion α) (env : Env α) (fix : GpsFix α) (gpsNed : NedPos α)
    (t : α) (r : Residual α) : (f.decideFix env fix gpsNed t r).1.fsm =
      run callStep f.fsm (f.decisionCalls fix gpsNed t r) := by
  show _ = ((f.gatedFsm r).callStep (.fix r t fix.hdop fix.sats
    (!(validateFixAgainstReference gpsNed f.nav.drPos f.reAnchorMaxDistanceM).toBool))).1
  have hsince : (f.gatedFsm r).suspiciousSince = f.fsm.suspiciousSince := by
    obtain ⟨_, _, _, h⟩ := gatedFsm_eq f r
    rw [h]
  unfold decideFix StateMachine.callStep StateMachine.answered
  rw [hsince]
  dsimp only [Lib.andThen]
  rw [finalBlend_fsm]
  by_cases hs : f.fsm.state = .spoofed
  · rw [StateMachine.evaluate_spoofed _ _ _ _ ((gatedFsm_state f r).trans hs),
      if_neg List.not_mem_nil]
    rfl
  · obtain ⟨m, out, he, ha⟩ := StateMachine.evaluate_arm (m := f.gatedFsm r) r t fix.hdop
      fix.sats (by rw [gatedFsm_state]; exact hs)
    rw [he, handleEvents_append, handleEvents_detector]
    simp only [StateMachine.transition_mem_iff]
    rcases ha.announced with ⟨rfl, -⟩ | ⟨rfl, -⟩ | ⟨rfl, -⟩ | ⟨rfl, -⟩
    · rw [if_neg List.not_mem_nil]
      rfl
    · rw [if_neg (by simp)]
      rfl
    · rw [if_neg (by simp)]
      dsimp only [Lib.andThen, handleEvents, handleEvent]
      obtain ⟨_, ho⟩ := onSpoofed_state
        { f with fsm := m, nav := f.nav.setState .spoofed } env fix r .suspicious
      rw [ho]
    · rw [if_pos List.mem_cons_self]
      dsimp only [Lib.andThen, handleEvents, handleEvent]
      cases validateFixAgainstReference gpsNed f.nav.drPos f.reAnchorMaxDistanceM <;> rfl

theorem evaluateFix_fsm (f : Fusion α) (env : Env α) (fix : GpsFix α) (gpsNed : NedPos α)
    (t dropoutS : α) (candidate : Bool) (vImu : NedVel α) (r : Residual α) :
    (f.evaluateFix env fix gpsNed t dropoutS candidate vImu r).1.fsm =
      run callStep f.fsm (f.evaluateCalls fix gpsNed t dropoutS candidate vImu r) := by
  unfold evaluateFix evaluateCalls
  dsimp only [Lib.andThen]
  have hfrozen := checkFrozen_fsm (f.captureForensic fix t r) fix dropoutS candidate vImu r
  rw [run_append, run_append, show f.fsm = (f.captureForensic fix t r).fsm from rfl, ← hfrozen,
    ← checkVerticalRate_fsm _ fix t r, decideFix_fsm, checkDoppler_fsm]

/-! ## A step -/

theorem onArmedFix_fsm (f : Fusion α) (env : Env α) (fix : GpsFix α) (gpsNed : NedPos α) :
    (f.onArmedFix env fix gpsNed).1.fsm = run callStep f.fsm (f.armedCalls fix gpsNed) := by
  unfold onArmedFix armedCalls
  dsimp only [Lib.andThen]
  rw [run_append, run_append, ← noteGap_fsm, ← drainDwellNotice_fsm _ fix]
  generalize ((f.noteGap (f.tSecs fix.t)).drainDwellNotice fix).1 = g
  cases (g.trackFrozen fix).buffer.interpolate (f.tSecs fix.t) with
  | error e => exact trackFrozen_fsm g fix
  | ok x =>
    dsimp only
    rw [evaluateFix_fsm, trackFrozen_fsm]

theorem onPreflightFix_fsm (f : Fusion α) (env : Env α) (fix : GpsFix α) :
    (f.onPreflightFix env fix).1.fsm =
      run callStep f.fsm ((f.refreshPreflight env fix.t).1.preflightCalls fix) := by
  obtain ⟨_, _, _, h⟩ := refreshPreflight_eq f env fix.t
  have hfsm : (f.refreshPreflight env fix.t).1.fsm = f.fsm := by rw [h]
  rw [← hfsm]
  show ((f.refreshPreflight env fix.t).1.preflightAnchor fix).fsm = _
  unfold preflightAnchor preflightCalls
  split <;> rfl

variable [Nalgebra α]

theorem step_fsm (f : Fusion α) (i : Input α) :
    (f.step i).1.fsm = run callStep f.fsm (f.calls i) := by
  cases i with
  | imu sample => rfl
  | gps fix env =>
    show (f.onGps env fix).1.fsm = _
    unfold onGps calls
    dsimp only
    cases f.nav.gpsInNed fix with
    | none =>
      dsimp only
      unfold onFirstFix
      split
      · rfl
      · obtain ⟨_, _, _, h⟩ := refreshPreflight_eq
          { f with
            nav := f.nav.onGpsFix fix
            checklist := { f.checklist with firstFixAccepted := true } } env fix.t
        rw [h]
        rfl
    | some gpsNed =>
      dsimp only
      split
      · exact onPreflightFix_fsm f env fix
      · exact onArmedFix_fsm f env fix gpsNed
  | reset now => rfl
  | background now done =>
    obtain ⟨_, hb⟩ := onBackground_eq f now done
    show (f.onBackground now done).1.fsm = f.fsm
    rw [hb]

/-- The calls of a run. -/
def called : Fusion α → List (Input α) → List (FusionCall α)
  | _, [] => []
  | f, i :: is => f.calls i ++ called (f.step i).1 is

/-- The operations of a run. -/
def operations (f : Fusion α) (is : List (Input α)) : List (Op α) := f.fsm.opsOf (f.called is)

/-- **The machine of a run is the machine run on the calls of the run.** -/
theorem run_fsm (f : Fusion α) (is : List (Input α)) :
    (run step f is).fsm = run callStep f.fsm (f.called is) := by
  induction is generalizing f with
  | nil => rfl
  | cons i is ih => rw [run_cons, ih, step_fsm, called, run_append]

theorem run_operations (f : Fusion α) (is : List (Input α)) :
    (run step f is).fsm = run opStep f.fsm (f.operations is) :=
  (run_fsm f is).trans (StateMachine.run_opsOf ..).symm

end Fusion

end FlyingSquirrel

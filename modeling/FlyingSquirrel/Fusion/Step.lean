import FlyingSquirrel.Fusion.State

/-!
# One step of the fusion task (`fusion.rs`)

`step` takes an IMU sample, a GPS fix, an operator reset, or the end of a background task.
All the weight is in `onGps`, which splits three ways before it does anything else:

* **no origin yet** (`onFirstFix`): the only place the expected home is looked at;
* **preflight not ready** (`onPreflightFix`): nothing is evaluated, and the fix re-anchors
  when the buffer cannot serve its time;
* **armed** (`onArmedFix`): the trackers, then the interpolation, then `evaluateFix`.

The body of the last one is a chain of stages, `andThen` after `andThen`, and each stage
that the source sets off with a comment is a definition here. Only one of them,
`onSpoofed`, calls `sever_gps` or `engage_rtb`.
-/

namespace FlyingSquirrel

open Lib

def cusumToJson {α : Type} (s : CusumState α) : Json α :=
  .obj [("s_pos_n", .num s.sPosN), ("s_neg_n", .num s.sNegN), ("s_pos_e", .num s.sPosE),
    ("s_neg_e", .num s.sNegE), ("s_mag", .num s.sMag), ("s_vel_aiding", .num s.sVelAiding)]

def Call.name : Call → String
  | .severGps => "sever_gps"
  | .engageRtb => "engage_rtb"
  | .reset => "reset"

namespace Fusion

variable {α : Type} [Zero α] [One α] [Neg α] [Add α] [Sub α] [Mul α] [Div α] [NatCast α]
  [OfScientific α] [LT α] [LE α] [DecidableLT α] [DecidableLE α] [BEq α] [Max α] [Min α]
  [Libm α] [FiniteTest α] [Nalgebra α]

/-! ## IMU samples -/

def onImu (f : Fusion α) (sample : ImuSample α) : Fusion α :=
  let (nav, result) := f.nav.step sample
  let buffer :=
    match result with
    | .ok (some snap) => f.buffer.push snap
    | _ => f.buffer
  { f with
    forensic := f.forensic.map (·.pushImu (f.tSecs sample.t) sample)
    nav := nav
    buffer := buffer
    checklist := { f.checklist with
      staticInitDone := f.checklist.staticInitDone || nav.isInitialized } }

/-! ## Preflight -/

/-- The checklist with what the monitor says, where there is one. -/
def checklistNow (f : Fusion α) (env : Env α) : PreflightChecklist :=
  if f.mavMonitor then
    let hbFresh := env.monitor.heartbeatFresh env.now f.boot 3000000000
    { f.checklist with
      heartbeatSeen := hbFresh
      autopilotMatches :=
        match f.expectedAutopilot with
        | some want => hbFresh && env.monitor.currentAutopilot == want
        | none => true }
  else f.checklist

/-- A failing preflight is reported at most every five seconds. -/
def preflightFailedDue (f : Fusion α) (tSecs : α) : Bool :=
  match f.lastPreflightFailedEmitS with
  | some last => decide (tSecs - last ≥ 5.0)
  | none => true

def refreshPreflight (f : Fusion α) (env : Env α) (t : Timestamp) :
    Fusion α × List (Output α) :=
  if f.preflight = .ready then (f, [])
  else
    let f := { f with checklist := f.checklistNow env }
    if f.checklist.allOk then
      ({ f with preflight := .ready },
        [f.report t .preflightPassed 0 (.obj [("checklist", f.checklist.toJson)])])
    else if f.preflightFailedDue (f.tSecs t) then
      ({ f with lastPreflightFailedEmitS := some (f.tSecs t) },
        [f.report t .preflightFailed 0 (.obj [("checklist", f.checklist.toJson)])])
    else (f, [])

/-- A fix before there is an origin: checked against the expected home, then anchored. -/
def onFirstFix (f : Fusion α) (env : Env α) (fix : GpsFix α) : Fusion α × List (Output α) :=
  match f.nav.isFirstFixPlausible fix with
  | .error distanceM =>
    (f, [f.report fix.t .bootAnchorRejected distanceM
      (.obj [("lat_deg", .num fix.latDeg), ("lon_deg", .num fix.lonDeg),
        ("distance_from_expected_home_m", .num distanceM)])])
  | .ok () =>
    refreshPreflight
      { f with
        nav := f.nav.onGpsFix fix
        checklist := { f.checklist with firstFixAccepted := true } }
      env fix.t

/-- Re-anchor with the fix when the buffer cannot serve its time. -/
def preflightAnchor (f : Fusion α) (fix : GpsFix α) : Fusion α :=
  if f.buffer.isEmpty = true ∨ (f.buffer.interpolate (f.tSecs fix.t)).toBool = false then
    { f with nav := f.nav.onGpsFix fix, fsm := f.fsm.onCleanAnchor }
  else f

/-- A fix while preflight is not ready: nothing is evaluated. -/
def onPreflightFix (f : Fusion α) (env : Env α) (fix : GpsFix α) :
    Fusion α × List (Output α) :=
  andThen (f.refreshPreflight env fix.t) fun f => (f.preflightAnchor fix, [])

/-! ## The trackers an armed fix goes through before its residual -/

def dropoutSeconds (f : Fusion α) (t : α) : α :=
  match f.lastGpsTSecs with
  | some prev => t - prev
  | none => 0

/-- Remember the fix's time, and flag a fix on the far side of a dropout. -/
def noteGap (f : Fusion α) (t : α) : Fusion α :=
  let fsm := if f.dropoutSeconds t > f.gpsDropoutFreezeS then f.fsm.noteDropoutRecovery
    else f.fsm
  { f with lastGpsTSecs := some t, fsm := fsm }

/-- Report a dwell pause that an earlier fix was refused. -/
def drainDwellNotice (f : Fusion α) (fix : GpsFix α) : Fusion α × List (Output α) :=
  if f.fsm.dwellPauseExceededPending then
    let f := { f with fsm := { f.fsm with dwellPauseExceededPending := false } }
    (f, [f.report fix.t .dwellPauseExceeded 0
      (.obj [("consecutive_dropouts", .int f.fsm.consecutiveDropout),
        ("paused_cumulative_s", .num f.fsm.pausedCumulativeS),
        ("reason", .str ("GPS dropout pause cap exceeded (consecutive streak or " ++
          "cumulative per-episode budget); dwell timer resuming"))])])
  else (f, [])

/-- Whether the fix is pinned to the frozen anchor. -/
def frozenCandidate (f : Fusion α) (fix : GpsFix α) : Bool :=
  match f.frozenAnchorLla with
  | some (lat, lon) =>
    decide ((llaToNed fix.latDeg fix.lonDeg 0 lat lon).horizontalNorm < frozenFixRadiusM)
  | none => false

/-- A fix away from the anchor restarts the frozen streak at itself. -/
def trackFrozen (f : Fusion α) (fix : GpsFix α) : Fusion α :=
  if f.frozenCandidate fix then f
  else
    { f with
      frozenAnchorLla := some (fix.latDeg, fix.lonDeg)
      frozenFixStreak := 0
      frozenImuDisplacementM := 0 }

/-! ## The residual and the detectors outside the machine -/

/-- The residual of a fix against the interpolated dead-reckoned state. -/
def residual (f : Fusion α) (fix : GpsFix α) (gpsNed pImu : NedPos α) (vImu : NedVel α) :
    Residual α :=
  let dpos : NedPos α := ⟨gpsNed.n - pImu.n, gpsNed.e - pImu.e, gpsNed.d - pImu.d⟩
  match gpsVelocity fix with
  | some vGps =>
    let dvel : NedVel α := ⟨vGps.n - vImu.n, vGps.e - vImu.e, vGps.d - vImu.d⟩
    let aiding := f.nav.aidingVel
    let dvelFree : NedVel α := ⟨dvel.n + aiding.n, dvel.e + aiding.e, dvel.d + aiding.d⟩
    { dpos := dpos, dvel := dvel, magPos := dpos.horizontalNorm,
      magVel := dvel.horizontalNorm, dvelKnown := true, dvelFree := dvelFree,
      magVelFree := dvelFree.horizontalNorm, maneuvering := f.nav.isManeuvering }
  | none =>
    { dpos := dpos, dvel := NedVel.default, magPos := dpos.horizontalNorm, magVel := 0,
      dvelKnown := false, dvelFree := NedVel.default, magVelFree := 0,
      maneuvering := f.nav.isManeuvering }

/-- Keep the fix and its residual for a dump. -/
def captureForensic (f : Fusion α) (fix : GpsFix α) (t : α) (r : Residual α) : Fusion α :=
  { f with forensic := f.forensic.map fun fb =>
      (fb.pushGps t fix).pushResidual t r f.fsm.state }

/-- One more fix of a frozen streak: inertial displacement accrues while the vehicle moves,
    over the gap capped at the dropout threshold. -/
def accrueFrozen (f : Fusion α) (dropoutS vH : α) : Fusion α :=
  { f with
    frozenFixStreak := succU8 f.frozenFixStreak
    frozenImuDisplacementM :=
      if vH > frozenFixMinImuVelMps then
        f.frozenImuDisplacementM + vH * clamp dropoutS 0 f.gpsDropoutFreezeS
      else f.frozenImuDisplacementM }

/-- Accrue over a frozen interval, and fire on enough displacement. -/
def checkFrozen (f : Fusion α) (fix : GpsFix α) (dropoutS : α) (candidate : Bool)
    (vImu : NedVel α) (r : Residual α) : Fusion α × List (Output α) :=
  if candidate then
    let vH := vImu.horizontalNorm
    let f := f.accrueFrozen dropoutS vH
    if f.frozenImuDisplacementM ≥ frozenMinImuDisplacementM then
      ({ f with fsm := f.fsm.noteExternalAnomaly },
        [f.report fix.t .frozenGps r.magPos
          (.obj [("streak", .int f.frozenFixStreak),
            ("imu_displacement_m", .num f.frozenImuDisplacementM),
            ("v_imu_horizontal_mps", .num vH), ("lat_deg", .num fix.latDeg),
            ("lon_deg", .num fix.lonDeg),
            ("reason", .str ("GPS pinned within 0.5 m of a fixed point while inertial " ++
              "dead-reckoning shows the vehicle moving (stuck module or replay)"))])])
    else (f, [])
  else (f, [])

/-- The altitude rate since the previous fix, over an interval it is assessed on: longer
    than a millisecond and no dropout. -/
def verticalRate (f : Fusion α) (altM t : α) : Option α :=
  match f.lastGpsAlt with
  | some (prevAlt, prevT) =>
    let dtAlt := t - prevT
    if dtAlt > 1e-3 ∧ dtAlt ≤ f.gpsDropoutFreezeS then some (fabs (altM - prevAlt) / dtAlt)
    else none
  | none => none

def verticalAlarm (f : Fusion α) (altM t : α) : Bool :=
  match f.verticalRate altM t with
  | some rate => decide (rate > f.maxVerticalRateMps)
  | none => false

/-- Fire on an implausible altitude rate, and remember the altitude. -/
def checkVerticalRate (f : Fusion α) (fix : GpsFix α) (t : α) (r : Residual α) :
    Fusion α × List (Output α) :=
  let done (f : Fusion α) : Fusion α := { f with lastGpsAlt := some (fix.altM, t) }
  if f.verticalAlarm fix.altM t then
    (done { f with fsm := f.fsm.noteExternalAnomaly },
      [f.report fix.t .jump r.magPos
        (.obj [("reason", .str "VerticalRate"),
          ("alt_rate_mps", .num ((f.verticalRate fix.altM t).getD 0)),
          ("max_vertical_rate_mps", .num f.maxVerticalRateMps), ("alt_m", .num fix.altM),
          ("prev_alt_m", .num ((f.lastGpsAlt.map (·.1)).getD 0)),
          ("detail", .str ("GPS altitude changed faster than physically plausible " ++
            "— vertical-spoof indicator (horizontal residual unaffected)"))])])
  else (done f, [])

/-- Count fixes without Doppler, and report the tenth in a row. -/
def checkDoppler (f : Fusion α) (fix : GpsFix α) (r : Residual α) :
    Fusion α × List (Output α) :=
  if r.dvelKnown then ({ f with noDopplerStreak := 0 }, [])
  else
    let f := { f with noDopplerStreak := succU16 f.noDopplerStreak }
    if f.noDopplerStreak = 10 then
      (f, [f.report fix.t .syncWarning r.magPos
        (.obj [("reason", .str ("GPS missing Doppler (speed/course) for 10+ consecutive " ++
          "fixes — velocity-mismatch detection inactive; using tightened position-clean " ++
          "gate"))])])
    else (f, [])

/-! ## Acting on the machine's events -/

def emit (f : Fusion α) (ev : Event) (fix : GpsFix α) (r : Residual α) : Output α :=
  match ev with
  | .jump j =>
    f.report fix.t .jump r.magPos
      (.obj [("reason", .str j.debug), ("dpos_n_m", .num r.dpos.n),
        ("dpos_e_m", .num r.dpos.e), ("dvel_n_mps", .num r.dvel.n),
        ("dvel_e_mps", .num r.dvel.e)])
  | .drift d =>
    f.report fix.t .drift r.magPos
      (.obj [("reason", .str d.debug), ("dpos_n_m", .num r.dpos.n),
        ("dpos_e_m", .num r.dpos.e), ("mag_vel_free_mps", .num r.magVelFree),
        ("cusum", cusumToJson f.fsm.drift.state)])
  | .transition source target =>
    f.report fix.t .stateTransition r.magPos
      (.obj [("from", .str source.debug), ("to", .str target.debug)])

/-- The `Debug` text of a transition event, which the dump carries. -/
def debugTransition (source target : NavStateKind) : String :=
  "Transition \x7b from: " ++ source.debug ++ ", to: " ++ target.debug ++ " \x7d"

/-- Start the one forensic dump of the process, or report that it is suppressed. -/
def maybeTriggerForensicDump (f : Fusion α) (now : Instant) (source : NavStateKind)
    (r : Residual α) : Fusion α × List (Output α) :=
  match f.forensic with
  | none => (f, [])
  | some fb =>
    let (fb', won) := fb.tryClaimDump
    if won = false then
      (f, [.event (SpoofingEvent.new (.nowMono now) .forensicDumpSuppressed .spoofed r.magPos
        (.obj [("reason",
          .str "forensic dump already written for this process; restart to re-arm")])
        f.boot)])
    else
      ({ f with forensic := some fb' },
        [.spawn (.forensicDump (fb'.snapshot (now - f.boot)
          (.spoofedTransition source .spoofed r.magPos
            (.obj [("event", .str (debugTransition source .spoofed))]))))])

def tryAction (f : Fusion α) (which : Call) (result : Except String Unit) (fix : GpsFix α) :
    List (Output α) :=
  .call which ::
    match result with
    | .ok () => []
    | .error e =>
      [f.report fix.t .actionFailed 0
        (.obj [("action", .str which.name), ("error", .str e)])]

/-- What happens on a transition into Spoofed, in the source's order: the dump, the sever,
    its critical report where it failed, the return-to-base, and the two read-backs. -/
def onSpoofed (f : Fusion α) (env : Env α) (fix : GpsFix α) (r : Residual α)
    (source : NavStateKind) : Fusion α × List (Output α) :=
  andThen (f.maybeTriggerForensicDump env.now source r) fun f =>
    (f, f.tryAction .severGps env.severGps fix ++
      (match env.severGps with
        | .ok () => []
        | .error _ =>
          [f.report fix.t .actionFailed r.magPos
            (.obj [("action", .str "sever_gps"), ("severity", .str "CRITICAL"),
              ("consequence", .str ("engage_rtb will fire next but the autopilot is still " ++
                "using the (spoofed) GPS to navigate. Operator should assume RTL is " ++
                "compromised and take manual control."))])]) ++
      f.tryAction .engageRtb env.engageRtb fix ++
      [.spawn (.verifySever fix.t f.fsm.state), .spawn (.verifyRtb fix.t f.fsm.state)])

/-- A clear whose fix is too far from the dead-reckoned position is taken back. -/
def vetoClear (f : Fusion α) (fix : GpsFix α) (t : α) (since : Option α) (distance : α) :
    Fusion α × List (Output α) :=
  let f := { f with fsm := f.fsm.forceBackToSuspicious t since }
  (f, [f.report fix.t .bootAnchorRejected distance
    (.obj [("phase", .str "susp_to_normal_re_anchor"), ("distance_from_dr_m", .num distance),
      ("max_m", .num f.reAnchorMaxDistanceM),
      ("reason", .str "post-jam fix too far from dead-reckoned position")])])

/-- An accepted clear: re-anchor at the fix, drop the snapshots of the old origin, and let
    the machine forget the episode. -/
def commitClear (f : Fusion α) (fix : GpsFix α) : Fusion α :=
  { f with
    nav := f.nav.reAnchorAfterClearing fix
    buffer := f.buffer.clear
    fsm := f.fsm.commitSuspToNormal }

/-- One event of the machine, in the loop over them. -/
def handleEvent (f : Fusion α) (env : Env α) (fix : GpsFix α) (gpsNed : NedPos α) (t : α)
    (r : Residual α) (since : Option α) (ev : Event) : Fusion α × List (Output α) :=
  let follow (f : Fusion α) (target : NavStateKind) : Fusion α :=
    { f with nav := f.nav.setState target }
  match ev with
  | .transition .suspicious .normal =>
    match validateFixAgainstReference gpsNed f.nav.drPos f.reAnchorMaxDistanceM with
    | .error distance => f.vetoClear fix t since distance
    | .ok () => ((follow f .normal).commitClear fix, [f.emit ev fix r])
  | .transition source .spoofed =>
    andThen (follow f .spoofed, [f.emit ev fix r]) fun f => f.onSpoofed env fix r source
  | .transition _ target => (follow f target, [f.emit ev fix r])
  | _ => (f, [f.emit ev fix r])

def handleEvents (f : Fusion α) (env : Env α) (fix : GpsFix α) (gpsNed : NedPos α) (t : α)
    (r : Residual α) (since : Option α) : List Event → Fusion α × List (Output α)
  | [] => (f, [])
  | ev :: evs =>
    andThen (f.handleEvent env fix gpsNed t r since ev) fun f =>
      f.handleEvents env fix gpsNed t r since evs

/-- The blend at the end of an evaluated fix, in Normal only. -/
def finalBlend (f : Fusion α) (fix : GpsFix α) : Fusion α :=
  if f.fsm.state = .normal then { f with nav := f.nav.onGpsFix fix } else f

/-- The machine with its residual detectors gated on Doppler. -/
def gatedFsm (f : Fusion α) (r : Residual α) : StateMachine α :=
  f.fsm.setPosDetectorsEnabled
    (r.dvelKnown || decide (f.noDopplerStreak < noDopplerGateStreak))

/-- Gate the residual detectors, evaluate, act on the events, blend. -/
def decideFix (f : Fusion α) (env : Env α) (fix : GpsFix α) (gpsNed : NedPos α) (t : α)
    (r : Residual α) : Fusion α × List (Output α) :=
  let since := f.fsm.suspiciousSince
  let (fsm, evs) := (f.gatedFsm r).evaluate r t fix.hdop fix.sats
  andThen (handleEvents { f with fsm := fsm } env fix gpsNed t r since evs) fun f =>
    (f.finalBlend fix, [])

/-- An armed fix whose time the buffer serves. -/
def evaluateFix (f : Fusion α) (env : Env α) (fix : GpsFix α) (gpsNed : NedPos α)
    (t dropoutS : α) (candidate : Bool) (vImu : NedVel α) (r : Residual α) :
    Fusion α × List (Output α) :=
  andThen ((f.captureForensic fix t r).checkFrozen fix dropoutS candidate vImu r) fun f =>
  andThen (f.checkVerticalRate fix t r) fun f =>
  andThen (f.checkDoppler fix r) fun f =>
  f.decideFix env fix gpsNed t r

/-- An armed fix whose time the buffer does not serve: reported, passed to nav, and not
    evaluated. -/
def skipFix (f : Fusion α) (fix : GpsFix α) (e : DetectError) :
    Fusion α × List (Output α) :=
  ({ f with nav := f.nav.onGpsFix fix },
    [f.report fix.t .syncWarning 0 (.obj [("reason", .str e.message)])])

def onArmedFix (f : Fusion α) (env : Env α) (fix : GpsFix α) (gpsNed : NedPos α) :
    Fusion α × List (Output α) :=
  let t := f.tSecs fix.t
  let dropoutS := f.dropoutSeconds t
  let candidate := f.frozenCandidate fix
  andThen ((f.noteGap t).drainDwellNotice fix) fun f =>
    let f := f.trackFrozen fix
    match f.buffer.interpolate t with
    | .error e => f.skipFix fix e
    | .ok (pImu, vImu) =>
      f.evaluateFix env fix gpsNed t dropoutS candidate vImu (f.residual fix gpsNed pImu vImu)

def onGps (f : Fusion α) (env : Env α) (fix : GpsFix α) : Fusion α × List (Output α) :=
  match f.nav.gpsInNed fix with
  | none => f.onFirstFix env fix
  | some gpsNed =>
    if f.preflight ≠ .ready then f.onPreflightFix env fix
    else f.onArmedFix env fix gpsNed

/-! ## Operator reset and background tasks -/

/-- The operator-reset branch. A failing `controller.reset` is only logged. -/
def operatorReset (f : Fusion α) (now : Instant) : Fusion α × List (Output α) :=
  let prev := f.fsm.state
  let f := { f with
    fsm := f.fsm.manualResetToNormal
    nav := f.nav.setState .normal
    lastGpsTSecs := none
    frozenAnchorLla := none
    frozenFixStreak := 0
    frozenImuDisplacementM := 0
    noDopplerStreak := 0
    lastGpsAlt := none }
  (f, [.call .reset,
    .event (SpoofingEvent.new (.nowMono now) .stateTransition .normal 0
      (.obj [("from", .str prev.debug), ("to", .str "Normal"),
        ("reason", .str "operator_reset")])
      f.boot)])

/-- The end of a background task: an event, and the dump slot back after a failed write. -/
def onBackground (f : Fusion α) (now : Instant) (done : BgDone) :
    Fusion α × List (Output α) :=
  let event (t : Timestamp) (kind : SpoofKind) (state : NavStateKind) (detail : Json α) :
      Output α := .event (SpoofingEvent.new t kind state 0 detail f.boot)
  let severUnconfirmed (t : Timestamp) (state : NavStateKind) : Output α :=
    event t .actionFailed state
      (.obj [("action", .str "sever_gps"), ("phase", .str "readback"),
        ("severity", .str "CRITICAL"),
        ("consequence", .str ("autopilot did NOT confirm the GPS-disable parameter (no " ++
          "causal PARAM_VALUE=0 echo). The drone may still be navigating on the spoofed " ++
          "GPS while in RTL. Take manual control."))])
  match done with
  | .dumpWritten path bytes =>
    (f, [event (.nowMono now) .forensicDumpWritten .spoofed
      (.obj [("path", .str path), ("bytes_estimated", .int bytes)])])
  | .dumpFailed e =>
    ({ f with forensic := f.forensic.map (·.releaseDumpClaim) },
      [event (.nowMono now) .forensicDumpFailed .spoofed (.obj [("error", .str e)])])
  | .sever _ _ (.ok true) => (f, [])
  | .sever t state _ => (f, [severUnconfirmed t state])
  | .rtb t state (.ok true) =>
    (f, [event t .actionAcked state
      (.obj [("action", .str "engage_rtb"), ("confirmed", .bool true)])])
  | .rtb t state (.ok false) =>
    (f, [event t .actionUnconfirmed state
      (.obj [("action", .str "engage_rtb"),
        ("reason",
          .str "autopilot mode did not transition to RTL within verification window")])])
  | .rtb t state (.error e) =>
    (f, [event t .actionUnconfirmed state
      (.obj [("action", .str "engage_rtb"), ("verify_error", .str e)])])

def step (f : Fusion α) : Input α → Fusion α × List (Output α)
  | .imu sample => (f.onImu sample, [])
  | .gps fix env => f.onGps env fix
  | .reset now => f.operatorReset now
  | .background now done => f.onBackground now done

end Fusion

end FlyingSquirrel

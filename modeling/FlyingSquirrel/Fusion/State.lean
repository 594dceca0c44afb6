import FlyingSquirrel.Detect.StateMachine
import FlyingSquirrel.Forensic
import FlyingSquirrel.Fusion.Config
import FlyingSquirrel.Lib.Run
import FlyingSquirrel.Mav.Monitor

/-!
# The fusion task's state, inputs and outputs (`fusion.rs`)

The task owns a dead-reckoner, a state machine and a residual buffer, and a dozen trackers
of its own. What it shares with other tasks it reads through `Env`: the clock, the monitor's
content, and how the controller's calls end.

What it does to the outside is a list of `Output`s in order: events on the broadcast
channel, calls of the flight controller, background tasks started. A background task that
ends is an input like any other, so a dump that fails three fixes later is a run of this
machine.
-/

namespace FlyingSquirrel

open Lib

inductive PreflightState
  | initializing
  | ready
deriving DecidableEq, Repr

structure PreflightChecklist where
  staticInitDone : Bool
  firstFixAccepted : Bool
  heartbeatSeen : Bool
  autopilotMatches : Bool
deriving DecidableEq, Repr

namespace PreflightChecklist

def allOk (c : PreflightChecklist) : Bool :=
  c.staticInitDone && c.firstFixAccepted && c.heartbeatSeen && c.autopilotMatches

def toJson {α : Type} (c : PreflightChecklist) : Json α :=
  .obj [("static_init_done", .bool c.staticInitDone),
    ("first_fix_accepted", .bool c.firstFixAccepted),
    ("heartbeat_seen", .bool c.heartbeatSeen),
    ("autopilot_matches", .bool c.autopilotMatches)]

end PreflightChecklist

structure Fusion (α : Type) where
  nav : DeadReckoner α
  fsm : StateMachine α
  buffer : ResidualBuffer α
  boot : Instant
  lastGpsTSecs : Option α
  gpsDropoutFreezeS : α
  reAnchorMaxDistanceM : α
  /-- Fixes in a row without GPS velocity. -/
  noDopplerStreak : Nat
  /-- The fix the current frozen streak is compared with. -/
  frozenAnchorLla : Option (α × α)
  frozenFixStreak : Nat
  frozenImuDisplacementM : α
  /-- Altitude and time of the previous fix. -/
  lastGpsAlt : Option (α × α)
  maxVerticalRateMps : α
  preflight : PreflightState
  checklist : PreflightChecklist
  /-- Whether a monitor is wired in; its content is read from the environment. -/
  mavMonitor : Bool
  expectedAutopilot : Option Nat
  /-- `none` stands for the source's initial minus infinity. -/
  lastPreflightFailedEmitS : Option α
  /-- The forensic buffer, present exactly when a dump directory is. -/
  forensic : Option (ForensicBuffer α)

/-- What one step reads of the rest of the process. -/
structure Env (α : Type) where
  now : Instant
  monitor : MavMonitor α
  /-- How a call of `sever_gps` ends; the error is its text. -/
  severGps : Except String Unit
  /-- How a call of `engage_rtb` ends. -/
  engageRtb : Except String Unit

inductive Call
  | severGps
  | engageRtb
  | reset
deriving DecidableEq, Repr

/-- A task started in the background, with what it captured. -/
inductive BgTask (α : Type)
  | forensicDump (snap : ForensicSnapshot α)
  | verifySever (t : Timestamp) (state : NavStateKind)
  | verifyRtb (t : Timestamp) (state : NavStateKind)

inductive BgDone
  | dumpWritten (path : String) (bytesEstimated : Nat)
  | dumpFailed (error : String)
  | sever (t : Timestamp) (state : NavStateKind) (result : Except String Bool)
  | rtb (t : Timestamp) (state : NavStateKind) (result : Except String Bool)

inductive Output (α : Type)
  | event (e : SpoofingEvent α)
  | call (c : Call)
  | spawn (task : BgTask α)

inductive Input (α : Type)
  | imu (sample : ImuSample α)
  | gps (fix : GpsFix α) (env : Env α)
  | reset (now : Instant)
  | background (now : Instant) (done : BgDone)

namespace Fusion

variable {α : Type} [Zero α] [One α] [Neg α] [Add α] [Sub α] [Mul α] [Div α] [NatCast α]
  [OfScientific α] [LT α] [LE α] [DecidableLT α] [DecidableLE α] [BEq α] [Max α] [Min α]
  [Libm α] [FiniteTest α] [Nalgebra α]

/-- How close to the frozen anchor a fix must stay, metres. -/
def frozenFixRadiusM : α := 0.5
/-- Inertial displacement at a pinned position before it counts as frozen, metres. -/
def frozenMinImuDisplacementM : α := 5.0
/-- Inertial speed above which the vehicle counts as moving. -/
def frozenFixMinImuVelMps : α := 1.0
/-- Fixes without Doppler after which the residual detectors are gated off. -/
def noDopplerGateStreak : Nat := 10

def new (cfg : FusionConfig α) (boot : Instant) : Fusion α where
  nav := DeadReckoner.new cfg.nav boot
  fsm := StateMachine.new cfg.detect
  buffer := ResidualBuffer.new cfg.residualWindowS cfg.maxImuRateHz
  boot := boot
  lastGpsTSecs := none
  gpsDropoutFreezeS := cfg.detect.gpsDropoutFreezeS
  reAnchorMaxDistanceM := cfg.detect.reAnchorMaxDistanceM
  noDopplerStreak := 0
  frozenAnchorLla := none
  frozenFixStreak := 0
  frozenImuDisplacementM := 0
  lastGpsAlt := none
  maxVerticalRateMps := cfg.detect.maxVerticalRateMps
  preflight := .initializing
  checklist := ⟨false, false, true, true⟩
  mavMonitor := false
  expectedAutopilot := none
  lastPreflightFailedEmitS := none
  forensic := none

/-- Wire in the monitor: preflight now waits for a matching autopilot. -/
def withMavMonitor (f : Fusion α) (expectedAutopilot : Nat) : Fusion α :=
  { f with
    mavMonitor := true
    expectedAutopilot := some expectedAutopilot
    checklist := { f.checklist with heartbeatSeen := false, autopilotMatches := false } }

def withForensic (f : Fusion α) (windowS maxImuRateHz : α) : Fusion α :=
  { f with forensic := some (ForensicBuffer.new windowS maxImuRateHz) }

/-- The states a task can start from: `new`, then any of the builders. -/
inductive Built (cfg : FusionConfig α) (boot : Instant) : Fusion α → Prop
  | new : Built cfg boot (Fusion.new cfg boot)
  | withMavMonitor {f : Fusion α} (h : Built cfg boot f) (expectedAutopilot : Nat) :
      Built cfg boot (f.withMavMonitor expectedAutopilot)
  | withForensic {f : Fusion α} (h : Built cfg boot f) (windowS maxImuRateHz : α) :
      Built cfg boot (f.withForensic windowS maxImuRateHz)

theorem Built.fsm {α : Type} [Zero α] [One α] [Mul α] [OfScientific α] [Libm α]
    {cfg : FusionConfig α} {boot : Instant} {f : Fusion α} (h : Built cfg boot f) :
    f.fsm = StateMachine.new cfg.detect := by
  induction h with
  | new => rfl
  | withMavMonitor _ _ ih => exact ih
  | withForensic _ _ _ ih => exact ih

def tSecs (f : Fusion α) (t : Timestamp) : α := asSecs (t.mono - f.boot)

/-- `SpoofingEvent::new` in the current machine state, as an output. -/
def report (f : Fusion α) (t : Timestamp) (kind : SpoofKind) (residualM : α)
    (detail : Json α) : Output α :=
  .event (SpoofingEvent.new t kind f.fsm.state residualM detail f.boot)

end Fusion

end FlyingSquirrel

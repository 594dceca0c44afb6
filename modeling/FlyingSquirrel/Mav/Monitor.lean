import FlyingSquirrel.Lib.RecencyMap
import FlyingSquirrel.Types

/-!
# The autopilot monitor (`mav/monitor.rs`)

What the listener has heard of the connected autopilot, read by the preflight check and by
the controller's read-backs. Each `record*` function is one write by the listener and each
accessor one read. Times are nanoseconds since the link's `boot`, and a `u64` of those
lasts five centuries, so its wrap-around is left out.
-/

namespace FlyingSquirrel

open Lib

/-- `(now - boot).as_nanos()`. -/
def sinceBoot (now boot : Instant) : Nat := now - boot

inductive VehicleProfile
  | arduCopter
  | px4
deriving DecidableEq, Repr

def arducopterModeRtl : Nat := 6
def arducopterModeSmartRtl : Nat := 21
def arducopterModeLand : Nat := 9
def px4MainModeAuto : Nat := 4
def px4SubModeAutoRtl : Nat := 5
def px4SubModeAutoLand : Nat := 6
def px4SubModeAutoRtgs : Nat := 7
def px4SubModeAutoDescend : Nat := 20

/-- Main and sub mode of PX4's packed `custom_mode`. -/
def px4SplitMode (customMode : Nat) : Nat × Nat :=
  ((customMode >>> 16) &&& 0xFF, (customMode >>> 24) &&& 0xFF)

/-- Whether `customMode` is an RTL-equivalent state of the profile. -/
def isRtlMode (profile : VehicleProfile) (customMode : Nat) : Bool :=
  match profile with
  | .arduCopter =>
    customMode == arducopterModeRtl || customMode == arducopterModeSmartRtl ||
      customMode == arducopterModeLand
  | .px4 =>
    let (main, sub) := px4SplitMode customMode
    main == px4MainModeAuto &&
      (sub == px4SubModeAutoRtl || sub == px4SubModeAutoLand ||
        sub == px4SubModeAutoRtgs || sub == px4SubModeAutoDescend)

def mavModeFlagSafetyArmed : Nat := 0x80

/-- The latest echo of one parameter, with the running count of its echoes. -/
structure ParamEcho (α : Type) where
  value : α
  paramType : Nat
  recvNs : Nat
  recvCount : Nat
deriving Repr

/-- A parameter name: bytes. -/
abbrev ParamName := List Nat

structure SocketAddr where
  ip : Nat
  port : Nat
deriving DecidableEq, Repr

structure MavMonitor (α : Type) where
  lastHeartbeatNs : Nat
  currentCustomMode : Nat
  /-- When `currentCustomMode` last took a different value. -/
  modeChangedAtNs : Nat
  heartbeatEver : Bool
  currentBaseMode : Nat
  currentAutopilot : Nat
  systemStatus : Nat
  /-- Command to result and time of its latest acknowledgement. -/
  acksByCmd : Map Nat (Nat × Nat)
  paramsByName : Map ParamName (ParamEcho α)
  lockedSource : Option SocketAddr

namespace MavMonitor

variable {α : Type}

def new : MavMonitor α where
  lastHeartbeatNs := 0
  currentCustomMode := 0
  modeChangedAtNs := 0
  heartbeatEver := false
  currentBaseMode := 0
  currentAutopilot := 0
  systemStatus := 0
  acksByCmd := ∅
  paramsByName := ∅
  lockedSource := none

def mapCap : Nat := 64

/-- The fields of a HEARTBEAT the monitor keeps. -/
structure Heartbeat where
  customMode : Nat
  baseMode : Nat
  systemStatus : Nat
  autopilot : Nat
deriving DecidableEq, Repr

/-- One HEARTBEAT, at `ns`. -/
def recordHeartbeat (m : MavMonitor α) (ns : Nat) (hb : Heartbeat) : MavMonitor α :=
  { m with
    lastHeartbeatNs := ns
    currentCustomMode := hb.customMode
    currentBaseMode := hb.baseMode
    systemStatus := hb.systemStatus
    currentAutopilot := hb.autopilot
    modeChangedAtNs := if m.currentCustomMode ≠ hb.customMode then ns else m.modeChangedAtNs
    heartbeatEver := true }

def isArmed (m : MavMonitor α) : Bool := m.currentBaseMode &&& mavModeFlagSafetyArmed != 0

/-- One COMMAND_ACK, at `ns`. -/
def recordAck (m : MavMonitor α) (o : IterOrder Nat (Nat × Nat)) (ns command result : Nat) :
    MavMonitor α :=
  { m with acksByCmd := recordLatest o (·.2) mapCap command (result, ns) m.acksByCmd }

/-- Result and time of the latest acknowledgement of a command. -/
def lastAckForCmd (m : MavMonitor α) (command : Nat) : Option (Nat × Nat) :=
  m.acksByCmd.lookup command

/-- The logical name in a raw `param_id` field: what precedes the first NUL. -/
def trimName (paramId : ParamName) : ParamName := paramId.takeWhile (· != 0)

/-- One PARAM_VALUE, at `ns`. An empty name is dropped. -/
def recordParamValue (m : MavMonitor α) (o : IterOrder ParamName (ParamEcho α)) (ns : Nat)
    (paramId : ParamName) (value : α) (paramType : Nat) : MavMonitor α :=
  let name := trimName paramId
  if name = [] then m
  else
    let before := ((m.paramsByName.lookup name).map (·.recvCount)).getD 0
    let entry : ParamEcho α := ⟨value, paramType, ns, succU64 before⟩
    { m with paramsByName := recordLatest o (·.recvNs) mapCap name entry m.paramsByName }

def lastParamValue (m : MavMonitor α) (name : ParamName) : Option (ParamEcho α) :=
  m.paramsByName.lookup name

/-- A HEARTBEAT was ever seen, and the last one is at most `stalenessNs` old. -/
def heartbeatFresh (m : MavMonitor α) (now boot : Instant) (stalenessNs : Nat) : Bool :=
  m.heartbeatEver && decide (sinceBoot now boot - m.lastHeartbeatNs ≤ stalenessNs)

/-- Lock onto the first source with the expected port, then accept no other. -/
def checkOrLockSource (m : MavMonitor α) (src : SocketAddr) (expectedPort : Option Nat) :
    MavMonitor α × Bool :=
  match m.lockedSource with
  | some locked => (m, decide (locked = src))
  | none =>
    match expectedPort with
    | some want =>
      if src.port ≠ want then (m, false) else ({ m with lockedSource := some src }, true)
    | none => ({ m with lockedSource := some src }, true)

/-! ## What each record leaves alone -/

@[simp] theorem recordHeartbeat_paramsByName (m : MavMonitor α) (ns : Nat) (hb : Heartbeat) :
    (m.recordHeartbeat ns hb).paramsByName = m.paramsByName := rfl

@[simp] theorem recordHeartbeat_acksByCmd (m : MavMonitor α) (ns : Nat) (hb : Heartbeat) :
    (m.recordHeartbeat ns hb).acksByCmd = m.acksByCmd := rfl

@[simp] theorem recordAck_lastParamValue (m : MavMonitor α) (o : IterOrder Nat (Nat × Nat))
    (ns command result : Nat) (name : ParamName) :
    (m.recordAck o ns command result).lastParamValue name = m.lastParamValue name := rfl

end MavMonitor

end FlyingSquirrel

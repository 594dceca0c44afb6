import FlyingSquirrel.Mav.Aligner
import FlyingSquirrel.Mav.Monitor

/-!
# The MAVLink listener (`mav/mod.rs`)

One task reads the socket. A datagram passes a length check, the source-IP filter, the
decoder, the system-id filter and **the source lock**, in that order, and then goes to up to
two places: the monitor, for the three messages it keeps, and one of the three channels.

The lock is looked at in each of the four arms of the match on the message, and the match
comes before the channels: `fromLocked` is that look, and what follows it in the source is its
continuation here. The decoder is a crate of its own. It is the parameter `MavCrate`, which
answers a header and a message or an error.
-/

set_option autoImplicit false

namespace FlyingSquirrel

open Lib

/-- Inbound-packet filter. `none` lets everything through. -/
structure MavFilter where
  allowedSourceIp : Option Nat
  autopilotSysid : Option Nat
  /-- Lock on the source IP alone. -/
  allowAnySourcePort : Bool
deriving DecidableEq, Repr

structure MavStats where
  recvTotal : Nat
  droppedSourceIp : Nat
  droppedSysid : Nat
  droppedNonfinite : Nat
  droppedSourceLocked : Nat
  parseErrors : Nat
deriving DecidableEq, Repr

def MavStats.default : MavStats := ⟨0, 0, 0, 0, 0, 0⟩

/-! ## Messages -/

/-- GPS_RAW_INT, as the dialect's integers. -/
structure GpsRawInt where
  timeUsec : Nat
  fixType : Nat
  lat : Int
  lon : Int
  alt : Int
  vel : Nat
  cog : Nat
  eph : Nat
  satellitesVisible : Nat
deriving DecidableEq, Repr

structure HighresImu (α : Type) where
  timeUsec : Nat
  acc : Vec3 α
  gyro : Vec3 α
deriving Repr

/-- SCALED_IMU and its two siblings: milli-g and milli-radians per second. -/
structure ScaledImu where
  timeBootMs : Nat
  acc : Vec3 Int
  gyro : Vec3 Int
deriving DecidableEq, Repr

/-- The messages the listener tells apart. -/
inductive MavMessage (α : Type)
  | heartbeat (hb : MavMonitor.Heartbeat)
  | commandAck (command result : Nat)
  | paramValue (paramId : ParamName) (value : α) (paramType : Nat)
  | gpsRawInt (g : GpsRawInt)
  | highresImu (i : HighresImu α)
  | scaledImu (i : ScaledImu)
  | scaledImu2 (i : ScaledImu)
  | scaledImu3 (i : ScaledImu)
  | other (id : Nat) (payload : List Nat)

structure MavHeader where
  systemId : Nat
  componentId : Nat
  sequence : Nat
deriving DecidableEq, Repr

inductive MavlinkVersion
  | v1
  | v2
deriving DecidableEq, Repr

/-- The wire version of a start-of-frame byte. -/
def mavlinkVersionOf (magic : Nat) : MavlinkVersion :=
  if magic = 0xFD then .v2 else if magic = 0xFE then .v1 else .v2

/-- The decoder. -/
structure MavCrate (α : Type) where
  readVersionedMsg : List Nat → MavlinkVersion → Except String (MavHeader × MavMessage α)

section Convert

variable {α : Type} [Zero α] [Neg α] [Mul α] [NatCast α] [IntCast α] [OfScientific α] [LT α]
  [LE α] [DecidableLT α] [DecidableLE α] [FiniteTest α]

def gpsU16Unknown : Nat := 65535
def gpsU8Unknown : Nat := 255
def gMps2 : α := 9.80665

/-- The fix a message carries, if it is one with at least a 2D fix. The "unknown" values of the
    dialect become absent fields. -/
def gpsFromMsg (now : Instant) : MavMessage α → Option (GpsFix α)
  | .gpsRawInt g =>
    if g.fixType < 2 then none
    else some {
      t := .nowMono now
      latDeg := (g.lat : α) * 1e-7
      lonDeg := (g.lon : α) * 1e-7
      altM := (g.alt : α) * 1e-3
      speedMps := if g.vel = gpsU16Unknown then none else some ((g.vel : α) * 1e-2)
      courseDeg :=
        if g.cog = gpsU16Unknown ∨ g.cog > 35999 then none else some ((g.cog : α) * 1e-2)
      hdop := if g.eph = gpsU16Unknown then none else some ((g.eph : α) * 1e-2)
      sats :=
        if g.satellitesVisible = gpsU8Unknown then none else some g.satellitesVisible }
  | _ => none

def scaledImuSample (now : Instant) (i : ScaledImu) : ImuSample α where
  t := .nowMono now
  accelMps2 :=
    ⟨(i.acc.x : α) * 1e-3 * gMps2, (i.acc.y : α) * 1e-3 * gMps2, (i.acc.z : α) * 1e-3 * gMps2⟩
  gyroRps := ⟨(i.gyro.x : α) * 1e-3, (i.gyro.y : α) * 1e-3, (i.gyro.z : α) * 1e-3⟩

/-- The sample a message carries, if it is one of the four inertial messages. -/
def imuFromMsg (now : Instant) : MavMessage α → Option (ImuSample α)
  | .highresImu i => some ⟨.nowMono now, i.acc, i.gyro⟩
  | .scaledImu i => some (scaledImuSample now i)
  | .scaledImu2 i => some (scaledImuSample now i)
  | .scaledImu3 i => some (scaledImuSample now i)
  | _ => none

/-- The sensor time of a position message, in microseconds. Zero is "unknown". -/
def gpsSensorUs : MavMessage α → Option Nat
  | .gpsRawInt g => if g.timeUsec ≠ 0 then some g.timeUsec else none
  | _ => none

def scaledSensorUs (i : ScaledImu) : Option Nat :=
  if i.timeBootMs ≠ 0 then some (i.timeBootMs * 1000) else none

def imuSensorUs : MavMessage α → Option Nat
  | .highresImu i => if i.timeUsec ≠ 0 then some i.timeUsec else none
  | .scaledImu i => scaledSensorUs i
  | .scaledImu2 i => scaledSensorUs i
  | .scaledImu3 i => scaledSensorUs i
  | _ => none

/-- Nothing that is not finite or out of range gets past this. -/
def gpsFixIsPlausible (f : GpsFix α) : Bool :=
  isFinite f.latDeg && isFinite f.lonDeg && isFinite f.altM &&
    !(decide (fabs f.latDeg > 90.0) || decide (fabs f.lonDeg > 180.0)) &&
    !decide (fabs f.altM > 100000.0) &&
    (match f.speedMps with
      | some s => isFinite s && !decide (fabs s > 1000.0)
      | none => true) &&
    (match f.courseDeg with
      | some c => isFinite c && (decide (-720.0 ≤ c) && decide (c ≤ 720.0))
      | none => true)

def vecWithin (v : Vec3 α) (limit : α) : Bool :=
  [v.x, v.y, v.z].all fun x => isFinite x && !decide (fabs x > limit)

def imuSampleIsPlausible (s : ImuSample α) : Bool :=
  vecWithin s.accelMps2 200.0 && vecWithin s.gyroRps 35.0

end Convert

/-! ## The task -/

structure Datagram where
  src : SocketAddr
  bytes : List Nat
deriving DecidableEq, Repr

/-- What handling one datagram reads of the rest of the process: the clock, how the monitor's
    maps happen to be ordered, and the state of the channels' other ends. -/
structure ListenerEnv (α : Type) where
  now : Instant
  ackOrder : IterOrder Nat (Nat × Nat)
  paramOrder : IterOrder ParamName (ParamEcho α)
  gpsRxOpen : Bool
  imuRxOpen : Bool
  /-- `try_send` on the diagnostic channel finds room. -/
  otherAccepts : Bool

/-- What a datagram can bring about: a record in the monitor, or a message on a channel. -/
inductive MavEffect (α : Type)
  | heartbeat (ns : Nat) (hb : MavMonitor.Heartbeat)
  | ack (ns command result : Nat)
  | param (ns : Nat) (paramId : ParamName) (value : α) (paramType : Nat)
  | gps (fix : GpsFix α)
  | imu (sample : ImuSample α)
  | other (msg : MavMessage α)

inductive ListenerInput (α : Type)
  | datagram (d : Datagram) (env : ListenerEnv α)
  /-- `recv_from` fails. -/
  | recvError (transient : Bool)

structure Listener (α : Type) where
  filter : MavFilter
  remote : SocketAddr
  boot : Instant
  monitor : MavMonitor α
  stats : MavStats
  gpsAligner : ClockAligner
  imuAligner : ClockAligner
  running : Bool

namespace Listener

variable {α : Type} [Zero α] [Neg α] [Mul α] [NatCast α] [IntCast α] [OfScientific α] [LT α]
  [LE α] [DecidableLT α] [DecidableLE α] [FiniteTest α]

/-- The task `spawn_listener` starts on a link bound with a filter. -/
def spawn (filter : MavFilter) (remote : SocketAddr) (boot : Instant) : Listener α where
  filter := filter
  remote := remote
  boot := boot
  monitor := .new
  stats := .default
  gpsAligner := .default
  imuAligner := .default
  running := true

/-- The port the configured peer sends from, unless any is allowed. -/
def expectedPort (l : Listener α) : Option Nat :=
  if l.filter.allowAnySourcePort then none else some l.remote.port

def dropped (l : Listener α) (count : MavStats → MavStats) : Listener α × List (MavEffect α) :=
  ({ l with stats := count l.stats }, [])

/-- Put a fix on its channel, stamped and checked. -/
def sendGps (l : Listener α) (env : ListenerEnv α) (msg : MavMessage α) (fix : GpsFix α) :
    Listener α × List (MavEffect α) :=
  let (aligner, mono) := l.gpsAligner.align (gpsSensorUs msg) env.now
  let fix := { fix with t := { fix.t with mono := mono } }
  let l := { l with gpsAligner := aligner }
  if gpsFixIsPlausible fix = false then
    l.dropped fun s => { s with droppedNonfinite := s.droppedNonfinite + 1 }
  else if env.gpsRxOpen then (l, [.gps fix])
  else ({ l with running := false }, [])

/-- Put a sample on its channel, stamped and checked. -/
def sendImu (l : Listener α) (env : ListenerEnv α) (msg : MavMessage α) (sample : ImuSample α) :
    Listener α × List (MavEffect α) :=
  let (aligner, mono) := l.imuAligner.align (imuSensorUs msg) env.now
  let sample := { sample with t := { sample.t with mono := mono } }
  let l := { l with imuAligner := aligner }
  if imuSampleIsPlausible sample = false then
    l.dropped fun s => { s with droppedNonfinite := s.droppedNonfinite + 1 }
  else if env.imuRxOpen then (l, [.imu sample])
  else ({ l with running := false }, [])

/-- The channel a message goes to. -/
def forward (l : Listener α) (env : ListenerEnv α) (msg : MavMessage α) :
    Listener α × List (MavEffect α) :=
  match gpsFromMsg env.now msg with
  | some fix => l.sendGps env msg fix
  | none =>
    match imuFromMsg env.now msg with
    | some sample => l.sendImu env msg sample
    | none => (l, if env.otherAccepts then [.other msg] else [])

/-- The look at the source lock that each arm starts with. -/
def fromLocked (l : Listener α) (src : SocketAddr)
    (arm : Listener α → Listener α × List (MavEffect α)) : Listener α × List (MavEffect α) :=
  let (monitor, accepted) := l.monitor.checkOrLockSource src l.expectedPort
  let l := { l with monitor := monitor }
  if accepted = false then
    l.dropped fun s => { s with droppedSourceLocked := s.droppedSourceLocked + 1 }
  else arm l

/-- The match on a decoded message, and then the channels. -/
def onMessage (l : Listener α) (env : ListenerEnv α) (src : SocketAddr) (msg : MavMessage α) :
    Listener α × List (MavEffect α) :=
  let ns := sinceBoot env.now l.boot
  match msg with
  | .heartbeat hb =>
    l.fromLocked src fun l =>
      andThen ({ l with monitor := l.monitor.recordHeartbeat ns hb }, [.heartbeat ns hb])
        fun l => l.forward env msg
  | .commandAck command result =>
    l.fromLocked src fun l =>
      andThen
        ({ l with monitor := l.monitor.recordAck env.ackOrder ns command result },
          [.ack ns command result])
        fun l => l.forward env msg
  | .paramValue paramId value paramType =>
    l.fromLocked src fun l =>
      andThen
        ({ l with
            monitor := l.monitor.recordParamValue env.paramOrder ns paramId value paramType },
          [.param ns paramId value paramType])
        fun l => l.forward env msg
  | msg => l.fromLocked src fun l => l.forward env msg

def onDatagram (crate : MavCrate α) (l : Listener α) (env : ListenerEnv α) (d : Datagram) :
    Listener α × List (MavEffect α) :=
  let l := { l with stats := { l.stats with recvTotal := l.stats.recvTotal + 1 } }
  if d.bytes.length < 8 then
    l.dropped fun s => { s with parseErrors := s.parseErrors + 1 }
  else if l.filter.allowedSourceIp.any (· ≠ d.src.ip) then
    l.dropped fun s => { s with droppedSourceIp := s.droppedSourceIp + 1 }
  else
    match crate.readVersionedMsg d.bytes (mavlinkVersionOf (d.bytes.headD 0)) with
    | .ok (hdr, msg) =>
      if l.filter.autopilotSysid.any (· ≠ hdr.systemId) then
        l.dropped fun s => { s with droppedSysid := s.droppedSysid + 1 }
      else l.onMessage env d.src msg
    | .error _ => l.dropped fun s => { s with parseErrors := s.parseErrors + 1 }

/-- One turn of the loop. After a `break` there are no more. -/
def step (crate : MavCrate α) (l : Listener α) : ListenerInput α →
    Listener α × List (MavEffect α)
  | .datagram d env => if l.running then l.onDatagram crate env d else (l, [])
  | .recvError transient => if transient then (l, []) else ({ l with running := false }, [])

end Listener

end FlyingSquirrel

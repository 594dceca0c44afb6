import FlyingSquirrel.Lib.Num

/-!
# The data everything passes around (`types.rs`, `error.rs`)

Two conventions hold throughout the model.

* **Numbers.** `f64` and `f32` are one type `α`, and a cast between them is the identity.
  The fixed-width counters the source saturates are `Nat` with the saturation written out.
* **Time.** An `Instant` is a number of nanoseconds. `saturating_duration_since` is
  subtraction on `Nat`, which saturates the same way, and `as_secs_f64` divides by `10^9`.

A name in the source's snake case is the same name here in camel case.
-/

namespace FlyingSquirrel

/-- A point of the monotonic clock, in nanoseconds. -/
abbrev Instant := Nat

/-- `Duration::as_secs_f64`. -/
def asSecs {α : Type} [Div α] [NatCast α] [OfScientific α] (ns : Nat) : α := (ns : α) / 1e9

/-- `u8::saturating_add(1)`. -/
def succU8 (n : Nat) : Nat := min (n + 1) 255

theorem succU8_mono {m n : Nat} (h : m ≤ n) : succU8 m ≤ succU8 n :=
  min_le_min_right 255 (Nat.succ_le_succ h)

/-- `u16::saturating_add(1)`. -/
def succU16 (n : Nat) : Nat := min (n + 1) 65535

/-- `u32::saturating_add(1)`. -/
def succU32 (n : Nat) : Nat := min (n + 1) 4294967295

/-- `u64::saturating_add(1)`. -/
def succU64 (n : Nat) : Nat := min (n + 1) 18446744073709551615

/-- Two-clock timestamp: `mono` drives all the arithmetic, `utc` (milliseconds) is only
    carried into the events. -/
structure Timestamp where
  mono : Instant
  utc : Option Int
deriving DecidableEq, Repr

/-- `Timestamp::now_mono`, with the clock's reading passed in. -/
def Timestamp.nowMono (now : Instant) : Timestamp := ⟨now, none⟩

structure GpsFix (α : Type) where
  t : Timestamp
  latDeg : α
  lonDeg : α
  altM : α
  speedMps : Option α
  courseDeg : Option α
  hdop : Option α
  sats : Option Nat
deriving Repr

/-- The source's `[f32; 3]`. -/
structure Vec3 (α : Type) where
  x : α
  y : α
  z : α
deriving DecidableEq, Repr

/-- One IMU sample in the body frame: X forward, Y right, Z down. -/
structure ImuSample (α : Type) where
  t : Timestamp
  accelMps2 : Vec3 α
  gyroRps : Vec3 α
deriving Repr

/-- Position in a local NED tangent plane, in metres from its origin. -/
structure NedPos (α : Type) where
  n : α
  e : α
  d : α
deriving DecidableEq, Repr

structure NedVel (α : Type) where
  n : α
  e : α
  d : α
deriving DecidableEq, Repr

section Norms

variable {α : Type} [Zero α] [Add α] [Mul α] [Lib.Libm α]

def NedPos.default : NedPos α := ⟨0, 0, 0⟩

def NedVel.default : NedVel α := ⟨0, 0, 0⟩

def NedPos.horizontalNorm (p : NedPos α) : α := Lib.Libm.sqrt (p.n * p.n + p.e * p.e)

def NedVel.horizontalNorm (v : NedVel α) : α := Lib.Libm.sqrt (v.n * v.n + v.e * v.e)

end Norms

/-- Detector state. Latched at `spoofed`. -/
inductive NavStateKind
  | normal
  | suspicious
  | spoofed
deriving DecidableEq, Repr

/-- The derived `Debug` text, which the events carry. -/
def NavStateKind.debug : NavStateKind → String
  | .normal => "Normal"
  | .suspicious => "Suspicious"
  | .spoofed => "Spoofed"

inductive SpoofKind
  | jump
  | drift
  | stateTransition
  | syncWarning
  | actionFailed
  | actionAcked
  | actionUnconfirmed
  | linkDown
  | linkRestored
  | pilotModeChange
  | bootAnchorRejected
  | preflightFailed
  | preflightPassed
  | dwellPauseExceeded
  | frozenGps
  | forensicDumpWritten
  | forensicDumpFailed
  | forensicDumpSuppressed
deriving DecidableEq, Repr

/-- The part of `serde_json::Value` the events are built from. -/
inductive Json (α : Type)
  | bool (b : Bool)
  | int (i : Int)
  | num (x : α)
  | str (s : String)
  | obj (fields : List (String × Json α))

/-- Single anomaly record emitted on the broadcast channel. -/
structure SpoofingEvent (α : Type) where
  monoNs : Nat
  utc : Option Int
  kind : SpoofKind
  state : NavStateKind
  residualM : α
  detail : Json α

/-- `SpoofingEvent::new`: the time is counted from `boot`. -/
def SpoofingEvent.new {α : Type} (t : Timestamp) (kind : SpoofKind) (state : NavStateKind)
    (residualM : α) (detail : Json α) (boot : Instant) : SpoofingEvent α :=
  ⟨t.mono - boot, t.utc, kind, state, residualM, detail⟩

@[simp] theorem SpoofingEvent.new_kind {α : Type} {t : Timestamp} {kind : SpoofKind}
    {state : NavStateKind} {residualM : α} {detail : Json α} {boot : Instant} :
    (SpoofingEvent.new t kind state residualM detail boot).kind = kind := rfl

/-- The one `NavError` the dead-reckoner returns: which sensor was not finite. -/
inductive NavError
  | nonFinite (what : String)
deriving DecidableEq, Repr

inductive DetectError
  | bufferEmpty
  | gpsOutsideBuffer (gapMs : Int)
deriving DecidableEq, Repr

/-- The `Display` text, which the sync warning carries. -/
def DetectError.message : DetectError → String
  | .bufferEmpty => "imu buffer empty"
  | .gpsOutsideBuffer gapMs =>
      "gps timestamp outside imu buffer (gap=" ++ toString gapMs ++ " ms)"

end FlyingSquirrel

import FlyingSquirrel.Fusion.Step

/-!
# Decoding NMEA sentences (`ingest/nmea.rs`)

The decoder keeps one parser of the `nmea` crate for a whole connection, and a position
sentence becomes a fix made of **what the parser holds by then**: an RMC brings no altitude,
so its fix carries the altitude of the last GGA, or zero before the first one.

The crate is not part of the repository. It is a parameter, `NmeaCrate`, and what its
documentation says of the two sentences is `IsRmc` and `IsGga`.
-/

set_option autoImplicit false

namespace FlyingSquirrel

open Lib

inductive FixType
  | invalid
  | gps
  | dGps
  | pps
  | rtk
  | floatRtk
  | estimated
  | manual
  | simulation
deriving DecidableEq, Repr

/-- The sentence types `parse_sentence` tells apart. -/
inductive SentenceType
  | gga
  | rmc
  | other
deriving DecidableEq, Repr

/-- The crate's parser: its state `P`, `parse`, and the fields of the state. An error is
    its `Debug` text. -/
structure NmeaCrate (P α : Type) where
  default : P
  parse : P → String → P × Except String SentenceType
  fixType : P → Option FixType
  latitude : P → Option α
  longitude : P → Option α
  altitude : P → Option α
  hdop : P → Option α
  fixSatellites : P → Option Nat
  speedOverGround : P → Option α
  trueCourse : P → Option α

namespace NmeaCrate

variable {P α : Type}

/-- The fix types a fix is made from. -/
def validFixType : Option FixType → Bool
  | some .gps | some .dGps | some .pps => true
  | _ => false

section Model

variable [Zero α] [Mul α] [OfScientific α] (N : NmeaCrate P α)

/-- The fix made from what the parser holds, if it holds a position. -/
def currentFix (p : P) (now : Instant) : Option (GpsFix α) :=
  if validFixType (N.fixType p) = false then none
  else
    match N.latitude p, N.longitude p with
    | some lat, some lon =>
      some
        { t := .nowMono now
          latDeg := lat
          lonDeg := lon
          altM := (N.altitude p).getD 0
          -- knots to metres per second
          speedMps := (N.speedOverGround p).map (· * 0.514444)
          courseDeg := N.trueCourse p
          hdop := N.hdop p
          sats := (N.fixSatellites p).map (· % 256) }
    | _, _ => none

/-- Decode one sentence, at `now`. -/
def parseSentence (p : P) (line : String) (now : Instant) :
    P × Except String (Option (GpsFix α)) :=
  match N.parse p line with
  | (p, .ok .gga) => (p, .ok (N.currentFix p now))
  | (p, .ok .rmc) => (p, .ok (N.currentFix p now))
  | (p, .ok .other) => (p, .ok none)
  | (p, .error e) => (p, .error e)

end Model

/-! ## What the crate documents -/

def HoldsPosition (N : NmeaCrate P α) (p : P) : Prop :=
  validFixType (N.fixType p) = true ∧ (N.latitude p).isSome = true ∧
    (N.longitude p).isSome = true

/-- An RMC sentence with a fix: it updates the position, and leaves the altitude. -/
def IsRmc (N : NmeaCrate P α) (line : String) : Prop :=
  ∀ p, (N.parse p line).2 = .ok .rmc ∧ N.HoldsPosition (N.parse p line).1 ∧
    N.altitude (N.parse p line).1 = N.altitude p

/-- A GGA sentence with a fix: it updates the position and the altitude. -/
def IsGga (N : NmeaCrate P α) (line : String) (altM : α) : Prop :=
  ∀ p, (N.parse p line).2 = .ok .gga ∧ N.HoldsPosition (N.parse p line).1 ∧
    N.altitude (N.parse p line).1 = some altM

/-- The sentence says what `said` says it does: a GGA with an altitude, or an RMC. -/
def Documented (N : NmeaCrate P α) (said : Option α) (line : String) : Prop :=
  match said with
  | some altM => N.IsGga line altM
  | none => N.IsRmc line

section Decode

variable [Zero α] [Mul α] [OfScientific α] {N : NmeaCrate P α}

theorem currentFix_of_holds {p : P} (h : N.HoldsPosition p) (now : Instant) :
    ∃ fix, N.currentFix p now = some fix ∧ fix.t = .nowMono now ∧
      fix.altM = (N.altitude p).getD 0 := by
  obtain ⟨hft, hlat, hlon⟩ := h
  unfold currentFix
  obtain ⟨lat, hlat⟩ := Option.isSome_iff_exists.mp hlat
  obtain ⟨lon, hlon⟩ := Option.isSome_iff_exists.mp hlon
  rw [if_neg (by rw [hft]; simp), hlat, hlon]
  exact ⟨_, rfl, rfl, rfl⟩

/-- **A position sentence makes a fix**, at the altitude it says or else the one held. -/
theorem parseSentence_documented {said : Option α} {line : String}
    (h : N.Documented said line) (p : P) (now : Instant) : ∃ p' fix,
    N.parseSentence p line now = (p', .ok (some fix)) ∧ fix.t = .nowMono now ∧
    fix.altM = (N.altitude p').getD 0 ∧
    (N.altitude p').getD 0 = said.getD ((N.altitude p).getD 0) := by
  unfold parseSentence
  cases said with
  | some altM =>
    obtain ⟨hok, hpos, halt⟩ := h p
    obtain ⟨fix, hfix, ht, hm⟩ := currentFix_of_holds hpos now
    generalize N.parse p line = out at hok hpos halt hfix hm
    obtain ⟨p', r⟩ := out
    dsimp only at hok hfix hm halt
    subst hok
    exact ⟨p', fix, by dsimp only; rw [hfix], ht, hm, by rw [halt]; rfl⟩
  | none =>
    obtain ⟨hok, hpos, halt⟩ := h p
    obtain ⟨fix, hfix, ht, hm⟩ := currentFix_of_holds hpos now
    generalize N.parse p line = out at hok hpos halt hfix hm
    obtain ⟨p', r⟩ := out
    dsimp only at hok hfix hm halt
    subst hok
    exact ⟨p', fix, by dsimp only; rw [hfix], ht, hm, by rw [halt]; rfl⟩

end Decode

end NmeaCrate

/-! ## A receiver feeding the fusion task -/

/-- One connection's parser, and the task its fixes go to. -/
structure SerialGps (P α : Type) where
  parser : P
  fusion : Fusion α

/-- A line arrives, or something else happens to the task. -/
inductive SerialInput (α : Type)
  | line (now : Instant) (text : String) (env : Env α)
  | imu (sample : ImuSample α)
  | background (now : Instant) (done : BgDone)

namespace SerialGps

variable {P α : Type} [Zero α] [One α] [Neg α] [Add α] [Sub α] [Mul α] [Div α] [NatCast α]
  [OfScientific α] [LT α] [LE α] [DecidableLT α] [DecidableLE α] [BEq α] [Max α] [Min α]
  [Libm α] [FiniteTest α] [Nalgebra α]

/-- Lines go through `parse_sentence`, and their fixes to the task. -/
def step (N : NmeaCrate P α) (s : SerialGps P α) :
    SerialInput α → SerialGps P α × List (Output α)
  | .line now text env =>
    match N.parseSentence s.parser text now with
    | (p, .ok (some fix)) =>
      let (f, out) := s.fusion.step (.gps fix env)
      (⟨p, f⟩, out)
    | (p, _) => (⟨p, s.fusion⟩, [])
  | .imu sample =>
    let (f, out) := s.fusion.step (.imu sample)
    (⟨s.parser, f⟩, out)
  | .background now done =>
    let (f, out) := s.fusion.step (.background now done)
    (⟨s.parser, f⟩, out)

end SerialGps

end FlyingSquirrel

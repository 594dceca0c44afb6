import FlyingSquirrel.Types

/-!
# The residual buffer (`detect/residual.rs`)

A window of recent dead-reckoned snapshots, oldest first, from which the position and the
velocity at a fix's time are read. `interpolate` refuses a time it cannot serve: **more
than 20 ms before the oldest snapshot, or more than `maxExtrapolationS` after the newest**.
Every skipped evaluation in the fusion loop comes from that one test, so it is a predicate
of its own, `Serves`.
-/

namespace FlyingSquirrel

open Lib

structure NavStateSnapshot (α : Type) where
  monoSecs : α
  pos : NedPos α
  vel : NedVel α
deriving Repr

/-- The ring buffer: `buf` runs from the front, the oldest snapshot, to the back. -/
structure ResidualBuffer (α : Type) where
  buf : List (NavStateSnapshot α)
  capacity : Nat
  windowSecs : α
  maxExtrapolationS : α
deriving Repr

/-- 2D residual: position and velocity difference in the local tangent plane, with the
    quality facts the detectors gate on. -/
structure Residual (α : Type) where
  dpos : NedPos α
  dvel : NedVel α
  magPos : α
  magVel : α
  /-- Whether the fix carried both a speed and a course. -/
  dvelKnown : Bool
  /-- `dvel` with the velocity the blend imported added back. -/
  dvelFree : NedVel α
  magVelFree : α
  maneuvering : Bool
deriving Repr

namespace ResidualBuffer

section Model

variable {α : Type} [Zero α] [One α] [Add α] [Sub α] [Mul α] [Div α] [OfScientific α]
  [LT α] [LE α] [DecidableLT α] [DecidableLE α] [Libm α]

def defaultMaxExtrapolationS : α := 0.25

/-- How far before the oldest snapshot a time may be, seconds. -/
def backTolerance : α := 0.02

def new (windowSecs maxRateHz : α) : ResidualBuffer α where
  buf := []
  capacity := Libm.toNat (Libm.ceil (windowSecs * maxRateHz * 1.1)) + 4
  windowSecs := windowSecs
  maxExtrapolationS := defaultMaxExtrapolationS

/-- Append, then trim from the front: by the time window, then by the capacity. -/
def push (b : ResidualBuffer α) (s : NavStateSnapshot α) : ResidualBuffer α :=
  -- the back is the snapshot just appended, so `latest` is its time
  let latest := s.monoSecs
  let inWindow := (b.buf ++ [s]).dropWhile
    fun front => decide (latest - front.monoSecs > b.windowSecs)
  { b with buf := inWindow.drop (inWindow.length - b.capacity) }

def isEmpty (b : ResidualBuffer α) : Bool := b.buf.isEmpty

def clear (b : ResidualBuffer α) : ResidualBuffer α := { b with buf := [] }

def earliest (b : ResidualBuffer α) : Option α := b.buf.head?.map (·.monoSecs)

def latest (b : ResidualBuffer α) : Option α := b.buf.getLast?.map (·.monoSecs)

/-- The two snapshots around `t`: a scan from the front, remembering the previous one. -/
def bracket (t : α) : NavStateSnapshot α → List (NavStateSnapshot α) →
    NavStateSnapshot α × NavStateSnapshot α
  | prev, [] => (prev, prev)
  | prev, s :: rest => if s.monoSecs ≥ t then (prev, s) else bracket t s rest

def extrapolate (s : NavStateSnapshot α) (dt : α) : NedPos α × NedVel α :=
  (⟨s.pos.n + s.vel.n * dt, s.pos.e + s.vel.e * dt, s.pos.d + s.vel.d * dt⟩, s.vel)

def lerp (a b : NavStateSnapshot α) (k : α) : NedPos α × NedVel α :=
  (⟨a.pos.n + k * (b.pos.n - a.pos.n), a.pos.e + k * (b.pos.e - a.pos.e),
    a.pos.d + k * (b.pos.d - a.pos.d)⟩,
   ⟨a.vel.n + k * (b.vel.n - a.vel.n), a.vel.e + k * (b.vel.e - a.vel.e),
    a.vel.d + k * (b.vel.d - a.vel.d)⟩)

/-- Position and velocity at time `t`, or why there is none. -/
def interpolate (b : ResidualBuffer α) (t : α) :
    Except DetectError (NedPos α × NedVel α) :=
  match b.buf.head?, b.buf.getLast? with
  | some front, some back =>
    let earliest := front.monoSecs
    let latest := back.monoSecs
    if t < earliest - backTolerance ∨ t > latest + b.maxExtrapolationS then
      .error (.gpsOutsideBuffer
        (if t < earliest then Libm.toInt ((earliest - t) * 1000.0)
         else Libm.toInt ((t - latest) * 1000.0)))
    else if t ≥ latest then
      .ok (extrapolate back (t - latest))
    else if t ≤ earliest then
      .ok (front.pos, front.vel)
    else
      let (lo, hi) := bracket t front b.buf
      let span := hi.monoSecs - lo.monoSecs
      if span ≤ 0 then .ok (lo.pos, lo.vel)
      else .ok (lerp lo hi (clamp ((t - lo.monoSecs) / span) 0 1))
  | _, _ => .error .bufferEmpty

end Model

/-! ## What the buffer serves -/

section Serves

variable {α : Type} [Zero α] [One α] [Add α] [Sub α] [Mul α] [Div α] [OfScientific α]
  [LT α] [LE α] [DecidableLT α] [DecidableLE α] [Libm α]

/-- The bounds check alone: there are snapshots, and `t` is within both tolerances. -/
def Serves (b : ResidualBuffer α) (t : α) : Prop :=
  ∃ first last, b.earliest = some first ∧ b.latest = some last ∧
    ¬ (t < first - backTolerance ∨ t > last + b.maxExtrapolationS)

/-- **`interpolate` fails on the bounds check and on nothing else.** -/
theorem interpolate_ok_iff {b : ResidualBuffer α} {t : α} :
    (b.interpolate t).toBool = true ↔ b.Serves t := by
  unfold interpolate Serves earliest latest
  cases hf : b.buf.head? with
  | none => simp [Except.toBool]
  | some front =>
    cases hb : b.buf.getLast? with
    | none => simp [Except.toBool]
    | some back =>
      simp only [Option.map_some, Option.some.injEq, exists_and_left, exists_eq_left']
      split
      · rename_i h
        exact ⟨fun hc => absurd hc (by simp [Except.toBool]), fun hs => absurd h hs⟩
      · rename_i h
        refine ⟨fun _ => h, fun _ => ?_⟩
        split
        · rfl
        · split
          · rfl
          · split <;> rfl

end Serves

end ResidualBuffer

end FlyingSquirrel

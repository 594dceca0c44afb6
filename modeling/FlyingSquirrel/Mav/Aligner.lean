import FlyingSquirrel.Lib.Run
import FlyingSquirrel.Types

/-!
# The clock aligner (`mav/mod.rs`)

Each stream of an autopilot is put on the local clock by an anchor, the arrival and the
sensor time of one message: a later message is stamped with the anchor's arrival plus the
**sensor** time since. A sensor clock that goes back, or that is further than
`clockAlignMaxSkew` from the arrival, is not trusted: the message is stamped with its
arrival and becomes the anchor.

`Trusts` is that test, and the two lemmas about it are all that is used of `align`.
-/

set_option autoImplicit false

namespace FlyingSquirrel

open Lib

/-- `CLOCK_ALIGN_MAX_SKEW`: two seconds. -/
def clockAlignMaxSkew : Nat := 2 * 1000000000

/-- `Duration::from_micros`. -/
def fromMicros (us : Nat) : Nat := us * 1000

/-- The arrival and the sensor time, in microseconds, of the anchoring message. -/
structure ClockAligner where
  anchor : Option (Instant × Nat)
deriving DecidableEq, Repr

namespace ClockAligner

/-- `ClockAligner::default`. -/
def default : ClockAligner := ⟨none⟩

/-- The stamp of a message with the given sensor time, if it has one. -/
def align (a : ClockAligner) (sensorUs : Option Nat) (arrival : Instant) :
    ClockAligner × Instant :=
  match sensorUs with
  -- no usable sensor time: the anchor stays
  | none => (a, arrival)
  | some s =>
    match a.anchor with
    | none => (⟨some (arrival, s)⟩, arrival)
    | some (anchorArrival, anchorSensor) =>
      if s < anchorSensor then (⟨some (arrival, s)⟩, arrival)
      else
        let sensorDelta := fromMicros (s - anchorSensor)
        let realElapsed := arrival - anchorArrival
        if sensorDelta > realElapsed + clockAlignMaxSkew then
          (⟨some (arrival, s)⟩, arrival)
        else
          let aligned := anchorArrival + sensorDelta
          if arrival - aligned > clockAlignMaxSkew then (⟨some (arrival, s)⟩, arrival)
          else (a, aligned)

/-! ## How far a sensor is from the arrival -/

/-- How much further the sensor clock is from the anchor than the local one. -/
def lead (anchor : Nat × Nat) (s arrival : Nat) : Nat :=
  fromMicros (s - anchor.2) - (arrival - anchor.1)

/-- How much further the local clock is from the anchor than the sensor's. -/
def lag (anchor : Nat × Nat) (s arrival : Nat) : Nat :=
  (arrival - anchor.1) - fromMicros (s - anchor.2)

/-- The sensor time did not go back, and is within the skew of the arrival. -/
def Trusts (anchor : Nat × Nat) (s arrival : Nat) : Prop :=
  anchor.2 ≤ s ∧ lead anchor s arrival ≤ clockAlignMaxSkew ∧
    lag anchor s arrival ≤ clockAlignMaxSkew

instance (anchor : Nat × Nat) (s arrival : Nat) :
    Decidable (Trusts anchor s arrival) := inferInstanceAs (Decidable (_ ∧ _ ∧ _))

variable {a : ClockAligner} {anchor : Nat × Nat} {s arrival : Nat}

theorem align_trusted (ha : a.anchor = some anchor) (hle : anchor.1 ≤ arrival)
    (h : Trusts anchor s arrival) :
    a.align (some s) arrival = (a, arrival + lead anchor s arrival - lag anchor s arrival) := by
  obtain ⟨hs, hlead, hlag⟩ := h
  unfold lead at hlead ⊢
  unfold lag at hlag ⊢
  unfold align
  rw [ha]
  dsimp only
  have hahead : ¬ fromMicros (s - anchor.2) > arrival - anchor.1 + clockAlignMaxSkew := by omega
  have hbehind : ¬ arrival - (anchor.1 + fromMicros (s - anchor.2)) > clockAlignMaxSkew := by
    omega
  have hstamp : anchor.1 + fromMicros (s - anchor.2) =
      arrival + (fromMicros (s - anchor.2) - (arrival - anchor.1)) -
        ((arrival - anchor.1) - fromMicros (s - anchor.2)) := by omega
  rw [if_neg (not_lt.mpr hs), if_neg hahead, if_neg hbehind, hstamp]

theorem align_distrusted (hle : ∀ anchor, a.anchor = some anchor → anchor.1 ≤ arrival)
    (h : ∀ anchor, a.anchor = some anchor → ¬ Trusts anchor s arrival) :
    a.align (some s) arrival = (⟨some (arrival, s)⟩, arrival) := by
  unfold align
  cases ha : a.anchor with
  | none => rfl
  | some anchor =>
    have hle := hle anchor ha
    have hno := h anchor ha
    unfold Trusts lead lag at hno
    dsimp only
    by_cases hs : s < anchor.2
    · rw [if_pos hs]
    · rw [if_neg hs]
      by_cases hahead : fromMicros (s - anchor.2) > arrival - anchor.1 + clockAlignMaxSkew
      · rw [if_pos hahead]
      · have hbehind : arrival - (anchor.1 + fromMicros (s - anchor.2)) > clockAlignMaxSkew := by
          omega
        rw [if_neg hahead, if_pos hbehind]

theorem align_none : a.align none arrival = (a, arrival) := rfl

/-! ## A stream of messages -/

theorem align_within (sensorUs : Option Nat)
    (hle : ∀ anchor, a.anchor = some anchor → anchor.1 ≤ arrival) :
    (a.align sensorUs arrival).2 ≤ arrival + clockAlignMaxSkew ∧
      arrival ≤ (a.align sensorUs arrival).2 + clockAlignMaxSkew := by
  cases sensorUs with
  | none => exact ⟨Nat.le_add_right _ _, Nat.le_add_right _ _⟩
  | some s =>
    by_cases h : ∃ anchor, a.anchor = some anchor ∧ Trusts anchor s arrival
    · obtain ⟨anchor, ha, ht⟩ := h
      rw [align_trusted ha (hle anchor ha) ht]
      obtain ⟨-, hlead, hlag⟩ := ht
      have hstamp : arrival + lead anchor s arrival - lag anchor s arrival ≤
          arrival + clockAlignMaxSkew ∧
          arrival ≤ arrival + lead anchor s arrival - lag anchor s arrival +
            clockAlignMaxSkew := by omega
      exact hstamp
    · rw [align_distrusted hle fun anchor ha ht => h ⟨anchor, ha, ht⟩]
      exact ⟨Nat.le_add_right _ _, Nat.le_add_right _ _⟩

theorem align_anchor_le (sensorUs : Option Nat)
    (hle : ∀ anchor, a.anchor = some anchor → anchor.1 ≤ arrival) :
    ∀ anchor, (a.align sensorUs arrival).1.anchor = some anchor → anchor.1 ≤ arrival := by
  cases sensorUs with
  | none => exact hle
  | some s =>
    by_cases h : ∃ anchor, a.anchor = some anchor ∧ Trusts anchor s arrival
    · obtain ⟨anchor, ha, ht⟩ := h
      rw [align_trusted ha (hle anchor ha) ht]
      exact hle
    · rw [align_distrusted hle fun anchor ha ht => h ⟨anchor, ha, ht⟩]
      rintro anchor ⟨⟩
      exact le_rfl

end ClockAligner

end FlyingSquirrel

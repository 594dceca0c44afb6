import FlyingSquirrel.Mav.Aligner
import Mathlib.Tactic.Ring

/-!
# The aligner's arithmetic

The sensor time is the autopilot's word, any `u64`, and the source's arithmetic panics where a
result does not fit: a `u64` below zero, a `Duration` or an `Instant` past the last one there
is. `checkedAlign` is `align` with those checks, and with a monotonic clock **none of them can
fail**: what is added to the anchor's arrival is at most what has passed since, and the skew.

A message with a sensor time is stamped at the sensor's distance from the anchor it leaves
behind, whether it was trusted or became the anchor itself, so two messages under one anchor
are exactly as far apart as their sensor times.
-/

set_option autoImplicit false

namespace FlyingSquirrel

open Lib

/-- `Duration::MAX`, in nanoseconds. -/
def durationMax : Nat := 18446744073709551615 * 1000000000 + 999999999

/-- The last instant the platform can represent. Instants differ by a `Duration`. -/
structure InstantRange where
  last : Nat
  le_durationMax : last ≤ durationMax

/-- A message of a stream, as the aligner sees it. -/
structure StreamMessage where
  sensorUs : Option UInt64
  arrival : Instant
deriving DecidableEq

namespace ClockAligner

/-! ## Arithmetic that can fail -/

/-- A subtraction of `u64`s. -/
def subU64 (x y : Nat) : Option Nat := if y ≤ x then some (x - y) else none

/-- A `Duration`, if it is one. -/
def duration (ns : Nat) : Option Nat := if ns ≤ durationMax then some ns else none

/-- An `Instant` the platform can represent. -/
def instant (range : InstantRange) (ns : Nat) : Option Instant :=
  if ns ≤ range.last then some ns else none

/-- `align`, where an operation that panics answers `none`. `saturating_duration_since` does
    not panic. -/
def checkedAlign (range : InstantRange) (a : ClockAligner) (sensorUs : Option Nat)
    (arrival : Instant) : Option (ClockAligner × Instant) :=
  match sensorUs with
  | none => some (a, arrival)
  | some s =>
    match a.anchor with
    | none => some (⟨some (arrival, s)⟩, arrival)
    | some (anchorArrival, anchorSensor) =>
      if s < anchorSensor then some (⟨some (arrival, s)⟩, arrival)
      else do
        let sensorDelta ← duration (fromMicros (← subU64 s anchorSensor))
        let realElapsed := arrival - anchorArrival
        if sensorDelta > (← duration (realElapsed + clockAlignMaxSkew)) then
          some (⟨some (arrival, s)⟩, arrival)
        else
          let aligned ← instant range (anchorArrival + sensorDelta)
          if arrival - aligned > clockAlignMaxSkew then some (⟨some (arrival, s)⟩, arrival)
          else some (a, aligned)

theorem subU64_of_le {x y : Nat} (h : y ≤ x) : subU64 x y = some (x - y) := if_pos h

theorem duration_of_le {ns : Nat} (h : ns ≤ durationMax) : duration ns = some ns := if_pos h

theorem instant_of_le {range : InstantRange} {ns : Nat} (h : ns ≤ range.last) :
    instant range ns = some ns := if_pos h

/-- Any number of microseconds that a `u64` holds is a `Duration`. -/
theorem fromMicros_le {us : Nat} (h : us < 18446744073709551616) :
    fromMicros us ≤ durationMax := by
  unfold fromMicros durationMax
  omega

/-- **No operation fails**, for any sensor time, while the clock is a skew or more before its
    last instant. -/
theorem checkedAlign_eq {range : InstantRange} {a : ClockAligner} {m : StreamMessage}
    (hle : ∀ anchor, a.anchor = some anchor → anchor.1 ≤ m.arrival)
    (hrange : m.arrival + clockAlignMaxSkew ≤ range.last) :
    checkedAlign range a (m.sensorUs.map (·.toNat)) m.arrival =
      some (a.align (m.sensorUs.map (·.toNat)) m.arrival) := by
  obtain ⟨sensorUs, arrival⟩ := m
  dsimp only at hle hrange ⊢
  have hlast := range.le_durationMax
  unfold checkedAlign align
  cases sensorUs with
  | none => rfl
  | some s =>
    cases ha : a.anchor with
    | none => rfl
    | some anchor =>
      obtain ⟨anchorArrival, anchorSensor⟩ := anchor
      have hanchor : anchorArrival ≤ arrival := hle _ ha
      dsimp only [Option.map_some]
      by_cases hback : s.toNat < anchorSensor
      · rw [if_pos hback, if_pos hback]
      · rw [if_neg hback, if_neg hback]
        -- the two operations before the guard: a `u64` of microseconds, and the clock's own span
        have hdelta : s.toNat - anchorSensor < 18446744073709551616 :=
          (Nat.sub_le _ _).trans_lt s.toNat_lt
        have helapsed : arrival - anchorArrival + clockAlignMaxSkew ≤ durationMax :=
          (Nat.add_le_add_right (Nat.sub_le _ _) _).trans (hrange.trans hlast)
        rw [subU64_of_le (not_lt.mp hback), Option.bind_eq_bind, Option.bind_some,
          duration_of_le (fromMicros_le hdelta), Option.bind_some, duration_of_le helapsed,
          Option.bind_some]
        by_cases hahead : fromMicros (s.toNat - anchorSensor) >
            arrival - anchorArrival + clockAlignMaxSkew
        · rw [if_pos hahead, if_pos hahead]
        · rw [if_neg hahead, if_neg hahead]
          -- the guard just passed is what bounds the sum
          have hsum : anchorArrival + fromMicros (s.toNat - anchorSensor) ≤ range.last := by
            refine le_trans ?_ hrange
            have hdist : anchorArrival + (arrival - anchorArrival) = arrival :=
              Nat.add_sub_cancel' hanchor
            calc anchorArrival + fromMicros (s.toNat - anchorSensor)
                ≤ anchorArrival + (arrival - anchorArrival + clockAlignMaxSkew) :=
                  Nat.add_le_add_left (not_lt.mp hahead) _
              _ = arrival + clockAlignMaxSkew := by rw [← Nat.add_assoc, hdist]
          rw [instant_of_le hsum, Option.bind_some]
          split <;> rfl

/-! ## Under one anchor -/

/-- A message with a sensor time leaves an anchor behind, and its stamp is as far from the
    anchor's arrival as its sensor time from the anchor's. -/
theorem align_stamp (a : ClockAligner) (s arrival : Nat) : ∃ anchor,
    (a.align (some s) arrival).1.anchor = some anchor ∧ anchor.2 ≤ s ∧
      (a.align (some s) arrival).2 = anchor.1 + fromMicros (s - anchor.2) := by
  have hself : arrival = arrival + fromMicros (s - s) := by simp [fromMicros]
  unfold align
  cases ha : a.anchor with
  | none => exact ⟨(arrival, s), rfl, le_rfl, hself⟩
  | some anchor =>
    dsimp only
    split
    · exact ⟨(arrival, s), rfl, le_rfl, hself⟩
    · rename_i hback
      split
      · exact ⟨(arrival, s), rfl, le_rfl, hself⟩
      · split
        · exact ⟨(arrival, s), rfl, le_rfl, hself⟩
        · exact ⟨anchor, ha, not_lt.mp hback, rfl⟩

def alignStep (a : ClockAligner) (m : StreamMessage) : ClockAligner × List Instant :=
  ((a.align (m.sensorUs.map (·.toNat)) m.arrival).1,
    [(a.align (m.sensorUs.map (·.toNat)) m.arrival).2])

/-- The stamp of a message. -/
def stampOf (a : ClockAligner) (m : StreamMessage) : Instant :=
  (a.align (m.sensorUs.map (·.toNat)) m.arrival).2

/-- The arithmetic of the step succeeds on every platform whose instants go on for a skew
    after the arrival, and the stamp is within the skew of the arrival, on either side. -/
def SafeOn (a : ClockAligner) (m : StreamMessage) : Prop :=
  (∀ range : InstantRange, m.arrival + clockAlignMaxSkew ≤ range.last →
    checkedAlign range a (m.sensorUs.map (·.toNat)) m.arrival =
      some (a.align (m.sensorUs.map (·.toNat)) m.arrival)) ∧
  a.stampOf m ≤ m.arrival + clockAlignMaxSkew ∧ m.arrival ≤ a.stampOf m + clockAlignMaxSkew

/-- Two messages with sensor times, met at `a` and `a'`, that leave the same anchor behind are
    stamped as far apart as their sensor times are. -/
def ExactUnderAnchor (a : ClockAligner) (m : StreamMessage) (a' : ClockAligner)
    (m' : StreamMessage) : Prop :=
  ∀ s s', m.sensorUs = some s → m'.sensorUs = some s' →
    (alignStep a m).1 = (alignStep a' m').1 →
    (a'.stampOf m' : ℤ) - a.stampOf m = 1000 * ((s'.toNat : ℤ) - s.toNat)

theorem exactUnderAnchor (a : ClockAligner) (m : StreamMessage) (a' : ClockAligner)
    (m' : StreamMessage) : ExactUnderAnchor a m a' m' := by
  intro s s' hs hs' hanchor
  obtain ⟨anchor, ha, hle, hstamp⟩ := a.align_stamp s.toNat m.arrival
  obtain ⟨anchor', ha', hle', hstamp'⟩ := a'.align_stamp s'.toNat m'.arrival
  unfold alignStep at hanchor
  dsimp only at hanchor
  rw [hs, hs', Option.map_some, Option.map_some] at hanchor
  obtain rfl : anchor = anchor' := by
    rw [hanchor, ha'] at ha
    exact (Option.some.inj ha).symm
  unfold stampOf
  rw [hs, hs', Option.map_some, Option.map_some, hstamp, hstamp']
  unfold fromMicros
  push_cast [hle, hle']
  ring

/-! ## A stream -/

/-- The anchor is not after the messages still to come. -/
theorem safeOn_along {ms : List StreamMessage} {a : ClockAligner}
    (hmono : ms.Pairwise fun m m' => m.arrival ≤ m'.arrival)
    (hle : ∀ anchor, a.anchor = some anchor → ∀ m ∈ ms, anchor.1 ≤ m.arrival) :
    Along alignStep SafeOn a ms := by
  induction ms generalizing a with
  | nil => trivial
  | cons m ms ih =>
    obtain ⟨hfirst, hrest⟩ := List.pairwise_cons.mp hmono
    have hnow : ∀ anchor, a.anchor = some anchor → anchor.1 ≤ m.arrival := fun anchor ha =>
      hle anchor ha m List.mem_cons_self
    refine ⟨⟨fun range => checkedAlign_eq hnow, align_within _ hnow⟩, ih hrest ?_⟩
    intro anchor ha m' hm'
    exact (align_anchor_le _ hnow anchor ha).trans (hfirst m' hm')

/-- **Clock alignment is safe and jitter-free.** For every stream of messages with any sensor
    times or none, in the order of their arrival: no arithmetic of any step fails, every stamp
    is within the skew of its arrival, and any two messages with sensor times under one anchor
    are stamped exactly as far apart as their sensor times. -/
theorem align_safe {ms : List StreamMessage}
    (hmono : ms.Pairwise fun m m' => m.arrival ≤ m'.arrival) :
    Along alignStep SafeOn .default ms ∧
      ∀ pre m mid m' post, ms = pre ++ m :: mid ++ m' :: post →
        ExactUnderAnchor (run alignStep .default pre) m
          (run alignStep .default (pre ++ m :: mid)) m' :=
  ⟨safeOn_along hmono fun _ h => absurd h (by simp [default]),
    fun _ _ _ _ _ _ => exactUnderAnchor _ _ _ _⟩

/-- A huge sensor time after the anchor's, and two messages under the anchor it becomes, the
    second of them late by a second. -/
theorem align_safe_late :
    Along alignStep SafeOn .default
      [⟨some 5, 0⟩, ⟨some 18446744073709541615, 1000000000⟩,
        ⟨some 18446744073709551615, 2000000000⟩] ∧
    outputs alignStep .default
      [⟨some 5, 0⟩, ⟨some 18446744073709541615, 1000000000⟩,
        ⟨some 18446744073709551615, 2000000000⟩] = [0, 1000000000, 1010000000] :=
  ⟨(align_safe (by decide)).1, by decide⟩

end ClockAligner

end FlyingSquirrel

import FlyingSquirrel.Fusion.Config
import FlyingSquirrel.Mav.Aligner
import Mathlib.Tactic.Linarith
import Mathlib.Tactic.NormNum
import Mathlib.Tactic.Positivity

/-!
# The aligner in front of the residual buffer

The aligner moves a stamp by up to two seconds from the arrival; the buffer serves a
quarter of a second past its newest snapshot and 20 ms before its oldest. So a message the
buffer could serve at its arrival may be one it refuses at its stamp, exactly when the
sensor **leads or lags by more than the buffer has room for, and by no more than the aligner
believes**.

A first message later than the rest makes every stamp lead by the difference, for good
(`every_later_fix_skipped`).
-/

set_option autoImplicit false

namespace FlyingSquirrel

open Lib

/-- A message of the position stream, and the buffer its fix is put to. -/
structure GpsArrival (α : Type) where
  sensorUs : Option Nat
  arrival : Instant
  buffer : ResidualBuffer α

namespace ClockAligner

/-! ## A message at its arrival and at its stamp -/

section Model

variable {α : Type} [Zero α] [One α] [Add α] [Sub α] [Mul α] [Div α] [NatCast α]
  [OfScientific α] [LT α] [LE α] [DecidableLT α] [DecidableLE α] [Libm α]

/-- The listener's step: messages go through `align`, and their stamps come out. -/
def step (a : ClockAligner) (m : GpsArrival α) : ClockAligner × List Instant :=
  ((a.align m.sensorUs m.arrival).1, [(a.align m.sensorUs m.arrival).2])

/-- The buffer serves the message at its stamp if it serves it at its arrival. -/
def NeverWorse (boot : Instant) (a : ClockAligner) (m : GpsArrival α) : Prop :=
  (m.buffer.interpolate (asSecs (m.arrival - boot))).toBool = true →
    (m.buffer.interpolate (asSecs ((a.align m.sensorUs m.arrival).2 - boot))).toBool = true

/-- The aligner trusts a sensor time that leads past the buffer's horizon, or lags to before
    its oldest snapshot. -/
def Misplaces (boot : Instant) (a : ClockAligner) (m : GpsArrival α) : Prop :=
  match a.anchor, m.sensorUs, m.buffer.earliest, m.buffer.latest with
  | some anchor, some s, some first, some last =>
    Trusts anchor s m.arrival ∧
      (asSecs (m.arrival + lead anchor s m.arrival - boot) >
          last + m.buffer.maxExtrapolationS ∨
        asSecs (m.arrival - lag anchor s m.arrival - boot) <
          first - ResidualBuffer.backTolerance)
  | _, _, _, _ => False

/-- The buffer could serve the message at its arrival, and the aligner misplaces it. -/
def Loses (boot : Instant) (a : ClockAligner) (m : GpsArrival α) : Prop :=
  (m.buffer.interpolate (asSecs (m.arrival - boot))).toBool = true ∧ Misplaces boot a m

instance (boot : Instant) (a : ClockAligner) (m : GpsArrival α) :
    Decidable (NeverWorse boot a m) := inferInstanceAs (Decidable (_ → _))

instance (boot : Instant) (a : ClockAligner) (m : GpsArrival α) :
    Decidable (Misplaces boot a m) := by
  unfold Misplaces
  split <;> infer_instance

instance (boot : Instant) (a : ClockAligner) (m : GpsArrival α) :
    Decidable (Loses boot a m) := inferInstanceAs (Decidable (_ ∧ _))

end Model

section Runs

variable {F : Type} [Field F] [LinearOrder F] [IsStrictOrderedRing F]

theorem asSecs_mono {ns ns' : Nat} (h : ns ≤ ns') : (asSecs ns : F) ≤ asSecs ns' := by
  unfold asSecs
  have hcast : (ns : F) ≤ ns' := Nat.cast_le.mpr h
  gcongr

theorem asSecs_add {F : Type} [Field F]
    (ns ns' : Nat) : (asSecs (ns + ns') : F) = asSecs ns + asSecs ns' := by
  unfold asSecs
  rw [Nat.cast_add, add_div]

theorem serves_moved {b : ResidualBuffer F} {boot arrival ahead behind : Nat} {first last : F}
    (hfirst : b.earliest = some first) (hlast : b.latest = some last)
    (h : b.Serves (asSecs (arrival - boot))) (hone : ahead = 0 ∨ behind = 0) :
    b.Serves (asSecs (arrival + ahead - behind - boot)) ↔
      ¬ (asSecs (arrival + ahead - boot) > last + b.maxExtrapolationS ∨
        asSecs (arrival - behind - boot) < first - ResidualBuffer.backTolerance) := by
  obtain ⟨first', last', hf, hl, hin⟩ := h
  obtain rfl := Option.some.inj (hfirst.symm.trans hf)
  obtain rfl := Option.some.inj (hlast.symm.trans hl)
  rw [not_or, not_lt, not_lt] at hin
  have hserves : ∀ t, b.Serves t ↔
      ¬ (t < first - ResidualBuffer.backTolerance ∨ t > last + b.maxExtrapolationS) := by
    intro t
    refine ⟨?_, fun ht => ⟨first, last, hfirst, hlast, ht⟩⟩
    rintro ⟨first', last', hf', hl', ht⟩
    obtain rfl := Option.some.inj (hfirst.symm.trans hf')
    obtain rfl := Option.some.inj (hlast.symm.trans hl')
    exact ht
  rw [hserves]
  rcases hone with rfl | rfl
  · -- a lag only: the horizon is still met
    rw [Nat.add_zero, or_comm]
    have hahead : ¬ asSecs (arrival - boot) > last + b.maxExtrapolationS := not_lt.mpr hin.2
    have hstamp : ¬ asSecs (arrival - behind - boot) > last + b.maxExtrapolationS :=
      not_lt.mpr ((asSecs_mono (by omega)).trans hin.2)
    tauto
  · -- a lead only: the oldest snapshot is still near enough
    rw [Nat.sub_zero, Nat.sub_zero, or_comm]
    have hbehind : ¬ asSecs (arrival - boot) < first - ResidualBuffer.backTolerance :=
      not_lt.mpr hin.1
    have hstamp : ¬ asSecs (arrival + ahead - boot) < first - ResidualBuffer.backTolerance :=
      not_lt.mpr (hin.1.trans (asSecs_mono (by omega)))
    tauto

variable [Libm F]

theorem neverWorse_iff {boot : Instant} {a : ClockAligner} {m : GpsArrival F}
    (hle : ∀ anchor, a.anchor = some anchor → anchor.1 ≤ m.arrival) :
    NeverWorse boot a m ↔ ¬ Loses boot a m := by
  unfold NeverWorse Loses
  rw [not_and]
  apply imp_congr_right
  intro hok
  rw [ResidualBuffer.interpolate_ok_iff] at hok ⊢
  obtain ⟨first, last, hfirst, hlast, -⟩ := id hok
  unfold Misplaces
  rw [hfirst, hlast]
  cases hs : m.sensorUs with
  | none =>
    rw [align_none]
    exact iff_of_true hok (by cases a.anchor <;> exact not_false)
  | some s =>
    cases ha : a.anchor with
    | none =>
      rw [align_distrusted hle (by simp [ha])]
      exact iff_of_true hok not_false
    | some anchor =>
      dsimp only
      by_cases ht : Trusts anchor s m.arrival
      · rw [align_trusted ha (hle anchor ha) ht]
        have hone : lead anchor s m.arrival = 0 ∨ lag anchor s m.arrival = 0 := by
          unfold lead lag
          omega
        rw [serves_moved hfirst hlast hok hone]
        tauto
      · have hdistrusts : ∀ anchor', a.anchor = some anchor' → ¬ Trusts anchor' s m.arrival := by
          intro anchor' ha'
          rwa [← Option.some.inj (ha.symm.trans ha')]
        rw [align_distrusted hle hdistrusts]
        exact iff_of_true hok fun h => ht h.1

/-- **When alignment never costs a fix.** Over every history of messages in the order of
    their arrival, with any buffer at each, every message that could be served at its arrival
    is served at its stamp, if and only if no message is one the aligner loses. -/
theorem neverWorse_along_iff {boot : Instant} {ms : List (GpsArrival F)}
    (h : ms.Pairwise fun m m' => m.arrival ≤ m'.arrival) :
    Along step (NeverWorse boot) default ms ↔
      Along step (fun a m => ¬ Loses boot a m) default ms := by
  -- the anchor comes from before every message still to come
  have hrun : ∀ a : ClockAligner,
      (∀ anchor, a.anchor = some anchor → ∀ m ∈ ms, anchor.1 ≤ m.arrival) →
      (Along step (NeverWorse boot) a ms ↔ Along step (fun a m => ¬ Loses boot a m) a ms) := by
    induction h with
    | nil => exact fun a _ => Iff.rfl
    | @cons m ms hfirst _ ih =>
      intro a ha
      have hle : ∀ anchor, a.anchor = some anchor → anchor.1 ≤ m.arrival := fun anchor h =>
        ha anchor h m List.mem_cons_self
      refine and_congr (neverWorse_iff hle) (ih _ fun anchor h m' hm' => ?_)
      exact (align_anchor_le m.sensorUs hle anchor h).trans (hfirst m' hm')
  exact hrun default fun _ h => absurd h (by simp [default])

/-! ## A delayed first message -/

/-- A message of a steady sensor: when its fix was taken, and how long it was on the way. -/
structure Shot where
  takenUs : Nat
  latency : Nat

/-- The shot as it arrives, on a sensor clock that read `epochUs` at the local time `base`. -/
def Shot.message {α : Type} (base : Instant) (epochUs : Nat) (x : Shot)
    (b : ResidualBuffer α) : GpsArrival α :=
  ⟨some (epochUs + x.takenUs), base + fromMicros x.takenUs + x.latency, b⟩

def Shot.anchored (base : Instant) (epochUs : Nat) (x : Shot) : ClockAligner :=
  ⟨some (base + fromMicros x.takenUs + x.latency, epochUs + x.takenUs)⟩

theorem Shot.lead_eq {base epochUs : Nat} {x y : Shot} (htaken : x.takenUs ≤ y.takenUs)
    (harrive : fromMicros x.takenUs + x.latency ≤ fromMicros y.takenUs + y.latency)
    (hless : y.latency ≤ x.latency) :
    lead (base + fromMicros x.takenUs + x.latency, epochUs + x.takenUs) (epochUs + y.takenUs)
        (base + fromMicros y.takenUs + y.latency) = x.latency - y.latency ∧
    lag (base + fromMicros x.takenUs + x.latency, epochUs + x.takenUs) (epochUs + y.takenUs)
        (base + fromMicros y.takenUs + y.latency) = 0 := by
  unfold lead lag fromMicros at *
  dsimp only
  omega

theorem Shot.align_later {α : Type} {base epochUs : Nat} {x y : Shot}
    {b : ResidualBuffer α} (htaken : x.takenUs ≤ y.takenUs)
    (harrive : fromMicros x.takenUs + x.latency ≤ fromMicros y.takenUs + y.latency)
    (hless : y.latency ≤ x.latency) (hskew : x.latency ≤ clockAlignMaxSkew) :
    (x.anchored base epochUs).align (y.message base epochUs b).sensorUs
        (y.message base epochUs b).arrival =
      (x.anchored base epochUs,
        (y.message base epochUs b).arrival + (x.latency - y.latency)) := by
  have hgap : lead (base + fromMicros x.takenUs + x.latency, epochUs + x.takenUs)
      (epochUs + y.takenUs) (base + fromMicros y.takenUs + y.latency) =
        x.latency - y.latency ∧ _ := Shot.lead_eq htaken harrive hless
  obtain ⟨hlead, hlag⟩ := hgap
  have hle : base + fromMicros x.takenUs + x.latency ≤
      base + fromMicros y.takenUs + y.latency := by omega
  have halign := align_trusted (a := x.anchored base epochUs) rfl hle
    ⟨Nat.add_le_add_left htaken _, by rw [hlead]; omega, by rw [hlag]; omega⟩
  rw [hlead, hlag, Nat.sub_zero] at halign
  exact halign

/-- **A late first message.** If the first message was on the way for up to two seconds, and
    each later one for less than that by more than the buffer's horizon, no later fix is
    served, however long the run: every stamp leads by the first message's delay. -/
theorem every_later_fix_skipped {boot base : Instant} {epochUs : Nat} {x : Shot}
    {b : ResidualBuffer F} {later : List (Shot × ResidualBuffer F)} (hboot : boot ≤ base)
    (hskew : x.latency ≤ clockAlignMaxSkew)
    (hlater : ∀ y ∈ later, x.takenUs ≤ y.1.takenUs ∧
      fromMicros x.takenUs + x.latency ≤ fromMicros y.1.takenUs + y.1.latency ∧
      y.1.latency ≤ x.latency ∧
      ∀ last, y.2.latest = some last →
        last ≤ asSecs ((y.1.message base epochUs y.2).arrival - boot) ∧
        y.2.maxExtrapolationS < asSecs (x.latency - y.1.latency)) :
    Along step (fun a m => (m.buffer.interpolate
        (asSecs ((a.align m.sensorUs m.arrival).2 - boot))).toBool = false)
      (step default (x.message base epochUs b)).1
      (later.map fun y => y.1.message base epochUs y.2) := by
  change Along step _ (x.anchored base epochUs) _
  induction later with
  | nil => trivial
  | cons y later ih =>
    obtain ⟨htaken, harrive, hless, hbuf⟩ := hlater y List.mem_cons_self
    have halign : (x.anchored base epochUs).align (y.1.message base epochUs y.2).sensorUs
        (y.1.message base epochUs y.2).arrival = _ :=
      Shot.align_later htaken harrive hless hskew
    have hrest := ih fun z hz => hlater z (List.mem_cons_of_mem _ hz)
    have hstay : (step (x.anchored base epochUs) (y.1.message base epochUs y.2)).1 =
        x.anchored base epochUs := congrArg Prod.fst halign
    refine ⟨?_, by rw [hstay]; exact hrest⟩
    -- the stamp is past the horizon
    show (y.2.interpolate _).toBool = false
    rw [Bool.eq_false_iff, ne_eq, ResidualBuffer.interpolate_ok_iff, halign]
    rintro ⟨first, last, -, hlast, hin⟩
    obtain ⟨hfresh, hhorizon⟩ := hbuf last hlast
    have hafter : boot ≤ (y.1.message base epochUs y.2).arrival :=
      hboot.trans ((Nat.le_add_right _ _).trans (Nat.le_add_right _ _))
    refine hin (.inr ?_)
    dsimp only
    rw [Nat.sub_add_comm hafter, asSecs_add]
    linarith

end Runs

/-! ## On the default buffer -/

/-- The default buffer, fed a resting snapshot at each of the given milliseconds. -/
def fed (times : List Nat) : ResidualBuffer ℚ :=
  (times.map fun ms => ⟨asSecs (ms * 1000000), ⟨0, 0, 0⟩, ⟨0, 0, 0⟩⟩).foldl ResidualBuffer.push
    (.new (FusionConfig.default (α := ℚ)).residualWindowS
      (FusionConfig.default (α := ℚ)).maxImuRateHz)

/-- A sensor a second apart, the first message on the way for the given milliseconds and the
    others for 10. -/
def steady (firstMs : Nat) : List (GpsArrival ℚ) :=
  [Shot.message 0 5000000 ⟨0, firstMs * 1000000⟩ (fed [0, firstMs]),
    Shot.message 0 5000000 ⟨1000000, 10000000⟩ (fed [990, 1000, 1010]),
    Shot.message 0 5000000 ⟨2000000, 10000000⟩ (fed [1990, 2000, 2010])]

/-- A first message that was on the way for 400 ms. -/
theorem late_first_message_loses_fixes :
    (steady 400).Pairwise (fun m m' => m.arrival ≤ m'.arrival) ∧
    ¬ Along step (NeverWorse 0) default (steady 400) := by
  decide +kernel

/-- One that was on the way for 30 ms. -/
theorem neverWorse_along_steady : Along step (NeverWorse 0) default (steady 30) :=
  (neverWorse_along_iff (by decide)).mpr (by decide +kernel)

end ClockAligner

end FlyingSquirrel

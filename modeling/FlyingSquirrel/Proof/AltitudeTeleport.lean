import FlyingSquirrel.Lib.Alarm
import FlyingSquirrel.Proof.VerticalRate

/-!
# Altitude changes over several fixes

The vertical-rate check compares a fix with the evaluated fix before it, and remembers the fix
whether the two were compared or not. They are not when they are a millisecond apart or less. A
change of altitude between two such fixes is then never looked at: the later one raises nothing,
and every fix after it is compared with the altitude it left.

Rates add up along the fixes, so no change of altitude between any two is missed **exactly when
none is between neighbours that are not compared**.
-/

set_option autoImplicit false

namespace FlyingSquirrel

open Lib

/-- An evaluated fix: its altitude and time, whether the check remembered a fix when it came, and
    whether it raised the alarm. -/
structure AltitudeMark (α : Type) where
  altM : α
  t : α
  joined : Bool
  raised : Bool
deriving DecidableEq, Repr

/-- The evaluated fixes so far, and whether there has been one since the last operator reset. -/
structure AltitudeLog (α : Type) where
  marks : List (AltitudeMark α)
  joined : Bool

namespace Fusion

section Model

variable {α : Type} [Zero α] [One α] [Neg α] [Add α] [Sub α] [Mul α] [Div α] [NatCast α]
  [OfScientific α] [LT α] [LE α] [DecidableLT α] [DecidableLE α] [BEq α] [Max α] [Min α] [Libm α]
  [FiniteTest α]

/-- Preflight is ready, and the buffer serves the fix's time. -/
def Evaluates (f : Fusion α) (fix : GpsFix α) : Prop :=
  f.nav.origin.isSome = true ∧ f.preflight = .ready ∧
    (f.buffer.interpolate (f.tSecs fix.t)).toBool = true

instance (f : Fusion α) (fix : GpsFix α) : Decidable (f.Evaluates fix) :=
  inferInstanceAs (Decidable (_ ∧ _))

/-- A fix that is not evaluated is not remembered. -/
theorem onGps_unevaluated (f : Fusion α) (env : Env α) (fix : GpsFix α)
    (h : ¬ f.Evaluates fix) : SameAltitude f (f.onGps env fix).1 := by
  by_cases harmed : f.nav.origin ≠ none ∧ f.preflight = .ready
  · obtain ⟨ho, hr⟩ := harmed
    cases hi : f.buffer.interpolate (f.tSecs fix.t) with
    | error e =>
      obtain ⟨_, _, hf'⟩ := onGps_skipped env ho hr hi
      have htracked := f.trackFrozen_altitude fix
      rw [hf']
      exact ⟨htracked.1, htracked.2, htracked.3, htracked.4⟩
    | ok p => exact absurd ⟨Option.isSome_iff_ne_none.mpr ho, hr, by rw [hi]; rfl⟩ h
  · obtain ⟨_, _, _, _, _, hf'⟩ := onGps_unarmed env fix harmed
    rw [hf']
    exact ⟨rfl, rfl, rfl, rfl⟩

def trackAltitude (g : AltitudeLog α) (f : Fusion α) (i : Input α) (_ : Fusion α) :
    AltitudeLog α :=
  match i with
  | .gps fix env =>
    if f.Evaluates fix then
      ⟨g.marks ++ [⟨fix.altM, f.tSecs fix.t, g.joined,
        !decide (NoVerticalRate (f.onGps env fix).2)⟩], true⟩
    else g
  | .reset _ => ⟨g.marks, false⟩
  | _ => g

variable [Nalgebra α]

def altitudeStep :
    Fusion α × AltitudeLog α → Input α → (Fusion α × AltitudeLog α) × List (Output α) :=
  ghost step trackAltitude

end Model

variable {F : Type} [Field F] [LinearOrder F] [Libm F] [FiniteTest F] [Nalgebra F]

/-- The altitudes differ by no more than the bound allows over the time between. -/
def Steady (c : DetectConfig F) (a b : AltitudeMark F) : Prop :=
  fabs (b.altM - a.altM) ≤ c.maxVerticalRateMps * (b.t - a.t)

instance (c : DetectConfig F) (a b : AltitudeMark F) : Decidable (Steady c a b) :=
  inferInstanceAs (Decidable (_ ≤ _))

variable [IsStrictOrderedRing F]

/-- **Rates add up.** -/
instance (c : DetectConfig F) : IsTrans (AltitudeMark F) (Steady c) where
  trans a b d hab hbd := by
    unfold Steady at hab hbd ⊢
    rw [fabs_eq_abs] at hab hbd ⊢
    calc |d.altM - a.altM| ≤ |d.altM - b.altM| + |b.altM - a.altM| := abs_sub_le ..
      _ ≤ c.maxVerticalRateMps * (d.t - b.t) + c.maxVerticalRateMps * (b.t - a.t) :=
          add_le_add hbd hab
      _ = c.maxVerticalRateMps * (d.t - a.t) := by ring

/-- The check compares `b` with `a`, the mark before it. -/
def Compared (c : DetectConfig F) (a b : AltitudeMark F) : Prop :=
  b.joined = true ∧ 1e-3 < b.t - a.t ∧ b.t - a.t ≤ c.gpsDropoutFreezeS

/-- What the task remembers of the marks, and what it compared. -/
structure Logged (c : FusionConfig F) (x : Fusion F × AltitudeLog F) : Prop where
  memory : x.1.lastGpsAlt =
    if x.2.joined then x.2.marks.getLast?.map fun m => (m.altM, m.t) else none
  maxVerticalRateMps : x.1.maxVerticalRateMps = c.detect.maxVerticalRateMps
  gpsDropoutFreezeS : x.1.gpsDropoutFreezeS = c.detect.gpsDropoutFreezeS
  compared : x.2.marks.IsChain fun a b =>
    b.raised = true ↔ Compared c.detect a b ∧ ¬ Steady c.detect a b

theorem Logged.start {F : Type} [Field F] [LinearOrder F] [Libm F]
    {c : FusionConfig F} {boot : Instant} {f : Fusion F} (h : Built c boot f) :
    Logged c (f, ⟨[], false⟩) := by
  induction h with
  | new => exact ⟨rfl, rfl, rfl, .nil⟩
  | withMavMonitor _ _ ih => exact ⟨ih.memory, ih.maxVerticalRateMps, ih.gpsDropoutFreezeS, .nil⟩
  | withForensic _ _ _ ih => exact ⟨ih.memory, ih.maxVerticalRateMps, ih.gpsDropoutFreezeS, .nil⟩

/-- A task that remembers the same is logged the same. -/
theorem Logged.same {F : Type} [Field F] [LinearOrder F]
    {c : FusionConfig F} {f f' : Fusion F} {g : AltitudeLog F}
    (h : Logged c (f, g)) (hs : SameAltitude f f') : Logged c (f', g) :=
  ⟨hs.lastGpsAlt.trans h.memory, hs.maxVerticalRateMps.trans h.maxVerticalRateMps,
    hs.gpsDropoutFreezeS.trans h.gpsDropoutFreezeS, h.compared⟩

/-- The alarm is raised on a fix that is compared and not steady. -/
theorem Logged.verticalAlarm {F : Type} [Field F] [LinearOrder F] [IsStrictOrderedRing F]
    {c : FusionConfig F} {f : Fusion F} {g : AltitudeLog F}
    (h : Logged c (f, g)) {a b : AltitudeMark F} (ha : g.marks.getLast? = some a)
    (hb : b.joined = g.joined) : f.verticalAlarm b.altM b.t = true ↔
      Compared c.detect a b ∧ ¬ Steady c.detect a b := by
  have hmemory := h.memory
  dsimp only at hmemory
  rw [← Bool.not_eq_false, SerialGps.verticalAlarm_eq_false, hmemory, ha]
  unfold SerialGps.Within Compared Steady
  rw [h.gpsDropoutFreezeS, h.maxVerticalRateMps, hb]
  cases g.joined with
  | false => simp
  | true => simp [and_assoc]

theorem Logged.next {c : FusionConfig F} {x : Fusion F × AltitudeLog F} (h : Logged c x)
    (i : Input F) : Logged c (altitudeStep x i).1 := by
  obtain ⟨f, g⟩ := x
  cases i with
  | imu sample => exact h.same (⟨rfl, rfl, rfl, rfl⟩ : SameAltitude f (f.onImu sample))
  | reset now => exact ⟨rfl, h.maxVerticalRateMps, h.gpsDropoutFreezeS, h.compared⟩
  | background now done => exact h.same (f.onBackground_altitude now done).1
  | gps fix env =>
    by_cases he : f.Evaluates fix
    · have ⟨ho, hr, hi⟩ := he
      obtain ⟨hreport, hsame⟩ :=
        f.onGps_altitude env fix (Option.isSome_iff_ne_none.mp ho) hr hi
      have hlog : (altitudeStep (f, g) (.gps fix env)).1 = ((f.onGps env fix).1,
          ⟨g.marks ++ [⟨fix.altM, f.tSecs fix.t, g.joined,
            !decide (NoVerticalRate (f.onGps env fix).2)⟩], true⟩) :=
        Prod.ext rfl (if_pos he)
      rw [hlog]
      refine ⟨?_, hsame.maxVerticalRateMps.trans h.maxVerticalRateMps,
        hsame.gpsDropoutFreezeS.trans h.gpsDropoutFreezeS, ?_⟩
      · rw [hsame.lastGpsAlt]
        simp
      · rw [List.isChain_append]
        refine ⟨h.compared, .singleton _, fun a ha b hb => ?_⟩
        obtain rfl := Option.some.inj hb
        have hraised : (!decide (NoVerticalRate (f.onGps env fix).2)) = true ↔
            f.verticalAlarm fix.altM (f.tSecs fix.t) = true := by
          rw [Bool.not_eq_true', decide_eq_false_iff_not, hreport]
          exact (Bool.not_eq_false _).to_iff
        exact hraised.trans (h.verticalAlarm (b := ⟨_, _, g.joined, _⟩) ha rfl)
    · have hlog : (altitudeStep (f, g) (.gps fix env)).1 = ((f.onGps env fix).1, g) :=
        Prod.ext rfl (if_neg he)
      rw [hlog]
      exact h.same (onGps_unevaluated f env fix he)

/-- **No altitude change is missed, exactly.** In a run from boot whose evaluated fixes are no
    dropout apart, every change of altitude between two of them that exceeds the bound over the
    time between raises the alarm on a fix after the one and up to the other, if and only if the
    altitude is steady between any two neighbours that are at most a millisecond apart or have an
    operator reset between them. -/
theorem teleport_caught_iff {c : FusionConfig F} {boot : Instant} {f : Fusion F}
    (hf : Built c boot f) (is : List (Input F)) :
    let marks := (run altitudeStep (f, ⟨[], false⟩) is).2.marks
    (marks.IsChain fun a b => b.t - a.t ≤ c.detect.gpsDropoutFreezeS) →
      ((∀ a mid b, a :: mid ++ [b] <:+: marks →
          c.detect.maxVerticalRateMps * (b.t - a.t) < fabs (b.altM - a.altM) →
          ∃ m ∈ mid ++ [b], m.raised = true) ↔
        marks.IsChain fun a b =>
          Steady c.detect a b ∨ b.joined = true ∧ 1e-3 < b.t - a.t) := by
  intro marks hgaps
  have hlogged : Logged c (run altitudeStep (f, ⟨[], false⟩) is) :=
    run_invariant (fun _ i h => h.next i) (.start hf) is
  have hmissed : NoneMissed (Steady c.detect) (·.raised = true) marks ↔
      marks.IsChain fun a b => Steady c.detect a b ∨ Compared c.detect a b := by
    rw [noneMissed_iff]
    refine isChain_congr_of hlogged.compared fun a b hraised => ?_
    rw [hraised]
    tauto
  unfold NoneMissed at hmissed
  simp only [Steady, not_le] at hmissed ⊢
  rw [hmissed]
  refine isChain_congr_of hgaps fun a b hgap => ?_
  unfold Compared
  tauto

/-- Fixes over one point, each at its microseconds and altitude. -/
def altitudes (fs : List (Nat × ℚ)) : List (Input ℚ) :=
  fs.map fun (us, altM) => .gps { fixAt 0 0 with t := ⟨us * 1000, none⟩, altM := altM } quietEnv

/-- Armed, samples up to 140 ms, and then the fixes. -/
def hovering (fs : List (Nat × ℚ)) : List (Input ℚ) :=
  arming ++ samples [110, 120, 130, 140] ++ altitudes fs

/-- The marks of a run from boot. -/
def marksOf (is : List (Input ℚ)) : List (AltitudeMark ℚ) :=
  (run altitudeStep (Fusion.new quickCfg 0, ⟨[], false⟩) is).2.marks

/-- A climb of 1.2 m in 30 ms, over fixes ten milliseconds apart. -/
theorem teleport_caught_climb :
    ∃ m ∈ ([⟨0.2, 0.12, true, false⟩, ⟨1, 0.13, true, true⟩, ⟨1.2, 0.14, true, false⟩] :
      List (AltitudeMark ℚ)), m.raised = true :=
  (teleport_caught_iff (.new : Built quickCfg 0 _)
    (hovering [(110000, 0), (120000, 0.2), (130000, 1), (140000, 1.2)])
    (by decide +kernel)).mpr (by decide +kernel) ⟨0, 0.11, false, false⟩
      [⟨0.2, 0.12, true, false⟩, ⟨1, 0.13, true, true⟩] ⟨1.2, 0.14, true, false⟩
      (by decide +kernel) (by decide +kernel)

/-- A jump of a hundred metres between two fixes half a millisecond apart is not raised on the
    later one, nor on the fix after it. -/
theorem teleport_missed :
    quickCfg.validate = .ok () ∧
    ((marksOf (hovering [(110000, 0), (110500, 100), (140000, 100)])).IsChain fun a b =>
      0 ≤ b.t - a.t ∧ b.t - a.t ≤ quickCfg.detect.gpsDropoutFreezeS) ∧
    ¬ ∀ a mid b,
      a :: mid ++ [b] <:+: marksOf (hovering [(110000, 0), (110500, 100), (140000, 100)]) →
      quickCfg.detect.maxVerticalRateMps * (b.t - a.t) < fabs (b.altM - a.altM) →
      ∃ m ∈ mid ++ [b], m.raised = true := by
  refine ⟨runChecks_ok.mpr (by decide +kernel), by decide +kernel, fun h => ?_⟩
  have hraised := h ⟨0, 0.11, false, false⟩ [⟨100, 0.1105, true, false⟩] ⟨100, 0.14, true, false⟩
    (by decide +kernel) (by decide +kernel)
  revert hraised
  decide +kernel

end Fusion

end FlyingSquirrel

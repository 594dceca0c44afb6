import FlyingSquirrel.Proof.AltitudeTeleport
import FlyingSquirrel.Proof.DropoutFlag

/-!
# The frozen-GPS check and the fix rate

A fix away from the frozen anchor becomes it, and from then on the fixes within half a metre of it
accrue what dead reckoning has moved: its speed times the gap before the fix. At a constant speed
and with gaps that are not capped the sum telescopes, so **what has accrued is the speed times the
time since the anchor**, however that time is cut into gaps. The check calls on the machine from
the first fix on which this is five metres.

The vertical-rate check calls on it too, and stays quiet while the altitude does not change.
-/

set_option autoImplicit false

namespace FlyingSquirrel

open Lib

namespace Fusion

section Model

variable {α : Type} [Zero α] [One α] [Neg α] [Add α] [Sub α] [Mul α] [Div α] [NatCast α]
  [OfScientific α] [LT α] [LE α] [DecidableLT α] [DecidableLE α] [Libm α]

/-- A check of the fix calls `note_external_anomaly`: the flag is down before it, and up when the
    machine decides. -/
def notesAnomaly (f : Fusion α) (fix : GpsFix α) : Bool :=
  !f.fsm.externalAnomaly && (f.atDecision fix).any fun (g, _, _) => g.fsm.externalAnomaly

variable (f : Fusion α) (fix : GpsFix α)

/-- **When a served fix at the anchor calls on the machine.** -/
theorem notesAnomaly_eq {pImu : NedPos α} {vImu : NedVel α} (ho : f.nav.origin ≠ none)
    (hx : f.fsm.externalAnomaly = false)
    (hi : f.buffer.interpolate (f.tSecs fix.t) = .ok (pImu, vImu))
    (hc : f.frozenCandidate fix = true) :
    f.notesAnomaly fix =
      (decide ((f.accrueFrozen (f.dropoutSeconds (f.tSecs fix.t))
          vImu.horizontalNorm).frozenImuDisplacementM ≥ frozenMinImuDisplacementM) ||
        f.verticalAlarm fix.altM (f.tSecs fix.t)) := by
  obtain ⟨_, _, _, _, _, hat⟩ := atDecision_eq ho hi
  unfold notesAnomaly
  rw [hat, hc, hx]
  rfl

end Model

variable {F : Type} [Field F] [LinearOrder F] [IsStrictOrderedRing F] [Libm F]
  [FiniteTest F] [Nalgebra F]

def trackLast (last : F) (f : Fusion F) (i : Input F) (_ : Fusion F) : F :=
  match i with
  | .gps fix _ => f.tSecs fix.t
  | _ => last

/-- The task with the time of the last fix. -/
def fixStep : Fusion F × F → Input F → (Fusion F × F) × List (Output F) := ghost step trackLast

/-- The fix restarts the frozen streak. It is evaluated, or the altitude the task remembers, if
    any, is its own. -/
def Restarts (f : Fusion F) (a : GpsFix F) : Prop :=
  f.preflight = .ready ∧ f.frozenCandidate a = false ∧
    (f.serves a = true ∨ ∀ p ∈ f.lastGpsAlt, p.1 = a.altM)

instance (f : Fusion F) (a : GpsFix F) : Decidable (f.Restarts a) :=
  inferInstanceAs (Decidable (_ ∧ _ ∧ (_ ∨ _)))

/-- The buffer serves the fix's time, with the horizontal speed `v`. -/
def ServedAt (f : Fusion F) (fix : GpsFix F) (v : F) : Prop :=
  match f.buffer.interpolate (f.tSecs fix.t) with
  | .ok (_, vImu) => vImu.horizontalNorm = v
  | .error _ => False

instance (f : Fusion F) (fix : GpsFix F) (v : F) : Decidable (f.ServedAt fix v) := by
  unfold ServedAt
  split <;> infer_instance

/-- A fix strictly within half a metre of `a`, at the same altitude, served at the speed `v`, and
    no dropout after the fix before it. Nobody resets the task. -/
def PinnedTo (a : GpsFix F) (v : F) (x : Fusion F × F) : Input F → Prop
  | .gps fix _ =>
    (llaToNed fix.latDeg fix.lonDeg 0 a.latDeg a.lonDeg).horizontalNorm < 0.5 ∧
      fix.altM = a.altM ∧ x.1.ServedAt fix v ∧
      0 < x.1.tSecs fix.t - x.2 ∧ x.1.tSecs fix.t - x.2 ≤ x.1.gpsDropoutFreezeS
  | .reset _ => False
  | .imu _ | .background _ _ => True

instance (a : GpsFix F) (v : F) (x : Fusion F × F) (i : Input F) :
    Decidable (PinnedTo a v x i) :=
  match i with
  | .gps _ _ => inferInstanceAs (Decidable (_ ∧ _ ∧ _ ∧ _ ∧ _))
  | .reset _ => .isFalse id
  | .imu _ | .background _ _ => .isTrue trivial

/-- The fix calls on the machine exactly when the distance since `ta` is five metres. -/
def CallsAtFive (v ta : F) (x : Fusion F × F) : Input F → Prop
  | .gps fix _ => x.1.notesAnomaly fix = true ↔ 5 ≤ v * (x.1.tSecs fix.t - ta)
  | _ => True

/-- What the task has of a streak at `a`, the last fix of which was at `x.2`. -/
structure Streak (a : GpsFix F) (v ta : F) (x : Fusion F × F) : Prop where
  ready : x.1.preflight = .ready
  last : x.1.lastGpsTSecs = some x.2
  anchor : x.1.frozenAnchorLla = some (a.latDeg, a.lonDeg)
  displacement : x.1.frozenImuDisplacementM = v * (x.2 - ta)
  altitude : ∀ p ∈ x.1.lastGpsAlt, p.1 = a.altM
  bound : 0 ≤ x.1.maxVerticalRateMps

theorem ServedAt.interpolated {F : Type} [Field F] [LinearOrder F] [Libm F]
    {f : Fusion F} {fix : GpsFix F} {v : F} (h : f.ServedAt fix v) :
    ∃ pImu vImu, f.buffer.interpolate (f.tSecs fix.t) = .ok (pImu, vImu) ∧
      vImu.horizontalNorm = v := by
  unfold ServedAt at h
  split at h
  · rename_i pImu vImu hi
    exact ⟨pImu, vImu, hi, h⟩
  · exact h.elim

section

omit [Libm F] [FiniteTest F] [Nalgebra F]

/-- The altitude rate is zero while the altitude does not change. -/
theorem verticalAlarm_of_level {f : Fusion F} {altM t : F} (hbound : 0 ≤ f.maxVerticalRateMps)
    (h : ∀ p ∈ f.lastGpsAlt, p.1 = altM) : f.verticalAlarm altM t = false := by
  rw [SerialGps.verticalAlarm_eq_false]
  unfold SerialGps.Within
  cases hp : f.lastGpsAlt with
  | none => trivial
  | some p =>
    intro hgap
    have hpos : 0 ≤ t - p.2 := by
      have hms : (0 : F) ≤ 1e-3 := by norm_num
      exact hms.trans hgap.1.le
    rw [← h p hp, sub_self, fabs_eq_abs, abs_zero]
    exact mul_nonneg hbound hpos

/-- **The sum telescopes.** With the fix, what has accrued is the speed times the time since. -/
theorem Streak.accrues {a : GpsFix F} {v ta : F} {x : Fusion F × F} (h : Streak a v ta x)
    (hv : 1 < v) {t : F} (hpos : 0 < t - x.2) (hgap : t - x.2 ≤ x.1.gpsDropoutFreezeS) :
    (x.1.accrueFrozen (x.1.dropoutSeconds t) v).frozenImuDisplacementM = v * (t - ta) := by
  have hmoving : v > frozenFixMinImuVelMps :=
    lt_of_eq_of_lt (by norm_num [frozenFixMinImuVelMps]) hv
  unfold accrueFrozen dropoutSeconds
  rw [if_pos hmoving, h.last]
  dsimp only
  rw [clamp_of_mem hpos.le hgap, h.displacement]
  ring

end

theorem Streak.candidate {F : Type} [Field F] [LinearOrder F] [Libm F]
    {a : GpsFix F} {v ta : F} {x : Fusion F × F} (h : Streak a v ta x)
    {fix : GpsFix F}
    (hnear : (llaToNed fix.latDeg fix.lonDeg 0 a.latDeg a.lonDeg).horizontalNorm < 0.5) :
    x.1.frozenCandidate fix = true := by
  unfold frozenCandidate
  rw [h.anchor]
  exact decide_eq_true hnear

theorem Streak.callsAtFive {F : Type} [Field F] [LinearOrder F] [IsStrictOrderedRing F] [Libm F]
    {a : GpsFix F} {v ta : F} {x : Fusion F × F} (h : Streak a v ta x)
    (hv : 1 < v) (ho : x.1.nav.origin ≠ none) (hx : x.1.fsm.externalAnomaly = false)
    {i : Input F} (hp : PinnedTo a v x i) : CallsAtFive v ta x i := by
  cases i with
  | gps fix env =>
    obtain ⟨hnear, hlevel, hserved, hpos, hgap⟩ := hp
    obtain ⟨pImu, vImu, hi, rfl⟩ := hserved.interpolated
    have hquiet : x.1.verticalAlarm fix.altM (x.1.tSecs fix.t) = false :=
      verticalAlarm_of_level h.bound (hlevel ▸ h.altitude)
    show x.1.notesAnomaly fix = true ↔ 5 ≤ vImu.horizontalNorm * (x.1.tSecs fix.t - ta)
    rw [notesAnomaly_eq x.1 fix ho hx hi (h.candidate hnear), h.accrues hv hpos hgap, hquiet,
      Bool.or_false, decide_eq_true_eq]
    norm_num [frozenMinImuDisplacementM]
  | imu | reset | background => trivial

theorem Streak.next {a : GpsFix F} {v ta : F} {x : Fusion F × F} (h : Streak a v ta x)
    (hv : 1 < v) (ho : x.1.nav.origin ≠ none) {i : Input F} (hp : PinnedTo a v x i) :
    Streak a v ta (fixStep x i).1 := by
  obtain ⟨f, last⟩ := x
  cases i with
  | imu sample => exact ⟨h.ready, h.last, h.anchor, h.displacement, h.altitude, h.bound⟩
  | reset now => exact hp.elim
  | background now done =>
    obtain ⟨_, hb⟩ := onBackground_eq f now done
    show Streak a v ta ((f.onBackground now done).1, last)
    rw [hb]
    exact ⟨h.ready, h.last, h.anchor, h.displacement, h.altitude, h.bound⟩
  | gps fix env =>
    obtain ⟨hnear, hlevel, hserved, hpos, hgap⟩ := hp
    obtain ⟨pImu, vImu, hi, rfl⟩ := hserved.interpolated
    have hc := h.candidate hnear
    obtain ⟨_, _, _, _, _, _, _, -, hf'⟩ := onGps_served env ho h.ready hi
    show Streak a _ ta ((f.onGps env fix).1, f.tSecs fix.t)
    rw [hf', trackFrozen_of_candidate hc, hc]
    refine ⟨h.ready, rfl, h.anchor, h.accrues hv hpos hgap, fun p hp => ?_, h.bound⟩
    obtain rfl := Option.some.inj hp
    exact hlevel

/-- A fix that restarts the streak starts one. -/
theorem Restarts.streak {F : Type} [Field F] [LinearOrder F] [Libm F] [FiniteTest F]
    {f : Fusion F} {a : GpsFix F} (h : f.Restarts a) (v : F)
    (ho : f.nav.origin ≠ none) (hbound : 0 ≤ f.maxVerticalRateMps) (env : Env F) :
    Streak a v (f.tSecs a.t) ((f.onGps env a).1, f.tSecs a.t) := by
  obtain ⟨hr, hc, hlevel⟩ := h
  have haway : ¬ f.frozenCandidate a = true := by simp [hc]
  have hzero : (0 : F) = v * (f.tSecs a.t - f.tSecs a.t) := by rw [sub_self, mul_zero]
  cases hi : f.buffer.interpolate (f.tSecs a.t) with
  | error e =>
    obtain ⟨_, _, hf'⟩ := onGps_skipped env ho hr hi
    have hskipped : ¬ f.serves a = true := by
      unfold serves
      rw [hi]
      exact Bool.false_ne_true
    rw [hf', trackFrozen_of_away haway]
    exact ⟨hr, rfl, rfl, hzero, hlevel.resolve_left hskipped, hbound⟩
  | ok p =>
    obtain ⟨pImu, vImu⟩ := p
    obtain ⟨_, _, _, _, _, _, _, -, hf'⟩ := onGps_served env ho hr hi
    rw [hf', trackFrozen_of_away haway, hc]
    refine ⟨hr, rfl, rfl, hzero, fun p hp => ?_, hbound⟩
    obtain rfl := Option.some.inj hp
    rfl

/-! ## Runs -/

theorem run_quiet {c : FusionConfig F} {boot : Instant} {f : Fusion F} (hf : Built c boot f)
    (is : List (Input F)) : (run step f is).fsm.externalAnomaly = false := by
  have hclock : EpisodeClock c.detect (run (ghost step openedAt) (f, none) is) :=
    run_invariant (fun _ i h => h.step i) (.start hf) is
  have hquiet := hclock.quiet
  rwa [run_ghost_fst] at hquiet

theorem run_bound {c : FusionConfig F} {boot : Instant} {f : Fusion F} (hf : Built c boot f)
    (is : List (Input F)) : (run step f is).maxVerticalRateMps = c.detect.maxVerticalRateMps := by
  have hlogged : Logged c (run altitudeStep (f, ⟨[], false⟩) is) :=
    run_invariant (fun _ i h => h.next i) (.start hf) is
  have hbound := hlogged.maxVerticalRateMps
  unfold altitudeStep at hbound
  rwa [run_ghost_fst] at hbound

theorem run_booted {F : Type} [Field F] [LinearOrder F] [Libm F] [FiniteTest F] [Nalgebra F]
    {c : FusionConfig F} {boot : Instant} {f : Fusion F} (hf : Built c boot f)
    (is : List (Input F)) : Booted c (run step f is) :=
  run_invariant (fun _ i h => h.step i) (.start hf) is

/-- **Frozen-GPS detection does not depend on the fix rate.** Under a validated configuration, and
    after any run from boot, a fix at `ta` restarts the frozen streak, and every later fix is
    pinned to it at the constant speed `v > 1`. However the later fixes are spaced, with samples
    and background work in between, the anomaly is noted on a fix at `t` exactly when
    `v * (t - ta)` is at least five metres. -/
theorem frozen_rate_independent {c : FusionConfig F} (hvalid : c.validate = .ok ())
    {boot : Instant} {f : Fusion F} (hf : Built c boot f) (before : List (Input F))
    {a : GpsFix F} (env : Env F) {v : F} (hv : 1 < v) (later : List (Input F)) :
    let g := run step f before
    g.Restarts a →
      Along fixStep (PinnedTo a v) ((g.onGps env a).1, g.tSecs a.t) later →
      Along fixStep (CallsAtFive v (g.tSecs a.t)) ((g.onGps env a).1, g.tSecs a.t) later := by
  intro g hrestarts hpinned
  have horigin (is : List (Input F)) (hr : (run step f is).preflight = .ready) :
      (run step f is).nav.origin ≠ none :=
    Option.isSome_iff_ne_none.mp ((run_booted hf is).ready hr)
  have hbound : 0 ≤ g.maxVerticalRateMps := by
    rw [run_bound hf before]
    exact (FusionConfig.maxVerticalRate_pos hvalid).le
  have hstart : (g.onGps env a).1 = run step f (before ++ [.gps a env]) := by
    rw [run_snoc]
    rfl
  -- the states of the run are reached from boot, and have a streak at `a`
  refine Along.strengthen
    (I := fun x => (∃ is, x.1 = run step f is) ∧ Streak a v (g.tSecs a.t) x) ?_ ?_ hpinned
    ⟨⟨before ++ [.gps a env], hstart⟩,
      hrestarts.streak v (horigin before hrestarts.1) hbound env⟩
  · rintro x i hp ⟨⟨is, hx⟩, hs⟩
    have ho : x.1.nav.origin ≠ none := hx ▸ horigin is (hx ▸ hs.ready)
    refine ⟨⟨is ++ [i], ?_⟩, hs.next hv ho hp⟩
    rw [run_snoc, ← hx]
    rfl
  · rintro x i ⟨⟨is, hx⟩, hs⟩ hp
    have ho : x.1.nav.origin ≠ none := hx ▸ horigin is (hx ▸ hs.ready)
    exact hs.callsAtFive hv ho (hx ▸ run_quiet hf is) hp

/-- Armed by a first fix at ten metres a second north, with samples up to 700 ms. -/
def cruising : List (Input ℚ) :=
  samples [0, 10, 20, 30, 40, 50, 60, 70, 80, 90] ++
    [.gps { fixAt 95 0 with speedMps := some 10, courseDeg := some 0 } quietEnv] ++
    samples [100] ++ fixes quietEnv [(105, 0)] ++ samples [200, 300, 400, 500, 600, 700]

/-- A receiver stuck at 110 ms, in fixes a quarter of a second apart and a tenth: five metres are
    at 610 ms. -/
theorem frozen_rate_independent_cruising :
    Along fixStep (CallsAtFive 10 0.11)
      (((run step (new quickCfg 0) cruising).onGps quietEnv (fixAt 110 0)).1, 0.11)
      (fixes quietEnv [(360, 0), (460, 0), (610, 0)]) := by
  have htime : (run step (new quickCfg 0) cruising).tSecs (fixAt 110 0).t = 0.11 := by
    decide +kernel
  have h := frozen_rate_independent (runChecks_ok.mpr (by decide +kernel))
    (.new : Built quickCfg 0 _) cruising (a := fixAt 110 0) quietEnv (v := 10) (by norm_num)
    (fixes quietEnv [(360, 0), (460, 0), (610, 0)]) (by decide +kernel) (by decide +kernel)
  rwa [htime] at h

end Fusion

end FlyingSquirrel

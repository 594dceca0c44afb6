import FlyingSquirrel.Proof.Aiding
import Mathlib.Data.List.Induction
import Mathlib.Tactic.Linarith
import Mathlib.Tactic.NormNum

/-!
# The gate is sized from the stream

The period is inferred from three things kept during static initialisation: how many samples
there were, and the times of the first and the last. `Cadence` says that this is what they are,
in terms of the list of times. The mean of the gaps in that list telescopes to the quotient the
code computes.
-/

set_option autoImplicit false

namespace FlyingSquirrel

open Lib

namespace DeadReckoner

variable {F : Type} [Field F] [LinearOrder F] [Libm F] [Nalgebra F]

/-- The time of a sample in seconds since boot, as the dead-reckoner reads it. -/
def sampleSecs (boot : Instant) : NavOp F → Option F
  | .step sample => some (asSecs (sample.t.mono - boot))
  | _ => none

/-- The time of a sample that static initialisation takes. -/
def initNote (m : DeadReckoner F) (op : NavOp F) : Option F :=
  if m.initialized then none else sampleSecs m.boot op

/-- The times of the samples that static initialisation took. -/
def initTimes (cfg : NavConfig F) (boot : Instant) (ops : List (NavOp F)) : List F :=
  notes opStep initNote (new cfg boot) ops

/-- The mean of the gaps between the times of a list. -/
def meanPeriod : List F → F
  | [] => 0
  | t :: ts => (gaps t ts).sum / ((gaps t ts).length : F)

/-- The gate that the samples of static initialisation make of the configured one. -/
def sizedGate (configured : F) (ts : List F) : F :=
  match ts.head?, ts.getLast? with
  | some first, some last =>
    if last - first > 0 ∧ ts.length - 1 > 0 then
      max configured (clamp (imuGatePeriodFactor * ((last - first) / ((ts.length - 1 : Nat) : F)))
        defaultMaxImuDtS autoImuGateMaxS)
    else configured
  | _, _ => configured

/-! ## One operation -/

/-- What the sizing goes by is as it was. -/
structure SameCadence (m m' : DeadReckoner F) : Prop where
  cfg : m'.cfg = m.cfg
  boot : m'.boot = m.boot
  initialized : m'.initialized = m.initialized
  lastImuMono : m'.lastImuMono = m.lastImuMono
  accum : m'.staticInitAccum = m.staticInitAccum
  first : m'.staticInitFirstMono = m.staticInitFirstMono
  target : m'.staticInitTarget = m.staticInitTarget

theorem onGpsFix_sameCadence {F : Type} [Field F] [LinearOrder F] [Libm F]
    (m : DeadReckoner F) (fix : GpsFix F) :
    SameCadence m (m.onGpsFix fix) := by
  obtain ⟨_, _, hs⟩ := seedYaw_eq { m with lastGpsMono := some (m.monoSecs fix.t.mono) } fix
  unfold onGpsFix
  dsimp only
  rw [hs]
  split
  · exact ⟨rfl, rfl, rfl, rfl, rfl, rfl, rfl⟩
  · split
    · unfold blend
      cases gpsVelocity fix <;> exact ⟨rfl, rfl, rfl, rfl, rfl, rfl, rfl⟩
    · exact ⟨rfl, rfl, rfl, rfl, rfl, rfl, rfl⟩

/-! ## Static initialisation -/

theorem max_eq_widen {F : Type} [LinearOrder F] (configured needed : F) :
    (if needed > configured then needed else configured) = max configured needed := by
  split
  · rename_i h
    exact (max_eq_right (le_of_lt h)).symm
  · rename_i h
    exact (max_eq_left (not_lt.mp h)).symm

/-- The gate is sized from the times that were kept. -/
theorem autoSizeGate_cfg {F : Type} [Field F] [LinearOrder F]
    {m : DeadReckoner F} {ts : List F} (hn : m.staticInitAccum = ts.length)
    (hfirst : m.staticInitFirstMono = ts.head?) (hlast : m.lastImuMono = ts.getLast?) :
    m.autoSizeGate.cfg = { m.cfg with maxImuDtS := sizedGate m.cfg.maxImuDtS ts } := by
  unfold autoSizeGate sizedGate
  rw [hn, hfirst, hlast]
  cases ts.head? with
  | none => rfl
  | some first =>
    cases ts.getLast? with
    | none => rfl
    | some last =>
      dsimp only
      split
      · rw [← max_eq_widen]
        split <;> rfl
      · rfl

theorem autoSizeGate_same {F : Type} [Field F] [LinearOrder F] (m : DeadReckoner F) :
    m.autoSizeGate.boot = m.boot ∧ m.autoSizeGate.initialized = m.initialized ∧
    m.autoSizeGate.lastImuMono = m.lastImuMono := by
  obtain ⟨cfg, h⟩ := autoSizeGate_eq m
  rw [h]
  exact ⟨rfl, rfl, rfl⟩

/-- What is held of the stream during static initialisation, in the times of its samples. -/
structure Counted (cfg : NavConfig F) (boot : Instant) (m : DeadReckoner F) (ts : List F) :
    Prop where
  booted : m.boot = boot
  configured : m.cfg = cfg
  accum : m.staticInitAccum = ts.length
  first : m.staticInitFirstMono = ts.head?
  latest : m.lastImuMono = ts.getLast?
  target : m.staticInitTarget = 0 ∨ 10 ≤ m.staticInitTarget

/-- What is held of it before and after. -/
structure Cadence (cfg : NavConfig F) (boot : Instant) (m : DeadReckoner F) (ts : List F)
    (last : Option F) : Prop where
  booted : m.boot = boot
  latest : m.lastImuMono = last
  before : m.initialized = false → Counted cfg boot m ts
  after : m.initialized = true →
    m.cfg = { cfg with maxImuDtS := sizedGate cfg.maxImuDtS ts } ∧ 10 ≤ ts.length

variable {cfg : NavConfig F} {boot : Instant} {m m' : DeadReckoner F} {ts : List F}
  {last : Option F}

theorem Counted.finish {F : Type} [Field F] [LinearOrder F] [Libm F] {cfg : NavConfig F}
    {boot : Instant} {m : DeadReckoner F} {ts : List F}
    (h : Counted cfg boot m ts) (hten : 10 ≤ ts.length) :
    Cadence cfg boot m.finishStaticInit ts ts.getLast? := by
  unfold finishStaticInit
  dsimp only
  refine ⟨?_, ?_, fun habs => ?_, fun _ => ?_⟩
  · exact (autoSizeGate_same _).1.trans h.booted
  · exact (autoSizeGate_same _).2.2.trans h.latest
  · exact absurd ((autoSizeGate_same _).2.1.symm.trans habs) (by simp)
  · rw [← h.configured]
    exact ⟨autoSizeGate_cfg h.accum h.first h.latest, hten⟩

section

omit [Libm F] [Nalgebra F]

theorem Cadence.start (cfg : NavConfig F) (boot : Instant) :
    Cadence cfg boot (new cfg boot) [] none where
  booted := rfl
  latest := rfl
  before := fun _ => ⟨rfl, rfl, rfl, rfl, rfl, .inl rfl⟩
  after := fun h => absurd h (by simp [new])

theorem Cadence.same (h : Cadence cfg boot m ts last) (hs : SameCadence m m') :
    Cadence cfg boot m' ts last where
  booted := hs.boot.trans h.booted
  latest := hs.lastImuMono.trans h.latest
  before := fun hinit => by
    obtain ⟨hboot, hcfg, hn, hfirst, hlast, htarget⟩ :=
      h.before (hs.initialized.symm.trans hinit)
    exact ⟨hs.boot.trans hboot, hs.cfg.trans hcfg, hs.accum.trans hn, hs.first.trans hfirst,
      hs.lastImuMono.trans hlast, by rwa [hs.target]⟩
  after := fun hinit => by
    obtain ⟨hcfg, hten⟩ := h.after (hs.initialized.symm.trans hinit)
    exact ⟨hs.cfg.trans hcfg, hten⟩

end

theorem initNote_of_other {F : Type} [Field F] {m : DeadReckoner F}
    {op : NavOp F} (hop : sampleSecs m.boot op = none) :
    initNote m op = none := by
  unfold initNote
  rw [hop, ite_self]

/-- Static initialisation asks for ten samples, whatever its time is configured to be. -/
theorem Counted.ten_le_target {F : Type} [Field F] [LinearOrder F] [Libm F] {cfg : NavConfig F}
    {boot : Instant} {m : DeadReckoner F} {ts : List F} [IsStrictOrderedRing F]
    (hcast : ∀ x : F, 10 ≤ x → 10 ≤ Libm.toNat x) (h : Counted cfg boot m ts) :
    10 ≤ if m.staticInitTarget = 0 then Libm.toNat (max (m.cfg.staticInitS * 100.0) 10.0)
      else m.staticInitTarget := by
  split
  · refine hcast _ (le_trans (le_of_eq ?_) (le_max_right _ _))
    norm_num
  · rename_i hset
    exact h.target.resolve_left hset

variable [IsStrictOrderedRing F] (hcast : ∀ x : F, 10 ≤ x → 10 ≤ Libm.toNat x)
include hcast

section

omit [Nalgebra F]

theorem Cadence.staticInitStep (h : Cadence cfg boot m ts last) (hinit : m.initialized = false)
    (sample : ImuSample F) (t : F) :
    Cadence cfg boot (m.staticInitStep sample t) (ts ++ [t]) (some t) := by
  obtain ⟨hboot, hcfg, hn, hfirst, -, -⟩ := h.before hinit
  have hten := (h.before hinit).ten_le_target hcast
  have hn' : m.staticInitAccum + 1 = (ts ++ [t]).length := by
    rw [hn, List.length_append, List.length_singleton]
  have hfirst' : m.staticInitFirstMono.or (some t) = (ts ++ [t]).head? := by
    rw [hfirst, List.head?_append]
    rfl
  have hlast' : (ts ++ [t]).getLast? = some t := List.getLast?_concat
  rw [← hlast']
  refine iteInduction
    (motive := fun m' => Cadence cfg boot m' (ts ++ [t]) (ts ++ [t]).getLast?)
    (fun hfull => ?_) (fun _ => ?_)
  · refine Counted.finish ⟨hboot, hcfg, hn', hfirst', hlast'.symm, .inr hten⟩ ?_
    rw [← hn']
    exact le_trans hten hfull
  · exact ⟨hboot, hlast'.symm, fun _ => ⟨hboot, hcfg, hn', hfirst', hlast'.symm, .inr hten⟩,
      fun habs => absurd (hinit.symm.trans habs) (by simp)⟩

end

/-- **The step lemma.** -/
theorem Cadence.step (h : Cadence cfg boot m ts last) (op : NavOp F) :
    Cadence cfg boot (m.opStep op).1 (ts ++ (initNote m op).toList)
      ((sampleSecs boot op).or last) := by
  cases op with
  | step sample =>
    have hsecs : sampleSecs boot (.step sample) = some (m.monoSecs sample.t.mono) := by
      unfold sampleSecs monoSecs
      rw [h.booted]
    rw [hsecs]
    change Cadence cfg boot (m.step sample).1 _ (some (m.monoSecs sample.t.mono))
    cases hinit : m.initialized with
    | false =>
      have hnote : initNote m (.step sample) = some (m.monoSecs sample.t.mono) := by
        unfold initNote
        rw [if_neg (by simp [hinit]), h.booted, hsecs]
      rw [step_eq, if_pos hinit, hnote]
      exact h.staticInitStep hcast hinit sample _
    | true =>
      have hnote : initNote m (.step sample) = none := if_pos hinit
      obtain ⟨hcfg, hboot, hdone, hlast⟩ := step_initialized hinit sample
      rw [hnote, Option.toList_none, List.append_nil]
      obtain ⟨hgate, hten⟩ := h.after hinit
      refine ⟨hboot.trans h.booted, hlast, fun habs => ?_, fun _ => ⟨hcfg.trans hgate, hten⟩⟩
      exact absurd (hdone.symm.trans habs) (by simp)
  | onGpsFix fix =>
    rw [initNote_of_other rfl, Option.toList_none, List.append_nil]
    exact h.same (onGpsFix_sameCadence m fix)
  | setState state =>
    rw [initNote_of_other rfl, Option.toList_none, List.append_nil]
    exact h.same ⟨rfl, rfl, rfl, rfl, rfl, rfl, rfl⟩
  | reAnchorAfterClearing fix =>
    rw [initNote_of_other rfl, Option.toList_none, List.append_nil]
    exact h.same ⟨rfl, rfl, rfl, rfl, rfl, rfl, rfl⟩

/-- **The run lemma.** -/
theorem cadence_run (cfg : NavConfig F) (boot : Instant) (ops : List (NavOp F)) :
    Cadence cfg boot (run opStep (new cfg boot) ops) (initTimes cfg boot ops)
      (latest (sampleSecs boot) ops) := by
  induction ops using List.reverseRecOn with
  | nil => exact Cadence.start cfg boot
  | append_singleton ops op ih =>
    unfold initTimes at ih ⊢
    rw [run_snoc, notes_append, latest_snoc, notes, notes, List.append_nil]
    exact ih.step hcast op

omit hcast

/-! ## The gate, once and for all -/

theorem run_initialized {F : Type} [Field F] [LinearOrder F] [Libm F] [Nalgebra F]
    {m : DeadReckoner F} (h : m.initialized = true) (ops : List (NavOp F)) :
    (run opStep m ops).initialized = true ∧ (run opStep m ops).cfg = m.cfg := by
  refine run_invariant (I := fun m' : DeadReckoner F => m'.initialized = true ∧ m'.cfg = m.cfg)
    (fun m' op hm' => ?_) ⟨h, rfl⟩ ops
  cases op with
  | step sample =>
    obtain ⟨hcfg, -, hdone, -⟩ := step_initialized hm'.1 sample
    exact ⟨hdone, hcfg.trans hm'.2⟩
  | onGpsFix fix =>
    have hsame := onGpsFix_sameCadence m' fix
    exact ⟨hsame.initialized.trans hm'.1, hsame.cfg.trans hm'.2⟩
  | setState state => exact hm'
  | reAnchorAfterClearing fix => exact hm'

/-- The gate for a stream of a mean period. -/
def gateFor (configured p : F) : F := max configured (min (max (2.5 * p) 0.1) 1)

/-- What the code computes of the first and the last time is what the mean period asks for. -/
theorem sizedGate_eq {F : Type} [Field F] [LinearOrder F] [IsStrictOrderedRing F]
    (configured : F) {ts : List F} (hinc : ts.Pairwise (· < ·))
    (hn : 2 ≤ ts.length) : sizedGate configured ts = gateFor configured (meanPeriod ts) := by
  cases ts with
  | nil => exact absurd hn (by simp)
  | cons t ts =>
    have hcount : (t :: ts).length - 1 > 0 := by omega
    have hspan : ts.getLastD t - t > 0 := by
      cases ts with
      | nil => exact absurd hn (by simp)
      | cons u ts =>
        rw [List.getLastD_cons]
        exact sub_pos.mpr ((List.pairwise_cons.mp hinc).1 _ List.getLastD_mem_cons)
    unfold sizedGate gateFor meanPeriod
    dsimp only
    rw [sum_gaps, gaps_length, List.head?_cons, List.getLast?_cons, ← List.getLastD_eq_getLast?]
    dsimp only
    rw [if_pos ⟨hspan, hcount⟩, List.length_cons, Nat.add_sub_cancel]
    unfold imuGatePeriodFactor defaultMaxImuDtS autoImuGateMaxS
    rw [clamp_eq_min_max (by norm_num)]
    norm_num

theorem gateFor_bounds {F : Type} [Field F] [LinearOrder F] (configured p : F) :
    configured ≤ gateFor configured p ∧ gateFor configured p ≤ max configured 1 :=
  ⟨le_max_left _ _, max_le_max_left _ (min_le_right _ _)⟩

section

omit [Libm F] [Nalgebra F]

theorem le_gateFor (configured : F) {p : F} (hp : p ≤ 0.4) : 2.5 * p ≤ gateFor configured p := by
  have hone : 2.5 * p ≤ 1 := by
    norm_num at hp ⊢
    linarith
  exact le_max_of_le_right (le_min (le_max_left _ _) hone)

theorem imuGap_within {prev t : F} (hlast : m.lastImuMono = some prev) (hpos : 0 < t - prev)
    (hgap : t - prev ≤ m.cfg.maxImuDtS) : m.imuGap t = .within (max (t - prev) 1e-6) := by
  unfold imuGap
  rw [hlast]
  dsimp only
  rw [if_neg (by simpa using sub_pos.mp hpos), if_neg (not_lt.mpr hgap)]

end

/-- A sample within its gap is integrated, and yields a snapshot once there is an origin. -/
theorem step_within {F : Type} [Field F] [LinearOrder F] [Libm F] [Nalgebra F] {m : DeadReckoner F}
    {sample : ImuSample F} {dt : F} (hdone : m.initialized = true)
    (hgap : m.imuGap (m.monoSecs sample.t.mono) = .within dt) :
    m.step sample = ((m.integrateStep sample (m.monoSecs sample.t.mono) dt).1,
        .ok (m.integrateStep sample (m.monoSecs sample.t.mono) dt).2) ∧
      (m.origin.isSome = true → ∃ snap, (m.step sample).2 = .ok (some snap)) := by
  refine ⟨?_, fun horigin => ?_⟩
  · rw [step_eq, if_neg (by simp [hdone]), hgap]
  · have hi : m.integrates sample = some dt := by
      simp [integrates, finiteVec_field, isInitialized, hdone, horigin, hgap]
    have hstep := step_stepped m sample
    generalize (m.step sample).1 = m' at hstep
    generalize (m.step sample).2 = answer at hstep ⊢
    cases hstep with
    | skipped hnone _ _ _ _ _ => exact absurd (hnone.symm.trans hi) (by simp)
    | integrated _ _ _ _ _ => exact ⟨_, rfl⟩

/-- **The auto-sized gate admits the stream it was sized from.** Whatever the operations, once
    static initialisation is over on samples of increasing times and mean period `p` (there are
    at least ten, since the cast of a number from ten on is ten or more): the gate is the one
    for `p`, and stays it; it is never tighter than configured nor wider than that and one
    second; and if `p` is at most 0.4 s, every later sample that comes at most `2.5 * p` after
    the one before it is integrated. -/
theorem gate_admits_stream (cfg : NavConfig F) (boot : Instant) (ops : List (NavOp F))
    (hdone : (run opStep (new cfg boot) ops).initialized = true)
    (hinc : (initTimes cfg boot ops).Pairwise (· < ·))
    (hcast : ∀ x : F, 10 ≤ x → 10 ≤ Libm.toNat x) :
    let p := meanPeriod (initTimes cfg boot ops)
    (∀ later, (run opStep (new cfg boot) (ops ++ later)).cfg =
      { cfg with maxImuDtS := gateFor cfg.maxImuDtS p }) ∧
    cfg.maxImuDtS ≤ gateFor cfg.maxImuDtS p ∧ gateFor cfg.maxImuDtS p ≤ max cfg.maxImuDtS 1 ∧
    (p ≤ 0.4 → ∀ later sample prev, latest (sampleSecs boot) (ops ++ later) = some prev →
      let m := run opStep (new cfg boot) (ops ++ later)
      let t := asSecs (sample.t.mono - boot)
      0 < t - prev → t - prev ≤ 2.5 * p →
      m.step sample = ((m.integrateStep sample t (max (t - prev) 1e-6)).1,
          .ok (m.integrateStep sample t (max (t - prev) 1e-6)).2) ∧
        (m.origin.isSome = true → ∃ snap, (m.step sample).2 = .ok (some snap))) := by
  intro p
  obtain ⟨hsized, hten⟩ := (cadence_run hcast cfg boot ops).after hdone
  have hgate : ∀ later, (run opStep (new cfg boot) (ops ++ later)).initialized = true ∧
      (run opStep (new cfg boot) (ops ++ later)).cfg =
        { cfg with maxImuDtS := gateFor cfg.maxImuDtS p } := fun later => by
    obtain ⟨hstill, hcfg⟩ := run_initialized hdone later
    rw [run_append]
    refine ⟨hstill, hcfg.trans ?_⟩
    rw [hsized, sizedGate_eq cfg.maxImuDtS hinc (by omega)]
  obtain ⟨hlow, hhigh⟩ := gateFor_bounds cfg.maxImuDtS p
  refine ⟨fun later => (hgate later).2, hlow, hhigh, ?_⟩
  intro hp later sample prev hprev m t hpos hgap
  have hcadence := cadence_run hcast cfg boot (ops ++ later)
  have ht : m.monoSecs sample.t.mono = t := by
    unfold monoSecs
    rw [hcadence.booted]
  have hwithin : m.imuGap t = .within (max (t - prev) 1e-6) := by
    refine imuGap_within (hcadence.latest.trans hprev) hpos ?_
    rw [(hgate later).2]
    exact le_trans hgap (le_gateFor cfg.maxImuDtS hp)
  rw [← ht] at hwithin ⊢
  exact step_within (hgate later).1 hwithin

/-- A sample of a vehicle at rest. -/
def restingSample (ns : Nat) : ImuSample ℚ := ⟨⟨ns, none⟩, ⟨0, 0, -9.80665⟩, ⟨0, 0, 0⟩⟩

/-- Ten samples, a quarter of a second apart: slower than the configured gate. -/
def slowSamples : List (NavOp ℚ) :=
  (List.range 10).map fun k => .step (restingSample ((k + 1) * 250000000))

def slowCfg : NavConfig ℚ := { NavConfig.default with staticInitS := 0.05 }

/-- The gate is two and a half of the stream's periods, and the next sample, 0.6 s after the
    last of them, passes it. -/
theorem gate_admits_slow_stream :
    (run opStep (new slowCfg 0) (slowSamples ++ [])).cfg.maxImuDtS = 0.625 ∧
    ((run opStep (new slowCfg 0) (slowSamples ++ [])).step (restingSample 3100000000)).2 =
      .ok ((run opStep (new slowCfg 0) (slowSamples ++ [])).integrateStep
        (restingSample 3100000000) 3.1 0.6).2 := by
  obtain ⟨hcfg, -, -, hlater⟩ := gate_admits_stream slowCfg 0 slowSamples (by decide +kernel)
    (by decide +kernel) fun _ hx => le_toNat hx
  have hpass := hlater (by decide +kernel) [] (restingSample 3100000000) 2.5 (by decide +kernel)
    (by decide +kernel) (by decide +kernel)
  have ht : (asSecs ((restingSample 3100000000).t.mono - 0) : ℚ) = 3.1 := by decide +kernel
  have hdt : max ((3.1 : ℚ) - 2.5) 1e-6 = 0.6 := by decide +kernel
  rw [ht, hdt] at hpass
  refine ⟨?_, congrArg Prod.snd hpass.1⟩
  rw [hcfg []]
  decide +kernel

end DeadReckoner

end FlyingSquirrel

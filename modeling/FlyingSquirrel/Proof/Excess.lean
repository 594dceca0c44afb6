import FlyingSquirrel.Detect.Lanes
import FlyingSquirrel.Lib.Budget
import FlyingSquirrel.Lib.Flow
import FlyingSquirrel.Proof.Actions

/-!
# What an alarm takes

A residual adds to a sum of the drift detector at most what it exceeds that sum's configured
reference by, whatever the noise floors have learnt. So the sums of a flight are bounded by what
its fixes exceed the references by **in total**, and a flight in which that total stays below the
thresholds raises no drift alarm, however it is spread over the flight.

The other three detectors look at one fix at a time, or at a fix that is pinned while the vehicle
moves, and `Tame` says that none of them has anything to object to. The two together are a flight
that is never acted on: `never_alarms`.
-/

set_option autoImplicit false

namespace FlyingSquirrel

open Lib

/-! ## One fix, in the detectors -/

section Detectors

variable {F : Type} [Field F] [LinearOrder F]

/-- The configured reference of a lane. -/
def DetectConfig.laneK (c : DetectConfig F) : Lane → F
  | .posN | .negN | .posE | .negE => c.cusumKM
  | .mag => c.magCusumKM
  | .velAiding => c.velAidingCusumKMps

/-- The configured threshold of a lane. -/
def DetectConfig.laneH (c : DetectConfig F) : Lane → F
  | .posN | .negN | .posE | .negE => c.cusumHM
  | .mag => c.magCusumHM
  | .velAiding => c.velAidingCusumH

/-- What a residual exceeds the configured reference of a lane by. -/
def Residual.excess (r : Residual F) (c : DetectConfig F) (l : Lane) : F :=
  max (l.input r - c.laneK l) 0

theorem Residual.excess_nonneg (r : Residual F) (c : DetectConfig F) (l : Lane) :
    0 ≤ r.excess c l := le_max_right _ _

variable [IsStrictOrderedRing F]

theorem Residual.excess_eq_zero {r : Residual F} {c : DetectConfig F} {l : Lane}
    (h : l.input r ≤ c.laneK l) : r.excess c l = 0 := max_eq_right (sub_nonpos.mpr h)

theorem cusum_le_add {s x y : F} (hs : 0 ≤ s) (hxy : x ≤ y) : cusum s x ≤ s + max y 0 := by
  apply max_le
  · exact add_le_add_right (hxy.trans (le_max_left y 0)) s
  · exact add_nonneg hs (le_max_right y 0)

namespace DriftDetector

theorem laneK_le_laneReference {F : Type} [Field F] [LinearOrder F]
    (d : DriftDetector F) (r : Residual F) (l : Lane) :
    d.cfg.laneK l ≤ d.laneReference r l := by
  cases l <;> exact le_max_left _ _

theorem laneH_le_laneThreshold {d : DriftDetector F} {l : Lane} (h : 0 ≤ d.cfg.laneH l)
    (hdop : Option F) (sats : Option Nat) : d.cfg.laneH l ≤ d.laneThreshold hdop sats l := by
  have hwidened : ∀ x : F, 0 ≤ x → x ≤ d.widened hdop sats x := by
    intro x hx
    unfold widened
    split
    · linarith
    · exact le_rfl
  cases l with
  | velAiding => exact le_rfl
  | posN | negN | posE | negE => exact hwidened _ h
  | mag => exact hwidened _ h

/-- **A fix adds to a sum at most its excess.** -/
theorem evaluate_sum_le {d : DriftDetector F} (hs : ∀ l, 0 ≤ Lane.sum d.state l) (x : Reading F)
    (l : Lane) :
    0 ≤ l.sum (d.evaluate x.r x.hdop x.sats).1.state ∧
      l.sum (d.evaluate x.r x.hdop x.sats).1.state ≤ l.sum d.state + x.r.excess d.cfg l := by
  have hgrow : 0 ≤ l.sum d.state + x.r.excess d.cfg l :=
    add_nonneg (hs l) (x.r.excess_nonneg d.cfg l)
  by_cases hw : d.warmup < warmupFixes
  · rw [evaluate_warming hw (finiteResidual_field x.r)]
    show 0 ≤ l.sum CusumState.default ∧ l.sum CusumState.default ≤ _
    rw [Lane.sum_default]
    exact ⟨le_rfl, hgrow⟩
  · rw [evaluate_sum (not_lt.mp hw) x l]
    split
    · refine ⟨cusum_nonneg _ _, cusum_le_add (hs l) ?_⟩
      exact sub_le_sub_left (laneK_le_laneReference d x.r l) _
    · exact ⟨hs l, le_add_of_nonneg_right (x.r.excess_nonneg d.cfg l)⟩

/-- A fix that leaves every sum below its threshold reports nothing. -/
theorem evaluate_silent {d : DriftDetector F} (hs : ∀ l, 0 ≤ Lane.sum d.state l) (x : Reading F)
    (hroom : ∀ l, l.sum d.state + x.r.excess d.cfg l < d.cfg.laneH l) :
    (d.evaluate x.r x.hdop x.sats).2 = none := by
  by_cases hw : d.warmup < warmupFixes
  · rw [evaluate_warming hw (finiteResidual_field x.r)]
  · by_contra hfires
    obtain ⟨l, hl⟩ := (evaluate_fires_iff (not_lt.mp hw) (finiteResidual_field x.r)).mp hfires
    have hsum := (evaluate_sum_le hs x l).2
    have hpos : 0 ≤ d.cfg.laneH l :=
      (add_nonneg (hs l) (x.r.excess_nonneg d.cfg l)).trans (hroom l).le
    have hthreshold := laneH_le_laneThreshold hpos x.hdop x.sats
    linarith [hroom l]

end DriftDetector

theorem JumpDetector.evaluate_silent {d : JumpDetector F} {x : Reading F}
    (hjump : 0 ≤ d.cfg.maxJumpM) (hmismatch : 0 ≤ d.cfg.maxVelocityMismatchMps)
    (hpos : x.r.magPos ≤ d.cfg.maxJumpM) (hvel : x.r.magVel ≤ d.cfg.maxVelocityMismatchMps) :
    (d.evaluate x.r x.hdop x.sats).2 = none := by
  have hscale : d.cfg.maxJumpM ≤ (d.scale x.hdop x.sats).1 ∧
      d.cfg.maxVelocityMismatchMps ≤ (d.scale x.hdop x.sats).2 := by
    unfold scale
    split
    · constructor
      · linarith
      · linarith
    · exact ⟨le_rfl, le_rfl⟩
  rw [JumpDetector.evaluate_snd, if_neg fun h => not_lt.mpr (hvel.trans hscale.2) h.2.1,
    if_neg (not_lt.mpr (hpos.trans hscale.1))]

/-! ## One fix, in the machine -/

/-- Normal, with nothing pending. -/
structure StateMachine.Idle (c : DetectConfig F) (m : StateMachine F) : Prop where
  state : m.state = .normal
  anomaly : m.externalAnomaly = false
  driftCfg : m.drift.cfg = c
  jumpCfg : m.jump.cfg = c
  sums : ∀ l, 0 ≤ Lane.sum m.drift.state l

namespace StateMachine

variable {c : DetectConfig F} {m : StateMachine F}

section

omit [IsStrictOrderedRing F]

theorem Idle.new (c : DetectConfig F) : Idle c (StateMachine.new c) where
  state := rfl
  anomaly := rfl
  driftCfg := rfl
  jumpCfg := rfl
  sums l := (Lane.sum_default l).ge

/-- Clearing the sums leaves the machine idle, and uses nothing up. -/
theorem Idle.reset (h : Idle c m) :
    Idle c { m with drift := m.drift.reset } ∧
      ∀ l, Lane.sum m.drift.reset.state l ≤ Lane.sum m.drift.state l := by
  have hzero : ∀ l, Lane.sum m.drift.reset.state l = 0 := Lane.sum_default
  constructor
  · exact { h with sums := fun l => (hzero l).ge }
  · intro l
    rw [hzero l]
    exact h.sums l

theorem Idle.setPosDetectorsEnabled (h : Idle c m) (on : Bool) :
    Idle c (m.setPosDetectorsEnabled on) ∧
      ∀ l, Lane.sum (m.setPosDetectorsEnabled on).drift.state l ≤ Lane.sum m.drift.state l := by
  unfold StateMachine.setPosDetectorsEnabled
  split
  · obtain ⟨hidle, hsums⟩ := h.reset
    exact ⟨{ hidle with jumpCfg := h.jumpCfg }, hsums⟩
  · exact ⟨{ h with }, fun _ => le_rfl⟩

theorem Idle.onCleanAnchor (h : Idle c m) :
    Idle c m.onCleanAnchor ∧
      ∀ l, Lane.sum m.onCleanAnchor.drift.state l ≤ Lane.sum m.drift.state l := by
  unfold StateMachine.onCleanAnchor
  rw [if_pos h.state]
  exact h.reset

theorem Idle.manualResetToNormal (h : Idle c m) :
    Idle c m.manualResetToNormal ∧
      ∀ l, Lane.sum m.manualResetToNormal.drift.state l ≤ Lane.sum m.drift.state l := by
  obtain ⟨hidle, hsums⟩ := h.reset
  exact ⟨{ hidle with state := rfl, anomaly := rfl, jumpCfg := h.jumpCfg }, hsums⟩

end

/-- The assessment of a fix that nobody objects to. -/
theorem Idle.assess (h : Idle c m) (hjump : 0 ≤ c.maxJumpM)
    (hmismatch : 0 ≤ c.maxVelocityMismatchMps) {r : Residual F}
    (hpos : r.magPos ≤ c.maxJumpM) (hvel : r.magVel ≤ c.maxVelocityMismatchMps)
    (hroom : ∀ l, Lane.sum m.drift.state l + r.excess c l < c.laneH l) (t : F)
    (hdop : Option F) (sats : Option Nat) :
    (m.assess r t hdop sats).2 = (none, none) ∧ Idle c (m.assess r t hdop sats).1 ∧
    ∀ l, Lane.sum (m.assess r t hdop sats).1.drift.state l ≤
      Lane.sum m.drift.state l + r.excess c l := by
  obtain ⟨hstate, -, -, hanomaly, -⟩ := assess_keeps m r t hdop sats
  obtain ⟨hdrift, hjumps, hreasons⟩ := assess_detectors m r t hdop sats
  have hnormal := hstate.trans h.state
  cases hon : m.posDetectorsEnabled with
  | false =>
    rw [hon, if_neg Bool.false_ne_true] at hdrift hjumps hreasons
    refine ⟨hreasons, ⟨hnormal, hanomaly, ?_, ?_, ?_⟩, fun l => ?_⟩
    · rw [hdrift, h.driftCfg]
    · rw [hjumps, h.jumpCfg]
    · rw [hdrift]
      exact h.sums
    · rw [hdrift]
      exact le_add_of_nonneg_right (r.excess_nonneg c l)
  | true =>
    rw [hon, if_pos rfl] at hdrift hjumps hreasons
    have hsums := fun l => DriftDetector.evaluate_sum_le h.sums ⟨r, hdop, sats⟩ l
    have hroom' : ∀ l, Lane.sum m.drift.state l + r.excess m.drift.cfg l < m.drift.cfg.laneH l := by
      rw [h.driftCfg]
      exact hroom
    have hsilent := DriftDetector.evaluate_silent h.sums ⟨r, hdop, sats⟩ hroom'
    have hquiet : (m.jump.evaluate r hdop sats).2 = none := by
      refine JumpDetector.evaluate_silent (x := ⟨r, hdop, sats⟩) ?_ ?_ ?_ ?_
      · rwa [h.jumpCfg]
      · rwa [h.jumpCfg]
      · rwa [h.jumpCfg]
      · rwa [h.jumpCfg]
    rw [h.driftCfg] at hsums
    refine ⟨?_, ⟨hnormal, hanomaly, ?_, ?_, ?_⟩, fun l => ?_⟩
    · rw [hreasons, hquiet]
      exact congrArg (Prod.mk none) hsilent
    · rw [hdrift, ← h.driftCfg]
      exact DriftDetector.evaluate_cfg m.drift ⟨r, hdop, sats⟩
    · rw [hjumps, JumpDetector.evaluate_cfg, h.jumpCfg]
    · rw [hdrift]
      exact fun l => (hsums l).1
    · rw [hdrift]
      exact (hsums l).2

theorem Idle.idles {F : Type} [Field F] [LinearOrder F] {c : DetectConfig F} {m : StateMachine F}
    (h : Idle c m) {r : Residual F} {t : F} {hdop : Option F} {sats : Option Nat}
    (hnone : (m.assess r t hdop sats).2 = (none, none)) :
    m.evaluate r t hdop sats = ((m.assess r t hdop sats).1, []) := by
  apply evaluate_idles h.state
  unfold firing
  rw [hnone, h.anomaly]
  rfl

end StateMachine

end Detectors

/-! ## Outputs nobody would notice -/

/-- The kinds a detector reports as. -/
def SpoofKind.isAlarm : SpoofKind → Bool
  | .jump | .drift | .frozenGps => true
  | _ => false

/-- No detector's event, no flight action, no task started. -/
def Output.Quiet {α : Type} : Output α → Prop
  | .event e => e.kind.isAlarm = false
  | .call c => c = .reset
  | .spawn _ => False

def AllQuiet {α : Type} (out : List (Output α)) : Prop := ∀ o ∈ out, o.Quiet

section Quiet

variable {α : Type} {out out' : List (Output α)}

theorem AllQuiet.nil : AllQuiet ([] : List (Output α)) := by simp [AllQuiet]

theorem AllQuiet.single {o : Output α} (h : o.Quiet) : AllQuiet [o] :=
  fun _ ho => List.mem_singleton.mp ho ▸ h

theorem AllQuiet.append (h : AllQuiet out) (h' : AllQuiet out') : AllQuiet (out ++ out') :=
  fun o ho => (List.mem_append.mp ho).elim (h o) (h' o)

end Quiet

namespace Fusion

section Stages

variable {α : Type} [Zero α] [One α] [Neg α] [Add α] [Sub α] [Mul α] [Div α] [NatCast α]
  [OfScientific α] [LT α] [LE α] [DecidableLT α] [DecidableLE α] [Max α] [Min α] [Libm α]
  [FiniteTest α] (f : Fusion α)

theorem refreshPreflight_allQuiet {α : Type} [Zero α] [Sub α] [Div α] [NatCast α] [OfScientific α]
    [LE α] [DecidableLE α] (f : Fusion α) (env : Env α) (t : Timestamp) :
    AllQuiet (f.refreshPreflight env t).2 := by
  unfold refreshPreflight
  split
  · exact .nil
  · dsimp only
    split
    · exact .single rfl
    · split
      · exact .single rfl
      · exact .nil

theorem drainDwellNotice_allQuiet {α : Type} [Zero α] (f : Fusion α)
    (fix : GpsFix α) : AllQuiet (f.drainDwellNotice fix).2 := by
  unfold drainDwellNotice
  split
  · exact .single rfl
  · exact .nil

theorem checkDoppler_allQuiet {α : Type} (f : Fusion α) (fix : GpsFix α) (r : Residual α) :
    AllQuiet (f.checkDoppler fix r).2 := by
  unfold checkDoppler
  split
  · exact .nil
  · dsimp only
    split
    · exact .single rfl
    · exact .nil

theorem onBackground_allQuiet {α : Type} [Zero α] (f : Fusion α) (now : Instant) (done : BgDone) :
    AllQuiet (f.onBackground now done).2 := by
  unfold onBackground
  dsimp only
  split <;> first | exact .single rfl | exact .nil

theorem operatorReset_allQuiet {α : Type} [Zero α] (f : Fusion α)
    (now : Instant) : AllQuiet (f.operatorReset now).2 := by
  intro o ho
  rcases List.mem_pair.mp ho with rfl | rfl <;> rfl

theorem preflightAnchor_fsm (fix : GpsFix α) :
    (f.preflightAnchor fix).fsm = f.fsm ∨ (f.preflightAnchor fix).fsm = f.fsm.onCleanAnchor := by
  unfold preflightAnchor
  split
  · exact .inr rfl
  · exact .inl rfl

theorem preflightAnchor_displacement (fix : GpsFix α) :
    (f.preflightAnchor fix).frozenImuDisplacementM = f.frozenImuDisplacementM := by
  unfold preflightAnchor
  split <;> rfl

/-- What the altitude check looks at is not touched by the trackers before it. -/
theorem trackers_verticalAlarm {α : Type} [Zero α] [Neg α] [Add α] [Sub α] [Mul α] [Div α]
    [OfScientific α] [LT α] [LE α] [DecidableLT α] [DecidableLE α] [Libm α] (f : Fusion α)
    (fix : GpsFix α) (t altM : α) :
    (((f.noteGap t).drainDwellNotice fix).1.trackFrozen fix).verticalAlarm altM t =
      f.verticalAlarm altM t := by
  obtain ⟨p, htrackers⟩ := trackers_eq f fix t
  rw [htrackers]
  by_cases h : f.frozenCandidate fix = true
  · rw [trackFrozen_of_candidate h]
    rfl
  · rw [trackFrozen_of_away h]
    rfl

end Stages

/-! ## One fix, in the task -/

variable {F : Type} [Field F] [LinearOrder F] [IsStrictOrderedRing F] [Libm F] [Nalgebra F]

/-- The residual a fix is evaluated on, where it is evaluated. -/
def evaluatedOn (f : Fusion F) (fix : GpsFix F) : Option (Residual F) :=
  if f.preflight = .ready then (f.atDecision fix).map (·.2.2) else none

/-- What the fix adds to a sum at most. -/
def excessOf (c : DetectConfig F) (f : Fusion F) : Input F → Lane → F
  | .gps fix _, l => ((f.evaluatedOn fix).map (·.excess c l)).getD 0
  | _, _ => 0

theorem excessOf_nonneg {F : Type} [Field F] [LinearOrder F] [IsStrictOrderedRing F] [Libm F]
    (c : DetectConfig F) (f : Fusion F) (i : Input F) (l : Lane) :
    0 ≤ excessOf c f i l := by
  cases i with
  | gps fix env =>
    show 0 ≤ ((f.evaluatedOn fix).map (·.excess c l)).getD 0
    cases f.evaluatedOn fix with
    | none => exact le_refl (0 : F)
    | some r => exact r.excess_nonneg c l
  | _ => exact le_refl (0 : F)

/-- The detectors that look at one fix have nothing to object to it, which is evaluated on `r`: no
    jump, no velocity mismatch, no climb, and it is pinned only while the vehicle is slow. -/
structure Plausible (c : DetectConfig F) (f : Fusion F) (fix : GpsFix F) (r : Residual F) :
    Prop where
  jump : r.magPos ≤ c.maxJumpM
  mismatch : r.magVel ≤ c.maxVelocityMismatchMps
  climb : f.verticalAlarm fix.altM (f.tSecs fix.t) = false
  pinned : f.frozenCandidate fix = true →
    ∀ p ∈ (f.buffer.interpolate (f.tSecs fix.t)).toOption,
      p.2.horizontalNorm ≤ frozenFixMinImuVelMps

instance (c : DetectConfig F) (f : Fusion F) (fix : GpsFix F) (r : Residual F) :
    Decidable (Plausible c f fix r) :=
  decidable_of_iff
    (r.magPos ≤ c.maxJumpM ∧ r.magVel ≤ c.maxVelocityMismatchMps ∧
      f.verticalAlarm fix.altM (f.tSecs fix.t) = false ∧
      (f.frozenCandidate fix = true →
        ∀ p ∈ (f.buffer.interpolate (f.tSecs fix.t)).toOption,
          p.2.horizontalNorm ≤ frozenFixMinImuVelMps))
    ⟨fun ⟨hj, hm, hc, hp⟩ => ⟨hj, hm, hc, hp⟩, fun h => ⟨h.jump, h.mismatch, h.climb, h.pinned⟩⟩

/-- Every fix that is evaluated is plausible. -/
def Tame (c : DetectConfig F) (f : Fusion F) : Input F → Prop
  | .gps fix _ => ∀ r ∈ f.evaluatedOn fix, Plausible c f fix r
  | _ => True

instance (c : DetectConfig F) (f : Fusion F) (i : Input F) : Decidable (Tame c f i) :=
  match i with
  | .gps fix _ => inferInstanceAs (Decidable (∀ r ∈ f.evaluatedOn fix, Plausible c f fix r))
  | .imu _ | .reset _ | .background _ _ => .isTrue trivial

structure Calm (c : DetectConfig F) (f : Fusion F) : Prop where
  fsm : f.fsm.Idle c
  displacement : f.frozenImuDisplacementM = 0

theorem Built.calm {F : Type} [Field F] [LinearOrder F] [IsStrictOrderedRing F] [Libm F]
    {c : FusionConfig F} {boot : Instant} {f : Fusion F} (h : Built c boot f) :
    f.Calm c.detect ∧ ∀ l, Lane.sum f.fsm.drift.state l = 0 := by
  induction h with
  | new => exact ⟨⟨.new _, rfl⟩, Lane.sum_default⟩
  | withMavMonitor _ _ ih => exact ⟨⟨ih.1.fsm, ih.1.displacement⟩, ih.2⟩
  | withForensic _ _ _ ih => exact ⟨⟨ih.1.fsm, ih.1.displacement⟩, ih.2⟩

/-- What comes of a calm task is calm and quiet, and its sums have grown by `cost` at most. -/
structure Grown (c : DetectConfig F) (f : Fusion F) (cost : Lane → F)
    (x : Fusion F × List (Output F)) : Prop where
  calm : x.1.Calm c
  sums : ∀ l, Lane.sum x.1.fsm.drift.state l ≤ Lane.sum f.fsm.drift.state l + cost l
  quiet : AllQuiet x.2

section Growth

variable {c : DetectConfig F} {f : Fusion F} {cost : Lane → F}

section

omit [Libm F] [Nalgebra F]

theorem Grown.andThen {x : Fusion F × List (Output F)} {k : Fusion F → Fusion F × List (Output F)}
    (hx : Grown c f 0 x) (hk : Grown c x.1 cost (k x.1)) : Grown c f cost (Lib.andThen x k) where
  calm := hk.calm
  sums := by
    intro l
    have hfirst := hx.sums l
    rw [Pi.zero_apply, add_zero] at hfirst
    exact (hk.sums l).trans (add_le_add_left hfirst _)
  quiet := hx.quiet.append hk.quiet

theorem Grown.mono {cost' : Lane → F} {x : Fusion F × List (Output F)} (h : Grown c f cost x)
    (hle : ∀ l, cost l ≤ cost' l) : Grown c f cost' x :=
  { h with sums := fun l => (h.sums l).trans (add_le_add_right (hle l) _) }

/-- The detectors and what is pending are as they were. -/
theorem Calm.stays (h : Calm c f) {g : Fusion F} {out : List (Output F)}
    (hfsm : g.fsm.state = f.fsm.state ∧ g.fsm.externalAnomaly = f.fsm.externalAnomaly ∧
      g.fsm.drift = f.fsm.drift ∧ g.fsm.jump = f.fsm.jump)
    (hdisp : g.frozenImuDisplacementM = 0) (hquiet : AllQuiet out) : Grown c f 0 (g, out) := by
  obtain ⟨hstate, hanomaly, hdrift, hjump⟩ := hfsm
  refine ⟨⟨⟨hstate.trans h.fsm.state, hanomaly.trans h.fsm.anomaly, ?_, ?_, ?_⟩, hdisp⟩, ?_, hquiet⟩
  · rw [hdrift, h.fsm.driftCfg]
  · rw [hjump, h.fsm.jumpCfg]
  · rw [hdrift]
    exact h.fsm.sums
  · intro l
    rw [hdrift]
    exact le_add_of_nonneg_right le_rfl

end

/-- The machine is one that has grown by nothing. -/
theorem Calm.replaced {F : Type} [Field F] [LinearOrder F] {c : DetectConfig F} {f : Fusion F}
    (h : Calm c f) {g : Fusion F} {m : StateMachine F} (hfsm : g.fsm = m)
    (hm : StateMachine.Idle c m ∧
      ∀ l, Lane.sum m.drift.state l ≤ Lane.sum f.fsm.drift.state l)
    (hdisp : g.frozenImuDisplacementM = f.frozenImuDisplacementM) {out : List (Output F)}
    (hquiet : AllQuiet out) : Grown c f 0 (g, out) := by
  subst hfsm
  refine ⟨⟨hm.1, hdisp.trans h.displacement⟩, fun l => ?_, hquiet⟩
  rw [Pi.zero_apply, add_zero]
  exact hm.2 l

theorem Calm.refreshPreflight {F : Type} [Field F] [LinearOrder F] [IsStrictOrderedRing F]
    {c : DetectConfig F} {f : Fusion F} (h : Calm c f) (env : Env F) (t : Timestamp) :
    Grown c f 0 (f.refreshPreflight env t) := by
  obtain ⟨_, _, _, hrefresh⟩ := refreshPreflight_eq f env t
  refine h.stays (g := (f.refreshPreflight env t).1) ?_ ?_ (refreshPreflight_allQuiet f env t)
  · rw [hrefresh]
    exact ⟨rfl, rfl, rfl, rfl⟩
  · rw [hrefresh]
    exact h.displacement

section

omit [Nalgebra F]

theorem Calm.onFirstFix (h : Calm c f) (env : Env F) (fix : GpsFix F) :
    Grown c f 0 (f.onFirstFix env fix) := by
  unfold Fusion.onFirstFix
  split
  · exact h.stays ⟨rfl, rfl, rfl, rfl⟩ h.displacement (.single rfl)
  · have hanchored : Calm c { f with
        nav := f.nav.onGpsFix fix
        checklist := { f.checklist with firstFixAccepted := true } } := ⟨h.fsm, h.displacement⟩
    have hrefresh := hanchored.refreshPreflight env fix.t
    exact ⟨hrefresh.calm, hrefresh.sums, hrefresh.quiet⟩

theorem Calm.onPreflightFix (h : Calm c f) (env : Env F) (fix : GpsFix F) :
    Grown c f 0 (f.onPreflightFix env fix) := by
  have hrefresh := h.refreshPreflight env fix.t
  have hg := hrefresh.calm
  refine hrefresh.andThen (k := fun g => (g.preflightAnchor fix, [])) ?_
  generalize (f.refreshPreflight env fix.t).1 = g at hg ⊢
  have hdisp := preflightAnchor_displacement g fix
  rcases preflightAnchor_fsm g fix with hfsm | hfsm
  · exact hg.replaced hfsm ⟨hg.fsm, fun _ => le_rfl⟩ hdisp .nil
  · exact hg.replaced hfsm hg.fsm.onCleanAnchor hdisp .nil

/-- The trackers an armed fix goes through. -/
theorem Calm.trackers (h : Calm c f) (fix : GpsFix F) (t : F) :
    Grown c f 0 (((f.noteGap t).drainDwellNotice fix).1.trackFrozen fix,
      ((f.noteGap t).drainDwellNotice fix).2) := by
  obtain ⟨p, htrackers⟩ := trackers_eq f fix t
  refine h.stays ?_ ?_ (drainDwellNotice_allQuiet _ fix)
  · rw [htrackers]
    exact ⟨rfl, rfl, rfl, rfl⟩
  · rw [htrackers]
    show (f.trackFrozen fix).frozenImuDisplacementM = 0
    unfold trackFrozen
    split
    · exact h.displacement
    · rfl

/-- A fix is pinned only while the vehicle is slow, so nothing accrues. -/
theorem Calm.checkFrozen (h : Calm c f) (fix : GpsFix F) (dropoutS : F) {candidate : Bool}
    {vImu : NedVel F}
    (hslow : candidate = true → vImu.horizontalNorm ≤ frozenFixMinImuVelMps) (r : Residual F) :
    Grown c f 0 (f.checkFrozen fix dropoutS candidate vImu r) := by
  unfold Fusion.checkFrozen
  cases candidate with
  | false => exact h.stays ⟨rfl, rfl, rfl, rfl⟩ h.displacement .nil
  | true =>
    have haccrued : (f.accrueFrozen dropoutS vImu.horizontalNorm).frozenImuDisplacementM = 0 := by
      unfold accrueFrozen
      dsimp only
      rw [if_neg (not_lt.mpr (hslow rfl))]
      exact h.displacement
    rw [if_pos rfl]
    dsimp only
    rw [haccrued, if_neg]
    · exact h.stays ⟨rfl, rfl, rfl, rfl⟩ haccrued .nil
    · unfold frozenMinImuDisplacementM
      norm_num

end

section

omit [Libm F] [Nalgebra F]

theorem Calm.checkVerticalRate (h : Calm c f) {fix : GpsFix F} {t : F}
    (hclimb : f.verticalAlarm fix.altM t = false) (r : Residual F) :
    Grown c f 0 (f.checkVerticalRate fix t r) := by
  unfold Fusion.checkVerticalRate
  dsimp only
  rw [if_neg (by simp [hclimb])]
  exact h.stays ⟨rfl, rfl, rfl, rfl⟩ h.displacement .nil

theorem Calm.checkDoppler (h : Calm c f) (fix : GpsFix F) (r : Residual F) :
    Grown c f 0 (f.checkDoppler fix r) := by
  obtain ⟨_, hdoppler⟩ := checkDoppler_eq f fix r
  refine h.stays (g := (f.checkDoppler fix r).1) ?_ ?_ (checkDoppler_allQuiet f fix r)
  · rw [hdoppler]
    exact ⟨rfl, rfl, rfl, rfl⟩
  · rw [hdoppler]
    exact h.displacement

end

theorem Calm.throughDetectors {F : Type} [Field F] [LinearOrder F] [IsStrictOrderedRing F] [Libm F]
    {c : DetectConfig F} {f : Fusion F} (h : Calm c f) {fix : GpsFix F} {t : F}
    (hclimb : f.verticalAlarm fix.altM t = false) (dropoutS : F) {candidate : Bool}
    {vImu : NedVel F}
    (hslow : candidate = true → vImu.horizontalNorm ≤ frozenFixMinImuVelMps) (r : Residual F) :
    Grown c f 0 (f.throughDetectors fix t dropoutS candidate vImu r) := by
  have hcaptured : Calm c (f.captureForensic fix t r) := ⟨h.fsm, h.displacement⟩
  have hfrozen := hcaptured.checkFrozen fix dropoutS hslow r
  have hclimb' : (((f.captureForensic fix t r).checkFrozen fix dropoutS candidate
      vImu r).1.verticalAlarm fix.altM t) = false := by
    rw [checkFrozen_eq]
    cases candidate <;> exact hclimb
  have hvertical := hfrozen.andThen (k := fun g => g.checkVerticalRate fix t r)
    (hfrozen.calm.checkVerticalRate hclimb' r)
  have hdoppler := hvertical.andThen (k := fun g => g.checkDoppler fix r)
    (hvertical.calm.checkDoppler fix r)
  exact ⟨hdoppler.calm, hdoppler.sums, hdoppler.quiet⟩

/-- A calm decision: the assessment, and the blend. -/
theorem Calm.decideFix {F : Type} [Field F] [LinearOrder F] [IsStrictOrderedRing F] [Libm F]
    {c : DetectConfig F} {f : Fusion F} (h : Calm c f) (hjump : 0 ≤ c.maxJumpM)
    (hmismatch : 0 ≤ c.maxVelocityMismatchMps) (env : Env F) (fix : GpsFix F)
    (gpsNed : NedPos F) (t : F) {r : Residual F} (hpos : r.magPos ≤ c.maxJumpM)
    (hvel : r.magVel ≤ c.maxVelocityMismatchMps)
    (hroom : ∀ l, Lane.sum f.fsm.drift.state l + r.excess c l < c.laneH l) :
    Grown c f (r.excess c) (f.decideFix env fix gpsNed t r) := by
  obtain ⟨hgated, hsums⟩ := h.fsm.setPosDetectorsEnabled
    (r.dvelKnown || decide (f.noDopplerStreak < noDopplerGateStreak))
  change StateMachine.Idle c (f.gatedFsm r) at hgated
  change ∀ l, Lane.sum (f.gatedFsm r).drift.state l ≤ _ at hsums
  have hroom' : ∀ l, Lane.sum (f.gatedFsm r).drift.state l + r.excess c l < c.laneH l :=
    fun l => lt_of_le_of_lt (add_le_add_left (hsums l) _) (hroom l)
  obtain ⟨hnone, hidle, hgrown⟩ :=
    hgated.assess hjump hmismatch hpos hvel hroom' t fix.hdop fix.sats
  have hdecided : f.decideFix env fix gpsNed t r =
      (finalBlend { f with fsm := ((f.gatedFsm r).assess r t fix.hdop fix.sats).1 } fix, []) := by
    unfold Fusion.decideFix
    rw [hgated.idles hnone]
    rfl
  obtain ⟨nav, hblend⟩ := finalBlend_eq
    { f with fsm := ((f.gatedFsm r).assess r t fix.hdop fix.sats).1 } fix
  rw [hdecided, hblend]
  refine ⟨⟨hidle, h.displacement⟩, fun l => ?_, .nil⟩
  exact (hgrown l).trans (add_le_add_left (hsums l) _)

theorem excessOf_evaluated {F : Type} [Field F] [LinearOrder F] [Libm F] {c : DetectConfig F}
    {f : Fusion F} {fix : GpsFix F} {r : Residual F} (h : f.evaluatedOn fix = some r)
    (env : Env F) : excessOf c f (.gps fix env) = r.excess c := by
  funext l
  show ((f.evaluatedOn fix).map (·.excess c l)).getD 0 = _
  rw [h]
  rfl

theorem Calm.onArmedFix {F : Type} [Field F] [LinearOrder F] [IsStrictOrderedRing F] [Libm F]
    {c : DetectConfig F} {f : Fusion F} (h : Calm c f) (hjump : 0 ≤ c.maxJumpM)
    (hmismatch : 0 ≤ c.maxVelocityMismatchMps) {env : Env F} {fix : GpsFix F} {gpsNed : NedPos F}
    (hn : f.nav.gpsInNed fix = some gpsNed) (hr : f.preflight = .ready)
    (hp : ∀ r ∈ f.evaluatedOn fix, Plausible c f fix r)
    (hroom : ∀ l, Lane.sum f.fsm.drift.state l + excessOf c f (.gps fix env) l < c.laneH l) :
    Grown c f (excessOf c f (.gps fix env)) (f.onArmedFix env fix gpsNed) := by
  have htrackers := h.trackers fix (f.tSecs fix.t)
  have hbuffer := (armedTrackers f fix (f.tSecs fix.t)).1.tracked.buffer
  have hsame := trackers_verticalAlarm f fix (f.tSecs fix.t) fix.altM
  have hat : ∀ pImu vImu, f.buffer.interpolate (f.tSecs fix.t) = .ok (pImu, vImu) →
      f.evaluatedOn fix = some (residual
        (((f.noteGap (f.tSecs fix.t)).drainDwellNotice fix).1.trackFrozen fix) fix gpsNed pImu
        vImu) := by
    intro pImu vImu hi
    unfold evaluatedOn atDecision
    rw [if_pos hr, hn, hi]
    rfl
  unfold Fusion.onArmedFix
  dsimp only [Lib.andThen] at hbuffer ⊢
  rw [hbuffer]
  generalize ((f.noteGap (f.tSecs fix.t)).drainDwellNotice fix).1.trackFrozen fix = g
    at htrackers hsame hat ⊢
  have hcalm : Calm c g := htrackers.calm
  have hsums : ∀ l, Lane.sum g.fsm.drift.state l ≤ Lane.sum f.fsm.drift.state l := by
    intro l
    have hgrown := htrackers.sums l
    rwa [Pi.zero_apply, add_zero] at hgrown
  cases hi : f.buffer.interpolate (f.tSecs fix.t) with
  | error e =>
    have hskipped : Grown c g 0 (g.skipFix fix e) :=
      hcalm.stays ⟨rfl, rfl, rfl, rfl⟩ hcalm.displacement (.single rfl)
    have hall := htrackers.andThen (k := fun g => g.skipFix fix e) hskipped
    exact hall.mono (excessOf_nonneg c f _)
  | ok served =>
    obtain ⟨pImu, vImu⟩ := served
    have hevaluated := hat pImu vImu hi
    have hplain := hp _ hevaluated
    dsimp only
    rw [excessOf_evaluated hevaluated env] at hroom ⊢
    rw [evaluateFix_eq]
    have hthrough := hcalm.throughDetectors (hsame.trans hplain.climb)
      (f.dropoutSeconds (f.tSecs fix.t))
      (fun hpinned => hplain.pinned hpinned (pImu, vImu) (by rw [hi]; rfl))
      (g.residual fix gpsNed pImu vImu)
    have hdecided := hthrough.calm.decideFix hjump hmismatch env fix gpsNed (f.tSecs fix.t)
      hplain.jump hplain.mismatch fun l => by
        have hgrown := hthrough.sums l
        rw [Pi.zero_apply, add_zero] at hgrown
        exact lt_of_le_of_lt (add_le_add_left (hgrown.trans (hsums l)) _) (hroom l)
    exact htrackers.andThen (k := fun _ => Lib.andThen _ _) (hthrough.andThen hdecided)

/-- **The step lemma.** -/
theorem Calm.step (h : Calm c f) (hjump : 0 ≤ c.maxJumpM)
    (hmismatch : 0 ≤ c.maxVelocityMismatchMps) {i : Input F} (hi : Tame c f i)
    (hroom : ∀ l, Lane.sum f.fsm.drift.state l + excessOf c f i l < c.laneH l) :
    Grown c f (excessOf c f i) (f.step i) := by
  cases i with
  | imu sample =>
    have hkept : Grown c f 0 (f.onImu sample, []) :=
      h.stays ⟨rfl, rfl, rfl, rfl⟩ h.displacement .nil
    exact hkept.mono (excessOf_nonneg c f _)
  | gps fix env =>
    show Grown c f _ (f.onGps env fix)
    unfold Fusion.onGps
    cases hn : f.nav.gpsInNed fix with
    | none => exact (h.onFirstFix env fix).mono (excessOf_nonneg c f _)
    | some gpsNed =>
      dsimp only
      by_cases hr : f.preflight = .ready
      · rw [if_neg fun hne => hne hr]
        exact h.onArmedFix hjump hmismatch hn hr hi hroom
      · rw [if_pos hr]
        exact (h.onPreflightFix env fix).mono (excessOf_nonneg c f _)
  | reset now =>
    obtain ⟨hidle, hsums⟩ := h.fsm.manualResetToNormal
    have hreset : Grown c f 0 (f.operatorReset now) := by
      refine ⟨⟨hidle, rfl⟩, fun l => ?_, operatorReset_allQuiet f now⟩
      rw [Pi.zero_apply, add_zero]
      exact hsums l
    exact hreset.mono (excessOf_nonneg c f _)
  | background now done =>
    obtain ⟨_, hdone⟩ := onBackground_eq f now done
    have hkept : Grown c f 0 ((f.onBackground now done).1, (f.onBackground now done).2) := by
      refine h.stays ?_ ?_ (onBackground_allQuiet f now done)
      · rw [hdone]
        exact ⟨rfl, rfl, rfl, rfl⟩
      · rw [hdone]
        exact h.displacement
    exact hkept.mono (excessOf_nonneg c f _)

end Growth

section

omit [IsStrictOrderedRing F] [Libm F] [Nalgebra F]

theorem maxJump_nonneg {c : FusionConfig F} (h : c.validate = .ok ()) : 0 ≤ c.detect.maxJumpM :=
  (FusionConfig.positiveFinite_ok (FusionConfig.ok_of_validate h
    (FusionConfig.maxJumpCheck c.detect) (by simp [FusionConfig.checks]))).1.le

theorem maxVelocityMismatch_nonneg {c : FusionConfig F} (h : c.validate = .ok ()) :
    0 ≤ c.detect.maxVelocityMismatchMps :=
  (FusionConfig.positiveFinite_ok (FusionConfig.ok_of_validate h
    (FusionConfig.maxVelocityMismatchCheck c.detect) (by simp [FusionConfig.checks]))).1.le

end

/-- A run of plausible fixes within the thresholds stays calm, and every step of it is quiet. -/
theorem Built.stays_calm {c : FusionConfig F} (hc : c.validate = .ok ()) {boot : Instant}
    {f : Fusion F} (hf : Built c boot f) {is : List (Input F)}
    (htame : Along step (Tame c.detect) f is)
    (hroom : ∀ l, totalCost step (excessOf c.detect) l f is < c.detect.laneH l) :
    (run step f is).Calm c.detect ∧ Along step (fun f i => AllQuiet (f.step i).2) f is := by
  obtain ⟨hcalm, hzero⟩ := hf.calm
  let used : Fusion F → Lane → F := fun f l => Lane.sum f.fsm.drift.state l
  have hstart : ∀ l, used f l + totalCost step (excessOf c.detect) l f is < c.detect.laneH l := by
    intro l
    rw [show used f l = 0 from hzero l, zero_add]
    exact hroom l
  refine htame.within_budget (excessOf_nonneg c.detect) ?_ hcalm hstart
  intro f i hi h hnow
  have hgrown := h.step (maxJump_nonneg hc) (maxVelocityMismatch_nonneg hc) hi hnow
  exact ⟨hgrown.calm, hgrown.quiet, hgrown.sums⟩

/-- **What an alarm takes.** A flight in which no fix is implausible on its own, and whose
    residuals exceed the references by less than the thresholds in total, stays in Normal: no
    detector reports, no flight action is taken and no dump is started. -/
theorem never_alarms {c : FusionConfig F} (hc : c.validate = .ok ()) {boot : Instant}
    {f : Fusion F} (hf : Built c boot f) {is : List (Input F)}
    (htame : Along step (Tame c.detect) f is)
    (hroom : ∀ l, totalCost step (excessOf c.detect) l f is < c.detect.laneH l) :
    (run step f is).fsm.state = .normal ∧ AllQuiet (outputs step f is) := by
  obtain ⟨hcalm, hquiet⟩ := hf.stays_calm hc htame hroom
  exact ⟨hcalm.fsm.state, hquiet.mem_outputs⟩

/-- Fixes of a vehicle that reports itself at rest. -/
def standingFixes (fs : List (Nat × ℚ)) : List (Input ℚ) :=
  fs.map fun (ms, lat) =>
    .gps { fixAt ms lat with speedMps := some 0, courseDeg := some 0 } quietEnv

/-- The fixes the detectors warm up on, half a metre north, and after them five that are five and a
    half metres north. -/
def offNorth : List (Input ℚ) :=
  arming ++ standingFixes ((List.range 20).map fun k => (110 + 5 * k, 0.000005)) ++
    standingFixes ((List.range 5).map fun k => (210 + 5 * k, 0.00005))

/-- The sum north gets past two thirds of the threshold. -/
theorem never_alarms_offNorth :
    (run step (Fusion.new quickCfg 0) offNorth).fsm.state = .normal ∧
      AllQuiet (outputs step (Fusion.new quickCfg 0) offNorth) ∧
      17 < (run step (Fusion.new quickCfg 0) offNorth).fsm.drift.state.sPosN := by
  have hvalid : quickCfg.validate = .ok () := runChecks_ok.mpr (by decide +kernel)
  have hnever : ∀ is : List (Input ℚ),
      Along step (Tame quickCfg.detect) (Fusion.new quickCfg 0) is →
      (∀ l, totalCost step (excessOf quickCfg.detect) l (Fusion.new quickCfg 0) is <
        quickCfg.detect.laneH l) →
      (run step (Fusion.new quickCfg 0) is).fsm.state = .normal ∧
        AllQuiet (outputs step (Fusion.new quickCfg 0) is) :=
    fun _ htame hroom => never_alarms hvalid .new htame hroom
  obtain ⟨hnormal, hquiet⟩ := hnever offNorth (by decide +kernel) fun l => by
    cases l <;> decide +kernel
  exact ⟨hnormal, hquiet, by decide +kernel⟩

end Fusion

end FlyingSquirrel

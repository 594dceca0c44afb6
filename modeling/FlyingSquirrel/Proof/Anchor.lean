import FlyingSquirrel.Proof.Actions

/-!
# Where the anchor can move

The origin of the tangent plane is what every residual is measured from. A fix becomes the
origin in one of three ways:

* it is the **first** one, and then it has been checked against the expected home;
* it **clears** a Suspicious episode, and then it has been checked against the
  dead-reckoned position;
* it reaches `on_gps_fix` **while the anchor is not locked**, and then nothing has been
  checked. `reAnchors` says when.

The third way is open for longer than its comments say. The lock needs a fix that calls
`on_gps_fix` after static initialisation is over, and a task can get to Ready without one:
a first fix during initialisation, then IMU samples until the buffer serves the second fix.
-/

set_option autoImplicit false

namespace FlyingSquirrel

open Lib

variable {α : Type} [Zero α] [One α] [Neg α] [Add α] [Sub α] [Mul α] [Div α] [NatCast α]
  [OfScientific α] [LT α] [LE α] [DecidableLT α] [DecidableLE α] [BEq α] [Max α] [Min α] [Libm α]
  [FiniteTest α]

/-- The coordinates of a fix, the way an origin holds them. -/
def GpsFix.coords {α : Type} (fix : GpsFix α) : α × α × α := (fix.latDeg, fix.lonDeg, fix.altM)

namespace Fusion

open StateMachine (SameButFlags)

/-- The fix reaches a call of `on_gps_fix`, given that there is an origin: the buffer does
    not serve its time, or it is evaluated in Normal and nothing fires. -/
def callsOnGpsFix (f : Fusion α) (fix : GpsFix α) : Bool :=
  !(f.buffer.interpolate (f.tSecs fix.t)).toBool ||
    (decide (f.preflight = .ready) && decide (f.fsm.state = .normal) && !f.firesOn fix)

/-- The fix moves an origin that is there, without a clear: it reaches `on_gps_fix` before
    the anchor is locked. -/
def reAnchors (f : Fusion α) (fix : GpsFix α) : Bool :=
  f.nav.origin.isSome && !f.nav.anchorLocked && f.callsOnGpsFix fix

/-- The step is a committed clear: a fix that takes the machine from Suspicious to
    Normal. -/
def commitsClear (f : Fusion α) : Input α → Bool
  | .gps fix env =>
    decide (f.fsm.state = .suspicious) && decide ((f.onGps env fix).1.fsm.state = .normal)
  | _ => false

theorem commitsClear_gps {f : Fusion α} {fix : GpsFix α} {env : Env α} :
    f.commitsClear (.gps fix env) = false ↔
      ¬ (f.fsm.state = .suspicious ∧ (f.onGps env fix).1.fsm.state = .normal) := by
  unfold commitsClear
  dsimp only
  rw [← Bool.decide_and, decide_eq_false_iff_not]

/-! ## What a step does to the anchor -/

variable [Nalgebra α]

/-- Inputs other than fixes leave the anchor and the gate alone, and but for the IMU they
    leave the position alone. -/
theorem step_still (f : Fusion α) {i : Input α} (hi : ¬ ∃ fix env, i = .gps fix env) :
    f.nav.SameAnchor (f.step i).1.nav ∧ (f.step i).1.preflight = f.preflight ∧
    (f.step i).1.checklist.firstFixAccepted = f.checklist.firstFixAccepted ∧
    ((∀ sample, i ≠ .imu sample) → (f.step i).1.nav.drPos = f.nav.drPos) := by
  cases i with
  | imu sample =>
    exact ⟨DeadReckoner.step_sameAnchor f.nav sample, rfl, rfl, fun h => absurd rfl (h _)⟩
  | gps fix env => exact absurd ⟨fix, env, rfl⟩ hi
  | reset now => exact ⟨⟨rfl, rfl, rfl, rfl⟩, rfl, rfl, fun _ => rfl⟩
  | background now done =>
    obtain ⟨fo, hb⟩ := onBackground_eq f now done
    have hstep : (f.step (.background now done)).1 = { f with forensic := fo } := hb
    rw [hstep]
    exact ⟨⟨rfl, rfl, rfl, rfl⟩, rfl, rfl, fun _ => rfl⟩

/-- The anchor after a decision: moved to the fix by a clear, handed to `on_gps_fix` in a
    quiet Normal, and left alone otherwise. -/
theorem Decision.anchor {α : Type} [Zero α] [One α] [Neg α] [Add α] [Sub α] [Mul α] [Div α]
    [NatCast α] [OfScientific α] [LT α] [LE α] [DecidableLT α] [DecidableLE α] [BEq α] [Max α]
    [Min α] [Libm α] [FiniteTest α] {f f' : Fusion α} {env : Env α} {fix : GpsFix α}
    {gpsNed : NedPos α} {t : α} {r : Residual α} {out : List (Output α)}
    (h : Decision f env fix gpsNed t r f' out) :
    (f.fsm.state = .suspicious ∧ f'.fsm.state = .normal ∧
      f'.nav.origin = some fix.coords ∧ f'.nav.drPos = NedPos.default ∧
      f'.nav.cfg = f.nav.cfg) ∨
    (¬ (f.fsm.state = .suspicious ∧ f'.fsm.state = .normal) ∧
      ((f.fsm.state = .normal ∧ f.fires fix t r = false ∧ f'.nav = f.nav.onGpsFix fix) ∨
       (¬ (f.fsm.state = .normal ∧ f.fires fix t r = false) ∧
        ∃ state, f'.nav = f.nav.setState state))) := by
  have hpre := assessed_state f fix t r
  cases h with
  | latched hs =>
    refine .inr ⟨fun ⟨h, _⟩ => ?_, .inr ⟨fun ⟨h, _⟩ => ?_, _, rfl⟩⟩
    · rw [hs] at h; exact absurd h (by simp)
    · rw [hs] at h; exact absurd h (by simp)
  | @settled m hs ha =>
    have hm : m.state = f.fsm.state := ha.silent.trans hpre
    refine .inr ⟨?_, ?_⟩
    · rw [finalBlend_fsm]
      rintro ⟨h, h'⟩
      exact absurd (h.symm.trans (hm.symm.trans h')) (by simp)
    · by_cases hn : f.fsm.state = .normal
      · exact .inl ⟨hn, ha.quiet (hpre.trans hn), congrArg Fusion.nav (if_pos (hm.trans hn))⟩
      · refine .inr ⟨fun h => hn h.1, f.nav.state, ?_⟩
        rw [finalBlend_of_ne (by rw [show StateMachine.state _ = _ from hm]; exact hn)]
        rfl
  | @opened m ha =>
    refine .inr ⟨fun ⟨_, h'⟩ => ?_, .inr ⟨fun ⟨_, hf⟩ => ?_, _, rfl⟩⟩
    · exact absurd (h'.symm.trans ha.transitioned.2) (by simp)
    · rw [show f.fires fix t r = true from ha.opened] at hf
      exact absurd hf (by simp)
  | @escalated m g ha hg =>
    obtain ⟨_, ho⟩ := onSpoofed_state g env fix r .suspicious
    obtain ⟨hs, hm⟩ := ha.transitioned
    refine .inr ⟨fun ⟨_, h'⟩ => ?_, .inr ⟨fun ⟨h, _⟩ => ?_, .spoofed, ?_⟩⟩
    · rw [ho, hg] at h'
      exact absurd (h'.symm.trans hm) (by simp)
    · exact absurd (h.symm.trans (hpre.symm.trans hs)) (by simp)
    · rw [ho, hg]
  | @vetoed m distance ha _ =>
    obtain ⟨hs, hm⟩ := ha.transitioned
    have hveto := StateMachine.forceBackToSuspicious_eq hm t f.fsm.suspiciousSince
    refine .inr ⟨fun ⟨_, h'⟩ => ?_, .inr ⟨fun ⟨h, _⟩ => ?_, f.nav.state, rfl⟩⟩
    · change (m.forceBackToSuspicious t f.fsm.suspiciousSince).state = .normal at h'
      rw [hveto] at h'
      exact absurd h' (by simp)
    · exact absurd (h.symm.trans (hpre.symm.trans hs)) (by simp)
  | @cleared m ha _ =>
    obtain ⟨hs, hm⟩ := ha.transitioned
    have hblend : ∀ g : Fusion α, g.fsm.state = .normal →
        (g.finalBlend fix).nav = g.nav.onGpsFix fix := fun g hg =>
      congrArg Fusion.nav (if_pos hg)
    refine .inl ⟨hpre.symm.trans hs, by rw [finalBlend_fsm]; exact hm, ?_⟩
    rw [hblend _ hm, DeadReckoner.onGpsFix_cfg]
    -- the blend after the re-anchor moves to the same fix or does not move
    cases hl : f.nav.anchorLocked with
    | false =>
      obtain ⟨ho, hp⟩ := DeadReckoner.onGpsFix_unlocked
        (m := (commitClear { f with fsm := m, nav := f.nav.setState .normal } fix).nav) hl fix
      exact ⟨ho, hp, rfl⟩
    | true =>
      obtain ⟨hk, hp⟩ := DeadReckoner.onGpsFix_locked
        (m := (commitClear { f with fsm := m, nav := f.nav.setState .normal } fix).nav) hl fix
      exact ⟨hk.origin, hp, rfl⟩

/-- What a fix does to the anchor. The configuration's home is never touched. -/
inductive AnchorMove (f f' : Fusion α) (fix : GpsFix α) : Prop
  /-- Nothing moves. -/
  | kept (hr : f.reAnchors fix = false) (hk : f.nav.SameAnchor f'.nav)
      (hp : f'.nav.drPos = f.nav.drPos)
      (hc : ¬ (f.fsm.state = .suspicious ∧ f'.fsm.state = .normal))
  /-- The first fix, found plausible. -/
  | first (ho : f.nav.origin = none) (hp : f.nav.isFirstFixPlausible fix = .ok ())
      (hn : f'.nav = f.nav.onGpsFix fix) (hs : f'.fsm.state = f.fsm.state)
  /-- The origin moves to the fix, unchecked. -/
  | reAnchored (hr : f.reAnchors fix = true) (ho : f'.nav.origin = some fix.coords)
      (hp : f'.nav.drPos = NedPos.default) (hcfg : f'.nav.cfg = f.nav.cfg)
      (hc : ¬ (f.fsm.state = .suspicious ∧ f'.fsm.state = .normal))
  /-- The origin moves to the fix, by a clear. -/
  | cleared (hr : f.reAnchors fix = false) (hs : f.fsm.state = .suspicious)
      (hs' : f'.fsm.state = .normal) (ho : f'.nav.origin = some fix.coords)
      (hp : f'.nav.drPos = NedPos.default) (hcfg : f'.nav.cfg = f.nav.cfg)

section

omit [Nalgebra α]

/-- A fix that reaches `on_gps_fix` once there is an origin: unchecked, it re-anchors until
    the lock, and moves nothing after it. -/
theorem AnchorMove.of_onGpsFix {f f' : Fusion α} {fix : GpsFix α}
    (ho : f.nav.origin ≠ none) (hcalls : f.callsOnGpsFix fix = true)
    (hn : f'.nav = f.nav.onGpsFix fix)
    (hc : ¬ (f.fsm.state = .suspicious ∧ f'.fsm.state = .normal)) :
    AnchorMove f f' fix := by
  have hsome : f.nav.origin.isSome = true := Option.isSome_iff_ne_none.mpr ho
  cases hl : f.nav.anchorLocked with
  | false =>
    obtain ⟨h₁, h₂⟩ := DeadReckoner.onGpsFix_unlocked hl fix
    refine .reAnchored ?_ (by rw [hn]; exact h₁) (by rw [hn]; exact h₂) ?_ hc
    · unfold reAnchors
      rw [hsome, hl, hcalls]
      rfl
    · rw [hn, DeadReckoner.onGpsFix_cfg]
  | true =>
    obtain ⟨h₁, h₂⟩ := DeadReckoner.onGpsFix_locked hl fix
    refine .kept ?_ (by rw [hn]; exact h₁) (by rw [hn]; exact h₂) hc
    unfold reAnchors
    rw [hl]
    simp

theorem AnchorMove.of_kept {f f' : Fusion α} {fix : GpsFix α}
    (hcalls : f.callsOnGpsFix fix = false) (hk : f.nav.SameAnchor f'.nav)
    (hp : f'.nav.drPos = f.nav.drPos)
    (hc : ¬ (f.fsm.state = .suspicious ∧ f'.fsm.state = .normal)) :
    AnchorMove f f' fix := by
  refine .kept ?_ hk hp hc
  unfold reAnchors
  rw [hcalls, Bool.and_false]

end

theorem no_clear {a b : NavStateKind} (h : b = a) : ¬ (a = .suspicious ∧ b = .normal) := by
  rintro ⟨ha, hb⟩
  exact absurd (ha.symm.trans (h.symm.trans hb)) (by simp)

section

omit [Nalgebra α]

/-- A fix before readiness: it re-anchors where the buffer does not serve its time. -/
theorem AnchorMove.of_preflight {f : Fusion α} {env : Env α} {fix : GpsFix α}
    (ho : f.nav.origin ≠ none) (hr : f.preflight ≠ .ready) :
    AnchorMove f (f.onPreflightFix env fix).1 fix := by
  obtain ⟨_, _, _, h⟩ := refreshPreflight_eq f env fix.t
  unfold onPreflightFix
  rw [andThen_fst]
  have hmiss : (f.refreshPreflight env fix.t).1.buffer = f.buffer ∧
      (f.refreshPreflight env fix.t).1.tSecs fix.t = f.tSecs fix.t := by
    rw [h]
    exact ⟨rfl, rfl⟩
  unfold preflightAnchor
  rw [hmiss.1, hmiss.2]
  have hempty : f.buffer.isEmpty = true →
      (f.buffer.interpolate (f.tSecs fix.t)).toBool = false := by
    intro he
    unfold ResidualBuffer.interpolate
    rw [List.isEmpty_iff.mp he]
    rfl
  cases hi : (f.buffer.interpolate (f.tSecs fix.t)).toBool with
  | false =>
    rw [if_pos (.inr rfl)]
    refine AnchorMove.of_onGpsFix ho (by unfold callsOnGpsFix; rw [hi]; rfl) ?_ ?_
    · rw [h]
    · refine no_clear ?_
      obtain ⟨_, hanchor⟩ := f.fsm.onCleanAnchor_eq
      rw [h]
      show f.fsm.onCleanAnchor.state = f.fsm.state
      rw [hanchor]
  | true =>
    rw [if_neg (by rintro (he | he) <;> simp_all)]
    refine AnchorMove.of_kept ?_ (by rw [h]; exact ⟨rfl, rfl, rfl, rfl⟩) (by rw [h])
      (no_clear (by rw [h]))
    unfold callsOnGpsFix
    rw [hi, decide_eq_false hr]
    rfl

/-- An evaluated fix: by the decision it comes to. -/
theorem AnchorMove.of_decision {f f' g : Fusion α} {env : Env α} {fix : GpsFix α}
    {gpsNed : NedPos α} {r : Residual α} {out out' : List (Output α)}
    (ho : f.nav.origin ≠ none) (hr : f.preflight = .ready) (hg : TrackingStage f (g, out))
    (hi : (f.buffer.interpolate (f.tSecs fix.t)).toBool = true)
    (hat : f.atDecision fix = some (g, gpsNed, r))
    (hd : Decision g env fix gpsNed (f.tSecs fix.t) r f' out') : AnchorMove f f' fix := by
  have hstate := hg.tracked.fsm.state_eq
  have hfires : f.firesOn fix = g.fires fix (f.tSecs fix.t) r := by
    unfold firesOn
    rw [hat]
    rfl
  have hcalls : f.callsOnGpsFix fix =
      (decide (f.fsm.state = .normal) && !g.fires fix (f.tSecs fix.t) r) := by
    unfold callsOnGpsFix
    rw [hi, hfires, decide_eq_true hr]
    rfl
  rcases hd.anchor with ⟨hs, hs', ho', hp', hcfg⟩ | ⟨hc, ⟨hs, hf, hn⟩ | ⟨hq, _, hn⟩⟩
  · have hsusp := hstate.symm.trans hs
    refine .cleared ?_ hsusp hs' ho' hp' (by rw [hcfg, hg.tracked.nav])
    -- a clear starts in Suspicious, so it is on neither way into `on_gps_fix`
    unfold reAnchors
    rw [hcalls, decide_eq_false (by rw [hsusp]; simp)]
    simp
  · rw [hstate] at hc hs
    refine AnchorMove.of_onGpsFix ho ?_ (by rw [hn, hg.tracked.nav]) hc
    rw [hcalls, hf, decide_eq_true hs]
    rfl
  · rw [hstate] at hc hq
    refine AnchorMove.of_kept ?_ ?_ ?_ hc
    · rw [hcalls]
      by_cases hs : f.fsm.state = .normal
      · cases hf : g.fires fix (f.tSecs fix.t) r with
        | true => simp
        | false => exact absurd ⟨hs, hf⟩ hq
      · rw [decide_eq_false hs]
        rfl
    · rw [hn, hg.tracked.nav]; exact ⟨rfl, rfl, rfl, rfl⟩
    · rw [hn, hg.tracked.nav]; rfl

end

/-- **A fix moves the anchor in one of these ways.** -/
theorem FixPath.anchor {α : Type} [Zero α] [One α] [Neg α] [Add α] [Sub α] [Mul α] [Div α]
    [NatCast α] [OfScientific α] [LT α] [LE α] [DecidableLT α] [DecidableLE α] [BEq α] [Max α]
    [Min α] [Libm α] [FiniteTest α] {f f' : Fusion α} {env : Env α} {fix : GpsFix α}
    {out : List (Output α)} (h : FixPath f env fix f' out) : AnchorMove f f' fix := by
  cases h with
  | rejected ho _ _ =>
    refine .kept ?_ ⟨rfl, rfl, rfl, rfl⟩ rfl (no_clear rfl)
    unfold reAnchors
    rw [ho]
    rfl
  | first ho hp =>
    obtain ⟨_, _, _, h⟩ := refreshPreflight_eq
      { f with
        nav := f.nav.onGpsFix fix
        checklist := { f.checklist with firstFixAccepted := true } } env fix.t
    exact .first ho hp (by rw [h]) (by rw [h])
  | preflight ho hr => exact .of_preflight ho hr
  | @skipped g out e ho hr hg _ hi =>
    refine AnchorMove.of_onGpsFix ho (by unfold callsOnGpsFix; rw [hi]; rfl) ?_
      (no_clear hg.tracked.fsm.state_eq)
    show g.nav.onGpsFix fix = _
    rw [hg.tracked.nav]
  | evaluated ho hr hg hi hat hd =>
    refine .of_decision (fun hnone => ?_) hr hg hi hat hd
    rw [gpsInNed_eq_none.mpr hnone] at ho
    cases ho

/-! ## What holds from boot on -/

/-- From boot on: the home is the configured one, and a lock, an accepted first fix and
    readiness each mean that there is an origin. -/
structure Booted (c : FusionConfig α) (f : Fusion α) : Prop where
  expectedHome : f.nav.cfg.expectedHome = c.nav.expectedHome
  maxHomeDistanceM : f.nav.cfg.maxHomeDistanceM = c.nav.maxHomeDistanceM
  locked : f.nav.anchorLocked = true → f.nav.origin.isSome = true
  accepted : f.checklist.firstFixAccepted = true → f.nav.origin.isSome = true
  ready : f.preflight = .ready → f.nav.origin.isSome = true

theorem Booted.start {α : Type} [Zero α] [One α] [Mul α] [OfScientific α] [Libm α]
    {c : FusionConfig α} {boot : Instant} {f : Fusion α}
    (h : Built c boot f) : Booted c f := by
  induction h with
  | new =>
    refine ⟨rfl, rfl, fun h => ?_, fun h => ?_, fun h => ?_⟩
    all_goals exact absurd h (by simp [Fusion.new, DeadReckoner.new])
  | withMavMonitor _ _ ih => exact ⟨ih.1, ih.2, ih.3, ih.4, ih.5⟩
  | withForensic _ _ _ ih => exact ⟨ih.1, ih.2, ih.3, ih.4, ih.5⟩

theorem refreshPreflight_ready {α : Type} [Zero α] [Sub α] [Div α] [NatCast α] [OfScientific α]
    [LE α] [DecidableLE α] (f : Fusion α) (env : Env α) (t : Timestamp) :
    (f.refreshPreflight env t).1.checklist.firstFixAccepted = f.checklist.firstFixAccepted ∧
    ((f.refreshPreflight env t).1.preflight = .ready →
      f.preflight = .ready ∨ f.checklist.firstFixAccepted = true) := by
  have hnow : (f.checklistNow env).firstFixAccepted = f.checklist.firstFixAccepted := by
    unfold checklistNow
    split <;> rfl
  unfold refreshPreflight
  split
  · exact ⟨rfl, fun h => .inl h⟩
  · rename_i hr
    dsimp only
    split
    · rename_i hall
      refine ⟨hnow, fun _ => .inr ?_⟩
      rw [← hnow]
      unfold PreflightChecklist.allOk at hall
      simp only [Bool.and_eq_true] at hall
      exact hall.1.1.2
    · split
      · exact ⟨hnow, fun h => absurd h hr⟩
      · exact ⟨hnow, fun h => absurd h hr⟩

/-- What a fix does to the gate: a first fix is accepted by anchoring it, and preflight
    passes only with one accepted. -/
theorem FixPath.gate {α : Type} [Zero α] [One α] [Neg α] [Add α] [Sub α] [Mul α] [Div α] [NatCast α]
    [OfScientific α] [LT α] [LE α] [DecidableLT α] [DecidableLE α] [BEq α] [Max α] [Min α] [Libm α]
    [FiniteTest α] {f f' : Fusion α} {env : Env α} {fix : GpsFix α}
    {out : List (Output α)} (h : FixPath f env fix f' out) :
    (f'.checklist.firstFixAccepted = true →
      f.checklist.firstFixAccepted = true ∨ f'.nav = f.nav.onGpsFix fix) ∧
    (f'.preflight = .ready → f.preflight = .ready ∨
      f'.checklist.firstFixAccepted = true) := by
  cases h with
  | rejected => exact ⟨.inl, .inl⟩
  | first =>
    obtain ⟨hacc, hready⟩ := refreshPreflight_ready
      { f with
        nav := f.nav.onGpsFix fix
        checklist := { f.checklist with firstFixAccepted := true } } env fix.t
    obtain ⟨_, _, _, h⟩ := refreshPreflight_eq
      { f with
        nav := f.nav.onGpsFix fix
        checklist := { f.checklist with firstFixAccepted := true } } env fix.t
    exact ⟨fun _ => .inr (by rw [h]), fun _ => .inr (by rw [hacc])⟩
  | preflight =>
    obtain ⟨hacc, hready⟩ := refreshPreflight_ready f env fix.t
    obtain ⟨_, _, h⟩ := preflightAnchor_eq (f.refreshPreflight env fix.t).1 fix
    unfold onPreflightFix
    rw [andThen_fst, h]
    dsimp only
    rw [hacc]
    exact ⟨.inl, hready⟩
  | skipped _ _ hg =>
    refine ⟨fun h => .inl ?_, fun h => .inl ?_⟩
    · rw [← hg.tracked.checklist]; exact h
    · rw [← hg.tracked.preflight]; exact h
  | @evaluated g out gpsNed r f' out' _ hr hg _ _ hd =>
    have hsame : f'.checklist = g.checklist := by
      have hblend : ∀ g : Fusion α, (g.finalBlend fix).checklist = g.checklist := by
        intro g
        obtain ⟨_, h⟩ := finalBlend_eq g fix
        rw [h]
      cases hd with
      | latched => rfl
      | settled => exact hblend _
      | opened => rfl
      | @escalated m g' _ hg' =>
        obtain ⟨_, ho⟩ := onSpoofed_state g' env fix r .suspicious
        rw [ho, hg']
      | vetoed => rfl
      | cleared => exact hblend _
    refine ⟨fun h => .inl ?_, fun _ => .inl hr⟩
    rw [← hg.tracked.checklist, ← hsame]
    exact h

theorem Booted.step {c : FusionConfig α} {f : Fusion α} (h : Booted c f) (i : Input α) :
    Booted c (f.step i).1 := by
  obtain ⟨hhome, hmax, hlock, hacc, hready⟩ := h
  by_cases hi : ∃ fix env, i = .gps fix env
  · obtain ⟨fix, env, rfl⟩ := hi
    show Booted c (f.onGps env fix).1
    have hpath := onGps_path f env fix
    obtain ⟨hgacc, hgready⟩ := hpath.gate
    have hmove := hpath.anchor
    generalize (f.onGps env fix).1 = f' at hgacc hgready hmove ⊢
    -- the origin stays, and a fix handed to `on_gps_fix` leaves one
    have hmono : f.nav.origin.isSome = true → f'.nav.origin.isSome = true := by
      intro h
      cases hmove with
      | kept _ hk => rw [hk.origin]; exact h
      | first ho => rw [ho] at h; exact absurd h (by simp)
      | reAnchored _ ho => rw [ho]; rfl
      | cleared _ _ _ ho => rw [ho]; rfl
    have hanchored : f'.nav = f.nav.onGpsFix fix → f'.nav.origin.isSome = true := by
      intro hn
      cases hl : f.nav.anchorLocked with
      | false => rw [hn, (DeadReckoner.onGpsFix_unlocked hl fix).1]; rfl
      | true => exact hmono (hlock hl)
    have hacc' : f'.checklist.firstFixAccepted = true → f'.nav.origin.isSome = true :=
      fun h => (hgacc h).elim (fun h => hmono (hacc h)) hanchored
    have hready' : f'.preflight = .ready → f'.nav.origin.isSome = true :=
      fun h => (hgready h).elim (fun h => hmono (hready h)) hacc'
    cases hmove with
    | kept _ hk =>
      refine ⟨hk.expectedHome.trans hhome, hk.maxHomeDistanceM.trans hmax, fun h => ?_,
        hacc', hready'⟩
      exact hmono (hlock (hk.anchorLocked.symm.trans h))
    | first _ _ hn =>
      refine ⟨?_, ?_, fun _ => hanchored hn, hacc', hready'⟩
      · rw [hn, DeadReckoner.onGpsFix_cfg]; exact hhome
      · rw [hn, DeadReckoner.onGpsFix_cfg]; exact hmax
    | reAnchored _ ho _ hcfg =>
      exact ⟨by rw [hcfg]; exact hhome, by rw [hcfg]; exact hmax, fun _ => by rw [ho]; rfl,
        hacc', hready'⟩
    | cleared _ _ _ ho _ hcfg =>
      exact ⟨by rw [hcfg]; exact hhome, by rw [hcfg]; exact hmax, fun _ => by rw [ho]; rfl,
        hacc', hready'⟩
  · obtain ⟨⟨ho, hl, hh, hm⟩, hp, hc, -⟩ := f.step_still hi
    refine ⟨hh.trans hhome, hm.trans hmax, ?_, ?_, ?_⟩
    · rw [ho, hl]; exact hlock
    · rw [ho, hc]; exact hacc
    · rw [ho, hp]; exact hready

/-! ## The anchor and the expected home -/

/-- How far a fix is from the expected home. -/
def homeDistance (home : α × α) (latDeg lonDeg : α) : α :=
  (llaToNed latDeg lonDeg 0 home.1 home.2).horizontalNorm

/-- The origin, if there is one, is near the expected home. -/
def NearHome (home : α × α) (maxM : α) (f : Fusion α) : Prop :=
  ∀ o, f.nav.origin = some o → homeDistance home o.1 o.2.1 ≤ maxM

/-- The fix is one that is far from the expected home and moves an unlocked anchor. -/
def farReAnchor (home : α × α) (maxM : α) (f : Fusion α) : Input α → Bool
  | .gps fix _ =>
    f.reAnchors fix && !decide (homeDistance home fix.latDeg fix.lonDeg ≤ maxM)
  | _ => false

/-- From an origin near home, a step that is no clear leaves it near home unless it is a
    far re-anchoring. -/
theorem nearHome_step {c : FusionConfig α} {home : α × α}
    (hhome : c.nav.expectedHome = some home) {f : Fusion α} {i : Input α} (hb : Booted c f)
    (hc : f.commitsClear i = false) (hn : NearHome home c.nav.maxHomeDistanceM f) :
    NearHome home c.nav.maxHomeDistanceM (f.step i).1 ↔
      farReAnchor home c.nav.maxHomeDistanceM f i = false := by
  by_cases hi : ∃ fix env, i = .gps fix env
  · obtain ⟨fix, env, rfl⟩ := hi
    have hc' := commitsClear_gps.mp hc
    show NearHome home c.nav.maxHomeDistanceM (f.onGps env fix).1 ↔
      (f.reAnchors fix &&
        !decide (homeDistance home fix.latDeg fix.lonDeg ≤ c.nav.maxHomeDistanceM)) = false
    have hmove := (onGps_path f env fix).anchor
    generalize (f.onGps env fix).1 = f' at hc' hmove ⊢
    cases hmove with
    | kept hr hk =>
      rw [hr]
      exact iff_of_true (fun o ho => hn o (hk.origin.symm.trans ho)) rfl
    | first ho hp hnav =>
      have hr : f.reAnchors fix = false := by
        unfold reAnchors
        rw [ho]
        rfl
      have hl : f.nav.anchorLocked = false := by
        cases hl : f.nav.anchorLocked with
        | false => rfl
        | true =>
          have hsome := hb.locked hl
          rw [ho] at hsome
          exact absurd hsome (by simp)
      rw [hr]
      refine iff_of_true (fun o h => ?_) rfl
      rw [hnav, (DeadReckoner.onGpsFix_unlocked hl fix).1] at h
      obtain rfl := Option.some.inj h
      -- the one place where the expected home is looked at
      unfold DeadReckoner.isFirstFixPlausible at hp
      rw [hb.expectedHome, hhome, hl] at hp
      dsimp only at hp
      rw [if_neg (by simp)] at hp
      split at hp
      · rename_i hd
        rw [hb.maxHomeDistanceM] at hd
        exact hd
      · exact absurd hp (by simp)
    | reAnchored hr ho =>
      rw [hr, Bool.true_and, Bool.not_eq_false']
      refine ⟨fun h => decide_eq_true (h _ ho), fun h o ho' => ?_⟩
      obtain rfl := Option.some.inj (ho.symm.trans ho')
      exact of_decide_eq_true h
    | cleared _ hs hs' => exact absurd ⟨hs, hs'⟩ hc'
  · have hfar : farReAnchor home c.nav.maxHomeDistanceM f i = false := by
      unfold farReAnchor
      split
      · rename_i fix env
        exact absurd ⟨fix, env, rfl⟩ hi
      · rfl
    refine iff_of_true (fun o ho => hn o ?_) hfar
    rw [← (f.step_still hi).1.origin]
    exact ho

theorem Built.origin {α : Type} [Zero α] [One α] [Mul α] [OfScientific α] [Libm α]
    {c : FusionConfig α} {boot : Instant} {f : Fusion α}
    (h : Built c boot f) : f.nav.origin = none := by
  induction h with
  | new => rfl
  | withMavMonitor _ _ ih => exact ih
  | withForensic _ _ _ ih => exact ih

theorem origin_received {c : FusionConfig α} {boot : Instant} {f : Fusion α}
    (hf : Built c boot f) (is : List (Input α)) (o : α × α × α)
    (ho : (run Fusion.step f is).nav.origin = some o) :
    ∃ fix env, .gps fix env ∈ is ∧ o = fix.coords := by
  have hstart := hf.origin
  induction is using List.reverseRecOn with
  | nil => rw [run_nil, hstart] at ho; exact absurd ho (by simp)
  | append_singleton is i ih =>
    rw [run_snoc] at ho
    have hold : (run Fusion.step f is).nav.origin = some o →
        ∃ fix env, .gps fix env ∈ is ++ [i] ∧ o = fix.coords := fun h =>
      let ⟨fix, env, hm, he⟩ := ih h
      ⟨fix, env, List.mem_append_left _ hm, he⟩
    generalize run Fusion.step f is = g at ho hold
    by_cases hi : ∃ fix env, i = .gps fix env
    · obtain ⟨fix, env, rfl⟩ := hi
      have hnew : o = fix.coords → ∃ fix' env', .gps fix' env' ∈ is ++ [.gps fix env] ∧
          o = fix'.coords := fun h => ⟨fix, env, by simp, h⟩
      change (g.onGps env fix).1.nav.origin = some o at ho
      cases (onGps_path g env fix).anchor with
      | kept _ hk => exact hold (hk.origin.symm.trans ho)
      | first _ _ hn =>
        cases hl : g.nav.anchorLocked with
        | false =>
          rw [hn, (DeadReckoner.onGpsFix_unlocked hl fix).1] at ho
          exact hnew (Option.some.inj ho).symm
        | true =>
          rw [hn, (DeadReckoner.onGpsFix_locked hl fix).1.origin] at ho
          exact hold ho
      | reAnchored _ ho' => exact hnew (Option.some.inj (ho.symm.trans ho'))
      | cleared _ _ _ ho' => exact hnew (Option.some.inj (ho.symm.trans ho'))
    · exact hold ((g.step_still hi).1.origin.symm.trans ho)

/-- In every state reached, the origin is a received fix near the expected home. -/
def AnchoredNearHome (home : α × α) (maxM : α) (f : Fusion α) (is : List (Input α)) : Prop :=
  ∀ pre post, is = pre ++ post → ∀ o, (run Fusion.step f pre).nav.origin = some o →
    ∃ fix env, .gps fix env ∈ pre ∧ o = fix.coords ∧
      homeDistance home fix.latDeg fix.lonDeg ≤ maxM

/-- **The boot anchor.** With an expected home, and before the first committed clear, the
    origin is a fix near home in every state reached if and only if no fix far from home
    reached `on_gps_fix` between the first fix and the lock. -/
theorem anchoredNearHome_iff {c : FusionConfig α} {boot : Instant} {f : Fusion α}
    (hf : Built c boot f) {home : α × α} (hhome : c.nav.expectedHome = some home)
    {is : List (Input α)} (hc : Along Fusion.step (fun f i => f.commitsClear i = false) f is) :
    AnchoredNearHome home c.nav.maxHomeDistanceM f is ↔
      Along Fusion.step (fun f i => farReAnchor home c.nav.maxHomeDistanceM f i = false)
        f is := by
  have hstart : f.nav.origin = none := hf.origin
  rw [← reached_iff_along (J := Booted c) (I := NearHome home c.nav.maxHomeDistanceM)
    (fun _ i hb => hb.step i) (fun _ i hb hc hn => nearHome_step hhome hb hc hn)
    (Booted.start hf) (fun o ho => absurd (hstart.symm.trans ho) (by simp)) hc]
  constructor
  · intro h pre post hsplit o ho
    obtain ⟨fix, env, -, rfl, hd⟩ := h pre post hsplit o ho
    exact hd
  · intro h pre post hsplit o ho
    obtain ⟨fix, env, hmem, rfl⟩ := origin_received hf pre o ho
    exact ⟨fix, env, hmem, rfl, h pre post hsplit _ ho⟩

/-- `quickCfg` with an expected home on the equator. -/
def homeCfg : FusionConfig ℚ :=
  { quickCfg with nav := { quickCfg.nav with expectedHome := some (0, 0) } }

/-- Two fixes before initialisation is over: the first one at home, the second one far. -/
def farSecondFix : List (Input ℚ) := fixes quietEnv [(5, 0), (10, 1)]

/-- The second fix is the origin, a degree from home. -/
theorem far_second_fix_anchors :
    homeCfg.validate = .ok () ∧
    Along Fusion.step (fun f i => f.commitsClear i = false) (Fusion.new homeCfg 0)
      farSecondFix ∧
    ¬ AnchoredNearHome (0, 0) homeCfg.nav.maxHomeDistanceM (Fusion.new homeCfg 0)
      farSecondFix := by
  refine ⟨runChecks_ok.mpr (by decide +kernel), by decide +kernel, fun h => ?_⟩
  obtain ⟨fix, env, -, he, hd⟩ :=
    h farSecondFix [] (List.append_nil _).symm (1, 0, 0) (by decide +kernel)
  obtain ⟨hlat, hlon, -⟩ : (1 : ℚ) = fix.latDeg ∧ (0 : ℚ) = fix.lonDeg ∧ _ := by
    simpa [GpsFix.coords] using he
  rw [← hlat, ← hlon] at hd
  exact absurd hd (by decide +kernel)

/-- Where both fixes are near home, so is the anchor. -/
theorem anchoredNearHome_near_fixes :
    AnchoredNearHome (0, 0) homeCfg.nav.maxHomeDistanceM (Fusion.new homeCfg 0)
      (fixes quietEnv [(5, 0), (10, 0.001)]) :=
  (anchoredNearHome_iff (.new : Built homeCfg 0 _) rfl (by decide +kernel)).mpr
    (by decide +kernel)

/-! ## The anchor once armed -/

/-- What may happen to the anchor at one step: a committed clear moves it to its fix, and
    any other step leaves the origin alone, and the position too unless it is an IMU
    sample. -/
def AnchorKept (f : Fusion α) (i : Input α) : Prop :=
  if f.commitsClear i then
    ∃ fix env, i = .gps fix env ∧ (f.step i).1.nav.origin = some fix.coords ∧
      (f.step i).1.nav.drPos = NedPos.default
  else
    (f.step i).1.nav.origin = f.nav.origin ∧
    ((∀ sample, i ≠ .imu sample) → (f.step i).1.nav.drPos = f.nav.drPos)

/-- The step re-anchors at a fix, without a clear, where the anchor is not already. -/
def MovesSilently (f : Fusion α) : Input α → Prop
  | .gps fix _ => f.reAnchors fix = true ∧
    ¬ (f.nav.origin = some fix.coords ∧ f.nav.drPos = NedPos.default)
  | _ => False

instance (f : Fusion α) [DecidableEq α] (i : Input α) : Decidable (MovesSilently f i) := by
  unfold MovesSilently
  split <;> infer_instance

theorem anchorKept_step {c : FusionConfig α} {f : Fusion α} (hb : Booted c f)
    (hr : f.preflight = .ready) (i : Input α) :
    AnchorKept f i ↔ ¬ MovesSilently f i := by
  unfold AnchorKept
  by_cases hi : ∃ fix env, i = .gps fix env
  · obtain ⟨fix, env, rfl⟩ := hi
    show _ ↔ ¬ (f.reAnchors fix = true ∧ _)
    have hcommits : f.commitsClear (.gps fix env) = false ↔ _ := commitsClear_gps
    change (if _ then _ else (f.onGps env fix).1.nav.origin = f.nav.origin ∧ (_ →
      (f.onGps env fix).1.nav.drPos = f.nav.drPos)) ↔ _
    have hmove := (onGps_path f env fix).anchor
    generalize hf' : (f.onGps env fix).1 = f' at hcommits hmove ⊢
    cases hmove with
    | kept hk hs hp hc =>
      rw [hcommits.mpr hc, if_neg (by simp), hk]
      exact iff_of_true ⟨hs.origin, fun _ => hp⟩ (by simp)
    | first ho =>
      have hsome := hb.ready hr
      rw [ho] at hsome
      exact absurd hsome (by simp)
    | reAnchored hk ho hp _ hc =>
      rw [hcommits.mpr hc, if_neg (by simp), hk, ho, hp]
      constructor
      · rintro ⟨h₁, h₂⟩ ⟨-, hno⟩
        exact hno ⟨h₁.symm, (h₂ (by simp)).symm⟩
      · intro hno
        have hat : f.nav.origin = some fix.coords ∧ f.nav.drPos = NedPos.default := by
          by_contra hnot
          exact hno ⟨rfl, hnot⟩
        exact ⟨hat.1.symm, fun _ => hat.2.symm⟩
    | cleared hk hs hs' ho hp =>
      have hc : f.commitsClear (.gps fix env) = true := by
        rw [← Bool.not_eq_false, hcommits]
        exact fun h => h ⟨hs, hs'⟩
      rw [hc, if_pos rfl, hk]
      refine iff_of_true ⟨fix, env, rfl, ?_, ?_⟩ (by simp)
      · rw [← hf'] at ho; exact ho
      · rw [← hf'] at hp; exact hp
  · have hno : f.commitsClear i = false := by
      unfold commitsClear
      split
      · rename_i fix env
        exact absurd ⟨fix, env, rfl⟩ hi
      · rfl
    obtain ⟨hs, -, -, hp⟩ := f.step_still hi
    rw [hno, if_neg (by simp)]
    refine iff_of_true ⟨hs.origin, hp⟩ ?_
    unfold MovesSilently
    split
    · rename_i fix env
      exact absurd ⟨fix, env, rfl⟩ hi
    · exact id

/-- **No silent re-anchoring, exactly.** Along every run from boot, each armed step leaves
    the anchor where it is or commits a clear if and only if no armed fix moves it by
    reaching `on_gps_fix` unlocked. -/
theorem anchorKept_iff {c : FusionConfig α} {boot : Instant} {f : Fusion α}
    (hf : Built c boot f) (is : List (Input α)) :
    Along Fusion.step (fun f i => f.preflight = .ready → AnchorKept f i) f is ↔
      Along Fusion.step (fun f i => f.preflight = .ready → ¬ MovesSilently f i) f is :=
  along_congr_of_invariant (I := Booted c) (fun _ i hb => hb.step i)
    (fun _ i hb => forall_congr' fun hr => anchorKept_step hb hr i) (Booted.start hf)

/-- A first fix during initialisation, samples until the buffer serves, and the fix that
    finds everything in place: armed, and not locked. -/
def armingUnlocked : List (Input ℚ) :=
  fixes quietEnv [(5, 0)] ++ samples [10, 20, 30, 40, 50, 60, 70, 80, 90, 100, 110] ++
    fixes quietEnv [(115, 0)]

/-- The next fix, a metre away and quiet in Normal, becomes the origin. -/
theorem armed_unlocked_moves :
    quickCfg.validate = .ok () ∧
    ¬ Along Fusion.step (fun f i => f.preflight = .ready → AnchorKept f i)
      (Fusion.new quickCfg 0) (armingUnlocked ++ fixes quietEnv [(120, 0.00001)]) := by
  refine ⟨runChecks_ok.mpr (by decide +kernel), fun h => ?_⟩
  have hlast := ((along_append _ armingUnlocked _).mp h).2.1 (by decide +kernel)
  unfold AnchorKept at hlast
  rw [if_neg (by decide +kernel)] at hlast
  exact absurd hlast.1 (by decide +kernel)

/-- A task whose first fix comes after initialisation has locked, and nothing moves. -/
theorem anchorKept_locked :
    Along Fusion.step (fun f i => f.preflight = .ready → AnchorKept f i)
      (Fusion.new quickCfg 0) (arming ++ fixes quietEnv [(110, 0.00001), (120, 0.00002)]) :=
  (anchorKept_iff (.new : Built quickCfg 0 _) _).mpr (by decide +kernel)

end Fusion

end FlyingSquirrel

import FlyingSquirrel.Detect.Evaluate
import FlyingSquirrel.Fusion.Step

/-!
# What one step of the fusion task can do

The stages before the machine's decision touch trackers and per-fix flags, and put out
events and nothing else: `Tracked` and `EventsOnly`. The decision is one of six things,
and `Decision` lists them, the way `Arm` does for the machine.

`onGps_path` sorts a fix into its five paths. Everything later about a run of the task is
a case analysis on it, and no later file unfolds a stage. What a fix writes is in
`onGps_unarmed`, `onGps_skipped` and `onGps_served`.
-/

set_option autoImplicit false

namespace FlyingSquirrel

open Lib

/-- The outputs are events: no controller call, no task started. -/
def EventsOnly {α : Type} (out : List (Output α)) : Prop := ∀ o ∈ out, ∃ e, o = .event e

section EventsOnly

variable {α : Type} {out out' : List (Output α)}

@[simp] theorem EventsOnly.nil : EventsOnly ([] : List (Output α)) := by simp [EventsOnly]

theorem EventsOnly.single (e : SpoofingEvent α) : EventsOnly [.event e] :=
  fun _ ho => ⟨e, List.mem_singleton.mp ho⟩

theorem EventsOnly.append (h : EventsOnly out) (h' : EventsOnly out') :
    EventsOnly (out ++ out') := fun o ho =>
  (List.mem_append.mp ho).elim (h o) (h' o)

end EventsOnly

/-- A detector's event is among the outputs: a jump (which the vertical-rate alarm also
    reports as), a drift, or a frozen GPS. -/
def Alarm {α : Type} (out : List (Output α)) : Prop :=
  ∃ e, .event e ∈ out ∧ (e.kind = .jump ∨ e.kind = .drift ∨ e.kind = .frozenGps)

section Alarm

variable {α : Type} {out out' : List (Output α)}

theorem Alarm.left (h : Alarm out) : Alarm (out ++ out') :=
  let ⟨e, hm, hk⟩ := h
  ⟨e, List.mem_append_left _ hm, hk⟩

theorem Alarm.right (h : Alarm out') : Alarm (out ++ out') :=
  let ⟨e, hm, hk⟩ := h
  ⟨e, List.mem_append_right _ hm, hk⟩

end Alarm

namespace StateMachine

def SameButFlags {α : Type} (m m' : StateMachine α) : Prop :=
  ∃ d e p, m' = { m with
    dropoutRecovery := d, externalAnomaly := e, dwellPauseExceededPending := p }

theorem SameButFlags.refl {α : Type} (m : StateMachine α) : SameButFlags m m :=
  ⟨_, _, _, rfl⟩

theorem SameButFlags.trans {α : Type} {m m' m'' : StateMachine α} (h : SameButFlags m m')
    (h' : SameButFlags m' m'') : SameButFlags m m'' := by
  obtain ⟨_, _, _, rfl⟩ := h
  obtain ⟨d, e, p, rfl⟩ := h'
  exact ⟨d, e, p, rfl⟩

theorem SameButFlags.state_eq {α : Type} {m m' : StateMachine α} (h : SameButFlags m m') :
    m'.state = m.state := by obtain ⟨_, _, _, rfl⟩ := h; rfl

end StateMachine

namespace Fusion

open StateMachine (SameButFlags)

/-- `f'` differs from `f` in trackers and per-fix flags only. -/
structure Tracked {α : Type} (f f' : Fusion α) : Prop where
  nav : f'.nav = f.nav
  buffer : f'.buffer = f.buffer
  boot : f'.boot = f.boot
  preflight : f'.preflight = f.preflight
  checklist : f'.checklist = f.checklist
  reAnchorMaxDistanceM : f'.reAnchorMaxDistanceM = f.reAnchorMaxDistanceM
  fsm : SameButFlags f.fsm f'.fsm

theorem Tracked.refl {α : Type} (f : Fusion α) : Tracked f f :=
  ⟨rfl, rfl, rfl, rfl, rfl, rfl, .refl _⟩

theorem Tracked.trans {α : Type} {f f' f'' : Fusion α} (h : Tracked f f')
    (h' : Tracked f' f'') : Tracked f f'' :=
  ⟨h'.nav.trans h.nav, h'.buffer.trans h.buffer, h'.boot.trans h.boot,
    h'.preflight.trans h.preflight, h'.checklist.trans h.checklist,
    h'.reAnchorMaxDistanceM.trans h.reAnchorMaxDistanceM, h.fsm.trans h'.fsm⟩

/-- What a tracking stage does: it is `Tracked`, it puts out events only, and when it
    raises the external-anomaly flag it puts out the alarm for it. -/
structure TrackingStage {α : Type} (f : Fusion α) (x : Fusion α × List (Output α)) : Prop where
  tracked : Tracked f x.1
  events : EventsOnly x.2
  alarm : x.1.fsm.externalAnomaly = true → f.fsm.externalAnomaly = true ∨ Alarm x.2

theorem TrackingStage.andThen {α : Type} {f : Fusion α} {x : Fusion α × List (Output α)}
    {k : Fusion α → Fusion α × List (Output α)} (hx : TrackingStage f x)
    (hk : TrackingStage x.1 (k x.1)) : TrackingStage f (Lib.andThen x k) where
  tracked := hx.tracked.trans hk.tracked
  events := hx.events.append hk.events
  alarm := fun h =>
    match hk.alarm h with
    | .inl h₁ => (hx.alarm h₁).imp_right Alarm.left
    | .inr h₁ => .inr h₁.right

variable {α : Type} [Zero α] [One α] [Neg α] [Add α] [Sub α] [Mul α] [Div α] [NatCast α]
  [OfScientific α] [LT α] [LE α] [DecidableLT α] [DecidableLE α] [BEq α] [Max α] [Min α] [Libm α]
  [FiniteTest α]

/-! ## The tracking stages -/

section Stages

variable (f : Fusion α)

theorem noteGap_eq {α : Type} [Zero α] [Sub α] [LT α] [DecidableLT α] (f : Fusion α) (t : α) :
    f.noteGap t = { f with
    lastGpsTSecs := some t
    fsm := { f.fsm with
      dropoutRecovery :=
        (f.fsm.dropoutRecovery || decide (f.dropoutSeconds t > f.gpsDropoutFreezeS)) } } := by
  unfold noteGap
  dsimp only
  split
  · rename_i h
    rw [decide_eq_true h, Bool.or_true]
    rfl
  · rename_i h
    rw [decide_eq_false h, Bool.or_false]

theorem noteGap_stage {α : Type} [Zero α] [Sub α] [LT α] [DecidableLT α] (f : Fusion α) (t : α) :
    TrackingStage f (f.noteGap t, []) where
  tracked := by
    refine ⟨rfl, rfl, rfl, rfl, rfl, rfl, ?_⟩
    unfold noteGap
    dsimp only
    split
    · exact ⟨_, _, _, rfl⟩
    · exact .refl _
  events := .nil
  alarm := by
    intro h
    unfold noteGap at h
    dsimp only at h
    split at h <;> exact .inl h

theorem drainDwellNotice_eq {α : Type} [Zero α] (f : Fusion α) (fix : GpsFix α) : ∃ p,
    (f.drainDwellNotice fix).1 =
      { f with fsm := { f.fsm with dwellPauseExceededPending := p } } := by
  unfold drainDwellNotice
  split
  · exact ⟨_, rfl⟩
  · exact ⟨_, rfl⟩

theorem drainDwellNotice_stage {α : Type} [Zero α] (f : Fusion α) (fix : GpsFix α) :
    TrackingStage f (f.drainDwellNotice fix) := by
  unfold drainDwellNotice
  split
  · exact ⟨⟨rfl, rfl, rfl, rfl, rfl, rfl, ⟨_, _, _, rfl⟩⟩, .single _, fun h => .inl h⟩
  · exact ⟨.refl _, .nil, fun h => .inl h⟩

theorem trackFrozen_of_candidate {α : Type} [Zero α] [Neg α] [Add α] [Sub α] [Mul α]
    [OfScientific α] [LT α] [DecidableLT α] [Libm α] {f : Fusion α} {fix : GpsFix α}
    (h : f.frozenCandidate fix = true) : f.trackFrozen fix = f := if_pos h

theorem trackFrozen_of_away {α : Type} [Zero α] [Neg α] [Add α] [Sub α] [Mul α] [OfScientific α]
    [LT α] [DecidableLT α] [Libm α] {f : Fusion α} {fix : GpsFix α}
    (h : ¬ f.frozenCandidate fix = true) : f.trackFrozen fix = { f with
      frozenAnchorLla := some (fix.latDeg, fix.lonDeg)
      frozenFixStreak := 0
      frozenImuDisplacementM := 0 } := if_neg h

theorem trackFrozen_stage {α : Type} [Zero α] [Neg α] [Add α] [Sub α] [Mul α] [OfScientific α]
    [LT α] [DecidableLT α] [Libm α] (f : Fusion α) (fix : GpsFix α) :
    TrackingStage f (f.trackFrozen fix, []) := by
  unfold trackFrozen
  split
  · exact ⟨.refl _, .nil, fun h => .inl h⟩
  · exact ⟨⟨rfl, rfl, rfl, rfl, rfl, rfl, .refl _⟩, .nil, fun h => .inl h⟩

theorem captureForensic_stage {α : Type} [Sub α] [LT α] [DecidableLT α] (f : Fusion α)
    (fix : GpsFix α) (t : α) (r : Residual α) :
    TrackingStage f (f.captureForensic fix t r, []) :=
  ⟨⟨rfl, rfl, rfl, rfl, rfl, rfl, .refl _⟩, .nil, fun h => .inl h⟩

/-- What has accrued after the fix: at the anchor, its share; away from it, nothing more. -/
def accrued (candidate : Bool) (dropoutS vH : α) : Fusion α :=
  if candidate then f.accrueFrozen dropoutS vH else f

/-- The fix is at the anchor, and what has accrued is enough. -/
def frozenAlarm (candidate : Bool) (dropoutS vH : α) : Bool :=
  candidate && decide
    ((f.accrueFrozen dropoutS vH).frozenImuDisplacementM ≥ frozenMinImuDisplacementM)

theorem checkFrozen_eq {α : Type} [Zero α] [Add α] [Mul α] [OfScientific α] [LT α] [LE α]
    [DecidableLT α] [DecidableLE α] [Libm α] (f : Fusion α) (fix : GpsFix α)
    (dropoutS : α) (candidate : Bool) (vImu : NedVel α) (r : Residual α) :
    (f.checkFrozen fix dropoutS candidate vImu r).1 =
      { f.accrued candidate dropoutS vImu.horizontalNorm with
        fsm := { f.fsm with
          externalAnomaly := (f.fsm.externalAnomaly ||
            f.frozenAlarm candidate dropoutS vImu.horizontalNorm) } } := by
  unfold checkFrozen accrued frozenAlarm
  cases candidate with
  | false =>
    rw [if_neg Bool.false_ne_true, if_neg Bool.false_ne_true, Bool.false_and, Bool.or_false]
  | true =>
    rw [if_pos rfl, if_pos rfl, Bool.true_and]
    dsimp only
    split
    · rename_i h
      rw [decide_eq_true h, Bool.or_true]
      rfl
    · rename_i h
      rw [decide_eq_false h, Bool.or_false]
      rfl

theorem checkFrozen_stage {α : Type} [Zero α] [Add α] [Mul α] [OfScientific α] [LT α] [LE α]
    [DecidableLT α] [DecidableLE α] [Libm α] (f : Fusion α) (fix : GpsFix α)
    (dropoutS : α) (candidate : Bool) (vImu : NedVel α)
    (r : Residual α) : TrackingStage f (f.checkFrozen fix dropoutS candidate vImu r) := by
  unfold checkFrozen
  split
  · dsimp only
    split
    · exact ⟨⟨rfl, rfl, rfl, rfl, rfl, rfl, ⟨_, _, _, rfl⟩⟩, .single _,
        fun _ => .inr ⟨_, List.mem_singleton_self _, .inr (.inr rfl)⟩⟩
    · exact ⟨⟨rfl, rfl, rfl, rfl, rfl, rfl, .refl _⟩, .nil, fun h => .inl h⟩
  · exact ⟨.refl _, .nil, fun h => .inl h⟩

theorem checkVerticalRate_eq {α : Type} [Zero α] [Neg α] [Sub α] [Div α] [OfScientific α] [LT α]
    [LE α] [DecidableLT α] [DecidableLE α] (f : Fusion α) (fix : GpsFix α) (t : α)
    (r : Residual α) :
    (f.checkVerticalRate fix t r).1 = { f with
      lastGpsAlt := some (fix.altM, t)
      fsm := { f.fsm with
        externalAnomaly := (f.fsm.externalAnomaly || f.verticalAlarm fix.altM t) } } := by
  unfold checkVerticalRate
  dsimp only
  split
  · rename_i h
    rw [h, Bool.or_true]
    rfl
  · rename_i h
    rw [Bool.eq_false_iff.mpr h, Bool.or_false]

theorem checkVerticalRate_stage {α : Type} [Zero α] [Neg α] [Sub α] [Div α] [OfScientific α] [LT α]
    [LE α] [DecidableLT α] [DecidableLE α] (f : Fusion α) (fix : GpsFix α) (t : α)
    (r : Residual α) :
    TrackingStage f (f.checkVerticalRate fix t r) := by
  unfold checkVerticalRate
  split
  · exact ⟨⟨rfl, rfl, rfl, rfl, rfl, rfl, ⟨_, _, _, rfl⟩⟩, .single _,
      fun _ => .inr ⟨_, List.mem_singleton_self _, .inl rfl⟩⟩
  · exact ⟨⟨rfl, rfl, rfl, rfl, rfl, rfl, .refl _⟩, .nil, fun h => .inl h⟩

theorem checkDoppler_eq {α : Type} (f : Fusion α) (fix : GpsFix α) (r : Residual α) : ∃ streak,
    (f.checkDoppler fix r).1 = { f with noDopplerStreak := streak } := by
  unfold checkDoppler
  split
  · exact ⟨_, rfl⟩
  · dsimp only
    split
    · exact ⟨_, rfl⟩
    · exact ⟨_, rfl⟩

theorem checkDoppler_fsm {α : Type} (f : Fusion α) (fix : GpsFix α) (r : Residual α) :
    (f.checkDoppler fix r).1.fsm = f.fsm := by
  obtain ⟨_, h⟩ := checkDoppler_eq f fix r
  rw [h]

theorem checkDoppler_stage {α : Type} (f : Fusion α) (fix : GpsFix α)
    (r : Residual α) : TrackingStage f (f.checkDoppler fix r) := by
  unfold checkDoppler
  split
  · exact ⟨⟨rfl, rfl, rfl, rfl, rfl, rfl, .refl _⟩, .nil, fun h => .inl h⟩
  · dsimp only
    split
    · exact ⟨⟨rfl, rfl, rfl, rfl, rfl, rfl, .refl _⟩, .single _, fun h => .inl h⟩
    · exact ⟨⟨rfl, rfl, rfl, rfl, rfl, rfl, .refl _⟩, .nil, fun h => .inl h⟩

end Stages

/-! ## Preflight -/

theorem refreshPreflight_eq {α : Type} [Zero α] [Sub α] [Div α] [NatCast α] [OfScientific α] [LE α]
    [DecidableLE α] (f : Fusion α) (env : Env α) (t : Timestamp) : ∃ c p l,
    (f.refreshPreflight env t).1 =
      { f with checklist := c, preflight := p, lastPreflightFailedEmitS := l } := by
  unfold refreshPreflight
  split
  · exact ⟨_, _, _, rfl⟩
  · dsimp only
    split
    · exact ⟨_, _, _, rfl⟩
    · split
      · exact ⟨_, _, _, rfl⟩
      · exact ⟨_, _, _, rfl⟩

theorem refreshPreflight_events {α : Type} [Zero α] [Sub α] [Div α] [NatCast α] [OfScientific α]
    [LE α] [DecidableLE α] (f : Fusion α) (env : Env α) (t : Timestamp) :
    EventsOnly (f.refreshPreflight env t).2 := by
  unfold refreshPreflight
  split
  · exact .nil
  · dsimp only
    split
    · exact .single _
    · split
      · exact .single _
      · exact .nil

theorem preflightAnchor_eq {α : Type} [Zero α] [One α] [Neg α] [Add α] [Sub α] [Mul α] [Div α]
    [NatCast α] [OfScientific α] [LT α] [LE α] [DecidableLT α] [DecidableLE α] [Max α] [Min α]
    [Libm α] [FiniteTest α] (f : Fusion α) (fix : GpsFix α) : ∃ nav drift,
    f.preflightAnchor fix = { f with nav := nav, fsm := { f.fsm with drift := drift } } := by
  obtain ⟨_, hanchor⟩ := f.fsm.onCleanAnchor_eq
  unfold preflightAnchor
  rw [hanchor]
  split
  · exact ⟨_, _, rfl⟩
  · exact ⟨_, _, rfl⟩

/-! ## Background tasks -/

/-- The end of a background task touches nothing but the dump slot. -/
theorem onBackground_eq {α : Type} [Zero α] (f : Fusion α) (now : Instant) (done : BgDone) : ∃ fo,
    (f.onBackground now done).1 = { f with forensic := fo } := by
  unfold onBackground
  dsimp only
  split <;> exact ⟨_, rfl⟩

theorem onBackground_events {α : Type} [Zero α] (f : Fusion α) (now : Instant) (done : BgDone) :
    EventsOnly (f.onBackground now done).2 := by
  unfold onBackground
  dsimp only
  split <;> first | exact .single _ | exact .nil

/-! ## The decision -/

section Decision

variable (f : Fusion α) (env : Env α) (fix : GpsFix α) (gpsNed : NedPos α) (t : α)
  (r : Residual α)

/-- The events of the detectors that fired, as outputs. -/
def detectorReports (j : Option JumpReason) (d : Option DriftReason) : List (Output α) :=
  (StateMachine.detectorEvents j d).map (f.emit · fix r)

theorem detectorReports_events {α : Type} (f : Fusion α) (fix : GpsFix α) (r : Residual α)
    (j : Option JumpReason) (d : Option DriftReason) :
    EventsOnly (f.detectorReports fix r j d) := by
  intro o ho
  obtain ⟨ev, -, rfl⟩ := List.mem_map.mp ho
  cases ev <;> exact ⟨_, rfl⟩

theorem detectorReports_alarm {α : Type} (f : Fusion α) (fix : GpsFix α) (r : Residual α)
    {j : Option JumpReason} {d : Option DriftReason}
    (h : (j.isSome || d.isSome) = true) : Alarm (f.detectorReports fix r j d) := by
  cases j with
  | some j => exact ⟨_, List.mem_cons_self, .inl rfl⟩
  | none =>
    cases d with
    | some d => exact ⟨_, List.mem_cons_self, .inr (.inl rfl)⟩
    | none => exact absurd h (by simp)

/-- The machine's own detectors on the fix, after gating: the assessment. -/
def assessed : StateMachine α × Option JumpReason × Option DriftReason :=
  (f.gatedFsm r).assess r t fix.hdop fix.sats

def fires : Bool := (f.gatedFsm r).firing r t fix.hdop fix.sats

/-- The arm the machine takes on the fix. -/
def FixArm (m : StateMachine α) (out : List Event) : Prop :=
  StateMachine.Arm (f.assessed fix t r).1 t
    ((f.assessed fix t r).1.sampleClean r (f.fires fix t r)) (f.fires fix t r) m out

/-- The reports of the fix's detectors, made in the machine's next state `m`. -/
def reports (m : StateMachine α) : List (Output α) :=
  detectorReports { f with fsm := m } fix r (f.assessed fix t r).2.1 (f.assessed fix t r).2.2

theorem reports_events {α : Type} [Zero α] [One α] [Neg α] [Add α] [Sub α] [Mul α] [Div α]
    [NatCast α] [OfScientific α] [LT α] [LE α] [DecidableLT α] [DecidableLE α] [BEq α] [Max α]
    [FiniteTest α] (f : Fusion α) (fix : GpsFix α) (t : α) (r : Residual α)
    (m : StateMachine α) : EventsOnly (f.reports fix t r m) :=
  detectorReports_events { f with fsm := m } fix r _ _

inductive Decision : Fusion α → List (Output α) → Prop
  /-- Spoofed: the flags are drained. -/
  | latched (hs : f.fsm.state = .spoofed) :
      Decision { f with fsm := (f.gatedFsm r).drainFlags } []
  /-- No transition. -/
  | settled {m} (hs : f.fsm.state ≠ .spoofed) (ha : f.FixArm fix t r m []) :
      Decision (finalBlend { f with fsm := m } fix) (f.reports fix t r m)
  /-- Normal to Suspicious. -/
  | opened {m} (ha : f.FixArm fix t r m [.transition .normal .suspicious]) :
      Decision { f with fsm := m, nav := f.nav.setState .suspicious }
        (f.reports fix t r m ++
          [emit { f with fsm := m } (.transition .normal .suspicious) fix r])
  /-- Suspicious to Spoofed, with the actions. -/
  | escalated {m g} (ha : f.FixArm fix t r m [.transition .suspicious .spoofed])
      (hg : g = { f with fsm := m, nav := f.nav.setState .spoofed }) :
      Decision (g.onSpoofed env fix r .suspicious).1
        (f.reports fix t r m ++
          [emit { f with fsm := m } (.transition .suspicious .spoofed) fix r] ++
          (g.onSpoofed env fix r .suspicious).2)
  /-- A clear that is taken back. -/
  | vetoed {m distance} (ha : f.FixArm fix t r m [.transition .suspicious .normal])
      (hv : validateFixAgainstReference gpsNed f.nav.drPos f.reAnchorMaxDistanceM =
        .error distance) :
      Decision (vetoClear { f with fsm := m } fix t f.fsm.suspiciousSince distance).1
        (f.reports fix t r m ++
          (vetoClear { f with fsm := m } fix t f.fsm.suspiciousSince distance).2)
  /-- A clear that is committed. -/
  | cleared {m} (ha : f.FixArm fix t r m [.transition .suspicious .normal])
      (hv : validateFixAgainstReference gpsNed f.nav.drPos f.reAnchorMaxDistanceM = .ok ()) :
      Decision
        (finalBlend (commitClear { f with fsm := m, nav := f.nav.setState .normal } fix) fix)
        (f.reports fix t r m ++
          [emit { f with fsm := m } (.transition .suspicious .normal) fix r])

variable {f env fix gpsNed t r}

theorem handleEvents_append {α : Type} [Zero α] [Add α] [Sub α] [Mul α] [LE α] [DecidableLE α]
    [Libm α] {f : Fusion α} {env : Env α} {fix : GpsFix α} {gpsNed : NedPos α} {t : α}
    {r : Residual α} (since : Option α) (evs evs' : List Event) :
    f.handleEvents env fix gpsNed t r since (evs ++ evs') =
      Lib.andThen (f.handleEvents env fix gpsNed t r since evs)
        fun f => f.handleEvents env fix gpsNed t r since evs' := by
  induction evs generalizing f with
  | nil => rfl
  | cons ev evs ih =>
    simp only [List.cons_append, handleEvents, ih, Lib.andThen, List.append_assoc]

theorem handleEvents_detector {α : Type} [Zero α] [Add α] [Sub α] [Mul α] [LE α] [DecidableLE α]
    [Libm α] {f : Fusion α} {env : Env α} {fix : GpsFix α} {gpsNed : NedPos α} {t : α}
    {r : Residual α} (since : Option α) (j : Option JumpReason)
    (d : Option DriftReason) :
    f.handleEvents env fix gpsNed t r since (StateMachine.detectorEvents j d) =
      (f, f.detectorReports fix r j d) := by
  cases j <;> cases d <;> rfl

theorem onSpoofed_state {α : Type} [Zero α]
    (f : Fusion α) (env : Env α) (fix : GpsFix α) (r : Residual α)
    (source : NavStateKind) :
    ∃ fo, (f.onSpoofed env fix r source).1 = { f with forensic := fo } := by
  unfold onSpoofed maybeTriggerForensicDump
  split
  · exact ⟨_, rfl⟩
  · dsimp only
    split
    · exact ⟨_, rfl⟩
    · exact ⟨_, rfl⟩

section

omit [BEq α]

theorem finalBlend_of_ne {f : Fusion α} (h : f.fsm.state ≠ .normal) (fix : GpsFix α) :
    f.finalBlend fix = f := if_neg h

theorem finalBlend_eq (f : Fusion α) (fix : GpsFix α) : ∃ nav,
    f.finalBlend fix = { f with nav := nav } := by
  unfold finalBlend
  split
  · exact ⟨_, rfl⟩
  · exact ⟨_, rfl⟩

end

theorem gatedFsm_eq {α : Type} [Zero α] (f : Fusion α) (r : Residual α) : ∃ drift jump on,
    f.gatedFsm r = { f.fsm with drift := drift, jump := jump, posDetectorsEnabled := on } := by
  obtain ⟨drift, jump, h⟩ := StateMachine.setPosDetectorsEnabled_eq f.fsm
    (r.dvelKnown || decide (f.noDopplerStreak < noDopplerGateStreak))
  exact ⟨drift, jump, _, h⟩

theorem gatedFsm_state {α : Type} [Zero α] (f : Fusion α) (r : Residual α) :
    (f.gatedFsm r).state = f.fsm.state := by
  obtain ⟨_, _, _, h⟩ := gatedFsm_eq f r
  rw [h]

/-- When anything fires on the fix there is an alarm for it: a report of this fix's, or the
    one an outside detector has made before. -/
theorem fires_alarm {α : Type} [Zero α] [One α] [Neg α] [Add α] [Sub α] [Mul α] [Div α] [NatCast α]
    [OfScientific α] [LT α] [LE α] [DecidableLT α] [DecidableLE α] [BEq α] [Max α] [FiniteTest α]
    {f : Fusion α} {fix : GpsFix α} {t : α} {r : Residual α}
    (h : f.fires fix t r = true) (m : StateMachine α) :
    f.fsm.externalAnomaly = true ∨ Alarm (f.reports fix t r m) := by
  unfold fires StateMachine.firing at h
  rcases Bool.or_eq_true_iff.mp h with hd | he
  · exact .inr (detectorReports_alarm _ fix r hd)
  · obtain ⟨_, _, _, hg⟩ := gatedFsm_eq f r
    rw [hg] at he
    exact .inl he

/-- **An evaluated fix comes to one of the decisions.** -/
theorem decideFix_decision (f : Fusion α) (env : Env α) (fix : GpsFix α)
    (gpsNed : NedPos α) (t : α) (r : Residual α) :
    Decision f env fix gpsNed t r (f.decideFix env fix gpsNed t r).1
      (f.decideFix env fix gpsNed t r).2 := by
  by_cases hs : f.fsm.state = .spoofed
  · have he := StateMachine.evaluate_spoofed r t fix.hdop fix.sats
      ((gatedFsm_state f r).trans hs)
    have hd : f.decideFix env fix gpsNed t r =
        ({ f with fsm := (f.gatedFsm r).drainFlags }, []) := by
      unfold decideFix
      rw [he]
      simp only [handleEvents, Lib.andThen, List.append_nil]
      rw [finalBlend_of_ne]
      rw [show (f.gatedFsm r).drainFlags.state = .spoofed from
        (gatedFsm_state f r).trans hs]
      simp
    rw [hd]
    exact .latched hs
  · obtain ⟨m, out, he, ha⟩ := StateMachine.evaluate_arm (m := f.gatedFsm r) r t fix.hdop fix.sats
      (by rw [gatedFsm_state]; exact hs)
    have hd : f.decideFix env fix gpsNed t r =
        Lib.andThen
          (Lib.andThen ({ f with fsm := m }, f.reports fix t r m)
            fun g => g.handleEvents env fix gpsNed t r f.fsm.suspiciousSince out)
          fun g => (g.finalBlend fix, []) := by
      unfold decideFix
      rw [he]
      simp only [handleEvents_append, handleEvents_detector]
      rfl
    rw [hd]
    rcases ha.announced with ⟨rfl, -⟩ | ⟨rfl, -, hm⟩ | ⟨rfl, -, hm⟩ | ⟨rfl, -, hm⟩
    · simp only [handleEvents, Lib.andThen, List.append_nil]
      exact .settled hs ha
    · simp only [handleEvents, handleEvent, Lib.andThen, List.append_nil]
      rw [finalBlend_of_ne (by rw [hm]; simp)]
      exact .opened ha
    · obtain ⟨fo, ho⟩ := onSpoofed_state
        { f with fsm := m, nav := f.nav.setState .spoofed } env fix r .suspicious
      simp only [handleEvents, handleEvent, Lib.andThen, List.append_nil]
      rw [finalBlend_of_ne (by rw [ho]; show m.state ≠ _; rw [hm]; simp),
        ← List.append_assoc]
      exact .escalated ha rfl
    · cases hv : validateFixAgainstReference gpsNed f.nav.drPos f.reAnchorMaxDistanceM with
      | error distance =>
        simp only [handleEvents, handleEvent, Lib.andThen, List.append_nil, hv]
        rw [finalBlend_of_ne (by
          show (m.forceBackToSuspicious t f.fsm.suspiciousSince).state ≠ _
          rw [StateMachine.forceBackToSuspicious_eq hm]
          simp)]
        exact .vetoed ha hv
      | ok u =>
        simp only [handleEvents, handleEvent, Lib.andThen, List.append_nil, hv]
        exact .cleared ha hv

/-- **What a decision writes**: none of the task's trackers. -/
theorem Decision.eq {f' : Fusion α} {out : List (Output α)}
    (h : Decision f env fix gpsNed t r f' out) : ∃ fsm nav buffer forensic,
    f' = { f with fsm := fsm, nav := nav, buffer := buffer, forensic := forensic } := by
  cases h with
  | latched _ => exact ⟨_, _, _, _, rfl⟩
  | @settled m _ _ =>
    obtain ⟨_, hb⟩ := finalBlend_eq { f with fsm := m } fix
    exact ⟨_, _, _, _, hb⟩
  | opened _ => exact ⟨_, _, _, _, rfl⟩
  | escalated _ hg =>
    obtain ⟨_, ho⟩ := onSpoofed_state _ env fix r .suspicious
    rw [ho, hg]
    exact ⟨_, _, _, _, rfl⟩
  | vetoed _ _ => exact ⟨_, _, _, _, rfl⟩
  | @cleared m _ _ =>
    obtain ⟨_, hb⟩ :=
      finalBlend_eq (commitClear { f with fsm := m, nav := f.nav.setState .normal } fix) fix
    exact ⟨_, _, _, _, hb⟩

end Decision

/-- The machine a decision leaves behind: what the drained flags, an arm, a veto or a
    commit make of it. -/
inductive DecidedFsm (f : Fusion α) (fix : GpsFix α) (t : α) (r : Residual α) :
    StateMachine α → Prop
  | latched (hs : f.fsm.state = .spoofed) :
      DecidedFsm f fix t r (f.gatedFsm r).drainFlags
  | arm {m out} (ha : f.FixArm fix t r m out)
      (hno : out ≠ [.transition .suspicious .normal]) : DecidedFsm f fix t r m
  | veto {m} (ha : f.FixArm fix t r m [.transition .suspicious .normal]) :
      DecidedFsm f fix t r (m.forceBackToSuspicious t f.fsm.suspiciousSince)
  | commit {m} (ha : f.FixArm fix t r m [.transition .suspicious .normal]) :
      DecidedFsm f fix t r m.commitSuspToNormal

theorem finalBlend_fsm {α : Type} [Zero α] [One α] [Neg α] [Add α] [Sub α] [Mul α] [Div α]
    [NatCast α] [OfScientific α] [LT α] [LE α] [DecidableLT α] [DecidableLE α] [Max α] [Min α]
    [Libm α] [FiniteTest α] (f : Fusion α) (fix : GpsFix α) :
    (f.finalBlend fix).fsm = f.fsm := by
  obtain ⟨_, h⟩ := finalBlend_eq f fix
  rw [h]

theorem Decision.fsm {f f' : Fusion α} {env : Env α} {fix : GpsFix α} {gpsNed : NedPos α}
    {t : α} {r : Residual α} {out : List (Output α)}
    (h : Decision f env fix gpsNed t r f' out) : DecidedFsm f fix t r f'.fsm := by
  cases h with
  | latched hs => exact .latched hs
  | settled _ ha => rw [finalBlend_fsm]; exact .arm ha (by simp)
  | opened ha => exact .arm ha (by simp)
  | escalated ha hg =>
    obtain ⟨_, ho⟩ := onSpoofed_state _ env fix r .suspicious
    rw [ho, hg]
    exact .arm ha (by simp)
  | vetoed ha _ => exact .veto ha
  | cleared ha _ => rw [finalBlend_fsm]; exact .commit ha

/-! ## The paths of a fix -/

section Paths

variable (f : Fusion α) (env : Env α) (fix : GpsFix α)

/-- The stages of `evaluateFix` before the decision. -/
def throughDetectors (t dropoutS : α) (candidate : Bool) (vImu : NedVel α) (r : Residual α) :
    Fusion α × List (Output α) :=
  Lib.andThen
    (Lib.andThen ((f.captureForensic fix t r).checkFrozen fix dropoutS candidate vImu r)
      fun f => f.checkVerticalRate fix t r)
    fun f => f.checkDoppler fix r

/-- What the decision on an armed fix is made on: the task after the trackers and the
    detectors outside the machine, the fix in the tangent plane, and the residual. There is
    none without an origin, or where the buffer does not serve the fix's time. -/
def atDecision : Option (Fusion α × NedPos α × Residual α) :=
  match f.nav.gpsInNed fix, f.buffer.interpolate (f.tSecs fix.t) with
  | some gpsNed, .ok (pImu, vImu) =>
    let t := f.tSecs fix.t
    let g := ((f.noteGap t).drainDwellNotice fix).1.trackFrozen fix
    let r := g.residual fix gpsNed pImu vImu
    some ((g.throughDetectors fix t (f.dropoutSeconds t) (f.frozenCandidate fix) vImu r).1,
      gpsNed, r)
  | _, _ => none

def firesOn : Bool :=
  (f.atDecision fix).any fun (g, _, r) => g.fires fix (f.tSecs fix.t) r

inductive FixPath : Fusion α → List (Output α) → Prop
  /-- No origin yet, and too far from home. -/
  | rejected {distance out} (ho : f.nav.origin = none)
      (hp : f.nav.isFirstFixPlausible fix = .error distance) (hout : EventsOnly out) :
      FixPath f out
  /-- No origin yet: the fix becomes it. -/
  | first (ho : f.nav.origin = none) (hp : f.nav.isFirstFixPlausible fix = .ok ()) :
      FixPath
        (refreshPreflight
          { f with
            nav := f.nav.onGpsFix fix
            checklist := { f.checklist with firstFixAccepted := true } }
          env fix.t).1
        (refreshPreflight
          { f with
            nav := f.nav.onGpsFix fix
            checklist := { f.checklist with firstFixAccepted := true } }
          env fix.t).2
  /-- Preflight is not ready. -/
  | preflight (ho : f.nav.origin ≠ none) (hr : f.preflight ≠ .ready) :
      FixPath (f.onPreflightFix env fix).1 (f.onPreflightFix env fix).2
  /-- Armed, but the buffer does not serve the fix's time. -/
  | skipped {g out e} (ho : f.nav.origin ≠ none) (hr : f.preflight = .ready)
      (hg : TrackingStage f (g, out))
      (hx : g.fsm.externalAnomaly = f.fsm.externalAnomaly)
      (hi : f.buffer.interpolate (f.tSecs fix.t) = .error e) :
      FixPath (g.skipFix fix e).1 (out ++ (g.skipFix fix e).2)
  /-- Armed and evaluated. -/
  | evaluated {g out gpsNed r f' out'} (ho : f.nav.gpsInNed fix = some gpsNed)
      (hr : f.preflight = .ready) (hg : TrackingStage f (g, out))
      (hi : (f.buffer.interpolate (f.tSecs fix.t)).toBool = true)
      (hat : f.atDecision fix = some (g, gpsNed, r))
      (hd : Decision g env fix gpsNed (f.tSecs fix.t) r f' out') :
      FixPath f' (out ++ out')

variable {f env fix}

theorem gpsInNed_eq_none {α : Type} [Neg α] [Sub α] [Mul α] [OfScientific α] [Libm α] {f : Fusion α}
    {fix : GpsFix α} : f.nav.gpsInNed fix = none ↔ f.nav.origin = none := by
  unfold DeadReckoner.gpsInNed
  exact Option.map_eq_none_iff

section

omit [One α] [NatCast α] [BEq α] [Max α] [Min α] [FiniteTest α]

theorem throughDetectors_stage (f : Fusion α) (fix : GpsFix α) (t dropoutS : α)
    (candidate : Bool) (vImu : NedVel α) (r : Residual α) :
    TrackingStage f (f.throughDetectors fix t dropoutS candidate vImu r) := by
  have h₁ := (captureForensic_stage f fix t r).andThen
    (k := fun g => g.checkFrozen fix dropoutS candidate vImu r)
    (checkFrozen_stage _ fix dropoutS candidate vImu r)
  have h₂ := h₁.andThen (k := fun g => g.checkVerticalRate fix t r)
    (checkVerticalRate_stage _ fix t r)
  exact h₂.andThen (k := fun g => g.checkDoppler fix r) (checkDoppler_stage _ fix r)

/-- The two checks that call on the machine, and what the three write. -/
theorem throughDetectors_eq (f : Fusion α) (fix : GpsFix α) (t dropoutS : α)
    (candidate : Bool) (vImu : NedVel α) (r : Residual α) : ∃ streak forensic,
    (f.throughDetectors fix t dropoutS candidate vImu r).1 =
      { f.accrued candidate dropoutS vImu.horizontalNorm with
        lastGpsAlt := some (fix.altM, t)
        noDopplerStreak := streak
        forensic := forensic
        fsm := { f.fsm with
          externalAnomaly := (f.fsm.externalAnomaly ||
            f.frozenAlarm candidate dropoutS vImu.horizontalNorm ||
            f.verticalAlarm fix.altM t) } } := by
  obtain ⟨streak, hdoppler⟩ := checkDoppler_eq
    (((f.captureForensic fix t r).checkFrozen fix dropoutS candidate vImu r).1.checkVerticalRate
      fix t r).1 fix r
  refine ⟨streak, (f.captureForensic fix t r).forensic, ?_⟩
  unfold throughDetectors
  rw [andThen_fst, andThen_fst, hdoppler, checkVerticalRate_eq, checkFrozen_eq]
  cases candidate with
  | false => rfl
  | true => rfl

end

theorem trackers_eq {α : Type} [Zero α] [Neg α] [Add α] [Sub α] [Mul α] [OfScientific α] [LT α]
    [DecidableLT α] [Libm α] (f : Fusion α) (fix : GpsFix α) (t : α) : ∃ p,
    ((f.noteGap t).drainDwellNotice fix).1.trackFrozen fix =
      { f.trackFrozen fix with
        lastGpsTSecs := some t
        fsm := { f.fsm with
          dropoutRecovery :=
            (f.fsm.dropoutRecovery || decide (f.dropoutSeconds t > f.gpsDropoutFreezeS))
          dwellPauseExceededPending := p } } := by
  obtain ⟨p, hdrain⟩ := drainDwellNotice_eq (f.noteGap t) fix
  refine ⟨p, ?_⟩
  rw [hdrain, noteGap_eq]
  by_cases h : f.frozenCandidate fix = true
  · rw [trackFrozen_of_candidate h]
    exact if_pos h
  · rw [trackFrozen_of_away h]
    exact if_neg h

theorem evaluateFix_eq (f : Fusion α) (env : Env α) (fix : GpsFix α) (gpsNed : NedPos α)
    (t dropoutS : α) (candidate : Bool) (vImu : NedVel α) (r : Residual α) :
    f.evaluateFix env fix gpsNed t dropoutS candidate vImu r =
      Lib.andThen (f.throughDetectors fix t dropoutS candidate vImu r)
        fun g => g.decideFix env fix gpsNed t r := by
  unfold evaluateFix throughDetectors
  simp only [Lib.andThen, List.append_assoc]

theorem armedTrackers {α : Type} [Zero α] [Neg α] [Add α] [Sub α] [Mul α] [OfScientific α] [LT α]
    [DecidableLT α] [Libm α] (f : Fusion α) (fix : GpsFix α) (t : α) :
    TrackingStage f (((f.noteGap t).drainDwellNotice fix).1.trackFrozen fix,
      ((f.noteGap t).drainDwellNotice fix).2) ∧
    (((f.noteGap t).drainDwellNotice fix).1.trackFrozen fix).fsm.externalAnomaly =
      f.fsm.externalAnomaly := by
  constructor
  · have h₁ := (noteGap_stage f t).andThen (k := fun g => g.drainDwellNotice fix)
      (drainDwellNotice_stage _ fix)
    have h₂ := h₁.andThen (k := fun g => (g.trackFrozen fix, [])) (trackFrozen_stage _ fix)
    simpa only [Lib.andThen, List.nil_append, List.append_nil] using h₂
  · unfold trackFrozen drainDwellNotice noteGap
    dsimp only
    split <;> split <;> split <;> rfl

/-- **A fix takes one of the five paths.** -/
theorem onGps_path (f : Fusion α) (env : Env α) (fix : GpsFix α) :
    FixPath f env fix (f.onGps env fix).1 (f.onGps env fix).2 := by
  unfold onGps
  cases hn : f.nav.gpsInNed fix with
  | none =>
    have ho := gpsInNed_eq_none.mp hn
    unfold onFirstFix
    cases hp : f.nav.isFirstFixPlausible fix with
    | error distance => exact .rejected ho hp (.single _)
    | ok u => exact .first ho hp
  | some gpsNed =>
    have ho : f.nav.origin ≠ none := by
      intro h
      rw [gpsInNed_eq_none.mpr h] at hn
      exact absurd hn (by simp)
    dsimp only
    by_cases hr : f.preflight = .ready
    · rw [if_neg (by simpa using hr)]
      obtain ⟨hg, hx⟩ := armedTrackers f fix (f.tSecs fix.t)
      unfold onArmedFix
      dsimp only [Lib.andThen]
      rw [hg.tracked.buffer]
      cases hi : f.buffer.interpolate (f.tSecs fix.t) with
      | error e => exact .skipped ho hr hg hx hi
      | ok p =>
        obtain ⟨pImu, vImu⟩ := p
        dsimp only
        rw [evaluateFix_eq]
        have hall := hg.andThen
          (k := fun g => g.throughDetectors fix (f.tSecs fix.t)
            (f.dropoutSeconds (f.tSecs fix.t)) (f.frozenCandidate fix) vImu
            (residual (((f.noteGap (f.tSecs fix.t)).drainDwellNotice fix).1.trackFrozen fix)
              fix gpsNed pImu vImu))
          (throughDetectors_stage _ fix _ _ _ vImu _)
        dsimp only [Lib.andThen] at hall ⊢
        rw [← List.append_assoc]
        exact .evaluated hn hr hall (by rw [hi]; rfl)
          (by unfold atDecision; rw [hn, hi]) (decideFix_decision ..)
    · rw [if_pos hr]
      exact .preflight ho hr

/-! ## What a fix writes -/

theorem gpsInNed_of_origin {α : Type} [Neg α] [Sub α] [Mul α] [OfScientific α] [Libm α]
    {f : Fusion α} (fix : GpsFix α) (ho : f.nav.origin ≠ none) :
    ∃ gpsNed, f.nav.gpsInNed fix = some gpsNed :=
  Option.ne_none_iff_exists'.mp (mt gpsInNed_eq_none.mp ho)

/-- Not armed: the preflight, and the drift window. -/
theorem onGps_unarmed (env : Env α) (fix : GpsFix α)
    (h : ¬ (f.nav.origin ≠ none ∧ f.preflight = .ready)) : ∃ nav c p l drift,
    (f.onGps env fix).1 = { f with
      nav := nav
      checklist := c
      preflight := p
      lastPreflightFailedEmitS := l
      fsm := { f.fsm with drift := drift } } := by
  have hpath := onGps_path f env fix
  generalize (f.onGps env fix).1 = f' at hpath ⊢
  generalize (f.onGps env fix).2 = out at hpath
  cases hpath with
  | rejected => exact ⟨_, _, _, _, _, rfl⟩
  | first =>
    obtain ⟨_, _, _, hrefresh⟩ := refreshPreflight_eq
      { f with
        nav := f.nav.onGpsFix fix
        checklist := { f.checklist with firstFixAccepted := true } } env fix.t
    rw [hrefresh]
    exact ⟨_, _, _, _, _, rfl⟩
  | preflight =>
    obtain ⟨_, _, _, hrefresh⟩ := refreshPreflight_eq f env fix.t
    obtain ⟨_, _, hanchor⟩ := preflightAnchor_eq (f.refreshPreflight env fix.t).1 fix
    unfold onPreflightFix
    rw [andThen_fst, hanchor, hrefresh]
    exact ⟨_, _, _, _, _, rfl⟩
  | skipped ho hready => exact absurd ⟨ho, hready⟩ h
  | evaluated ho hready =>
    refine absurd ⟨fun hnone => ?_, hready⟩ h
    rw [gpsInNed_eq_none.mpr hnone] at ho
    cases ho

/-- Armed, but not served: the trackers, and the blend. -/
theorem onGps_skipped (env : Env α) {e : DetectError} (ho : f.nav.origin ≠ none)
    (hr : f.preflight = .ready) (hi : f.buffer.interpolate (f.tSecs fix.t) = .error e) :
    ∃ nav p, (f.onGps env fix).1 =
      { f.trackFrozen fix with
        nav := nav
        lastGpsTSecs := some (f.tSecs fix.t)
        fsm := { f.fsm with
          dropoutRecovery := (f.fsm.dropoutRecovery ||
            decide (f.dropoutSeconds (f.tSecs fix.t) > f.gpsDropoutFreezeS))
          dwellPauseExceededPending := p } } := by
  obtain ⟨gpsNed, hn⟩ := gpsInNed_of_origin fix ho
  obtain ⟨p, htrackers⟩ := trackers_eq f fix (f.tSecs fix.t)
  have hbuffer := (armedTrackers f fix (f.tSecs fix.t)).1.tracked.buffer
  unfold onGps
  rw [hn]
  dsimp only
  rw [if_neg fun hne => hne hr]
  unfold onArmedFix
  dsimp only [Lib.andThen] at hbuffer ⊢
  rw [hbuffer, hi, htrackers]
  exact ⟨_, _, rfl⟩

/-- The task a decision is made on. -/
theorem atDecision_eq {α : Type} [Zero α] [One α] [Neg α] [Add α] [Sub α] [Mul α] [Div α]
    [NatCast α] [OfScientific α] [LT α] [LE α] [DecidableLT α] [DecidableLE α] [Libm α]
    {f : Fusion α} {fix : GpsFix α} {pImu : NedPos α} {vImu : NedVel α} (ho : f.nav.origin ≠ none)
    (hi : f.buffer.interpolate (f.tSecs fix.t) = .ok (pImu, vImu)) :
    ∃ p streak forensic gpsNed r,
      f.atDecision fix = some
        ({ (f.trackFrozen fix).accrued (f.frozenCandidate fix)
            (f.dropoutSeconds (f.tSecs fix.t)) vImu.horizontalNorm with
          lastGpsTSecs := some (f.tSecs fix.t)
          lastGpsAlt := some (fix.altM, f.tSecs fix.t)
          noDopplerStreak := streak
          forensic := forensic
          fsm := { f.fsm with
            dropoutRecovery := (f.fsm.dropoutRecovery ||
              decide (f.dropoutSeconds (f.tSecs fix.t) > f.gpsDropoutFreezeS))
            dwellPauseExceededPending := p
            externalAnomaly := (f.fsm.externalAnomaly ||
              f.frozenAlarm (f.frozenCandidate fix) (f.dropoutSeconds (f.tSecs fix.t))
                vImu.horizontalNorm ||
              f.verticalAlarm fix.altM (f.tSecs fix.t)) } }, gpsNed, r) := by
  obtain ⟨gpsNed, hn⟩ := gpsInNed_of_origin fix ho
  obtain ⟨p, htrackers⟩ := trackers_eq f fix (f.tSecs fix.t)
  unfold atDecision
  rw [hn, hi]
  dsimp only
  generalize ((f.noteGap (f.tSecs fix.t)).drainDwellNotice fix).1.trackFrozen fix = g
    at htrackers ⊢
  generalize g.residual fix gpsNed pImu vImu = r
  obtain ⟨streak, forensic, hthrough⟩ := throughDetectors_eq g fix (f.tSecs fix.t)
    (f.dropoutSeconds (f.tSecs fix.t)) (f.frozenCandidate fix) vImu r
  refine ⟨p, streak, forensic, gpsNed, r, ?_⟩
  rw [hthrough, htrackers]
  cases hc : f.frozenCandidate fix with
  | false =>
    rw [trackFrozen_of_away (by simp [hc])]
    rfl
  | true =>
    rw [trackFrozen_of_candidate hc]
    rfl

/-- Armed and served: the trackers, and what the decision writes. -/
theorem onGps_served (env : Env α) {pImu : NedPos α} {vImu : NedVel α}
    (ho : f.nav.origin ≠ none) (hr : f.preflight = .ready)
    (hi : f.buffer.interpolate (f.tSecs fix.t) = .ok (pImu, vImu)) :
    ∃ g r fsm nav buffer streak forensic, DecidedFsm g fix (f.tSecs fix.t) r fsm ∧
      (f.onGps env fix).1 =
        { (f.trackFrozen fix).accrued (f.frozenCandidate fix)
            (f.dropoutSeconds (f.tSecs fix.t)) vImu.horizontalNorm with
          lastGpsTSecs := some (f.tSecs fix.t)
          lastGpsAlt := some (fix.altM, f.tSecs fix.t)
          fsm := fsm
          nav := nav
          buffer := buffer
          noDopplerStreak := streak
          forensic := forensic } := by
  have hpath := onGps_path f env fix
  generalize (f.onGps env fix).1 = f' at hpath ⊢
  generalize (f.onGps env fix).2 = out at hpath
  cases hpath with
  | rejected hnone => exact absurd hnone ho
  | first hnone => exact absurd hnone ho
  | preflight _ hready => exact absurd hr hready
  | skipped _ _ _ _ herror => rw [herror] at hi; cases hi
  | evaluated _ _ _ _ hserved hd =>
    obtain ⟨_, _, _, _, _, hat⟩ := atDecision_eq ho hi
    obtain ⟨rfl, -⟩ := Prod.mk.inj (Option.some.inj (hat.symm.trans hserved))
    have hfsm := hd.fsm
    obtain ⟨_, _, _, _, rfl⟩ := hd.eq
    exact ⟨_, _, _, _, _, _, _, hfsm, rfl⟩

/-- No fix moves the boot instant. -/
theorem onGps_boot (f : Fusion α) (env : Env α) (fix : GpsFix α) :
    (f.onGps env fix).1.boot = f.boot := by
  by_cases harmed : f.nav.origin ≠ none ∧ f.preflight = .ready
  · have hpath := onGps_path f env fix
    generalize (f.onGps env fix).1 = f' at hpath ⊢
    generalize (f.onGps env fix).2 = out at hpath
    cases hpath with
    | rejected hnone => exact absurd hnone harmed.1
    | first hnone => exact absurd hnone harmed.1
    | preflight _ hready => exact absurd harmed.2 hready
    | skipped _ _ hg => exact hg.tracked.boot
    | evaluated _ _ hg _ _ hd =>
      obtain ⟨_, _, _, _, rfl⟩ := hd.eq
      exact hg.tracked.boot
  · obtain ⟨_, _, _, _, _, hunarmed⟩ := onGps_unarmed env fix harmed
    rw [hunarmed]

variable [Nalgebra α]

theorem step_boot (f : Fusion α) (i : Input α) : (f.step i).1.boot = f.boot := by
  cases i with
  | imu sample => rfl
  | gps fix env => exact onGps_boot f env fix
  | reset now => rfl
  | background now done =>
    obtain ⟨_, hdone⟩ := onBackground_eq f now done
    unfold step
    rw [hdone]

end Paths

end Fusion

end FlyingSquirrel

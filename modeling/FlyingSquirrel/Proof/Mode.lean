import FlyingSquirrel.Detect.Calls
import FlyingSquirrel.Nav.Integration
import FlyingSquirrel.Proof.Actions

/-!
# One mode in two places

The machine holds the mode, and the dead-reckoner holds a copy that freezes the blend and the
bias. They are written in different places: `evaluate` moves the machine before the loop has
decided on a veto, the veto moves only the machine back, and the reset writes both. **At the
end of every step they agree.**

What a subscriber sees of the mode is the `StateTransition` events. `transitionsIn` reads them
off the outputs, and over a run they are a `Path` from the mode at its start to the mode at
its end. `ModeStep` is both facts for one stage, and stages compose.
-/

set_option autoImplicit false

namespace FlyingSquirrel

open Lib

/-- A text field of an event's detail. -/
def Json.text {α : Type} (detail : Json α) (name : String) : Option String :=
  match detail with
  | .obj fields =>
    match fields.lookup name with
    | some (.str s) => some s
    | _ => none
  | _ => none

/-- The `from` and `to` of a `StateTransition` event. -/
def Output.announced {α : Type} : Output α → Option (Option String × Option String)
  | .event e =>
    if e.kind = .stateTransition then some (e.detail.text "from", e.detail.text "to") else none
  | _ => none

def transitionsIn {α : Type} (out : List (Output α)) : List (Option String × Option String) :=
  out.filterMap Output.announced

/-- There is at most one transition among the events, and it is the last of them. -/
def TransitionLast (evs : List Event) : Prop :=
  ∀ pre source target post, evs = pre ++ .transition source target :: post → post = []

section Announced

variable {α : Type} {out out' : List (Output α)}

@[simp] theorem transitionsIn_nil : transitionsIn ([] : List (Output α)) = [] := rfl

@[simp] theorem transitionsIn_append :
    transitionsIn (out ++ out') = transitionsIn out ++ transitionsIn out' := List.filterMap_append

theorem transitionsIn_event {e : SpoofingEvent α} (h : e.kind ≠ .stateTransition) :
    transitionsIn [.event e] = [] := by simp [transitionsIn, Output.announced, h]

end Announced

namespace StateMachine

section Events

variable {α : Type} [Zero α] [One α] [Neg α] [Add α] [Sub α] [Mul α] [Div α] [NatCast α]
  [OfScientific α] [LT α] [LE α] [DecidableLT α] [DecidableLE α] [BEq α] [Max α]
  [FiniteTest α]

theorem transitionLast_snoc {evs : List Event} (h : ∀ s t, .transition s t ∉ evs) (ev : Event) :
    TransitionLast (evs ++ [ev]) := by
  intro pre source target post hsplit
  rcases List.eq_nil_or_concat post with rfl | ⟨init, last, rfl⟩
  · rfl
  · -- what is before the last event would hold the transition
    rw [List.concat_eq_append, ← List.cons_append, ← List.append_assoc] at hsplit
    have hinit := (List.append_inj_left' hsplit rfl).symm
    exact absurd (hinit ▸ List.mem_append_right pre List.mem_cons_self) (h source target)

/-- **A call of `evaluate` announces at most one transition, last.** -/
theorem evaluate_transitionLast (m : StateMachine α) (r : Residual α) (t : α) (hdop : Option α)
    (sats : Option Nat) : TransitionLast (m.evaluate r t hdop sats).2 := by
  have hdetect : ∀ (j : Option JumpReason) (d : Option DriftReason) (s s' : NavStateKind),
      Event.transition s s' ∉ detectorEvents j d := by
    intro j d s s' h
    cases j <;> cases d <;> simp [detectorEvents] at h
  by_cases hs : m.state = .spoofed
  · rw [evaluate_spoofed _ _ _ _ hs]
    intro pre source target post hsplit
    exact absurd hsplit (by simp)
  · obtain ⟨m', out, he, ha⟩ := evaluate_arm r t hdop sats hs
    rw [he]
    rcases ha.announced with ⟨rfl, -⟩ | ⟨rfl, -⟩ | ⟨rfl, -⟩ | ⟨rfl, -⟩
    · intro pre source target post hsplit
      rw [List.append_nil] at hsplit
      exact absurd (hsplit ▸ List.mem_append_right pre List.mem_cons_self)
        (hdetect _ _ source target)
    · exact transitionLast_snoc (hdetect _ _) _
    · exact transitionLast_snoc (hdetect _ _) _
    · exact transitionLast_snoc (hdetect _ _) _

end Events

end StateMachine

namespace Fusion

variable {α : Type} [Zero α] [One α] [Neg α] [Add α] [Sub α] [Mul α] [Div α] [NatCast α]
  [OfScientific α] [LT α] [LE α] [DecidableLT α] [DecidableLE α] [BEq α] [Max α] [Min α] [Libm α]
  [FiniteTest α]

/-- The dead-reckoner's copy of the mode is the machine's. -/
def ModesAgree (f : Fusion α) : Prop := f.nav.state = f.fsm.state

/-- The mode as the events name it. -/
def mode (f : Fusion α) : Option String := some f.fsm.state.debug

/-- The fix completes a clear, and is too far from the dead-reckoned position for it. -/
def VetoesClear (f : Fusion α) : Input α → Prop
  | .gps fix _ =>
    f.preflight = .ready ∧ ∃ g gpsNed r distance, f.atDecision fix = some (g, gpsNed, r) ∧
      .transition .suspicious .normal ∈
        ((g.gatedFsm r).evaluate r (f.tSecs fix.t) fix.hdop fix.sats).2 ∧
      validateFixAgainstReference gpsNed g.nav.drPos g.reAnchorMaxDistanceM = .error distance
  | _ => False

/-! ## One stage -/

/-- What a stage does to the mode: the copies still agree, and the transitions it announces
    lead from the mode before it to the mode after it. -/
structure ModeStep (f : Fusion α) (x : Fusion α × List (Output α)) : Prop where
  agree : f.ModesAgree → x.1.ModesAgree
  path : Path f.mode (transitionsIn x.2) x.1.mode

theorem ModeStep.andThen {α : Type} {f : Fusion α} {x : Fusion α × List (Output α)}
    {k : Fusion α → Fusion α × List (Output α)} (hx : ModeStep f x) (hk : ModeStep x.1 (k x.1)) :
    ModeStep f (Lib.andThen x k) where
  agree := hk.agree ∘ hx.agree
  path := by
    rw [andThen_snd, transitionsIn_append]
    exact hx.path.append hk.path

/-- A stage that leaves both copies alone and announces nothing. -/
theorem ModeStep.still {α : Type} {f : Fusion α} {x : Fusion α × List (Output α)}
    (hnav : x.1.nav.state = f.nav.state) (hfsm : x.1.fsm.state = f.fsm.state)
    (hout : transitionsIn x.2 = []) : ModeStep f x where
  agree := by
    intro h
    unfold ModesAgree at h ⊢
    rw [hnav, hfsm, h]
  path := by
    unfold mode
    rw [hout, hfsm]
    exact .nil _

theorem ModeStep.refl {α : Type} (f : Fusion α) : ModeStep f (f, []) := .still rfl rfl rfl

theorem TrackingStage.modeStep {α : Type} {f : Fusion α} {x : Fusion α × List (Output α)}
    (h : TrackingStage f x) (hout : transitionsIn x.2 = []) : ModeStep f x :=
  .still (by rw [h.tracked.nav]) h.tracked.fsm.state_eq hout

theorem drainDwellNotice_quiet {α : Type} [Zero α] (f : Fusion α) (fix : GpsFix α) :
    transitionsIn (f.drainDwellNotice fix).2 = [] := by
  unfold drainDwellNotice
  split
  · exact transitionsIn_event (by simp)
  · rfl

theorem checkFrozen_quiet {α : Type} [Zero α] [Add α] [Mul α] [OfScientific α] [LT α] [LE α]
    [DecidableLT α] [DecidableLE α] [Libm α] (f : Fusion α) (fix : GpsFix α) (r : Residual α)
    (dropoutS : α) (candidate : Bool) (vImu : NedVel α) :
    transitionsIn (f.checkFrozen fix dropoutS candidate vImu r).2 = [] := by
  unfold checkFrozen
  split
  · dsimp only
    split
    · exact transitionsIn_event (by simp)
    · rfl
  · rfl

theorem checkVerticalRate_quiet {α : Type} [Zero α] [Neg α] [Sub α] [Div α] [OfScientific α] [LT α]
    [LE α] [DecidableLT α] [DecidableLE α] (f : Fusion α) (fix : GpsFix α) (t : α) (r : Residual α)
    : transitionsIn (f.checkVerticalRate fix t r).2 = [] := by
  unfold checkVerticalRate
  split
  · exact transitionsIn_event (by simp)
  · rfl

theorem checkDoppler_quiet {α : Type} (f : Fusion α) (fix : GpsFix α) (r : Residual α) :
    transitionsIn (f.checkDoppler fix r).2 = [] := by
  unfold checkDoppler
  split
  · rfl
  · dsimp only
    split
    · exact transitionsIn_event (by simp)
    · rfl

theorem refreshPreflight_quiet {α : Type} [Zero α] [Sub α] [Div α] [NatCast α] [OfScientific α]
    [LE α] [DecidableLE α] (f : Fusion α) (env : Env α) (ts : Timestamp) :
    transitionsIn (f.refreshPreflight env ts).2 = [] := by
  unfold refreshPreflight
  split
  · rfl
  · dsimp only
    split
    · exact transitionsIn_event (by simp)
    · split
      · exact transitionsIn_event (by simp)
      · rfl

theorem detectorReports_quiet {α : Type} (f : Fusion α) (fix : GpsFix α) (r : Residual α)
    (j : Option JumpReason) (d : Option DriftReason) :
    transitionsIn (f.detectorReports fix r j d) = [] := by
  cases j <;> cases d <;> rfl

theorem onSpoofed_quiet {α : Type} [Zero α] (f : Fusion α) (fix : GpsFix α) (r : Residual α)
    (env : Env α) (source : NavStateKind) :
    transitionsIn (f.onSpoofed env fix r source).2 = [] := by
  have hdump : transitionsIn (f.maybeTriggerForensicDump env.now source r).2 = [] := by
    unfold maybeTriggerForensicDump
    split
    · rfl
    · dsimp only
      split
      · exact transitionsIn_event (by simp)
      · rfl
  unfold onSpoofed
  rw [andThen_snd, transitionsIn_append, hdump]
  unfold tryAction
  cases env.severGps <;> cases env.engageRtb <;> rfl

theorem vetoClear_quiet {α : Type} (f : Fusion α) (fix : GpsFix α) (t : α)
    (since : Option α) (distance : α) :
    transitionsIn (f.vetoClear fix t since distance).2 = [] := transitionsIn_event (by simp)

theorem emit_transition {α : Type} (f : Fusion α) (fix : GpsFix α) (r : Residual α)
    (source target : NavStateKind) :
    transitionsIn [f.emit (.transition source target) fix r] =
      [(some source.debug, some target.debug)] := rfl

/-! ## The decision -/

/-- `m` is reached with the transitions of `moves`. -/
theorem ModeStep.of_moves {α : Type} {f f' : Fusion α} {out : List (Output α)} {moves}
    (hout : transitionsIn out = moves) (hpath : Path f.mode moves f'.mode)
    (hagree : f.ModesAgree → f'.ModesAgree) : ModeStep f (f', out) :=
  ⟨hagree, hout ▸ hpath⟩

theorem finalBlend_navState {α : Type} [Zero α] [One α] [Neg α] [Add α] [Sub α] [Mul α] [Div α]
    [NatCast α] [OfScientific α] [LT α] [LE α] [DecidableLT α] [DecidableLE α] [Max α] [Min α]
    [Libm α] [FiniteTest α] (f : Fusion α) (fix : GpsFix α) :
    (f.finalBlend fix).nav.state = f.nav.state := by
  unfold finalBlend
  split
  · exact DeadReckoner.onGpsFix_state f.nav fix
  · rfl

theorem Decision.modeStep {f f' : Fusion α} {env : Env α} {fix : GpsFix α} {gpsNed : NedPos α}
    {t : α} {r : Residual α} {out : List (Output α)}
    (h : Decision f env fix gpsNed t r f' out) : ModeStep f (f', out) := by
  have hrep : ∀ m, transitionsIn (f.reports fix t r m) = [] := fun m =>
    detectorReports_quiet { f with fsm := m } fix r _ _
  have hpre := assessed_state f fix t r
  cases h with
  | latched hs => exact .still rfl (gatedFsm_state f r) rfl
  | @settled m hs ha =>
    refine .still (finalBlend_navState _ fix) ?_ (hrep m)
    rw [finalBlend_fsm]
    exact ha.silent.trans hpre
  | @opened m ha =>
    obtain ⟨hs, hm⟩ := ha.transitioned
    refine .of_moves (by rw [transitionsIn_append, hrep, emit_transition, List.nil_append]) ?_ ?_
    · unfold mode
      rw [← hpre, hs, hm]
      exact .single _ _
    · intro _
      exact hm.symm
  | @escalated m g ha hg =>
    obtain ⟨hs, hm⟩ := ha.transitioned
    obtain ⟨_, ho⟩ := onSpoofed_state g env fix r .suspicious
    rw [ho]
    refine .of_moves
      (by rw [transitionsIn_append, transitionsIn_append, hrep, emit_transition, onSpoofed_quiet,
        List.nil_append, List.append_nil]) ?_ ?_
    · unfold mode
      rw [hg, ← hpre, hs, hm]
      exact .single _ _
    · intro _
      rw [hg]
      exact hm.symm
  | @vetoed m distance ha _ =>
    obtain ⟨hs, hm⟩ := ha.transitioned
    have hback : (m.forceBackToSuspicious t f.fsm.suspiciousSince).state = f.fsm.state := by
      rw [StateMachine.forceBackToSuspicious_eq hm]
      exact hs.symm.trans hpre
    -- the clear is undone before it is put out, so there is no move to announce
    refine .still rfl hback ?_
    rw [transitionsIn_append, hrep, vetoClear_quiet]
    rfl
  | @cleared m ha _ =>
    obtain ⟨hs, hm⟩ := ha.transitioned
    refine .of_moves (by rw [transitionsIn_append, hrep, emit_transition, List.nil_append]) ?_ ?_
    · unfold mode
      rw [finalBlend_fsm, ← hpre, hs]
      exact hm ▸ .single _ _
    · intro _
      unfold ModesAgree
      rw [finalBlend_navState, finalBlend_fsm]
      exact hm.symm

/-- A decision that takes a clear back announces nothing. -/
theorem decideFix_veto_quiet {f : Fusion α} {fix : GpsFix α} {gpsNed : NedPos α} {t : α}
    {r : Residual α} {distance : α} (env : Env α)
    (hclear : .transition .suspicious .normal ∈
      ((f.gatedFsm r).evaluate r t fix.hdop fix.sats).2)
    (hveto : validateFixAgainstReference gpsNed f.nav.drPos f.reAnchorMaxDistanceM =
      .error distance) : transitionsIn (f.decideFix env fix gpsNed t r).2 = [] := by
  have hclears := (StateMachine.evaluate_clear_iff ..).mp hclear
  have hd := decideFix_decision f env fix gpsNed t r
  generalize (f.decideFix env fix gpsNed t r).1 = f' at hd
  generalize (f.decideFix env fix gpsNed t r).2 = out at hd ⊢
  cases hd with
  | latched => rfl
  | @settled m hs ha =>
    exact absurd ((StateMachine.clearsOn_iff _ ha).mp hclears) (by simp)
  | opened ha => exact absurd ((StateMachine.clearsOn_iff _ ha).mp hclears) (by simp)
  | escalated ha => exact absurd ((StateMachine.clearsOn_iff _ ha).mp hclears) (by simp)
  | @vetoed m distance ha _ =>
    rw [transitionsIn_append]
    unfold reports
    rw [detectorReports_quiet, vetoClear_quiet]
    rfl
  | cleared ha hok => exact absurd (hok.symm.trans hveto) (by simp)

/-! ## A step -/

theorem throughDetectors_quiet {α : Type} [Zero α] [Neg α] [Add α] [Sub α] [Mul α] [Div α]
    [OfScientific α] [LT α] [LE α] [DecidableLT α] [DecidableLE α] [Libm α]
    (f : Fusion α) (fix : GpsFix α) (t dropoutS : α)
    (candidate : Bool) (vImu : NedVel α) (r : Residual α) :
    transitionsIn (f.throughDetectors fix t dropoutS candidate vImu r).2 = [] := by
  unfold throughDetectors
  rw [andThen_snd, andThen_snd, transitionsIn_append, transitionsIn_append, checkFrozen_quiet,
    checkVerticalRate_quiet, checkDoppler_quiet]
  rfl

theorem evaluateFix_mode (f : Fusion α) (env : Env α) (fix : GpsFix α) (gpsNed : NedPos α)
    (t dropoutS : α) (candidate : Bool) (vImu : NedVel α) (r : Residual α) :
    ModeStep f (f.evaluateFix env fix gpsNed t dropoutS candidate vImu r) := by
  rw [evaluateFix_eq]
  exact ((throughDetectors_stage f fix t dropoutS candidate vImu r).modeStep
    (throughDetectors_quiet f fix t dropoutS candidate vImu r)).andThen
    (decideFix_decision _ env fix gpsNed t r).modeStep

theorem onArmedFix_mode (f : Fusion α) (env : Env α) (fix : GpsFix α) (gpsNed : NedPos α) :
    ModeStep f (f.onArmedFix env fix gpsNed) := by
  -- a stage that puts nothing out is a step whose continuation is the rest of the fix
  have hgap : ModeStep f (f.noteGap (f.tSecs fix.t), []) := (noteGap_stage f _).modeStep rfl
  refine hgap.andThen (k := fun _ => f.onArmedFix env fix gpsNed) ?_
  unfold onArmedFix
  have hnotice := (drainDwellNotice_stage (f.noteGap (f.tSecs fix.t)) fix).modeStep
    (drainDwellNotice_quiet _ fix)
  refine hnotice.andThen ?_
  dsimp only
  generalize ((f.noteGap (f.tSecs fix.t)).drainDwellNotice fix).1 = g
  refine ModeStep.andThen (k := fun _ => _) ((trackFrozen_stage g fix).modeStep rfl) ?_
  split
  · exact .still (DeadReckoner.onGpsFix_state _ fix) rfl (transitionsIn_event (by simp))
  · exact evaluateFix_mode _ env fix gpsNed _ _ _ _ _

theorem onGpsFix_mode {α : Type} [Zero α] [One α] [Neg α] [Add α] [Sub α] [Mul α] [Div α]
    [NatCast α] [OfScientific α] [LT α] [LE α] [DecidableLT α] [DecidableLE α] [Max α] [Min α]
    [Libm α] [FiniteTest α] (f : Fusion α) (fix : GpsFix α) (c : PreflightChecklist) :
    ModeStep f ({ f with nav := f.nav.onGpsFix fix, checklist := c }, []) :=
  .still (DeadReckoner.onGpsFix_state f.nav fix) rfl rfl

theorem refreshPreflight_mode {α : Type} [Zero α] [Sub α] [Div α] [NatCast α] [OfScientific α]
    [LE α] [DecidableLE α] (f : Fusion α) (env : Env α) (ts : Timestamp) :
    ModeStep f (f.refreshPreflight env ts) := by
  obtain ⟨_, _, _, h⟩ := refreshPreflight_eq f env ts
  exact .still (by rw [h]) (by rw [h]) (refreshPreflight_quiet f env ts)

theorem preflightAnchor_mode {α : Type} [Zero α] [One α] [Neg α] [Add α] [Sub α] [Mul α] [Div α]
    [NatCast α] [OfScientific α] [LT α] [LE α] [DecidableLT α] [DecidableLE α] [Max α] [Min α]
    [Libm α] [FiniteTest α] (f : Fusion α) (fix : GpsFix α) :
    ModeStep f (f.preflightAnchor fix, []) := by
  unfold preflightAnchor
  split
  · obtain ⟨_, hanchor⟩ := StateMachine.onCleanAnchor_eq f.fsm
    exact .still (DeadReckoner.onGpsFix_state _ fix) (by rw [hanchor]) rfl
  · exact .refl _

theorem onGps_mode (f : Fusion α) (env : Env α) (fix : GpsFix α) :
    ModeStep f (f.onGps env fix) := by
  unfold onGps
  split
  · unfold onFirstFix
    split
    · exact .still rfl rfl (transitionsIn_event (by simp))
    · exact (onGpsFix_mode f fix _).andThen (k := fun f => f.refreshPreflight env fix.t)
        (refreshPreflight_mode _ env fix.t)
  · split
    · exact (refreshPreflight_mode f env fix.t).andThen (preflightAnchor_mode _ fix)
    · exact onArmedFix_mode f env fix _

theorem operatorReset_mode {α : Type} [Zero α]
    (f : Fusion α) (now : Instant) : ModeStep f (f.operatorReset now) :=
  .of_moves rfl (.single _ _) fun _ => rfl

theorem onBackground_mode {α : Type} [Zero α] (f : Fusion α) (now : Instant) (done : BgDone) :
    ModeStep f (f.onBackground now done) := by
  unfold onBackground
  dsimp only
  split <;> exact .still rfl rfl rfl

variable [Nalgebra α]

/-- **A step keeps the copies together, and announces the way from mode to mode.** -/
theorem step_mode (f : Fusion α) (i : Input α) : ModeStep f (f.step i) := by
  cases i with
  | imu sample => exact .still (DeadReckoner.step_state f.nav sample) rfl rfl
  | gps fix env => exact onGps_mode f env fix
  | reset now => exact operatorReset_mode f now
  | background now done => exact onBackground_mode f now done

/-- What an armed and evaluated fix puts out: the trackers' events, and the decision's. -/
theorem onGps_decided {α : Type} [Zero α] [One α] [Neg α] [Add α] [Sub α] [Mul α] [Div α]
    [NatCast α] [OfScientific α] [LT α] [LE α] [DecidableLT α] [DecidableLE α] [BEq α] [Max α]
    [Min α] [Libm α] [FiniteTest α]
    {f g : Fusion α} {fix : GpsFix α} {gpsNed : NedPos α} {r : Residual α}
    (hr : f.preflight = .ready) (hat : f.atDecision fix = some (g, gpsNed, r)) (env : Env α) :
    ∃ out, transitionsIn out = [] ∧
      (f.onGps env fix).2 = out ++ (g.decideFix env fix gpsNed (f.tSecs fix.t) r).2 := by
  unfold atDecision at hat
  split at hat
  case h_2 => exact absurd hat (by simp)
  rename_i ned pImu vImu hned hi
  obtain ⟨rfl, rfl, rfl⟩ : _ = g ∧ ned = gpsNed ∧ _ = r := by simpa using hat
  obtain ⟨hg, -⟩ := armedTrackers f fix (f.tSecs fix.t)
  -- the trackers before the buffer is read leave the buffer as it is
  unfold onGps
  rw [hned]
  dsimp only
  rw [if_neg (by simpa using hr)]
  unfold onArmedFix
  dsimp only [Lib.andThen]
  rw [hg.tracked.buffer, hi]
  dsimp only
  rw [evaluateFix_eq, andThen_snd, ← List.append_assoc]
  refine ⟨_, ?_, rfl⟩
  rw [transitionsIn_append, drainDwellNotice_quiet, throughDetectors_quiet]
  rfl

theorem veto_quiet {f : Fusion α} {i : Input α} (h : f.VetoesClear i) :
    transitionsIn (f.step i).2 = [] := by
  unfold VetoesClear at h
  split at h
  · rename_i fix env
    obtain ⟨hr, g, gpsNed, r, distance, hat, hclear, hveto⟩ := h
    obtain ⟨out, hquiet, he⟩ := onGps_decided hr hat env
    show transitionsIn (f.onGps env fix).2 = []
    rw [he, transitionsIn_append, hquiet, decideFix_veto_quiet env hclear hveto]
    rfl
  · exact h.elim

/-! ## A run -/

theorem Built.modes {α : Type} [Zero α] [One α] [Mul α] [OfScientific α] [Libm α]
    {c : FusionConfig α} {boot : Instant} {f : Fusion α} (h : Built c boot f) :
    f.ModesAgree ∧ f.mode = some "Normal" := by
  induction h with
  | new => exact ⟨rfl, rfl⟩
  | withMavMonitor _ _ ih => exact ih
  | withForensic _ _ _ ih => exact ih

/-- **Fusion and navigation agree on the mode.** After every step of every run the copies are
    equal; the transitions put out lead from Normal to the mode reached, each from where the
    one before arrived; a vetoed clear puts none out. And no call of `evaluate`, from any
    state, announces two or goes on after one. -/
theorem modes_agree {c : FusionConfig α} {boot : Instant} {f : Fusion α} (hf : Built c boot f)
    (is : List (Input α)) :
    (run step f is).ModesAgree ∧
      Path (some "Normal") (transitionsIn (outputs step f is)) (run step f is).mode ∧
      Along step (fun f i => f.VetoesClear i → transitionsIn (f.step i).2 = []) f is ∧
      ∀ (m : StateMachine α) (r : Residual α) (t : α) (hdop : Option α) (sats : Option Nat),
        TransitionLast (m.evaluate r t hdop sats).2 := by
  obtain ⟨hagree, hnormal⟩ := hf.modes
  refine ⟨?_, ?_, ?_, StateMachine.evaluate_transitionLast⟩
  · exact run_invariant (fun f i => (step_mode f i).agree) hagree is
  · rw [← hnormal]
    exact path_outputs (fun f i => (step_mode f i).path) f is
  · exact along_of_invariant (I := fun _ => True) (fun _ _ _ => trivial)
      (fun f i _ h => veto_quiet h) trivial

/-- Two fixes a degree away, a dwell apart, and an operator's reset. -/
theorem modes_agree_reset :
    let run' := arming ++ fixes quietEnv [(110, 1), (210, 1)] ++ [.reset 300]
    (run step (Fusion.new quickCfg 0) run').ModesAgree ∧
      transitionsIn (outputs step (Fusion.new quickCfg 0) run') =
        [(some "Normal", some "Suspicious"), (some "Suspicious", some "Spoofed"),
          (some "Spoofed", some "Normal")] :=
  ⟨(modes_agree (.new : Built quickCfg 0 _) _).1, by decide +kernel⟩

end Fusion

end FlyingSquirrel

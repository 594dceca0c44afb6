import FlyingSquirrel.Proof.Actions

/-!
# Nothing of an alarm outlives a reset

The operator's reset writes back a dozen fields, and leaves two of the machine's alone: the
count of dropouts, **which nothing reads**, and whether the residual detectors are gated on.
The gate is written before it is next read. A reset puts the count of fixes without Doppler to
zero, and a count of zero opens the gate on the next evaluated fix whatever it was.

So two tasks are `Alike` when they are equal but for these two, the gate only while the count
is zero. Every stage keeps `Alike` tasks alike and answers the same in both, and after a reset
tasks are alike that agree on what the alarm has no part in.
-/

set_option autoImplicit false

namespace FlyingSquirrel

open Lib

namespace StateMachine

section Model

variable {α : Type} [Zero α] [One α] [Neg α] [Add α] [Sub α] [Mul α] [Div α] [NatCast α]
  [OfScientific α] [LT α] [LE α] [DecidableLT α] [DecidableLE α] [BEq α] [Max α]
  [FiniteTest α]

/-- Another count of dropouts, and another gate. -/
def unread (m : StateMachine α) (count : Nat) (on : Bool) : StateMachine α :=
  { m with dropoutRecoveryCount := count, posDetectorsEnabled := on }

/-- Another count of dropouts. -/
def recount (m : StateMachine α) (count : Nat) : StateMachine α :=
  { m with dropoutRecoveryCount := count }

/-! ## Nothing reads the count -/

variable (m : StateMachine α) (count : Nat) (r : Residual α) (t : α) (hdop : Option α)
  (sats : Option Nat)

theorem grantPause_recount {α : Type} [Zero α] [Add α] [Sub α] [Max α] (m : StateMachine α)
    (count : Nat) (t : α) : (m.recount count).grantPause t = (m.grantPause t).recount count := by
  unfold grantPause recount
  cases hs : m.state <;> cases hc : m.suspiciousSince <;> simp [hs, hc]

theorem refusePause_recount {α : Type} (m : StateMachine α) (count : Nat) (budgetOk : Bool) :
    (m.recount count).refusePause budgetOk = (m.refusePause budgetOk).recount count := by
  unfold refusePause recount
  dsimp only
  split <;> rfl

/-- The pause of a dropout fix that has been counted. -/
def pauseDwell (m : StateMachine α) (t : α) : StateMachine α :=
  if m.consecutiveDropout ≤ maxConsecutiveDropout ∧
      decide (m.pausedCumulativeS < m.cfg.maxDwellPauseS) = true then m.grantPause t
  else m.refusePause (decide (m.pausedCumulativeS < m.cfg.maxDwellPauseS))

theorem pauseDwell_recount {α : Type} [Zero α] [Add α] [Sub α] [LT α] [DecidableLT α] [Max α]
    (m : StateMachine α) (count : Nat) (t : α) :
    (m.recount count).pauseDwell t = (m.pauseDwell t).recount count := by
  unfold pauseDwell
  by_cases h : m.consecutiveDropout ≤ maxConsecutiveDropout ∧
    decide (m.pausedCumulativeS < m.cfg.maxDwellPauseS) = true
  · rw [if_pos h]
    exact (if_pos h).trans (grantPause_recount m count t)
  · rw [if_neg h]
    exact (if_neg h).trans (refusePause_recount m count _)

theorem accountDropout_recount {α : Type} [Zero α] [Add α] [Sub α] [LT α] [DecidableLT α] [Max α]
    (m : StateMachine α) (count : Nat) (t : α) (b : Bool) : ∃ count',
    (m.recount count).accountDropout b t = (m.accountDropout b t).recount count' := by
  cases b with
  | false => exact ⟨count, rfl⟩
  | true =>
    have hpause := pauseDwell_recount { m with
      dropoutRecoveryCount := succU64 m.dropoutRecoveryCount
      consecutiveDropout := succU8 m.consecutiveDropout } (succU64 count) t
    exact ⟨succU64 count,
      congrArg (fun m : StateMachine α => { m with lastDropoutT := some t }) hpause⟩

theorem runDetectors_recount : (m.recount count).runDetectors r hdop sats =
    ((m.runDetectors r hdop sats).1.recount count, (m.runDetectors r hdop sats).2) := by
  unfold runDetectors recount
  dsimp only
  split <;> rfl

theorem transition_recount {α : Type} [Zero α] [Sub α] [LE α] [DecidableLE α] (m : StateMachine α)
    (count : Nat) (t : α) (clean firing : Bool) : (m.recount count).transition t clean firing =
    ((m.transition t clean firing).1.recount count, (m.transition t clean firing).2) := by
  -- taken apart, so that an update of the record and the record compare field by field
  obtain ⟨_, state, _, _, since, cleanSince, _, _, _, _, _, _, _, _, _⟩ := m
  unfold transition recount
  cases state with
  | normal => cases firing <;> rfl
  | suspicious =>
    cases clean with
    | true =>
      dsimp only
      rw [if_pos rfl]
      split <;> rfl
    | false =>
      cases firing with
      | true =>
        dsimp only
        rw [if_neg (by simp), if_pos rfl]
        split <;> rfl
      | false => rfl
  | spoofed => rfl

/-- A call of `evaluate` is the same call whatever the count is. -/
theorem evaluate_recount : ∃ count', (m.recount count).evaluate r t hdop sats =
    ((m.evaluate r t hdop sats).1.recount count', (m.evaluate r t hdop sats).2) := by
  unfold evaluate
  dsimp only
  by_cases hs : m.drainFlags.state = .spoofed
  · refine ⟨count, ?_⟩
    rw [if_pos hs, if_pos (show (m.recount count).drainFlags.state = _ from hs)]
    rfl
  · rw [if_neg hs, if_neg (show (m.recount count).drainFlags.state ≠ _ from hs)]
    unfold evaluateLive
    obtain ⟨count', hd⟩ := m.drainFlags.accountDropout_recount count t m.dropoutRecovery
    refine ⟨count', ?_⟩
    have hstart : (m.recount count).drainFlags.accountDropout
        (m.recount count).dropoutRecovery t =
        (m.drainFlags.accountDropout m.dropoutRecovery t).recount count' := hd
    rw [hstart, runDetectors_recount]
    dsimp only
    rw [transition_recount]
    rfl

/-- The gate, opened, is open whatever it was. -/
theorem setPosDetectorsEnabled_unread {α : Type} [Zero α] (m : StateMachine α) (count : Nat)
    (on : Bool) :
    (m.unread count on).setPosDetectorsEnabled true =
      (m.setPosDetectorsEnabled true).recount count := rfl

theorem setPosDetectorsEnabled_recount {α : Type} [Zero α] (m : StateMachine α) (count : Nat)
    (on : Bool) :
    (m.recount count).setPosDetectorsEnabled on =
      (m.setPosDetectorsEnabled on).recount count := by
  unfold setPosDetectorsEnabled recount
  dsimp only
  split <;> rfl

end Model

end StateMachine

namespace Fusion

variable {α : Type} [Zero α] [One α] [Neg α] [Add α] [Sub α] [Mul α] [Div α] [NatCast α]
  [OfScientific α] [LT α] [LE α] [DecidableLT α] [DecidableLE α] [Max α] [Min α] [Libm α]
  [FiniteTest α]

def unread (f : Fusion α) (count : Nat) (on : Bool) : Fusion α :=
  { f with fsm := f.fsm.unread count on }

def recount (f : Fusion α) (count : Nat) : Fusion α := { f with fsm := f.fsm.recount count }

/-- Equal but for the count of dropouts, and for the gate while it is about to be opened. -/
def Alike (f f' : Fusion α) : Prop :=
  ∃ count on, f' = f.unread count on ∧
    (on = f.fsm.posDetectorsEnabled ∨ f.noDopplerStreak = 0)

/-- The same outputs, and alike tasks. -/
def AlikeOut (x x' : Fusion α × List (Output α)) : Prop := x'.2 = x.2 ∧ Alike x.1 x'.1

theorem AlikeOut.andThen {α : Type} {x x' : Fusion α × List (Output α)}
    {k k' : Fusion α → Fusion α × List (Output α)} (hx : AlikeOut x x')
    (hk : ∀ f f', Alike f f' → AlikeOut (k f) (k' f')) :
    AlikeOut (Lib.andThen x k) (Lib.andThen x' k') := by
  have hnext := hk _ _ hx.2
  exact ⟨by rw [andThen_snd, andThen_snd, hx.1, hnext.1], hnext.2⟩

theorem alikeOut_recount {α : Type} (x : Fusion α × List (Output α)) (count : Nat) :
    AlikeOut x (x.1.recount count, x.2) := ⟨rfl, count, _, rfl, .inl rfl⟩

theorem Alike.ite {α : Type} {c : Prop} [Decidable c] {f f' g g' : Fusion α} (hf : Alike f f')
    (hg : Alike g g') : Alike (if c then f else g) (if c then f' else g') := by
  split
  · exact hf
  · exact hg

theorem AlikeOut.ite {α : Type} {c : Prop} [Decidable c] {x x' y y' : Fusion α × List (Output α)}
    (hx : AlikeOut x x') (hy : AlikeOut y y') :
    AlikeOut (if c then x else y) (if c then x' else y') := by
  split
  · exact hx
  · exact hy

/-! ## The stages -/

section Stages

variable {f f' : Fusion α} (fix : GpsFix α)

theorem Alike.noteGap {α : Type} [Zero α] [Sub α] [LT α] [DecidableLT α] {f f' : Fusion α} (t : α)
    (h : Alike f f') : Alike (f.noteGap t) (f'.noteGap t) := by
  obtain ⟨count, on, rfl, hon⟩ := h
  unfold Fusion.noteGap dropoutSeconds unread
  dsimp only
  split
  · exact ⟨count, on, rfl, hon⟩
  · exact ⟨count, on, rfl, hon⟩

theorem Alike.drainDwellNotice {α : Type} [Zero α] {f f' : Fusion α} (fix : GpsFix α)
    (h : Alike f f') :
    AlikeOut (f.drainDwellNotice fix) (f'.drainDwellNotice fix) := by
  obtain ⟨count, on, rfl, hon⟩ := h
  exact .ite ⟨rfl, count, on, rfl, hon⟩ ⟨rfl, count, on, rfl, hon⟩

theorem Alike.trackFrozen {α : Type} [Zero α] [Neg α] [Add α] [Sub α] [Mul α] [OfScientific α]
    [LT α] [DecidableLT α] [Libm α] {f f' : Fusion α} (fix : GpsFix α)
    (h : Alike f f') : Alike (f.trackFrozen fix) (f'.trackFrozen fix) := by
  obtain ⟨count, on, rfl, hon⟩ := h
  exact .ite ⟨count, on, rfl, hon⟩ ⟨count, on, rfl, hon⟩

theorem Alike.captureForensic {α : Type} [Sub α] [LT α] [DecidableLT α] {f f' : Fusion α}
    (fix : GpsFix α) (t : α) (r : Residual α) (h : Alike f f') :
    Alike (f.captureForensic fix t r) (f'.captureForensic fix t r) := by
  obtain ⟨count, on, rfl, hon⟩ := h
  exact ⟨count, on, rfl, hon⟩

theorem Alike.checkFrozen {α : Type} [Zero α] [Add α] [Mul α] [OfScientific α] [LT α] [LE α]
    [DecidableLT α] [DecidableLE α] [Libm α] {f f' : Fusion α} (fix : GpsFix α) (r : Residual α)
    (h : Alike f f') (dropoutS : α) (candidate : Bool) (vImu : NedVel α) :
    AlikeOut (f.checkFrozen fix dropoutS candidate vImu r)
      (f'.checkFrozen fix dropoutS candidate vImu r) := by
  obtain ⟨count, on, rfl, hon⟩ := h
  exact .ite (.ite ⟨rfl, count, on, rfl, hon⟩ ⟨rfl, count, on, rfl, hon⟩)
    ⟨rfl, count, on, rfl, hon⟩

theorem Alike.checkVerticalRate {α : Type} [Zero α] [Neg α] [Sub α] [Div α] [OfScientific α] [LT α]
    [LE α] [DecidableLT α] [DecidableLE α] {f f' : Fusion α} (fix : GpsFix α) (t : α)
    (r : Residual α) (h : Alike f f') :
    AlikeOut (f.checkVerticalRate fix t r) (f'.checkVerticalRate fix t r) := by
  obtain ⟨count, on, rfl, hon⟩ := h
  exact .ite ⟨rfl, count, on, rfl, hon⟩ ⟨rfl, count, on, rfl, hon⟩

theorem Alike.refreshPreflight {α : Type} [Zero α] [Sub α] [Div α] [NatCast α] [OfScientific α]
    [LE α] [DecidableLE α] {f f' : Fusion α} (h : Alike f f') (env : Env α) (ts : Timestamp) :
    AlikeOut (f.refreshPreflight env ts) (f'.refreshPreflight env ts) := by
  obtain ⟨count, on, rfl, hon⟩ := h
  exact .ite ⟨rfl, count, on, rfl, hon⟩ (.ite ⟨rfl, count, on, rfl, hon⟩
    (.ite ⟨rfl, count, on, rfl, hon⟩ ⟨rfl, count, on, rfl, hon⟩))

theorem Alike.preflightAnchor (h : Alike f f') :
    Alike (f.preflightAnchor fix) (f'.preflightAnchor fix) := by
  obtain ⟨count, on, rfl, hon⟩ := h
  refine .ite ?_ ⟨count, on, rfl, hon⟩
  by_cases hn : f.fsm.state = .normal
  · have hclean : f.fsm.onCleanAnchor = { f.fsm with drift := f.fsm.drift.reset } := if_pos hn
    have hclean' : (f.unread count on).fsm.onCleanAnchor =
      ({ f.fsm with drift := f.fsm.drift.reset } : StateMachine α).unread count on := if_pos hn
    rw [hclean, hclean']
    exact ⟨count, on, rfl, hon⟩
  · have hclean : f.fsm.onCleanAnchor = f.fsm := if_neg hn
    have hclean' : (f.unread count on).fsm.onCleanAnchor = f.fsm.unread count on := if_neg hn
    rw [hclean, hclean']
    exact ⟨count, on, rfl, hon⟩

theorem Alike.skipFix (h : Alike f f') (e : DetectError) :
    AlikeOut (f.skipFix fix e) (f'.skipFix fix e) := by
  obtain ⟨count, on, rfl, hon⟩ := h
  exact ⟨rfl, count, on, rfl, hon⟩

end Stages

/-! ## The decision -/

section Decision

variable (f : Fusion α) (count : Nat) (env : Env α) (fix : GpsFix α) (gpsNed : NedPos α) (t : α)
  (r : Residual α)

theorem andThen_recount {α : Type} {x : Fusion α × List (Output α)} {count : Nat}
    {k : Fusion α → Fusion α × List (Output α)}
    (hk : ∀ f, k (f.recount count) = ((k f).1.recount count, (k f).2)) :
    Lib.andThen (x.1.recount count, x.2) k =
      ((Lib.andThen x k).1.recount count, (Lib.andThen x k).2) := by
  unfold Lib.andThen
  rw [hk]

theorem emit_recount {α : Type} (f : Fusion α) (count : Nat) (fix : GpsFix α) (r : Residual α)
    (ev : Event) : (f.recount count).emit ev fix r = f.emit ev fix r := by
  cases ev <;> rfl

theorem onSpoofed_recount {α : Type} [Zero α] (f : Fusion α) (count : Nat) (env : Env α)
    (fix : GpsFix α) (r : Residual α) (source : NavStateKind) :
    (f.recount count).onSpoofed env fix r source =
      ((f.onSpoofed env fix r source).1.recount count, (f.onSpoofed env fix r source).2) := by
  have hdump : (f.recount count).maybeTriggerForensicDump env.now source r =
      ((f.maybeTriggerForensicDump env.now source r).1.recount count,
        (f.maybeTriggerForensicDump env.now source r).2) := by
    obtain ⟨_, _, _, _, _, _, _, _, _, _, _, _, _, _, _, _, _, _, forensic⟩ := f
    unfold maybeTriggerForensicDump recount
    cases forensic with
    | none => rfl
    | some fb =>
      dsimp only
      split <;> rfl
  unfold onSpoofed
  rw [hdump]
  rfl

theorem vetoClear_recount {α : Type} (f : Fusion α) (count : Nat) (fix : GpsFix α) (t : α)
    (since : Option α) (distance : α) :
    (f.recount count).vetoClear fix t since distance =
      ((f.vetoClear fix t since distance).1.recount count,
        (f.vetoClear fix t since distance).2) := by
  have hback : (f.recount count).fsm.forceBackToSuspicious t since =
      (f.fsm.forceBackToSuspicious t since).recount count := by
    unfold StateMachine.forceBackToSuspicious recount StateMachine.recount
    dsimp only
    split <;> rfl
  unfold vetoClear
  dsimp only
  rw [hback]
  rfl

theorem handleEvent_recount {α : Type} [Zero α] [Add α] [Sub α] [Mul α] [LE α] [DecidableLE α]
    [Libm α] (f : Fusion α) (count : Nat) (env : Env α) (fix : GpsFix α) (gpsNed : NedPos α) (t : α)
    (r : Residual α) (since : Option α) (ev : Event) :
    (f.recount count).handleEvent env fix gpsNed t r since ev =
      ((f.handleEvent env fix gpsNed t r since ev).1.recount count,
        (f.handleEvent env fix gpsNed t r since ev).2) := by
  unfold handleEvent
  rw [emit_recount]
  dsimp only
  split
  · have hnav : (f.recount count).nav = f.nav := rfl
    have hmax : (f.recount count).reAnchorMaxDistanceM = f.reAnchorMaxDistanceM := rfl
    rw [hnav, hmax]
    cases validateFixAgainstReference gpsNed f.nav.drPos f.reAnchorMaxDistanceM with
    | error distance => exact vetoClear_recount f count fix t since distance
    | ok _ => rfl
  · exact andThen_recount (x := ({ f with nav := f.nav.setState .spoofed }, _))
      fun f => onSpoofed_recount f count env fix r _
  · rfl
  · rfl

theorem handleEvents_recount {α : Type} [Zero α] [Add α] [Sub α] [Mul α] [LE α] [DecidableLE α]
    [Libm α] (f : Fusion α) (count : Nat) (env : Env α) (fix : GpsFix α) (gpsNed : NedPos α) (t : α)
    (r : Residual α) (since : Option α) (evs : List Event) :
    (f.recount count).handleEvents env fix gpsNed t r since evs =
      ((f.handleEvents env fix gpsNed t r since evs).1.recount count,
        (f.handleEvents env fix gpsNed t r since evs).2) := by
  induction evs generalizing f with
  | nil => rfl
  | cons ev evs ih =>
    unfold handleEvents
    rw [handleEvent_recount]
    exact andThen_recount fun f => ih f

theorem finalBlend_recount :
    (f.recount count).finalBlend fix = (f.finalBlend fix).recount count := by
  unfold finalBlend
  by_cases hn : f.fsm.state = .normal
  · rw [if_pos hn]
    exact if_pos hn
  · rw [if_neg hn]
    exact if_neg hn

variable [BEq α]

/-- Tasks that gate their machines to the same, but for the count, decide the same. -/
theorem decideFix_alike {f f' : Fusion α}
    (hgate : ∃ count, f'.gatedFsm r = (f.gatedFsm r).recount count)
    (hrest : ∃ m, f' = { f with fsm := m })
    (hsince : f'.fsm.suspiciousSince = f.fsm.suspiciousSince) :
    AlikeOut (f.decideFix env fix gpsNed t r) (f'.decideFix env fix gpsNed t r) := by
  obtain ⟨count, hgate⟩ := hgate
  obtain ⟨count', heval⟩ := (f.gatedFsm r).evaluate_recount count r t fix.hdop fix.sats
  obtain ⟨m, rfl⟩ := hrest
  unfold decideFix
  rw [hgate, heval, hsince]
  show AlikeOut _ (Lib.andThen (handleEvents
    (recount { f with fsm := ((f.gatedFsm r).evaluate r t fix.hdop fix.sats).1 } count') env fix
    gpsNed t r f.fsm.suspiciousSince ((f.gatedFsm r).evaluate r t fix.hdop fix.sats).2) _)
  rw [handleEvents_recount, andThen_recount fun f => by rw [finalBlend_recount]]
  exact alikeOut_recount _ _

end Decision

/-! ## A step -/

variable [BEq α]

section Step

variable {f f' : Fusion α}

theorem checkDoppler_opens {α : Type} {f : Fusion α}
    (h : f.noDopplerStreak = 0) (fix : GpsFix α) (r : Residual α) :
    (r.dvelKnown || decide ((f.checkDoppler fix r).1.noDopplerStreak < noDopplerGateStreak)) =
      true := by
  unfold checkDoppler
  cases r.dvelKnown with
  | true => rfl
  | false =>
    dsimp only
    rw [if_neg (by simp), h]
    rfl

theorem checkDoppler_unread {α : Type} (f : Fusion α) (count : Nat) (on : Bool) (fix : GpsFix α)
    (r : Residual α) : (f.unread count on).checkDoppler fix r =
      ({ (f.checkDoppler fix r).1 with fsm := f.fsm.unread count on },
        (f.checkDoppler fix r).2) := by
  unfold checkDoppler unread
  dsimp only
  split
  · rfl
  · split <;> rfl

/-- The count of fixes without Doppler, and then the decision: while it is zero, the gate is
    opened. -/
theorem Alike.decide (h : Alike f f') (env : Env α) (fix : GpsFix α) (gpsNed : NedPos α) (t : α)
    (r : Residual α) :
    AlikeOut
      (Lib.andThen (f.checkDoppler fix r) fun f => f.decideFix env fix gpsNed t r)
      (Lib.andThen (f'.checkDoppler fix r) fun f => f.decideFix env fix gpsNed t r) := by
  obtain ⟨count, on, rfl, hon⟩ := h
  rw [checkDoppler_unread]
  have hfsm := checkDoppler_fsm f fix r
  have hdecide := decideFix_alike env fix gpsNed t r
    (f := (f.checkDoppler fix r).1) ?_ ⟨f.fsm.unread count on, rfl⟩ (by rw [hfsm]; rfl)
  · exact ⟨by rw [andThen_snd, andThen_snd, hdecide.1], hdecide.2⟩
  · refine ⟨count, ?_⟩
    unfold gatedFsm
    rw [hfsm]
    rcases hon with rfl | hzero
    · exact f.fsm.setPosDetectorsEnabled_recount count _
    · -- the gates may differ, but both are about to be opened
      have hopen := checkDoppler_opens hzero fix r
      dsimp only
      rw [hopen]
      exact f.fsm.setPosDetectorsEnabled_unread count on

theorem Alike.evaluateFix (h : Alike f f') (env : Env α) (fix : GpsFix α) (gpsNed : NedPos α)
    (t dropoutS : α) (candidate : Bool) (vImu : NedVel α) (r : Residual α) :
    AlikeOut (f.evaluateFix env fix gpsNed t dropoutS candidate vImu r)
      (f'.evaluateFix env fix gpsNed t dropoutS candidate vImu r) := by
  refine ((h.captureForensic fix t r).checkFrozen fix r dropoutS candidate vImu).andThen ?_
  intro g g' hg
  refine (hg.checkVerticalRate fix t r).andThen ?_
  intro g g' hg
  exact hg.decide env fix gpsNed t r

/-- What a fix reads of the task besides what its stages are handed. -/
theorem Alike.reads {α : Type} {f f' : Fusion α}
    (h : Alike f f') : f'.nav = f.nav ∧ f'.buffer = f.buffer ∧
    f'.boot = f.boot ∧ f'.preflight = f.preflight ∧ f'.checklist = f.checklist ∧
    f'.lastGpsTSecs = f.lastGpsTSecs ∧ f'.frozenAnchorLla = f.frozenAnchorLla := by
  obtain ⟨_, _, rfl, _⟩ := h
  exact ⟨rfl, rfl, rfl, rfl, rfl, rfl, rfl⟩

theorem Alike.onArmedFix (h : Alike f f') (env : Env α) (fix : GpsFix α) (gpsNed : NedPos α) :
    AlikeOut (f.onArmedFix env fix gpsNed) (f'.onArmedFix env fix gpsNed) := by
  obtain ⟨-, -, hboot, -, -, hlast, hanchor⟩ := h.reads
  have ht : f'.tSecs fix.t = f.tSecs fix.t := by
    unfold tSecs
    rw [hboot]
  have hdropout : f'.dropoutSeconds (f.tSecs fix.t) = f.dropoutSeconds (f.tSecs fix.t) := by
    unfold dropoutSeconds
    rw [hlast]
  have hcandidate : f'.frozenCandidate fix = f.frozenCandidate fix := by
    unfold frozenCandidate
    rw [hanchor]
  unfold Fusion.onArmedFix
  rw [ht]
  dsimp only
  rw [hdropout, hcandidate]
  refine ((h.noteGap _).drainDwellNotice fix).andThen ?_
  intro g g' hg
  have hfrozen := hg.trackFrozen fix
  obtain ⟨hnav, hbuffer, -⟩ := hfrozen.reads
  have hres : ∀ pImu vImu, (g'.trackFrozen fix).residual fix gpsNed pImu vImu =
      (g.trackFrozen fix).residual fix gpsNed pImu vImu := by
    intro pImu vImu
    unfold residual
    rw [hnav]
  rw [hbuffer]
  split
  · exact hfrozen.skipFix fix _
  · rw [hres]
    exact hfrozen.evaluateFix env fix gpsNed _ _ _ _ _

theorem Alike.onFirstFix {α : Type} [Zero α] [One α] [Neg α] [Add α] [Sub α] [Mul α] [Div α]
    [NatCast α] [OfScientific α] [LT α] [LE α] [DecidableLT α] [DecidableLE α] [Max α] [Min α]
    [Libm α] [FiniteTest α] {f f' : Fusion α} (h : Alike f f') (env : Env α) (fix : GpsFix α) :
    AlikeOut (f.onFirstFix env fix) (f'.onFirstFix env fix) := by
  obtain ⟨count, on, rfl, hon⟩ := h
  unfold Fusion.onFirstFix
  have hsame : (f.unread count on).nav.isFirstFixPlausible fix = f.nav.isFirstFixPlausible fix :=
    rfl
  rw [hsame]
  cases f.nav.isFirstFixPlausible fix with
  | error distanceM => exact ⟨rfl, count, on, rfl, hon⟩
  | ok _ =>
    have hanchored : Alike
        { f with
          nav := f.nav.onGpsFix fix
          checklist := { f.checklist with firstFixAccepted := true } }
        { f.unread count on with
          nav := f.nav.onGpsFix fix
          checklist := { f.checklist with firstFixAccepted := true } } :=
      ⟨count, on, rfl, hon⟩
    exact hanchored.refreshPreflight env fix.t

theorem Alike.onGps (h : Alike f f') (env : Env α) (fix : GpsFix α) :
    AlikeOut (f.onGps env fix) (f'.onGps env fix) := by
  obtain ⟨hnav, -, -, hpre, -⟩ := h.reads
  unfold Fusion.onGps
  rw [hnav, hpre]
  split
  · exact h.onFirstFix env fix
  · refine .ite ((h.refreshPreflight env fix.t).andThen ?_) (h.onArmedFix env fix _)
    intro g g' hg
    exact ⟨rfl, hg.preflightAnchor fix⟩

theorem Alike.operatorReset {α : Type} [Zero α] {f f' : Fusion α} (h : Alike f f') (now : Instant) :
    AlikeOut (f.operatorReset now) (f'.operatorReset now) := by
  obtain ⟨count, on, rfl, hon⟩ := h
  exact ⟨rfl, count, on, rfl, .inr rfl⟩

theorem Alike.onBackground {α : Type} [Zero α] {f f' : Fusion α}
    (h : Alike f f') (now : Instant) (done : BgDone) :
    AlikeOut (f.onBackground now done) (f'.onBackground now done) := by
  obtain ⟨count, on, rfl, hon⟩ := h
  unfold Fusion.onBackground
  dsimp only
  split <;> exact ⟨rfl, count, on, rfl, hon⟩

variable [Nalgebra α]

/-- **A step keeps alike tasks alike**, and answers the same in both. -/
theorem Alike.step (h : Alike f f') (i : Input α) : AlikeOut (f.step i) (f'.step i) := by
  cases i with
  | imu sample =>
    obtain ⟨count, on, rfl, hon⟩ := h
    exact ⟨rfl, count, on, rfl, hon⟩
  | gps fix env => exact h.onGps env fix
  | reset now => exact h.operatorReset now
  | background now done => exact h.onBackground now done

end Step

/-! ## After a reset -/

/-- The tasks agree on the configuration, the navigation but for its mode, the residual buffer,
    the learned floors and the warm-up counter, preflight and the forensic buffer. -/
structure AgreeButAlarm (f f' : Fusion α) : Prop where
  cfg : f'.fsm.cfg = f.fsm.cfg
  jumpCfg : f'.fsm.jump.cfg = f.fsm.jump.cfg
  driftCfg : f'.fsm.drift.cfg = f.fsm.drift.cfg
  magNoiseEwma : f'.fsm.drift.magNoiseEwma = f.fsm.drift.magNoiseEwma
  axisNoiseN : f'.fsm.drift.axisNoiseN = f.fsm.drift.axisNoiseN
  axisNoiseE : f'.fsm.drift.axisNoiseE = f.fsm.drift.axisNoiseE
  velAidingNoise : f'.fsm.drift.velAidingNoise = f.fsm.drift.velAidingNoise
  warmup : f'.fsm.drift.warmup = f.fsm.drift.warmup
  nav : f'.nav.setState .normal = f.nav.setState .normal
  buffer : f'.buffer = f.buffer
  boot : f'.boot = f.boot
  gpsDropoutFreezeS : f'.gpsDropoutFreezeS = f.gpsDropoutFreezeS
  reAnchorMaxDistanceM : f'.reAnchorMaxDistanceM = f.reAnchorMaxDistanceM
  maxVerticalRateMps : f'.maxVerticalRateMps = f.maxVerticalRateMps
  preflight : f'.preflight = f.preflight
  checklist : f'.checklist = f.checklist
  mavMonitor : f'.mavMonitor = f.mavMonitor
  expectedAutopilot : f'.expectedAutopilot = f.expectedAutopilot
  lastPreflightFailedEmitS : f'.lastPreflightFailedEmitS = f.lastPreflightFailedEmitS
  forensic : f'.forensic = f.forensic

theorem AgreeButAlarm.reset {α : Type} [Zero α]
    {f f' : Fusion α} (h : AgreeButAlarm f f') (now now' : Instant) :
    Alike (f.operatorReset now).1 (f'.operatorReset now').1 := by
  have hdrift : f'.fsm.drift.reset = f.fsm.drift.reset := by
    unfold DriftDetector.reset
    rw [h.driftCfg, h.magNoiseEwma, h.axisNoiseN, h.axisNoiseE, h.velAidingNoise, h.warmup]
  have hjump : f'.fsm.jump.reset = f.fsm.jump.reset := by
    unfold JumpDetector.reset
    rw [h.jumpCfg]
  refine ⟨f'.fsm.dropoutRecoveryCount, f'.fsm.posDetectorsEnabled, ?_, .inr rfl⟩
  unfold operatorReset StateMachine.manualResetToNormal
  dsimp only
  rw [hdrift, hjump, h.cfg, h.nav, h.buffer, h.boot, h.gpsDropoutFreezeS, h.reAnchorMaxDistanceM,
    h.maxVerticalRateMps, h.preflight, h.checklist, h.mavMonitor, h.expectedAutopilot,
    h.lastPreflightFailedEmitS, h.forensic]
  rfl

variable [Nalgebra α]

/-- **Operator reset leaves no trace of the past alarm.** After the reset branch has run in two
    tasks that differ in nothing but the alarm, every later sequence of inputs puts out the
    same: events, transitions among them, controller calls and tasks started. -/
theorem reset_leaves_no_trace {f f' : Fusion α} (h : AgreeButAlarm f f') (now now' : Instant)
    (is : List (Input α)) :
    outputs step (f'.operatorReset now').1 is = outputs step (f.operatorReset now).1 is :=
  outputs_eq_of_alike (fun _ _ i hs => hs.step i) (h.reset now now') is

/-- A task in Spoofed, after two fixes a degree away. -/
def alarmed : Fusion ℚ :=
  run step (Fusion.new quickCfg 0) (arming ++ fixes quietEnv [(110, 1), (210, 1)])

/-- A task with an episode open over a dropout instead, and no Doppler for a while. -/
def suspecting (f : Fusion ℚ) : Fusion ℚ :=
  { f with
    fsm := { f.fsm with
      state := .suspicious
      suspiciousSince := some 0.1
      dropoutRecovery := true
      consecutiveDropout := 4
      posDetectorsEnabled := false }
    nav := f.nav.setState .suspicious
    lastGpsTSecs := some 0.2
    noDopplerStreak := 30
    lastGpsAlt := some (100, 0.2) }

theorem suspecting_agrees (f : Fusion ℚ) : AgreeButAlarm f f.suspecting :=
  ⟨rfl, rfl, rfl, rfl, rfl, rfl, rfl, rfl, rfl, rfl, rfl, rfl, rfl, rfl, rfl, rfl, rfl, rfl, rfl,
    rfl⟩

/-- The two put out the same on the next far fix, an alarm. -/
theorem reset_leaves_no_trace_spoofed :
    alarmed.fsm.state = .spoofed ∧
    outputs step (alarmed.suspecting.operatorReset 300).1 (fixes quietEnv [(220, 1)]) =
      outputs step (alarmed.operatorReset 400).1 (fixes quietEnv [(220, 1)]) :=
  ⟨by decide +kernel, reset_leaves_no_trace (suspecting_agrees alarmed) 400 300 _⟩

end Fusion

end FlyingSquirrel

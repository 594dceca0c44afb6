import FlyingSquirrel.Proof.Escalation
import FlyingSquirrel.Proof.Latch

/-!
# When the aircraft is acted on

`sever_gps` and `engage_rtb` are called in one place, and this file says when it is
reached: **once for each transition into Spoofed, in that order, and otherwise never**.
The transition itself leaves Suspicious, on a fix on which a detector fired, once the fix
is a full dwell after the one that opened the episode.

The opening time is not in the state, because a vetoed clear puts the machine back into
Suspicious without the episode having ended. It is a ghost, `openedAt`, and the invariant
`EpisodeClock` ties the machine's own clock to it: the clock starts there and pauses only
move it forward.
-/

set_option autoImplicit false

namespace FlyingSquirrel

open Lib

/-- The flight actions among the outputs, in order. -/
def actionCalls {α : Type} (out : List (Output α)) : List Call :=
  out.filterMap fun o =>
    match o with
    | .call .severGps => some .severGps
    | .call .engageRtb => some .engageRtb
    | _ => none

def Input.isReset {α : Type} : Input α → Bool
  | .reset _ => true
  | _ => false

section ActionCalls

variable {α : Type} {out out' : List (Output α)}

@[simp] theorem actionCalls_append : actionCalls (out ++ out') =
    actionCalls out ++ actionCalls out' := List.filterMap_append

theorem EventsOnly.actionCalls (h : EventsOnly out) : actionCalls out = [] := by
  apply List.filterMap_eq_nil_iff.mpr
  intro o ho
  obtain ⟨e, rfl⟩ := h o ho
  rfl

end ActionCalls

namespace Fusion

section Calls

variable {α : Type} [Zero α] [One α] [Neg α] [Add α] [Sub α] [Mul α] [Div α] [NatCast α]
  [OfScientific α] [LT α] [LE α] [DecidableLT α] [DecidableLE α] [BEq α] [Max α] [Min α] [Libm α]
  [FiniteTest α]

theorem tryAction_calls {α : Type} [Zero α]
    (f : Fusion α) (result : Except String Unit) (fix : GpsFix α) :
    actionCalls (f.tryAction .severGps result fix) = [.severGps] ∧
      actionCalls (f.tryAction .engageRtb result fix) = [.engageRtb] := by
  cases result <;> exact ⟨rfl, rfl⟩

/-- **The two calls of a transition into Spoofed**, whatever they return. -/
theorem onSpoofed_calls {α : Type} [Zero α]
    (f : Fusion α) (env : Env α) (fix : GpsFix α) (r : Residual α)
    (source : NavStateKind) :
    actionCalls (f.onSpoofed env fix r source).2 = [.severGps, .engageRtb] := by
  have hdump : actionCalls (f.maybeTriggerForensicDump env.now source r).2 = [] := by
    unfold maybeTriggerForensicDump
    split
    · rfl
    · dsimp only
      split <;> rfl
  unfold onSpoofed
  rw [andThen_snd, actionCalls_append, hdump]
  dsimp only
  rw [actionCalls_append, actionCalls_append, actionCalls_append, (tryAction_calls ..).1,
    (tryAction_calls ..).2]
  cases env.severGps <;> rfl

/-- What one step can call: nothing, and then it did not enter Spoofed; or both actions, and
    then it did, by the escalating arm of an armed fix. -/
inductive Called (f f' : Fusion α) (i : Input α) (out : List (Output α)) : Prop
  | nothing (hc : actionCalls out = [])
      (hs : f.fsm.state = .spoofed ∨ f'.fsm.state ≠ .spoofed)
  | both {fix : GpsFix α} {env : Env α} {g : Fusion α} {r : Residual α}
      {m : StateMachine α} (hi : i = .gps fix env)
      (hc : actionCalls out = [.severGps, .engageRtb]) (hs' : f'.fsm.state = .spoofed)
      (hs : f.fsm.state = .suspicious) (hr : f.preflight = .ready) (ht : Tracked f g)
      (ha : g.FixArm fix (f.tSecs fix.t) r m [.transition .suspicious .spoofed])
      (hal : f.fsm.externalAnomaly = true ∨ Alarm out)

theorem Decision.calls {f f' : Fusion α} {env : Env α} {fix : GpsFix α}
    {gpsNed : NedPos α} {t : α} {r : Residual α} {out : List (Output α)}
    (h : Decision f env fix gpsNed t r f' out) :
    (actionCalls out = [] ∧ (f.fsm.state = .spoofed ∨ f'.fsm.state ≠ .spoofed)) ∨
    (actionCalls out = [.severGps, .engageRtb] ∧ f'.fsm.state = .spoofed ∧
      f.fsm.state = .suspicious ∧
      (∃ m, f.FixArm fix t r m [.transition .suspicious .spoofed]) ∧
      (f.fsm.externalAnomaly = true ∨ Alarm out)) := by
  have hrep : ∀ m, actionCalls (f.reports fix t r m) = [] := fun m =>
    (reports_events f fix t r m).actionCalls
  have hpre := assessed_state f fix t r
  cases h with
  | latched hs => exact .inl ⟨rfl, .inl hs⟩
  | @settled m hs ha =>
    refine .inl ⟨hrep m, .inr ?_⟩
    rw [finalBlend_fsm]
    show m.state ≠ .spoofed
    rw [ha.silent, hpre]
    exact hs
  | @opened m ha =>
    refine .inl ⟨by rw [actionCalls_append, hrep m]; rfl, .inr ?_⟩
    show m.state ≠ .spoofed
    rw [ha.transitioned.2]
    simp
  | @escalated m g ha hg =>
    obtain ⟨_, ho⟩ := onSpoofed_state g env fix r .suspicious
    obtain ⟨hs, hm⟩ := ha.transitioned
    refine .inr ⟨?_, ?_, hpre.symm.trans hs, ⟨m, ha⟩, ?_⟩
    · rw [actionCalls_append, actionCalls_append, hrep m, onSpoofed_calls]; rfl
    · rw [ho, hg]; exact hm
    · exact (fires_alarm ha.escalated.1 m).imp_right fun hal => hal.left.left
  | @vetoed m distance ha _ =>
    refine .inl ⟨by rw [actionCalls_append, hrep m]; rfl, .inr ?_⟩
    show (m.forceBackToSuspicious t f.fsm.suspiciousSince).state ≠ .spoofed
    rw [StateMachine.forceBackToSuspicious_eq ha.transitioned.2]
    simp
  | @cleared m ha _ =>
    refine .inl ⟨by rw [actionCalls_append, hrep m]; rfl, .inr ?_⟩
    rw [finalBlend_fsm]
    show m.state ≠ .spoofed
    rw [ha.transitioned.2]
    simp

variable [Nalgebra α]

theorem step_calls (f : Fusion α) (i : Input α) : Called f (f.step i).1 i (f.step i).2 := by
  cases i with
  | imu sample => exact .nothing rfl (em _)
  | reset now => exact .nothing rfl (.inr (by simp [step, operatorReset,
      StateMachine.manualResetToNormal]))
  | background now done =>
    obtain ⟨_, hb⟩ := onBackground_eq f now done
    refine .nothing (onBackground_events f now done).actionCalls ?_
    show f.fsm.state = .spoofed ∨ (f.onBackground now done).1.fsm.state ≠ .spoofed
    rw [hb]
    exact em _
  | gps fix env =>
    show Called f (f.onGps env fix).1 (.gps fix env) (f.onGps env fix).2
    have hpath := onGps_path f env fix
    generalize (f.onGps env fix).1 = f' at hpath ⊢
    generalize (f.onGps env fix).2 = out at hpath ⊢
    cases hpath with
    | rejected _ _ hout => exact .nothing hout.actionCalls (em _)
    | first =>
      obtain ⟨_, _, _, h⟩ := refreshPreflight_eq
        { f with
          nav := f.nav.onGpsFix fix
          checklist := { f.checklist with firstFixAccepted := true } } env fix.t
      refine .nothing (EventsOnly.actionCalls (refreshPreflight_events _ env fix.t)) ?_
      rw [h]
      exact em _
    | preflight =>
      obtain ⟨_, _, _, h⟩ := refreshPreflight_eq f env fix.t
      obtain ⟨_, _, h'⟩ := preflightAnchor_eq (f.refreshPreflight env fix.t).1 fix
      refine .nothing ?_ ?_
      · unfold onPreflightFix
        rw [andThen_snd, List.append_nil]
        exact (refreshPreflight_events f env fix.t).actionCalls
      · unfold onPreflightFix
        rw [andThen_fst, h', h]
        exact em _
    | @skipped g out e _ _ hg =>
      refine .nothing ?_ ?_
      · rw [actionCalls_append, hg.events.actionCalls]; rfl
      · show _ ∨ g.fsm.state ≠ .spoofed
        rw [hg.tracked.fsm.state_eq]
        exact em _
    | @evaluated g out gpsNed r f' out' ho hr hg _ _ hd =>
      have hstate := hg.tracked.fsm.state_eq
      rcases hd.calls with ⟨hc, hs⟩ | ⟨hc, hs', hs, ⟨m, ha⟩, hal⟩
      · refine .nothing ?_ ?_
        · rw [actionCalls_append, hg.events.actionCalls, hc]; rfl
        · rw [← hstate]; exact hs
      · refine .both rfl ?_ hs' (hstate.symm.trans hs) hr hg.tracked ha ?_
        · rw [actionCalls_append, hg.events.actionCalls, hc]; rfl
        · rcases hal with hx | hal
          · exact (hg.alarm hx).imp_right Alarm.left
          · exact .inr hal.right

end Calls

/-! ## The clock of an episode -/

section Clock

variable {F : Type} [Field F] [LinearOrder F] [IsStrictOrderedRing F] [Libm F]
  [FiniteTest F] [Nalgebra F]

/-- The time of the fix that opened the current Suspicious episode. A vetoed clear starts
    and ends a step in Suspicious, so it continues the episode. -/
def openedAt (g : Option F) (f : Fusion F) (i : Input F) (f' : Fusion F) : Option F :=
  if f'.fsm.state = .suspicious then
    if f.fsm.state = .suspicious then g
    else
      match i with
      | .gps fix _ => some (f.tSecs fix.t)
      | _ => none
  else none

/-- The machine's clock starts where the episode opened, and only moves forward. -/
def OnClock (m : StateMachine F) (opened : Option F) : Prop :=
  m.state = .suspicious → ∃ t₀ s, opened = some t₀ ∧ m.suspiciousSince = some s ∧ t₀ ≤ s

/-- Between steps: the configuration, no pending anomaly, and the clock. -/
structure EpisodeClock (d : DetectConfig F) (x : Fusion F × Option F) : Prop where
  cfg : x.1.fsm.cfg = d
  quiet : x.1.fsm.externalAnomaly = false
  clock : OnClock x.1.fsm x.2

theorem assessed_clock {F : Type} [Field F] [LinearOrder F] [IsStrictOrderedRing F] [FiniteTest F]
    {f : Fusion F} {s : F} (hs : f.fsm.state = .suspicious)
    (hc : f.fsm.suspiciousSince = some s) (fix : GpsFix F) (t : F) (r : Residual F) :
    ∃ s', (f.assessed fix t r).1.suspiciousSince = some s' ∧ s ≤ s' := by
  obtain ⟨_, _, _, hg⟩ := gatedFsm_eq f r
  have hclock := (StateMachine.assess_clock (f.gatedFsm r) r t fix.hdop fix.sats).1
  obtain ⟨pause, hp, -, hcases⟩ := StateMachine.accountDropout_paused
    (m := (f.gatedFsm r).drainFlags) (s := s) (by rw [hg]; exact hs) (by rw [hg]; exact hc)
    (f.gatedFsm r).dropoutRecovery t
  refine ⟨s + pause, hclock.trans hp, le_add_of_nonneg_right ?_⟩
  rcases hcases with rfl | ⟨-, rfl⟩
  · exact le_rfl
  · exact le_max_right _ _

theorem assessed_keeps {F : Type} [Field F] [LinearOrder F] [FiniteTest F]
    (f : Fusion F) (fix : GpsFix F) (t : F) (r : Residual F) :
    (f.assessed fix t r).1.cfg = f.fsm.cfg ∧
      (f.assessed fix t r).1.externalAnomaly = false := by
  obtain ⟨_, _, _, hg⟩ := gatedFsm_eq f r
  obtain ⟨-, hc, -, he, -⟩ :=
    StateMachine.assess_keeps (f.gatedFsm r) r t fix.hdop fix.sats
  exact ⟨hc.trans (by rw [hg]), he⟩

theorem DecidedFsm.clock {F : Type} [Field F] [LinearOrder F] [IsStrictOrderedRing F] [FiniteTest F]
    {d : DetectConfig F} {f : Fusion F} {fix : GpsFix F} {t : F}
    {r : Residual F} {m : StateMachine F} {opened : Option F} (hcfg : f.fsm.cfg = d)
    (hclock : OnClock f.fsm opened) (h : DecidedFsm f fix t r m) :
    m.cfg = d ∧ m.externalAnomaly = false ∧
      OnClock m (if f.fsm.state = .suspicious then opened else some t) := by
  obtain ⟨hac, hax⟩ := assessed_keeps f fix t r
  have hpre := assessed_state f fix t r
  cases h with
  | latched hs =>
    obtain ⟨_, _, _, hg⟩ := gatedFsm_eq f r
    refine ⟨by rw [hg]; exact hcfg, rfl, fun hm => ?_⟩
    rw [show (f.gatedFsm r).drainFlags.state = .spoofed from
      (gatedFsm_state f r).trans hs] at hm
    exact absurd hm (by simp)
  | arm ha _ =>
    obtain ⟨hc, hx, -, -⟩ := ha.keeps
    refine ⟨hc.trans (hac.trans hcfg), hx.trans hax, fun hm => ?_⟩
    rcases ha.clock hm with ⟨hs, hk, -⟩ | ⟨hn, hk, -⟩
    · -- the episode goes on, on the clock of the assessment
      have hs' := hpre.symm.trans hs
      obtain ⟨t₀, s, ho, hsince, hle⟩ := hclock hs'
      obtain ⟨s', ha', hle'⟩ := assessed_clock hs' hsince fix t r
      exact ⟨t₀, s', by rw [if_pos hs']; exact ho, hk.trans ha', le_trans hle hle'⟩
    · -- the episode opens here
      have hn' := hpre.symm.trans hn
      exact ⟨t, t, if_neg (by rw [hn']; simp), hk, le_rfl⟩
  | @veto m₀ ha =>
    obtain ⟨hc, hx, -, -⟩ := ha.keeps
    obtain ⟨hs, hm⟩ := ha.transitioned
    rw [StateMachine.forceBackToSuspicious_eq hm]
    -- the clock is the one from before the assessment
    have hs' := hpre.symm.trans hs
    obtain ⟨t₀, s, ho, hsince, hle⟩ := hclock hs'
    refine ⟨hc.trans (hac.trans hcfg), hx.trans hax, fun _ => ⟨t₀, s, ?_, ?_, hle⟩⟩
    · rw [if_pos hs']; exact ho
    · show f.fsm.suspiciousSince.or (some t) = some s
      rw [hsince]
      rfl
  | @commit m₀ ha =>
    obtain ⟨hc, hx, -, -⟩ := ha.keeps
    refine ⟨hc.trans (hac.trans hcfg), hx.trans hax, fun hm => ?_⟩
    exact absurd (ha.transitioned.2.symm.trans hm) (by simp)

theorem FixPath.fsm {F : Type} [Field F] [LinearOrder F] [Libm F] [FiniteTest F]
    {f f' : Fusion F} {env : Env F} {fix : GpsFix F} {out : List (Output F)}
    (h : FixPath f env fix f' out) :
    (∃ drift d p, f'.fsm =
      { f.fsm with drift := drift, dropoutRecovery := d, dwellPauseExceededPending := p }) ∨
    ∃ g r, Tracked f g ∧ DecidedFsm g fix (f.tSecs fix.t) r f'.fsm := by
  cases h with
  | rejected => exact .inl ⟨_, _, _, rfl⟩
  | first =>
    obtain ⟨_, _, _, h⟩ := refreshPreflight_eq
      { f with
        nav := f.nav.onGpsFix fix
        checklist := { f.checklist with firstFixAccepted := true } } env fix.t
    rw [h]
    exact .inl ⟨_, _, _, rfl⟩
  | preflight =>
    obtain ⟨_, _, _, h⟩ := refreshPreflight_eq f env fix.t
    obtain ⟨_, _, h'⟩ := preflightAnchor_eq (f.refreshPreflight env fix.t).1 fix
    unfold onPreflightFix
    rw [andThen_fst, h', h]
    exact .inl ⟨_, _, _, rfl⟩
  | @skipped g out e _ _ hg hx _ =>
    obtain ⟨d, x, p, hm⟩ := hg.tracked.fsm
    refine .inl ⟨f.fsm.drift, d, p, ?_⟩
    show g.fsm = _
    have hx' : x = f.fsm.externalAnomaly := by rw [← hx, hm]
    rw [hm, hx']
  | @evaluated g out gpsNed r f' out' _ _ hg _ _ hd => exact .inr ⟨g, r, hg.tracked, hd.fsm⟩

theorem EpisodeClock.step {d : DetectConfig F} {x : Fusion F × Option F}
    (h : EpisodeClock d x) (i : Input F) :
    EpisodeClock d (ghost Fusion.step openedAt x i).1 := by
  obtain ⟨f, opened⟩ := x
  obtain ⟨hcfg, hquiet, hclock⟩ := h
  -- a step that leaves the state and the clock alone leaves the ghost alone in Suspicious
  have hsame : ∀ {f' : Fusion F}, (f.step i).1 = f' → f'.fsm.cfg = f.fsm.cfg →
      f'.fsm.externalAnomaly = f.fsm.externalAnomaly → f'.fsm.state = f.fsm.state →
      f'.fsm.suspiciousSince = f.fsm.suspiciousSince →
      EpisodeClock d (ghost Fusion.step openedAt (f, opened) i).1 := by
    intro f' hf hc hx hs hk
    refine ⟨?_, ?_, fun hm => ?_⟩
    · rw [ghost_fst, hf]; exact hc.trans hcfg
    · rw [ghost_fst, hf]; exact hx.trans hquiet
    · rw [ghost_fst, hf, hs] at hm
      rw [ghost_fst, ghost_snd, hf, hk]
      unfold openedAt
      rw [hs, if_pos hm, if_pos hm]
      exact hclock hm
  cases i with
  | imu sample => exact hsame rfl rfl rfl rfl rfl
  | reset now => exact ⟨hcfg, rfl, fun hm => absurd hm (by simp [ghost, Fusion.step,
      operatorReset, StateMachine.manualResetToNormal])⟩
  | background now done =>
    obtain ⟨_, hb⟩ := onBackground_eq f now done
    have hfsm : (f.onBackground now done).1.fsm = f.fsm := by rw [hb]
    exact hsame rfl (congrArg _ hfsm) (congrArg _ hfsm) (congrArg _ hfsm) (congrArg _ hfsm)
  | gps fix env =>
    rcases (onGps_path f env fix).fsm with ⟨drift, dr, p, hf⟩ | ⟨g, r, hg, hd⟩
    · have hf' : (f.step (.gps fix env)).1 = (f.onGps env fix).1 := rfl
      refine hsame hf' ?_ ?_ ?_ ?_ <;> rw [hf]
    · obtain ⟨_, _, _, hm⟩ := hg.fsm
      have hclock' : OnClock g.fsm opened := by rw [hm]; exact hclock
      have hcfg' : g.fsm.cfg = d := by rw [hm]; exact hcfg
      obtain ⟨hc, hx, hk⟩ := hd.clock hcfg' hclock'
      refine ⟨hc, hx, fun hs => ?_⟩
      obtain ⟨t₀, s, ho, hsince, hle⟩ := hk hs
      refine ⟨t₀, s, ?_, hsince, hle⟩
      rw [← ho, hg.fsm.state_eq]
      exact if_pos hs

theorem EpisodeClock.start {F : Type} [Field F] [LinearOrder F] [Libm F]
    {c : FusionConfig F} {boot : Instant} {f : Fusion F}
    (h : Built c boot f) : EpisodeClock c.detect (f, none) := by
  refine ⟨?_, ?_, fun hs => ?_⟩
  · rw [h.fsm]; rfl
  · rw [h.fsm]; rfl
  · rw [h.fsm] at hs; exact absurd hs (by simp [StateMachine.new])

/-! ## The actions along a run -/

/-- What is right at one step: both actions, in order, when the step enters Spoofed, which
    it then does from Suspicious, armed, on a firing fix a dwell after the opening one; and
    no action when it does not. -/
def ActionsRight (dwell : F) (x : Fusion F × Option F) (i : Input F) : Prop :=
  if x.1.fsm.state ≠ .spoofed ∧ (x.1.step i).1.fsm.state = .spoofed then
    actionCalls (x.1.step i).2 = [.severGps, .engageRtb] ∧
    x.1.preflight = .ready ∧ x.1.fsm.state = .suspicious ∧ Alarm (x.1.step i).2 ∧
    ∃ fix env t₀, i = .gps fix env ∧ x.2 = some t₀ ∧ x.1.tSecs fix.t - t₀ ≥ dwell
  else actionCalls (x.1.step i).2 = []

theorem EpisodeClock.actionsRight {d : DetectConfig F} {x : Fusion F × Option F}
    (h : EpisodeClock d x) (i : Input F) :
    ActionsRight d.suspiciousToSpoofedDwellS x i := by
  unfold ActionsRight
  cases step_calls x.1 i with
  | nothing hc hs =>
    rw [if_neg (by tauto)]
    exact hc
  | @both fix env g r m hi hc hs' hs hr ht ha hal =>
    rw [if_pos ⟨by rw [hs]; simp, hs'⟩]
    have hgs := ht.fsm.state_eq.trans hs
    obtain ⟨_, _, _, hm⟩ := ht.fsm
    obtain ⟨t₀, s, ho, hsince, hle⟩ := h.clock hs
    obtain ⟨s', ha', hle'⟩ := assessed_clock (s := s) hgs (by rw [hm]; exact hsince) fix
      (x.1.tSecs fix.t) r
    have hdwell := ha.escalated.2
    rw [ha', Option.getD_some, (assessed_keeps ..).1, hm, h.cfg] at hdwell
    refine ⟨hc, hr, hs, ?_, fix, env, t₀, hi, ho, ?_⟩
    · rcases hal with hx | hal
      · rw [h.quiet] at hx; exact absurd hx (by simp)
      · exact hal
    · linarith

/-- Between resets Spoofed is entered at most once, so the actions are called at most
    once; in Spoofed they are not called at all. -/
theorem calls_between_resets {F : Type} [Field F] [LinearOrder F] [Libm F] [FiniteTest F]
    [Nalgebra F] {dwell : F} {x : Fusion F × Option F} {seg : List (Input F)}
    (h : Along (ghost Fusion.step openedAt) (ActionsRight dwell) x seg)
    (hno : ∀ i ∈ seg, Input.isReset i = false) :
    (x.1.fsm.state = .spoofed → actionCalls (outputs Fusion.step x.1 seg) = []) ∧
    (actionCalls (outputs Fusion.step x.1 seg) = [] ∨
      actionCalls (outputs Fusion.step x.1 seg) = [.severGps, .engageRtb]) := by
  induction seg generalizing x with
  | nil => exact ⟨fun _ => rfl, .inl rfl⟩
  | cons i seg ih =>
    obtain ⟨hright, hrest⟩ := h
    obtain ⟨hspoofed, hany⟩ := ih hrest fun j hj => hno j (List.mem_cons_of_mem _ hj)
    unfold ActionsRight at hright
    rw [ghost_fst] at hspoofed hany
    simp only [outputs, actionCalls_append]
    by_cases henter : x.1.fsm.state ≠ .spoofed ∧ (x.1.step i).1.fsm.state = .spoofed
    · rw [if_pos henter] at hright
      rw [hright.1, hspoofed henter.2]
      exact ⟨fun hs => absurd hs henter.1, .inr rfl⟩
    · rw [if_neg henter] at hright
      rw [hright, List.nil_append]
      refine ⟨fun hs => hspoofed ?_, hany⟩
      by_contra hleave
      obtain ⟨now, rfl⟩ := (step_leaves_spoofed hs i).mp hleave
      exact absurd (hno _ List.mem_cons_self) (by simp [Input.isReset])

/-- **The flight actions along a run.** From a task just built, in every run, each step
    that enters Spoofed calls `sever_gps` and then `engage_rtb`, leaves Suspicious armed, on
    a firing fix at least a dwell after the one that opened the episode, and every other
    step calls neither. Between two resets they are called at most once. -/
theorem actions_right {c : FusionConfig F} {boot : Instant} {f : Fusion F}
    (hf : Built c boot f) (is : List (Input F)) :
    Along (ghost Fusion.step openedAt) (ActionsRight c.detect.suspiciousToSpoofedDwellS)
      (f, none) is ∧
    ∀ pre seg post, is = pre ++ seg ++ post → (∀ i ∈ seg, Input.isReset i = false) →
      actionCalls (outputs Fusion.step (run Fusion.step f pre) seg) = [] ∨
      actionCalls (outputs Fusion.step (run Fusion.step f pre) seg) =
        [.severGps, .engageRtb] := by
  have hall : ∀ js, Along (ghost Fusion.step openedAt)
      (ActionsRight c.detect.suspiciousToSpoofedDwellS) (f, none) js := fun js =>
    along_of_invariant (fun x i hx => hx.step i) (fun x i hx => hx.actionsRight i)
      (EpisodeClock.start hf)
  refine ⟨hall is, fun pre seg post his hno => ?_⟩
  have hseg := ((along_append (f, none) pre seg).mp (hall (pre ++ seg))).2
  have hcalls := (calls_between_resets hseg hno).2
  rwa [run_ghost_fst] at hcalls

end Clock

def samples (times : List Nat) : List (Input ℚ) := times.map fun ms => .imu (levelSample ms)

def fixes (env : Env ℚ) (fs : List (Nat × ℚ)) : List (Input ℚ) :=
  fs.map fun (ms, lat) => .gps (fixAt ms lat) env

/-- The run that arms a task: initialisation, the first fix, one snapshot, and the fix that
    finds the buffer able to serve it. -/
def arming : List (Input ℚ) :=
  samples [0, 10, 20, 30, 40, 50, 60, 70, 80, 90] ++ fixes quietEnv [(95, 0)] ++
    samples [100] ++ fixes quietEnv [(105, 0)]

def failingEnv : Env ℚ := ⟨0, .new, .error "link down", .error "link down"⟩

/-- Two fixes a degree away, a dwell apart, under a controller that fails. -/
theorem actions_right_failing_controller :
    Along (ghost Fusion.step openedAt) (ActionsRight 0.1) (Fusion.new quickCfg 0, none)
      (arming ++ fixes failingEnv [(110, 1), (210, 1), (310, 1)]) ∧
    actionCalls (outputs Fusion.step (Fusion.new quickCfg 0)
      (arming ++ fixes failingEnv [(110, 1), (210, 1), (310, 1)])) =
        [.severGps, .engageRtb] :=
  ⟨(actions_right (.new : Built quickCfg 0 _) _).1, by decide +kernel⟩

end Fusion

end FlyingSquirrel

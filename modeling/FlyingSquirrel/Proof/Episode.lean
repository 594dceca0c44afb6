import FlyingSquirrel.Detect.Calls
import Mathlib.Tactic.Linarith

/-!
# The accounts of a Suspicious episode

An episode opens at a fix and lasts, across vetoed clears, until it is committed, latched or
reset. Two counters run with it: the dwell clock `suspicious_since`, which every pause pushes
forward, and the budget `paused_cumulative_s`, which every pause is charged to. Write `t₀` for
the time the episode opened; the accounts are in order when

    suspicious_since = t₀ + paused_cumulative_s.

Each way through a fix keeps that, **but for a veto on a fix that was itself granted a pause**:
the captured time is from before the pause, so the clock loses it, and the charge stays.
-/

set_option autoImplicit false

namespace FlyingSquirrel
namespace StateMachine

open Lib

section Model

variable {α : Type} [Zero α] [One α] [Neg α] [Add α] [Sub α] [Mul α] [Div α] [NatCast α]
  [OfScientific α] [LT α] [LE α] [DecidableLT α] [DecidableLE α] [BEq α] [Max α]
  [FiniteTest α]

/-- The time of the fix that opened the episode there is, if there is one. -/
def trackOpened (opened : Option α) (m : StateMachine α) (c : FusionCall α)
    (m' : StateMachine α) : Option α :=
  if m'.state = .suspicious then if m.state = .suspicious then opened else c.time else none

/-- The machine with the opening time of its episode. -/
def episodeStep : StateMachine α × Option α → FusionCall α →
    (StateMachine α × Option α) × List Event :=
  ghost callStep trackOpened

/-- The dwell clock has moved by exactly what was charged. -/
def Accounted (x : StateMachine α × Option α) : Prop :=
  x.1.state = .suspicious →
    ∃ t₀ ∈ x.2, x.1.suspiciousSince = some (t₀ + x.1.pausedCumulativeS)

/-- A call that latches does so a dwell of uncharged seconds after the episode opened. -/
def ServesDwell (x : StateMachine α × Option α) (c : FusionCall α) : Prop :=
  x.1.state ≠ .spoofed → (x.1.callStep c).1.state = .spoofed →
    ∃ t₀ ∈ x.2, ∃ t ∈ c.time,
      t - t₀ - (x.1.callStep c).1.pausedCumulativeS ≥ x.1.cfg.suspiciousToSpoofedDwellS

/-- The loop vetoes a clear on a fix that was granted a pause. -/
def VetoesPaused (m : StateMachine α) : FusionCall α → Prop
  | .fix r t hdop sats veto =>
    veto = true ∧ m.clearsOn r t hdop sats = true ∧ ¬ m.pauseGranted t = 0
  | _ => False

instance [DecidableEq α] (x : StateMachine α × Option α) : Decidable (Accounted x) :=
  inferInstanceAs (Decidable (_ → ∃ t₀ ∈ x.2, _))

instance (x : StateMachine α × Option α) (c : FusionCall α) : Decidable (ServesDwell x c) :=
  inferInstanceAs (Decidable (_ → _ → ∃ t₀ ∈ x.2, ∃ t ∈ c.time, _))

instance [DecidableEq α] (m : StateMachine α) (c : FusionCall α) :
    Decidable (VetoesPaused m c) := by
  unfold VetoesPaused
  split <;> infer_instance

end Model

section Runs

variable {F : Type} [Field F] [LinearOrder F]

section

omit [LinearOrder F]

theorem Accounted.of_ne {x : StateMachine F × Option F} (h : x.1.state ≠ .suspicious) :
    Accounted x := fun hs => absurd hs h

/-- A call that leaves the state, the clock and the budget alone. -/
theorem Accounted.of_same {m m' : StateMachine F} {opened : Option F} {c : FusionCall F}
    (h : Accounted (m, opened)) (hs : m'.state = m.state)
    (hc : m'.suspiciousSince = m.suspiciousSince)
    (hp : m'.pausedCumulativeS = m.pausedCumulativeS) :
    Accounted (m', trackOpened opened m c m') := by
  intro hsusp
  have hm : m.state = .suspicious := hs.symm.trans hsusp
  unfold trackOpened
  rw [if_pos hsusp, if_pos hm]
  dsimp only
  rw [hc, hp]
  exact h hm

end

/-- The assessment of a fix keeps the accounts in order: clock and budget move together. -/
theorem Accounted.assess {m : StateMachine F} {opened : Option F} (h : Accounted (m, opened))
    (hs : m.state = .suspicious) (r : Residual F) (t : F) (hdop : Option F)
    (sats : Option Nat) : ∃ t₀ ∈ opened, (m.assess r t hdop sats).1.suspiciousSince =
      some (t₀ + (m.assess r t hdop sats).1.pausedCumulativeS) := by
  obtain ⟨t₀, ho, hc⟩ := h hs
  obtain ⟨hsince, hpaused⟩ := assess_pause m r t hdop sats
  refine ⟨t₀, ho, ?_⟩
  rw [hsince, hpaused, hc, Option.map_some, add_assoc]

variable [IsStrictOrderedRing F]

theorem Accounted.fix {m m' : StateMachine F} {opened : Option F} {evs : List Event}
    (h : Accounted (m, opened)) (r : Residual F) (t : F) (hdop : Option F)
    (sats : Option Nat) (veto : Bool) (hm : FixCall m r t hdop sats veto m' evs) :
    Accounted (m', trackOpened opened m (.fix r t hdop sats veto) m') ↔
      ¬ VetoesPaused m (.fix r t hdop sats veto) := by
  unfold trackOpened
  have hstate := (assess_keeps m r t hdop sats).1
  cases hm with
  | latched hs =>
    -- in Spoofed there is no episode to account for, and no clear to veto
    refine iff_of_true (.of_ne (by simp [drainFlags, hs])) ?_
    rintro ⟨-, hc, -⟩
    simp [clearsOn, hs] at hc
  | arm hs hno ha =>
    refine iff_of_true (fun hsusp => ?_) fun hv => absurd (hno.symm.trans hv.2.1) (by simp)
    dsimp only at hsusp ⊢
    rw [if_pos hsusp]
    rcases ha.clock hsusp with ⟨hm, hc, hp⟩ | ⟨hm, hc, hp⟩
    · rw [hstate] at hm
      rw [if_pos hm, hc, hp]
      exact h.assess hm r t hdop sats
    · rw [hstate] at hm
      rw [if_neg (by simp [hm]), hc, hp]
      exact ⟨t, rfl, congrArg some (add_zero t).symm⟩
  | @clear m₁ hc hm₁ =>
    have hm : m.state = .suspicious := by
      simp only [clearsOn, Bool.and_eq_true, decide_eq_true_eq] at hc
      exact hc.1.1
    cases veto with
    | false =>
      refine iff_of_true (.of_ne ?_) fun hv => absurd hv.1 (by simp)
      simp [commitSuspToNormal, hm₁]
    | true =>
      -- the clock goes back to what was captured, the budget stays where the fix left it
      obtain ⟨t₀, ho, hclock⟩ := h hm
      dsimp only at ho hclock
      rw [if_pos rfl, forceBackToSuspicious_eq (by rw [hm₁]), if_pos rfl, if_pos hm]
      unfold Accounted VetoesPaused
      dsimp only
      rw [hclock, hm₁, (assess_pause m r t hdop sats).2]
      constructor
      · rintro hacc ⟨-, -, hpause⟩
        obtain ⟨t₁, ho', hc'⟩ := hacc rfl
        obtain rfl : t₀ = t₁ := Option.some.inj (ho.symm.trans ho')
        have heq : t₀ + m.pausedCumulativeS =
            t₀ + (m.pausedCumulativeS + m.pauseGranted t) := Option.some.inj hc'
        exact hpause (by linarith)
      · intro hno _
        have hzero : m.pauseGranted t = 0 := by
          by_contra hne
          exact hno ⟨rfl, hc, hne⟩
        refine ⟨t₀, ho, ?_⟩
        rw [hzero, add_zero]
        rfl

theorem Accounted.step {x : StateMachine F × Option F} (h : Accounted x) (c : FusionCall F) :
    Accounted (episodeStep x c).1 ↔ ¬ VetoesPaused x.1 c := by
  obtain ⟨m, opened⟩ := x
  cases c with
  | fix r t hdop sats veto =>
    exact h.fix r t hdop sats veto (callStep_fix m r t hdop sats veto)
  | setPosDetectorsEnabled on =>
    have hsame := setPosDetectorsEnabled_same m on
    exact iff_of_true (h.of_same hsame.state hsame.suspiciousSince hsame.pausedCumulativeS)
      not_false
  | onCleanAnchor =>
    have hsame := onCleanAnchor_same m
    exact iff_of_true (h.of_same hsame.state hsame.suspiciousSince hsame.pausedCumulativeS)
      not_false
  | manualResetToNormal =>
    exact iff_of_true (.of_ne (by simp [episodeStep, callStep, manualResetToNormal])) not_false
  | noteDropoutRecovery => exact iff_of_true (h.of_same rfl rfl rfl) not_false
  | noteExternalAnomaly => exact iff_of_true (h.of_same rfl rfl rfl) not_false
  | takeDwellNotice => exact iff_of_true (h.of_same rfl rfl rfl) not_false

/-- From accounts in order, a latch comes a dwell of uncharged seconds after the opening. -/
theorem Accounted.servesDwell {F : Type} [Field F] [LinearOrder F]
    {x : StateMachine F × Option F} (h : Accounted x)
    (c : FusionCall F) : ServesDwell x c := by
  obtain ⟨m, opened⟩ := x
  intro hs hspoofed
  dsimp only at hs hspoofed ⊢
  -- no call but a fix leads to Spoofed
  cases c with
  | fix r t hdop sats veto =>
    have hstep := callStep_fix m r t hdop sats veto
    obtain ⟨hstate, hcfg, -⟩ := assess_keeps m r t hdop sats
    generalize (m.callStep (.fix r t hdop sats veto)).1 = m' at hstep hspoofed ⊢
    generalize (m.callStep (.fix r t hdop sats veto)).2 = evs at hstep
    cases hstep with
    | latched hm => exact absurd hm hs
    | clear hc hm =>
      subst hm
      cases veto <;> simp [forceBackToSuspicious, commitSuspToNormal] at hspoofed
    | arm _ hno ha =>
      generalize m.firing r t hdop sats = fire at ha
      generalize m.cleanOn r t hdop sats = clean at ha
      cases ha with
      | escalate hm hd =>
        rw [hstate] at hm
        obtain ⟨t₀, ho, hc⟩ := h.assess hm r t hdop sats
        refine ⟨t₀, ho, t, rfl, ?_⟩
        rw [hc, Option.getD_some, hcfg] at hd
        rw [sub_sub]
        exact hd
      | idle hm => exact absurd (hm.symm.trans hspoofed) (by simp)
      | cleaning hm _ => exact absurd (hm.symm.trans hspoofed) (by simp)
      | dwelling hm _ => exact absurd (hm.symm.trans hspoofed) (by simp)
      | stagnate hm => exact absurd (hm.symm.trans hspoofed) (by simp)
      | enter hm => exact absurd hspoofed (by simp)
      | clear hm _ => exact absurd hspoofed (by simp)
  | setPosDetectorsEnabled on =>
    exact absurd ((setPosDetectorsEnabled_same m on).state.symm.trans hspoofed) hs
  | onCleanAnchor => exact absurd ((onCleanAnchor_same m).state.symm.trans hspoofed) hs
  | manualResetToNormal => simp [callStep, manualResetToNormal] at hspoofed
  | noteDropoutRecovery => exact absurd hspoofed hs
  | noteExternalAnomaly => exact absurd hspoofed hs
  | takeDwellNotice => exact absurd hspoofed hs

/-- The accounts of every episode of a run are in order: in every state it reaches, and at
    every latch. -/
def EpisodesAccounted (cfg : DetectConfig F) (calls : List (FusionCall F)) : Prop :=
  (∀ pre post, calls = pre ++ post → Accounted (run episodeStep (.new cfg, none) pre)) ∧
    Along episodeStep ServesDwell (.new cfg, none) calls

/-- **When the accounts are in order.** Over every sequence of calls the fusion loop can make,
    the dwell clock is the opening time and the paused seconds in every state of an open
    episode, and a latch comes a dwell of unpaused seconds after the opening, if and only if
    no call vetoes a clear on a fix that was granted a pause. -/
theorem episodes_accounted_iff (cfg : DetectConfig F) (calls : List (FusionCall F)) :
    EpisodesAccounted cfg calls ↔
      Along episodeStep (fun x c => ¬ VetoesPaused x.1 c) (.new cfg, none) calls := by
  have hstart : Accounted (StateMachine.new cfg, (none : Option F)) := .of_ne (by simp [new])
  have hreached : (∀ pre post, calls = pre ++ post →
        Accounted (run episodeStep (StateMachine.new cfg, none) pre)) ↔
      Along episodeStep (fun x c => ¬ VetoesPaused x.1 c) (.new cfg, none) calls :=
    reached_iff_along_all (J := fun _ => True) (fun _ _ _ => trivial)
      (fun x c _ h => h.step c) trivial hstart
  constructor
  · intro h
    exact hreached.mp h.1
  · intro h
    refine ⟨hreached.mpr h, ?_⟩
    exact h.strengthen (fun x c hc hx => (hx.step c).mpr hc) (fun x c hx _ => hx.servesDwell c)
      hstart

end Runs

/-! ## A veto that unpays a pause -/

/-- A fix where dead reckoning puts it, at rest. -/
def atRest : Residual ℚ := ⟨⟨0, 0, 0⟩, ⟨0, 0, 0⟩, 0, 0, true, ⟨0, 0, 0⟩, 0, false⟩

/-- A fix a hundred metres north of it. -/
def farOff : Residual ℚ := ⟨⟨100, 0, 0⟩, ⟨0, 0, 0⟩, 100, 0, true, ⟨0, 0, 0⟩, 0, false⟩

/-- An episode that opens at 0 s, a clean fix at 1 s, and after a dropout a clean fix at 6.5 s
    whose clear is vetoed. The fix at 10 s latches. -/
def vetoAfterDropout : List (FusionCall ℚ) :=
  [.fix farOff 0 none none false, .fix atRest 1 none none false, .noteDropoutRecovery,
    .fix atRest 6.5 none none true, .fix farOff 10 none none false]

/-- After the veto the clock reads 0 s with 6.5 s charged, and the latch comes after 3.5 s
    that were not. -/
theorem veto_unpays_pause : ¬ EpisodesAccounted .default vetoAfterDropout ∧
    ¬ Along episodeStep ServesDwell (.new .default, none) vetoAfterDropout := by
  have hveto : ¬ Accounted
      (run episodeStep (.new .default, none) (vetoAfterDropout.take 4)) := by decide +kernel
  refine ⟨fun h => ?_, by decide +kernel⟩
  exact hveto (h.1 _ (vetoAfterDropout.drop 4) rfl)

/-- The same episode with a veto at 6.5 s that no dropout precedes, and one after it. -/
theorem episodes_accounted_veto : EpisodesAccounted .default
    [.fix farOff 0 none none false, .fix atRest 1 none none false,
      .fix atRest 6.5 none none true, .noteDropoutRecovery, .fix farOff 10 none none false] :=
  (episodes_accounted_iff _ _).mpr (by decide +kernel)

end StateMachine
end FlyingSquirrel

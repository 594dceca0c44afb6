import FlyingSquirrel.Proof.Episode

/-!
# The two dwells and a dropout

Two timers run over the fixes of a Suspicious episode. The dwell towards Spoofed is paused on
a dropout-flagged fix, under both caps (`pause_holds_dwell`). **The dwell towards clearing has
no pause at all**: it is the time since the first fix of the clean streak, whatever gaps lie
between, and what stands against a jammer who waits it out is the veto on the clear.

A `Streak` is the clean streak as an observer would keep it, from the fixes alone, with the
seconds of it that lie before flagged fixes.
-/

set_option autoImplicit false

namespace FlyingSquirrel

open Lib

/-- An unbroken streak of clean fixes. -/
structure Streak (α : Type) where
  first : α
  last : α
  /-- Seconds of the streak before flagged fixes. -/
  dropoutS : α
deriving DecidableEq

/-- What an observer keeps of the fixes: the streak there is, and the time of the last one. -/
structure FixHistory (α : Type) where
  streak : Option (Streak α)
  lastFix : Option α
deriving DecidableEq

def FixHistory.empty {α : Type} : FixHistory α := ⟨none, none⟩

section Streak

variable {α : Type} [Zero α] [Add α] [Sub α]

/-- The streak that ends with a clean fix at `t`. -/
def extendStreak (s : Option (Streak α)) (t : α) (flagged : Bool) : Streak α :=
  match s with
  | none => ⟨t, t, 0⟩
  | some s => ⟨s.first, t, s.dropoutS + if flagged then t - s.last else 0⟩

def Streak.span (s : Streak α) : α := s.last - s.first

/-- The span without the gaps before flagged fixes. -/
def Streak.credited (s : Streak α) : α := s.span - s.dropoutS

end Streak

namespace StateMachine

section Model

variable {α : Type} [Zero α] [One α] [Neg α] [Add α] [Sub α] [Mul α] [Div α] [NatCast α]
  [OfScientific α] [LT α] [LE α] [DecidableLT α] [DecidableLE α] [BEq α] [Max α]
  [FiniteTest α]

/-- The call's events announce a clear. -/
def EmitsClear (m : StateMachine α) (c : FusionCall α) : Prop :=
  Event.transition .suspicious .normal ∈ (m.callStep c).2

instance (m : StateMachine α) (c : FusionCall α) : Decidable (EmitsClear m c) :=
  inferInstanceAs (Decidable (_ ∈ _))

/-- A clean fix in Suspicious extends the streak; a clear, taken back or not, any other fix,
    and an operator reset end it. -/
def trackFixes (g : FixHistory α) (m : StateMachine α) (c : FusionCall α)
    (_ : StateMachine α) : FixHistory α :=
  match c with
  | .fix r t hdop sats _ =>
    { streak :=
        if m.state = .suspicious ∧ m.cleanOn r t hdop sats = true ∧ ¬ EmitsClear m c then
          some (extendStreak g.streak t m.dropoutRecovery)
        else none
      lastFix := some t }
  | .manualResetToNormal => { g with streak := none }
  | _ => g

def watchedStep : StateMachine α × FixHistory α → FusionCall α →
    (StateMachine α × FixHistory α) × List Event :=
  ghost callStep trackFixes

/-- The dwell towards Spoofed that `evaluate` reads on a fix. -/
def dwellOn (m : StateMachine α) (r : Residual α) (t : α) (hdop : Option α)
    (sats : Option Nat) : α :=
  t - (m.assess r t hdop sats).1.suspiciousSince.getD t

/-- The dwell towards Spoofed at the fix before. -/
def dwellBefore (x : StateMachine α × FixHistory α) : α :=
  match x.1.suspiciousSince, x.2.lastFix with
  | some since, some last => last - since
  | _, _ => 0

/-- A clear comes of enough clean seconds outside dropouts, and a flagged fix does not advance
    the dwell towards Spoofed. -/
def DropoutFree (x : StateMachine α × FixHistory α) : FusionCall α → Prop
  | .fix r t hdop sats veto =>
    (EmitsClear x.1 (.fix r t hdop sats veto) →
      (extendStreak x.2.streak t x.1.dropoutRecovery).credited ≥ x.1.cfg.normalClearDwellS) ∧
    (x.1.state = .suspicious → x.1.dropoutRecovery = true →
      x.1.dwellOn r t hdop sats ≤ max 0 (dwellBefore x))
  | _ => True

/-- A clear comes of a clean fix in Suspicious that ends a long enough streak, dropouts
    included. A flagged fix does not advance the dwell towards Spoofed under the caps, and
    leaves the dwell clock running past them. -/
def ClearsBySpan (x : StateMachine α × FixHistory α) : FusionCall α → Prop
  | .fix r t hdop sats veto =>
    (EmitsClear x.1 (.fix r t hdop sats veto) ↔
      x.1.state = .suspicious ∧ x.1.cleanOn r t hdop sats = true ∧
        (extendStreak x.2.streak t x.1.dropoutRecovery).span ≥ x.1.cfg.normalClearDwellS) ∧
    (x.1.state = .suspicious → x.1.dropoutRecovery = true →
      (x.1.pauseAllowed → x.1.dwellOn r t hdop sats ≤ max 0 (dwellBefore x)) ∧
      (¬ x.1.pauseAllowed → x.1.dwellOn r t hdop sats = t - x.1.suspiciousSince.getD t))
  | c => ¬ EmitsClear x.1 c

instance (x : StateMachine α × FixHistory α) (c : FusionCall α) : Decidable (DropoutFree x c) :=
  match c with
  | .fix _ _ _ _ _ => inferInstanceAs (Decidable ((_ → _) ∧ (_ → _ → _)))
  | .setPosDetectorsEnabled _ | .noteDropoutRecovery | .noteExternalAnomaly | .takeDwellNotice
  | .onCleanAnchor | .manualResetToNormal => .isTrue trivial

end Model

section Runs

variable {F : Type} [Field F] [LinearOrder F]

theorem emitsClear_fix (m : StateMachine F) (r : Residual F) (t : F) (hdop : Option F)
    (sats : Option Nat) (veto : Bool) :
    EmitsClear m (.fix r t hdop sats veto) ↔ m.clearsOn r t hdop sats = true :=
  evaluate_clear_iff m r t hdop sats

/-- What the machine holds of the fixes it was shown. -/
structure Watched (x : StateMachine F × FixHistory F) : Prop where
  clean : x.1.state = .suspicious → x.1.lastCleanSince = x.2.streak.map (·.first)
  since : x.1.state = .suspicious → x.1.suspiciousSince.isSome = true
  dropout : x.1.state ≠ .spoofed → x.1.lastDropoutT = none ∨ x.1.lastDropoutT = x.2.lastFix

theorem Arm.lastDropoutT {m m' : StateMachine F} {t : F} {clean firing : Bool}
    {out : List Event} (h : Arm m t clean firing m' out) :
    m'.lastDropoutT = m.lastDropoutT := by cases h <;> rfl

theorem Watched.fix {m m' : StateMachine F} {g : FixHistory F} {evs : List Event}
    (h : Watched (m, g)) (r : Residual F) (t : F) (hdop : Option F) (sats : Option Nat)
    (veto : Bool) (hm : FixCall m r t hdop sats veto m' evs) :
    Watched (m', trackFixes g m (.fix r t hdop sats veto) m') := by
  obtain ⟨hstate, -, hlast, -⟩ := assess_keeps m r t hdop sats
  obtain ⟨hsince, hdropout, -⟩ := assess_clock m r t hdop sats
  have hprev : (m.assess r t hdop sats).1.lastDropoutT = none ∨
      (m.assess r t hdop sats).1.lastDropoutT = some t := by
    rw [hdropout]
    exact accountDropout_lastDropoutT _ _ _
  unfold trackFixes
  simp only [emitsClear_fix]
  cases hm with
  | latched hs =>
    refine ⟨fun hn => ?_, fun hn => ?_, fun hn => absurd hs hn⟩
    all_goals exact absurd (hs.symm.trans hn) (by simp)
  | arm hs hno ha =>
    refine ⟨fun hsusp => ?_, fun hsusp => ?_, fun _ => ?_⟩
    · dsimp only at hsusp ⊢
      rw [hno]
      generalize hfire : m.firing r t hdop sats = fire at ha
      generalize m.cleanOn r t hdop sats = clean at ha ⊢
      -- only a cleaning fix extends a streak, every other arm ends it
      cases ha with
      | enter hn => rw [if_neg (by rw [← hstate, hn]; simp)]; rfl
      | cleaning hn hd =>
        rw [if_pos ⟨hstate.symm.trans hn, rfl, by simp⟩, hlast, h.clean (hstate.symm.trans hn)]
        cases g.streak <;> rfl
      | dwelling _ _ => rw [if_neg (by simp)]; rfl
      | stagnate _ => rw [if_neg (by simp)]; rfl
      | idle hn => exact absurd (hn.symm.trans hsusp) (by simp)
      | clear _ _ => exact absurd hsusp (by simp)
      | escalate _ _ => exact absurd hsusp (by simp)
    · rcases ha.clock hsusp with ⟨hn, hc, -⟩ | ⟨hn, hc, -⟩
      · dsimp only
        rw [hc, (assess_pause m r t hdop sats).1, Option.isSome_map]
        exact h.since (hstate.symm.trans hn)
      · dsimp only
        rw [hc]
        rfl
    · dsimp only
      rw [ha.lastDropoutT]
      exact hprev
  | clear hc hm =>
    subst hm
    have hended : ¬ (m.state = .suspicious ∧ m.cleanOn r t hdop sats = true ∧
        ¬ m.clearsOn r t hdop sats = true) := fun hs => hs.2.2 hc
    rw [if_neg hended]
    cases veto with
    | false =>
      refine ⟨fun hn => ?_, fun hn => ?_, fun _ => hprev⟩
      all_goals exact absurd hn (by simp [commitSuspToNormal])
    | true =>
      rw [if_pos rfl, forceBackToSuspicious_eq rfl]
      refine ⟨fun _ => rfl, fun _ => ?_, fun _ => hprev⟩
      cases m.suspiciousSince <;> rfl

variable [IsStrictOrderedRing F]

theorem Watched.of_same {F : Type} {m m' : StateMachine F} {g : FixHistory F} (h : Watched (m, g))
    (hsame : SameEpisode m m') : Watched (m', g) := by
  refine ⟨?_, ?_, ?_⟩
  · dsimp only
    rw [hsame.state, hsame.lastCleanSince]
    exact h.clean
  · dsimp only
    rw [hsame.state, hsame.suspiciousSince]
    exact h.since
  · dsimp only
    rw [hsame.state, hsame.lastDropoutT]
    exact h.dropout

theorem Watched.step {F : Type} [Field F] [LinearOrder F]
    {x : StateMachine F × FixHistory F} (h : Watched x) (c : FusionCall F) :
    Watched (watchedStep x c).1 := by
  obtain ⟨m, g⟩ := x
  cases c with
  | fix r t hdop sats veto => exact h.fix r t hdop sats veto (callStep_fix m r t hdop sats veto)
  | setPosDetectorsEnabled on => exact h.of_same (setPosDetectorsEnabled_same m on)
  | onCleanAnchor => exact h.of_same (onCleanAnchor_same m)
  | manualResetToNormal =>
    refine ⟨fun hn => ?_, fun hn => ?_, fun _ => .inl rfl⟩
    all_goals exact absurd hn (by simp [watchedStep, callStep, manualResetToNormal])
  | noteDropoutRecovery => exact ⟨h.clean, h.since, h.dropout⟩
  | noteExternalAnomaly => exact ⟨h.clean, h.since, h.dropout⟩
  | takeDwellNotice => exact ⟨h.clean, h.since, h.dropout⟩

theorem extendStreak_span {F : Type} [Field F] (s : Option (Streak F)) (t : F) (flagged : Bool) :
    (extendStreak s t flagged).span = t - (s.map (·.first)).getD t := by
  cases s <;> rfl

theorem pause_holds_dwell {x : StateMachine F × FixHistory F} (h : Watched x)
    (hs : x.1.state = .suspicious) (hd : x.1.dropoutRecovery = true) (ha : x.1.pauseAllowed)
    (r : Residual F) (t : F) (hdop : Option F) (sats : Option Nat) :
    x.1.dwellOn r t hdop sats ≤ max 0 (dwellBefore x) := by
  obtain ⟨since, hsince⟩ := Option.isSome_iff_exists.mp (h.since hs)
  have hclock : (x.1.assess r t hdop sats).1.suspiciousSince =
      some (since + max (t - x.1.lastDropoutT.getD since) 0) := by
    rw [(assess_pause x.1 r t hdop sats).1, hsince, Option.map_some]
    unfold pauseGranted pauseLength
    rw [if_pos ⟨hd, ha⟩, hs, hsince]
  unfold dwellOn dwellBefore
  rw [hclock, hsince, Option.getD_some]
  have hpause := le_max_left (t - x.1.lastDropoutT.getD since) 0
  rcases h.dropout (by rw [hs]; simp) with hl | hl
  · -- back to the clock itself
    rw [hl, Option.getD_none] at hpause ⊢
    exact le_max_of_le_left (by linarith)
  · -- back to the fix before
    rw [hl] at hpause ⊢
    cases hlast : x.2.lastFix with
    | none =>
      rw [hlast, Option.getD_none] at hpause
      exact le_max_of_le_left (by rw [Option.getD_none]; linarith)
    | some last =>
      rw [hlast, Option.getD_some] at hpause
      exact le_max_of_le_right (by rw [Option.getD_some]; linarith)

theorem Watched.clearsBySpan {x : StateMachine F × FixHistory F} (h : Watched x)
    (c : FusionCall F) : ClearsBySpan x c := by
  cases c with
  | fix r t hdop sats veto =>
    refine ⟨?_, fun hs hd => ⟨fun ha => pause_holds_dwell h hs hd ha r t hdop sats, ?_⟩⟩
    · rw [emitsClear_fix, extendStreak_span]
      unfold clearsOn
      rw [Bool.and_eq_true, Bool.and_eq_true, decide_eq_true_eq, decide_eq_true_eq, and_assoc]
      refine and_congr_right fun hs => and_congr_right fun _ => ?_
      rw [h.clean hs]
    · intro ha
      unfold dwellOn
      rw [(assess_pause x.1 r t hdop sats).1]
      unfold pauseGranted
      rw [if_neg fun hg => ha hg.2, map_add_zero]
  | _ => exact List.not_mem_nil

/-- **What a clear takes.** Over every sequence of calls, `evaluate` clears on exactly the
    clean fixes in Suspicious whose streak spans the clear dwell, dropouts included. A flagged
    fix leaves the dwell towards Spoofed no longer than it was while both caps allow a pause,
    and past either cap the dwell runs on. -/
theorem clears_by_span (cfg : DetectConfig F) (calls : List (FusionCall F)) :
    Along watchedStep ClearsBySpan (.new cfg, .empty) calls := by
  have hstart : Watched (StateMachine.new cfg, (FixHistory.empty : FixHistory F)) := by
    refine ⟨fun h => ?_, fun h => ?_, fun _ => .inl rfl⟩
    all_goals exact absurd h (by simp [new])
  exact along_of_invariant (fun x c hx => hx.step c) (fun x c hx => hx.clearsBySpan c) hstart

end Runs

/-! ## A dropout that clears, and one that dwells -/

/-- One clean fix at 1 s and one after a dropout, at 6.5 s, which clears. -/
def clearAfterDropout : List (FusionCall ℚ) :=
  [.fix farOff 0 none none false, .fix atRest 1 none none false, .noteDropoutRecovery,
    .fix atRest 6.5 none none false]

/-- Six flagged fixes in a row: the sixth is past the streak cap. -/
def sixDropouts : List (FusionCall ℚ) :=
  .fix farOff 0 none none false :: [3, 6, 9, 12, 15, 18].flatMap fun t =>
    [.noteDropoutRecovery, .fix farOff t none none false]

/-- No second of the streak that clears is outside a dropout, and a flagged fix past a cap
    advances the dwell towards Spoofed. -/
theorem dropout_counts_towards_clear :
    ¬ Along watchedStep DropoutFree (.new .default, .empty) clearAfterDropout ∧
    ¬ Along watchedStep DropoutFree (.new .default, .empty) sixDropouts := by
  decide +kernel

theorem clears_by_span_dropout :
    Along watchedStep ClearsBySpan (.new .default, .empty) clearAfterDropout :=
  clears_by_span .default clearAfterDropout

end StateMachine
end FlyingSquirrel

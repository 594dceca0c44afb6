import FlyingSquirrel.Proof.Anchor

/-!
# Whose dropout flag it is

The loop flags a fix that comes after a long gap, and the machine's `evaluate` drains the flag.
In between lies the interpolation, and a fix it fails for is not evaluated: **the flag then waits
for the next fix that is**, whatever the gap before that one.

`GapWatch` keeps what the two sides should agree on. The fix before is one of the armed loop's,
since boot or the last operator reset, which leaves no trace of the fixes before it.
-/

set_option autoImplicit false

namespace FlyingSquirrel

open Lib

structure GapWatch (α : Type) where
  /-- The time of the fix before, if there is one. -/
  last : Option α
  /-- A fix after a long gap has been skipped since the last evaluated one. -/
  owed : Bool

namespace Fusion

variable {α : Type} [Zero α] [One α] [Neg α] [Add α] [Sub α] [Mul α] [Div α] [NatCast α]
  [OfScientific α] [LT α] [LE α] [DecidableLT α] [DecidableLE α] [BEq α] [Max α] [Min α]
  [Libm α] [FiniteTest α] [Nalgebra α]

/-- The gap before a fix at `t`; none, where there is no fix before. -/
def gapSince (last : Option α) (t : α) : α :=
  match last with
  | some prev => t - prev
  | none => 0

/-- The gap before the fix exceeds the threshold. -/
def LongGap (x : Fusion α × GapWatch α) (fix : GpsFix α) : Prop :=
  gapSince x.2.last (x.1.tSecs fix.t) > x.1.gpsDropoutFreezeS

instance (x : Fusion α × GapWatch α) (fix : GpsFix α) : Decidable (LongGap x fix) :=
  inferInstanceAs (Decidable (_ < _))

/-- The buffer serves the fix's time. -/
def serves (f : Fusion α) (fix : GpsFix α) : Bool :=
  (f.buffer.interpolate (f.tSecs fix.t)).toBool

/-- What the machine has for a dropout flag when it evaluates the fix, where it does. -/
def recoveryFlag (f : Fusion α) (fix : GpsFix α) : Option Bool :=
  (f.atDecision fix).map fun (g, _, r) => (g.gatedFsm r).dropoutRecovery

def trackGap (g : GapWatch α) (f : Fusion α) (i : Input α) (_ : Fusion α) : GapWatch α :=
  match i with
  | .gps fix _ =>
    if f.preflight = .ready then
      { last := some (f.tSecs fix.t)
        owed := !f.serves fix && (g.owed || decide (LongGap (f, g) fix)) }
    else g
  | .reset _ => ⟨none, false⟩
  | _ => g

def gapStep : Fusion α × GapWatch α → Input α → (Fusion α × GapWatch α) × List (Output α) :=
  ghost step trackGap

/-- An armed fix that is evaluated is evaluated as dropout recovery if and only if the gap before
    it is long. -/
def FlagIsOwn (x : Fusion α × GapWatch α) : Input α → Prop
  | .gps fix _ =>
    x.1.preflight = .ready → ∀ flag ∈ x.1.recoveryFlag fix, flag = true ↔ LongGap x fix
  | _ => True

/-- No fix is served after a skipped one with a long gap, unless its own gap is long. -/
def NothingOwed (x : Fusion α × GapWatch α) : Input α → Prop
  | .gps fix _ =>
    x.1.preflight = .ready → x.1.serves fix = true → x.2.owed = true → LongGap x fix
  | _ => True

instance (x : Fusion α × GapWatch α) (i : Input α) : Decidable (FlagIsOwn x i) :=
  match i with
  | .gps fix _ =>
    inferInstanceAs (Decidable
      (x.1.preflight = .ready → ∀ flag ∈ x.1.recoveryFlag fix, flag = true ↔ LongGap x fix))
  | .imu _ | .reset _ | .background _ _ => .isTrue trivial

instance (x : Fusion α × GapWatch α) (i : Input α) : Decidable (NothingOwed x i) :=
  match i with
  | .gps fix _ =>
    inferInstanceAs (Decidable (x.1.preflight = .ready → x.1.serves fix = true →
      x.2.owed = true → LongGap x fix))
  | .imu _ | .reset _ | .background _ _ => .isTrue trivial

/-! ## An armed fix -/

variable (f : Fusion α) (fix : GpsFix α) (t : α)

theorem gatedFsm_dropoutRecovery {α : Type} [Zero α] (f : Fusion α) (r : Residual α) :
    (f.gatedFsm r).dropoutRecovery = f.fsm.dropoutRecovery := by
  obtain ⟨_, _, _, h⟩ := gatedFsm_eq f r
  rw [h]

/-- Whatever the decision, the machine has drained the flag. -/
theorem DecidedFsm.drained {α : Type} [Zero α] [One α] [Neg α] [Add α] [Sub α] [Mul α] [Div α]
    [NatCast α] [OfScientific α] [LT α] [LE α] [DecidableLT α] [DecidableLE α] [BEq α] [Max α]
    [FiniteTest α] {f : Fusion α} {fix : GpsFix α} {t : α} {r : Residual α}
    {m : StateMachine α} (h : DecidedFsm f fix t r m) : m.dropoutRecovery = false := by
  have hdrained {m : StateMachine α} {out : List Event} (ha : f.FixArm fix t r m out) :
      m.dropoutRecovery = false :=
    ha.keeps.2.2.1.trans (StateMachine.assess_keeps (f.gatedFsm r) r t fix.hdop fix.sats).2.2.2.2
  cases h with
  | latched _ => rfl
  | arm ha _ => exact hdrained ha
  | @commit m ha =>
    have hcommit : m.commitSuspToNormal.dropoutRecovery = m.dropoutRecovery := rfl
    exact hcommit.trans (hdrained ha)
  | @veto m ha =>
    have hback : (m.forceBackToSuspicious t f.fsm.suspiciousSince).dropoutRecovery =
        m.dropoutRecovery := by
      unfold StateMachine.forceBackToSuspicious
      split <;> rfl
    exact hback.trans (hdrained ha)

/-- The flag a fix at `t` is evaluated with, or leaves behind. -/
def flagAt : Bool := f.fsm.dropoutRecovery || decide (f.dropoutSeconds t > f.gpsDropoutFreezeS)

/-- An armed fix is remembered. Served, it takes the flag down; skipped, it leaves it. -/
theorem onGps_gap {α : Type} [Zero α] [One α] [Neg α] [Add α] [Sub α] [Mul α] [Div α] [NatCast α]
    [OfScientific α] [LT α] [LE α] [DecidableLT α] [DecidableLE α] [BEq α] [Max α] [Min α] [Libm α]
    [FiniteTest α] (f : Fusion α) (fix : GpsFix α)
    (env : Env α) (ho : f.nav.origin ≠ none) (hr : f.preflight = .ready) :
    (f.onGps env fix).1.lastGpsTSecs = some (f.tSecs fix.t) ∧
      (f.onGps env fix).1.fsm.dropoutRecovery =
        (!f.serves fix && f.flagAt (f.tSecs fix.t)) := by
  unfold serves
  cases hi : f.buffer.interpolate (f.tSecs fix.t) with
  | error e =>
    obtain ⟨_, _, hskipped⟩ := onGps_skipped env ho hr hi
    rw [hskipped]
    exact ⟨rfl, rfl⟩
  | ok p =>
    obtain ⟨pImu, vImu⟩ := p
    obtain ⟨_, _, _, _, _, _, _, hfsm, hserved⟩ := onGps_served env ho hr hi
    rw [hserved]
    exact ⟨rfl, hfsm.drained⟩

/-- The flag of an evaluated fix. -/
theorem recoveryFlag_eq {α : Type} [Zero α] [One α] [Neg α] [Add α] [Sub α] [Mul α] [Div α]
    [NatCast α] [OfScientific α] [LT α] [LE α] [DecidableLT α] [DecidableLE α] [Libm α]
    (f : Fusion α) (fix : GpsFix α) (ho : f.nav.origin ≠ none) :
    f.recoveryFlag fix = if f.serves fix then some (f.flagAt (f.tSecs fix.t)) else none := by
  unfold recoveryFlag serves
  cases hi : f.buffer.interpolate (f.tSecs fix.t) with
  | error e =>
    obtain ⟨gpsNed, hn⟩ := gpsInNed_of_origin fix ho
    unfold atDecision
    rw [hn, hi]
    rfl
  | ok p =>
    obtain ⟨pImu, vImu⟩ := p
    obtain ⟨_, _, _, _, _, hat⟩ := atDecision_eq ho hi
    rw [hat]
    exact congrArg some (gatedFsm_dropoutRecovery _ _)

/-! ## Runs -/

/-- What the loop remembers of the fix before and of the flag is what the watch does. -/
structure Watched (x : Fusion α × GapWatch α) : Prop where
  last : x.1.lastGpsTSecs = x.2.last
  owed : x.1.fsm.dropoutRecovery = x.2.owed

theorem Watched.flagAt {α : Type} [Zero α] [Sub α] [Div α] [NatCast α] [OfScientific α] [LT α]
    [DecidableLT α] (fix : GpsFix α) {x : Fusion α × GapWatch α} (h : Watched x) :
    x.1.flagAt (x.1.tSecs fix.t) = (x.2.owed || decide (LongGap x fix)) := by
  unfold Fusion.flagAt LongGap gapSince dropoutSeconds
  rw [h.last, h.owed]
  rfl

theorem Watched.next {c : FusionConfig α} {x : Fusion α × GapWatch α} (hb : Booted c x.1)
    (h : Watched x) (i : Input α) : Watched (gapStep x i).1 := by
  obtain ⟨f, g⟩ := x
  cases i with
  | imu sample => exact ⟨h.last, h.owed⟩
  | reset now => exact ⟨rfl, rfl⟩
  | background now done =>
    obtain ⟨_, hb⟩ := onBackground_eq f now done
    show Watched ((f.onBackground now done).1, g)
    rw [hb]
    exact ⟨h.last, h.owed⟩
  | gps fix env =>
    by_cases hr : f.preflight = .ready
    · have hwatch : (gapStep (f, g) (.gps fix env)).1.2 =
          { last := some (f.tSecs fix.t)
            owed := !f.serves fix && (g.owed || decide (LongGap (f, g) fix)) } := if_pos hr
      obtain ⟨hlast, hflag⟩ :=
        onGps_gap f fix env (Option.isSome_iff_ne_none.mp (hb.ready hr)) hr
      rw [h.flagAt] at hflag
      constructor
      · rw [hwatch]
        exact hlast
      · rw [hwatch]
        exact hflag
    · obtain ⟨_, _, _, _, _, hunarmed⟩ := onGps_unarmed env fix fun ha => hr ha.2
      have hwatch : (gapStep (f, g) (.gps fix env)).1.2 = g := if_neg hr
      constructor
      · rw [hwatch]
        show (f.onGps env fix).1.lastGpsTSecs = _
        rw [hunarmed]
        exact h.last
      · rw [hwatch]
        show (f.onGps env fix).1.fsm.dropoutRecovery = _
        rw [hunarmed]
        exact h.owed

/-- The flag a fix is evaluated with is up for its own gap or for an owed one. -/
theorem Watched.flagIsOwn_iff {α : Type} [Zero α] [One α] [Neg α] [Add α] [Sub α] [Mul α] [Div α]
    [NatCast α] [OfScientific α] [LT α] [LE α] [DecidableLT α] [DecidableLE α] [Libm α]
    {c : FusionConfig α} {x : Fusion α × GapWatch α}
    (hb : Booted c x.1) (h : Watched x) (i : Input α) : FlagIsOwn x i ↔ NothingOwed x i := by
  cases i with
  | gps fix env =>
    unfold FlagIsOwn NothingOwed
    refine imp_congr_right fun hr => ?_
    have ho : x.1.nav.origin ≠ none := Option.isSome_iff_ne_none.mp (hb.ready hr)
    rw [recoveryFlag_eq x.1 fix ho, h.flagAt]
    cases x.1.serves fix with
    | false => simp
    | true =>
      cases x.2.owed with
      | false => simp
      | true => simp
  | imu => exact Iff.rfl
  | reset => exact Iff.rfl
  | background => exact Iff.rfl

/-- **The flag belongs to its own fix, exactly.** In a run from boot, every armed fix is
    evaluated as dropout recovery if and only if its own gap is long, if and only if no fix is
    served while a flag is owed from a skipped one, unless its own gap is long. -/
theorem flag_is_own_iff {c : FusionConfig α} {boot : Instant} {f : Fusion α}
    (hf : Built c boot f) (is : List (Input α)) :
    Along gapStep FlagIsOwn (f, ⟨none, false⟩) is ↔
      Along gapStep NothingOwed (f, ⟨none, false⟩) is := by
  have hstart : Watched (f, (⟨none, false⟩ : GapWatch α)) := by
    induction hf with
    | new => exact ⟨rfl, rfl⟩
    | withMavMonitor _ _ ih => exact ⟨ih.last, ih.owed⟩
    | withForensic _ _ _ ih => exact ⟨ih.last, ih.owed⟩
  refine along_congr_of_invariant (I := fun x => Booted c x.1 ∧ Watched x) ?_ ?_
    ⟨Booted.start hf, hstart⟩
  · rintro x i ⟨hb, hw⟩
    exact ⟨hb.step i, hw.next hb i⟩
  · rintro x i ⟨hb, hw⟩
    exact hw.flagIsOwn_iff hb i

/-- Armed, a fix, and the next one after three seconds of samples. -/
def servedLate : List (Input ℚ) :=
  arming ++ fixes quietEnv [(110, 0)] ++
    samples ((List.range 30).map fun n => 200 + 100 * n) ++ fixes quietEnv [(3005, 0)]

theorem flag_is_own_served_late :
    Along gapStep FlagIsOwn (Fusion.new quickCfg 0, ⟨none, false⟩) servedLate :=
  (flag_is_own_iff (.new : Built quickCfg 0 _) servedLate).mpr (by decide +kernel)

/-- Armed, a fix, and three seconds without samples. The next fix is skipped, and the one after
    it, fifteen milliseconds later, is served. -/
def skippedLate : List (Input ℚ) :=
  arming ++ fixes quietEnv [(110, 0), (3000, 0)] ++ samples [3010, 3020] ++
    fixes quietEnv [(3015, 0)]

/-- It is evaluated as dropout recovery. -/
theorem stale_flag :
    ¬ Along gapStep FlagIsOwn (Fusion.new quickCfg 0, ⟨none, false⟩) skippedLate := by
  decide +kernel

end Fusion

end FlyingSquirrel

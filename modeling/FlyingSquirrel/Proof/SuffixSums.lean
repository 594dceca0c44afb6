import FlyingSquirrel.Detect.Exact
import FlyingSquirrel.Proof.Offset

/-!
# What the six sums are

A lane's excess on a fix is its input less the reference in force on it. Over any history of
readings and resets, defined or not, **each of the six sums is the greatest sum of its last
excesses**, counted since the last reset on the armed fixes with defined components that count
for the lane. What `evaluate` reports on such a fix is the first lane whose sum is then at its
threshold.

On any other fix it reports nothing, whatever the sums are: a fix of the warm-up, and one with an
undefined component, which leaves a lane that has reached its threshold where it is.
-/

set_option autoImplicit false

namespace FlyingSquirrel

open Lib Lib.Ext

namespace Lib.Ext

variable {F : Type} [Field F] [LinearOrder F]

theorem greatestSuffixSum_map_fin {xs : List F} {s : F} (h : GreatestSuffixSum xs s) :
    GreatestSuffixSum (xs.map fin) (fin s) := by
  constructor
  · obtain ⟨suffix, hsuffix, rfl⟩ := h.1
    exact ⟨suffix.map fin, hsuffix.map fin, sum_map_fin suffix⟩
  · rintro v ⟨suffix, hsuffix, rfl⟩
    obtain ⟨ys, hys, rfl⟩ := List.suffix_map_iff.mp hsuffix
    rw [sum_map_fin]
    exact h.2 ⟨ys, hys, rfl⟩

theorem greatestSuffixSum_unique {xs : List (Ext F)} {s s' : Ext F}
    (h : GreatestSuffixSum xs s) (h' : GreatestSuffixSum xs s') : s = s' :=
  eq_of_le_of_le (h'.2 h.1) (h.2 h'.1)

end Lib.Ext

namespace Lane

theorem reason_injective : Function.Injective reason := by
  intro l l' h
  cases l <;> cases l' <;> first | rfl | cases h

theorem map_reason_eq_some (o : Option Lane) (l : Lane) :
    o.map reason = some l.reason ↔ o = some l := by
  rw [← Option.map_some, (Option.map_injective reason_injective).eq_iff]

end Lane

namespace DriftDetector

section Model

variable {α : Type} [Zero α] [One α] [Neg α] [Add α] [Sub α] [Mul α] [Div α] [NatCast α]
  [OfScientific α] [LT α] [LE α] [DecidableLT α] [DecidableLE α] [BEq α] [Max α]
  [FiniteTest α]

/-- A fix that is summed: past the warm-up, and with its components defined. -/
def Summed (d : DriftDetector α) (x : Reading α) : Prop :=
  warmupFixes ≤ d.warmup ∧ finiteResidual x.r = true

instance (d : DriftDetector α) (x : Reading α) : Decidable (d.Summed x) :=
  inferInstanceAs (Decidable (_ ∧ _))

/-- The readings with defined components in a history. -/
def definedFixes (calls : List (DriftCall α)) : ℕ :=
  calls.countP fun
    | .fix x => finiteResidual x.r
    | .reset => false

theorem definedFixes_fix {α : Type} [FiniteTest α] (x : Reading α) (calls : List (DriftCall α)) :
    definedFixes (.fix x :: calls) =
      definedFixes calls + if finiteResidual x.r = true then 1 else 0 := List.countP_cons ..

theorem evaluate_warmup (d : DriftDetector α) (x : Reading α) (hd : d.warmup ≤ warmupFixes) :
    (d.evaluate x.r x.hdop x.sats).1.warmup =
      min warmupFixes (d.warmup + if finiteResidual x.r = true then 1 else 0) := by
  cases hx : finiteResidual x.r with
  | false =>
    rw [evaluate_undefined d hx]
    exact (min_eq_right hd).symm
  | true =>
    rw [if_pos rfl]
    by_cases hw : d.warmup < warmupFixes
    · rw [evaluate_warming hw hx]
      exact (min_eq_right hw).symm
    · rw [evaluate_armed (not_lt.mp hw) hx]
      exact (le_antisymm hd (not_lt.mp hw)).trans (min_eq_left (by omega)).symm

/-- The detector is armed once it has been given `warmupFixes` readings with defined components. -/
theorem run_warmup (d : DriftDetector α) (hd : d.warmup ≤ warmupFixes)
    (calls : List (DriftCall α)) :
    (run callStep d calls).warmup = min warmupFixes (d.warmup + definedFixes calls) := by
  induction calls generalizing d with
  | nil => exact (min_eq_right hd).symm
  | cons call calls ih =>
    cases call with
    | reset => exact ih d.reset hd
    | fix x =>
      have hstep := evaluate_warmup d x hd
      show (run callStep (d.evaluate x.r x.hdop x.sats).1 calls).warmup = _
      rw [ih _ (hstep.trans_le (min_le_left ..)), hstep, definedFixes_fix]
      omega

/-- The excesses of every lane since the last reset, in order. -/
def trackExcesses (excesses : Lane → List α) (d : DriftDetector α) (call : DriftCall α)
    (_ : DriftDetector α) : Lane → List α :=
  match call with
  | .reset => fun _ => []
  | .fix x => fun l =>
    if d.Summed x ∧ l.counts x.r = true then
      excesses l ++ [l.input x.r - d.laneReference x.r l]
    else excesses l

/-- The detector with the excesses of its lanes. -/
def excessStep : DriftDetector α × (Lane → List α) → DriftCall α →
    (DriftDetector α × (Lane → List α)) × List DriftReason :=
  ghost callStep trackExcesses

/-- The first lane, in the order they are looked at, with `P`. -/
def FirstLane (P : Lane → Prop) (l : Lane) : Prop :=
  ∃ before after, Lane.all = before ++ l :: after ∧ P l ∧ ∀ l' ∈ before, ¬ P l'

theorem FirstLane.congr {P Q : Lane → Prop} (h : ∀ l, P l ↔ Q l) (l : Lane) :
    FirstLane P l ↔ FirstLane Q l := by
  rw [funext fun l => propext (h l)]

theorem firstLane_eq_some {α : Type} [LE α] [DecidableLE α]
    {d : DriftDetector α} {threshold : Lane → α} {l : Lane} :
    d.firstLane threshold = some l ↔ FirstLane (fun l => threshold l ≤ l.sum d.state) l := by
  unfold firstLane FirstLane
  rw [List.find?_eq_some_iff_append]
  simp only [decide_eq_true_eq, Bool.not_eq_true', decide_eq_false_iff_not]
  constructor
  · rintro ⟨hl, before, after, hsplit, hbefore⟩
    exact ⟨before, after, hsplit, hl, hbefore⟩
  · rintro ⟨before, after, hsplit, hl, hbefore⟩
    exact ⟨hl, before, after, hsplit, hbefore⟩

end Model

variable {F : Type} [Field F] [LinearOrder F]

theorem laneReference_map (d : DriftDetector F) {r : Residual (Ext F)} (h : ExactResidual r)
    (l : Lane) : (d.map fin).laneReference r l = fin (d.laneReference r.finitePart l) := by
  have href (k f m : F) : max (fin k) (fin f * fin m) = fin (max k (f * m)) := by
    rw [mul_fin, max_fin]
  unfold laneReference
  rw [learnFloors_map d h]
  cases l <;> exact href _ _ _

theorem input_map {F : Type} [Field F] {r : Residual (Ext F)} (h : ExactResidual r) (l : Lane) :
    l.input r = fin (l.input r.finitePart) := by
  cases l with
  | posN => exact h.dposN
  | negN => exact congrArg (-·) h.dposN
  | posE => exact h.dposE
  | negE => exact congrArg (-·) h.dposE
  | mag => exact h.magPos
  | velAiding => exact h.magVelFree

/-- A lane's excess on a fix in exact arithmetic. -/
theorem excess_map (d : DriftDetector F) {r : Residual (Ext F)} (h : ExactResidual r) (l : Lane) :
    l.input r - (d.map fin).laneReference r l =
      fin (l.input r.finitePart - d.laneReference r.finitePart l) := by
  rw [input_map h, laneReference_map d h, sub_fin]

/-- The numbers of the detector and of the excesses are finite, and every sum is the greatest of
    its suffix sums. Before the warm-up is over there are no excesses. -/
structure Sums (x : DriftDetector (Ext F) × (Lane → List (Ext F))) : Prop where
  exact : ∃ (e : DriftDetector F) (t : Lane → List F),
    x = (e.map fin, fun l => (t l).map fin) ∧ (∀ l, GreatestSuffixSum (t l) (l.sum e.state)) ∧
      (e.warmup < warmupFixes → ∀ l, t l = [])

variable [IsStrictOrderedRing F]

section

omit [IsStrictOrderedRing F]

theorem Sums.greatest {x : DriftDetector (Ext F) × (Lane → List (Ext F))} (h : Sums x)
    (l : Lane) : GreatestSuffixSum (x.2 l) (l.sum x.1.state) := by
  obtain ⟨e, t, rfl, hsums, -⟩ := h.exact
  have hsum : l.sum (e.map fin).state = fin (l.sum e.state) := Lane.sum_map fin e.state l
  rw [hsum]
  exact greatestSuffixSum_map_fin (hsums l)

theorem Sums.undefined {e : DriftDetector F} {t : Lane → List F} {x : Reading (Ext F)}
    (hx : finiteResidual x.r = false) :
    (excessStep (e.map fin, fun l => (t l).map fin) (.fix x)).1 =
      (e.map fin, fun l => (t l).map fin) := by
  have hstay : ((e.map fin).callStep (.fix x)).1 = e.map fin :=
    congrArg Prod.fst (evaluate_undefined (e.map fin) hx)
  refine Prod.ext hstay (funext fun l => if_neg ?_)
  rintro ⟨⟨-, hfin⟩, -⟩
  rw [hx] at hfin
  exact absurd hfin Bool.false_ne_true

end

/-- A fix of the warm-up leaves no excess and a sum of zero. -/
theorem Sums.warming {e : DriftDetector F} {t : Lane → List F} {x : Reading (Ext F)}
    (hx : finiteResidual x.r = true) (hw : e.warmup < warmupFixes) (hnil : ∀ l, t l = []) :
    Sums (excessStep (e.map fin, fun l => (t l).map fin) (.fix x)).1 := by
  have hnext : ((e.map fin).callStep (.fix x)).1 = (e.evaluate (x.finitePart e.cfg).r
      (x.finitePart e.cfg).hdop (x.finitePart e.cfg).sats).1.map fin :=
    congrArg Prod.fst (evaluate_exact e hx)
  refine ⟨_, t, Prod.ext hnext (funext fun l => if_neg fun hs => not_le.mpr hw hs.1.1),
    fun l => ?_, fun _ => hnil⟩
  rw [evaluate_warming hw (finiteResidual_field (x.finitePart e.cfg).r), hnil l]
  show GreatestSuffixSum [] (l.sum CusumState.default)
  rw [Lane.sum_default]
  exact greatestSuffixSum_nil

/-- Armed, every lane the fix counts for takes a step, and the excess is its last one. -/
theorem Sums.summed {e : DriftDetector F} {t : Lane → List F} {x : Reading (Ext F)}
    (hx : finiteResidual x.r = true) (hw : warmupFixes ≤ e.warmup)
    (hsums : ∀ l, GreatestSuffixSum (t l) (l.sum e.state)) :
    Sums (excessStep (e.map fin, fun l => (t l).map fin) (.fix x)).1 := by
  have hnext : ((e.map fin).callStep (.fix x)).1 = (e.evaluate (x.finitePart e.cfg).r
      (x.finitePart e.cfg).hdop (x.finitePart e.cfg).sats).1.map fin :=
    congrArg Prod.fst (evaluate_exact e hx)
  have hstillArmed := hw.trans (evaluate_warmup_le e (x.finitePart e.cfg))
  refine ⟨_, fun l => if l.counts x.r = true then
      t l ++ [l.input x.r.finitePart - e.laneReference x.r.finitePart l] else t l,
    Prod.ext hnext (funext fun l => ?_), fun l => ?_,
    fun hlt => absurd hstillArmed (not_le.mpr hlt)⟩
  · show (if (e.map fin).Summed x ∧ l.counts x.r = true then
        (t l).map fin ++ [l.input x.r - (e.map fin).laneReference x.r l]
      else (t l).map fin) = (if l.counts x.r = true then
        t l ++ [l.input x.r.finitePart - e.laneReference x.r.finitePart l]
      else t l).map fin
    rw [excess_map e (exact_of_finite hx)]
    by_cases hc : l.counts x.r = true
    · rw [if_pos ⟨⟨hw, hx⟩, hc⟩, if_pos hc, List.map_append, List.map_singleton]
    · rw [if_neg fun hs => hc hs.2, if_neg hc]
  · rw [evaluate_sum hw]
    show GreatestSuffixSum (if l.counts x.r = true then
        t l ++ [l.input x.r.finitePart - e.laneReference x.r.finitePart l] else t l)
      (if l.counts x.r = true then cusum (l.sum e.state)
        (l.input x.r.finitePart - e.laneReference x.r.finitePart l) else l.sum e.state)
    by_cases hc : l.counts x.r = true
    · rw [if_pos hc, if_pos hc]
      exact (hsums l).snoc _
    · rw [if_neg hc, if_neg hc]
      exact hsums l

/-- **Every call keeps the sums.** -/
theorem Sums.next {x : DriftDetector (Ext F) × (Lane → List (Ext F))} (h : Sums x)
    (call : DriftCall (Ext F)) : Sums (excessStep x call).1 := by
  obtain ⟨e, t, rfl, hsums, hwarm⟩ := h.exact
  cases call with
  | reset =>
    refine ⟨e.reset, fun _ => [], rfl, fun l => ?_, fun _ _ => rfl⟩
    rw [reset_state, Lane.sum_default]
    exact greatestSuffixSum_nil
  | fix x =>
    cases hx : finiteResidual x.r with
    | false =>
      rw [Sums.undefined hx]
      exact ⟨e, t, rfl, hsums, hwarm⟩
    | true =>
      by_cases hw : warmupFixes ≤ e.warmup
      · exact Sums.summed hx hw hsums
      · exact Sums.warming hx (not_le.mp hw) (hwarm (not_le.mp hw))

theorem Sums.run (cfg : DetectConfig F) (calls : List (DriftCall (Ext F))) :
    Sums (run excessStep (new (cfg.map fin), fun _ => []) calls) := by
  apply run_invariant (fun (x : _ × _) call (h : Sums x) => h.next call)
  refine ⟨new cfg, fun _ => [], rfl, fun l => ?_, fun _ _ => rfl⟩
  show GreatestSuffixSum [] (l.sum CusumState.default)
  rw [Lane.sum_default]
  exact greatestSuffixSum_nil

/-- **The six sums are greatest suffix sums.** After any history of readings, defined or not, and
    resets, each sum is the greatest sum of a suffix, the empty one included, of the lane's
    excesses. On a reading that is summed, the detector reports the first lane whose greatest
    suffix sum is then at least the threshold in force, if there is one; on one that is not, it
    reports nothing; and one with an undefined component changes nothing. -/
theorem sums_greatest_suffix (cfg : DetectConfig F) (calls : List (DriftCall (Ext F))) :
    let x := run excessStep (new (cfg.map fin), fun _ => []) calls
    (∀ l, GreatestSuffixSum (x.2 l) (l.sum x.1.state)) ∧
      x.1.warmup = min warmupFixes (definedFixes calls) ∧
      ∀ fix : Reading (Ext F),
        let y := (excessStep x (.fix fix)).1
        let reason := (x.1.evaluate fix.r fix.hdop fix.sats).2
        let Reached := fun l => ∃ s, GreatestSuffixSum (y.2 l) s ∧
          x.1.laneThreshold fix.hdop fix.sats l ≤ s
        (x.1.Summed fix → (reason ≠ none ↔ ∃ l, Reached l) ∧
          ∀ l, reason = some l.reason ↔ FirstLane Reached l) ∧
        (¬ x.1.Summed fix → reason = none) ∧
        (finiteResidual fix.r = false → y = x) := by
  intro x
  have hx : Sums x := Sums.run cfg calls
  have hwarmup : x.1.warmup = min warmupFixes (definedFixes calls) := by
    show (run (ghost callStep trackExcesses) _ calls).1.warmup = _
    rw [run_ghost_fst, run_warmup _ (Nat.zero_le _)]
    exact congrArg (min warmupFixes) (Nat.zero_add _)
  refine ⟨hx.greatest, hwarmup, fun fix => ?_⟩
  intro y reason Reached
  have hy : Sums y := hx.next (.fix fix)
  have hreached (l : Lane) :
      Reached l ↔ x.1.laneThreshold fix.hdop fix.sats l ≤ l.sum y.1.state := by
    constructor
    · rintro ⟨s, hs, hle⟩
      rw [← Ext.greatestSuffixSum_unique hs (hy.greatest l)]
      exact hle
    · intro hle
      exact ⟨_, hy.greatest l, hle⟩
  refine ⟨fun hsummed => ⟨?_, fun l => ?_⟩, fun hno => ?_, fun hundefined => ?_⟩
  · rw [exists_congr hreached]
    exact evaluate_fires_iff hsummed.1 hsummed.2
  · rw [FirstLane.congr hreached, ← firstLane_eq_some]
    exact (congrArg (· = some l.reason) (evaluate_reason hsummed.1 hsummed.2)).to_iff.trans
      (Lane.map_reason_eq_some _ l)
  · cases hdefined : finiteResidual fix.r with
    | false => exact congrArg Prod.snd (evaluate_undefined x.1 hdefined)
    | true =>
      have hw : x.1.warmup < warmupFixes := not_le.mp fun hw => hno ⟨hw, hdefined⟩
      exact congrArg Prod.snd (evaluate_warming hw hdefined)
  · obtain ⟨e, t, he, -, -⟩ := hx.exact
    show (excessStep x (.fix fix)).1 = x
    rw [he]
    exact Sums.undefined hundefined

/-- A fix, `n` north of dead reckoning. -/
def northwards (n : Ext ℚ) : Reading (Ext ℚ) where
  r :=
    { dpos := ⟨n, 0, 0⟩, dvel := ⟨0, 0, 0⟩, magPos := fabs n, magVel := 0, dvelKnown := true,
      dvelFree := ⟨0, 0, 0⟩, magVelFree := 0, maneuvering := false }
  hdop := none
  sats := none

/-- A warm-up at rest, and then a jump of a hundred metres. -/
def jumpNorth : List (DriftCall (Ext ℚ)) :=
  List.replicate 20 (.fix (northwards 0)) ++ [.fix (northwards 100)]

/-- After the jump the north sum is its hundred metres less the reference they raised. -/
theorem sums_greatest_suffix_jump :
    GreatestSuffixSum
      ((run excessStep (new (DetectConfig.default.map fin), fun _ => []) jumpNorth).2 .posN)
      (fin 87.5) := by
  have hsum : Lane.posN.sum (run excessStep (new (DetectConfig.default.map fin), fun _ => [])
      jumpNorth).1.state = fin (87.5 : ℚ) :=
    eq_of_le_of_le (by decide +kernel) (by decide +kernel)
  rw [← hsum]
  exact (sums_greatest_suffix DetectConfig.default jumpNorth).1 .posN

/-- A fix with an undefined component reports nothing, though the greatest suffix sum is over its
    threshold before it and after it. -/
theorem undefined_unreported :
    ¬ ∀ (cfg : DetectConfig ℚ) (calls : List (DriftCall (Ext ℚ))) (fix : Reading (Ext ℚ)),
      let x := run excessStep (new (cfg.map fin), fun _ => []) calls
      (x.1.evaluate fix.r fix.hdop fix.sats).2 ≠ none ↔
        ∃ l s, GreatestSuffixSum ((excessStep x (.fix fix)).1.2 l) s ∧
          x.1.laneThreshold fix.hdop fix.sats l ≤ s := by
  intro h
  have hreached : (run excessStep (new (DetectConfig.default.map fin), fun _ => [])
      jumpNorth).1.laneThreshold none none .posN ≤ Lane.posN.sum (excessStep
        (run excessStep (new (DetectConfig.default.map fin), fun _ => []) jumpNorth)
        (.fix (northwards nan))).1.1.state := by decide +kernel
  have hsums := (Sums.run DetectConfig.default jumpNorth).next (.fix (northwards nan))
  refine (h DetectConfig.default jumpNorth (northwards nan)).mpr
    ⟨.posN, _, hsums.greatest .posN, hreached⟩ ?_
  decide +kernel

end DriftDetector

end FlyingSquirrel

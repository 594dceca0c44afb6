import FlyingSquirrel.Nav.Integration
import FlyingSquirrel.Proof.Anchor
import Mathlib.Data.List.TakeWhile
import Mathlib.Tactic.Linarith

/-!
# What the residual buffer holds

`interpolate` trusts two things about the snapshots it reads: that they are in order, and
that they are all relative to the origin there is now. Snapshots come in one way, an
integrated sample, and go out in two, trimming and `commitClear`.

* **Order** is lost by a sample that is integrated although it is not newer than the back of
  the buffer. The regression check looks at the previous *sample*, and a regressed sample,
  which is skipped, becomes the previous sample.
* **The frame** is lost by a fix that re-anchors without clearing: each way into `on_gps_fix`
  before the lock. The clear, the one re-anchoring that does clear, says why it must.
-/

set_option autoImplicit false

namespace FlyingSquirrel

open Lib

/-! ## A push -/

namespace ResidualBuffer

/-- The snapshots are strictly newer from front to back. -/
def Ordered {α : Type} [LT α] (b : ResidualBuffer α) : Prop :=
  b.buf.Pairwise fun s s' => s.monoSecs < s'.monoSecs

instance {α : Type} [LT α] [DecidableLT α] (b : ResidualBuffer α) : Decidable b.Ordered :=
  inferInstanceAs (Decidable (List.Pairwise _ _))

variable {α : Type} [Zero α] [One α] [Add α] [Sub α] [Mul α] [Div α] [OfScientific α]
  [LT α] [LE α] [DecidableLT α] [DecidableLE α] [Libm α]

/-- What a push leaves is the end of what was there and the new snapshot. -/
theorem push_suffix {α : Type} [Sub α] [LT α] [DecidableLT α]
    (b : ResidualBuffer α) (s : NavStateSnapshot α) :
    (b.push s).buf <:+ b.buf ++ [s] :=
  (List.drop_suffix _ _).trans (List.dropWhile_suffix _)

theorem push_capacity {α : Type} [Sub α] [LT α] [DecidableLT α]
    (b : ResidualBuffer α) (s : NavStateSnapshot α) :
    (b.push s).capacity = b.capacity := rfl

section Exact

variable {F : Type} [Field F] [LinearOrder F] [IsStrictOrderedRing F] [Libm F]

theorem dropWhile_keeps {β : Type} {p : β → Bool} {y : β} (hy : p y = false) (xs ys : List β) :
    y :: ys <:+ (xs ++ y :: ys).dropWhile p := by
  induction xs with
  | nil =>
    have hdrop : (y :: ys).dropWhile p = y :: ys := List.dropWhile_cons_of_neg (by simp [hy])
    exact ⟨[], hdrop.symm⟩
  | cons x xs ih =>
    rw [List.cons_append, List.dropWhile_cons]
    split
    · exact ih
    · exact (List.suffix_append _ _).trans (List.suffix_cons _ _)

theorem Ordered.le_last {F : Type} [LinearOrder F]
    {init : List (NavStateSnapshot F)} {back : NavStateSnapshot F}
    {b : ResidualBuffer F} (hb : b.Ordered) (hbuf : b.buf = init ++ [back]) :
    ∀ x ∈ b.buf, x.monoSecs ≤ back.monoSecs := by
  unfold Ordered at hb
  rw [hbuf] at hb ⊢
  intro x hx
  rcases List.mem_append.mp hx with hx | hx
  · exact ((List.pairwise_append.mp hb).2.2 x hx back List.mem_cons_self).le
  · rw [List.mem_singleton.mp hx]

/-- **What a push does to the order.** It is lost exactly by a snapshot that is not newer
    than the back, and close enough to it for the back to stay. -/
theorem push_ordered_iff {F : Type} [Field F] [LinearOrder F] [IsStrictOrderedRing F]
    {b : ResidualBuffer F} (hb : b.Ordered) (hcap : 2 ≤ b.capacity)
    (s : NavStateSnapshot F) : (b.push s).Ordered ↔
      ∀ last ∈ b.latest, ¬ (s.monoSecs ≤ last ∧ s.monoSecs - last ≤ b.windowSecs) := by
  have hsuffix := b.push_suffix s
  rcases List.eq_nil_or_concat' b.buf with hnil | ⟨init, back, hbuf⟩
  · rw [hnil] at hsuffix
    refine iff_of_true ((List.pairwise_singleton _ s).sublist hsuffix.sublist) ?_
    simp [latest, hnil]
  have hlast : b.latest = some back.monoSecs := by simp [latest, hbuf]
  have hle := hb.le_last hbuf
  rw [hlast]
  simp only [Option.mem_some_iff, forall_eq']
  constructor
  · rintro hpush ⟨hold, hnear⟩
    -- the back is within the window, so it and the new snapshot both stay
    have hkept : [back, s] <:+ (b.push s).buf := by
      have hwindow : [back, s] <:+ (b.buf ++ [s]).dropWhile
          fun front => decide (s.monoSecs - front.monoSecs > b.windowSecs) := by
        rw [hbuf, List.append_assoc]
        apply dropWhile_keeps
        simpa using hnear
      have hlength := hwindow.length_le
      refine List.suffix_of_suffix_length_le hwindow (List.drop_suffix _ _) ?_
      unfold push
      dsimp only [List.length_cons, List.length_nil] at hlength ⊢
      rw [List.length_drop]
      omega
    have hpair := hpush.sublist hkept.sublist
    exact absurd (List.pairwise_cons.mp hpair |>.1 s List.mem_cons_self) (not_lt.mpr hold)
  · intro hno
    by_cases hnew : back.monoSecs < s.monoSecs
    · refine List.Pairwise.sublist hsuffix.sublist (List.pairwise_append.mpr
        ⟨hb, List.pairwise_singleton _ _, fun x hx y hy => ?_⟩)
      rw [List.mem_singleton.mp hy]
      exact (hle x hx).trans_lt hnew
    · -- far behind the back: the window drops everything
      have hfar : b.windowSecs < s.monoSecs - back.monoSecs := by
        by_contra hnear
        exact hno ⟨not_lt.mp hnew, not_lt.mp hnear⟩
      have hempty : (b.push s).buf = [] := by
        unfold push
        dsimp only
        rw [List.dropWhile_eq_nil_iff.mpr, List.drop_nil]
        intro x hx
        refine decide_eq_true ?_
        rcases List.mem_append.mp hx with hx | hx
        · have hx := hle x hx
          linarith
        · rw [List.mem_singleton.mp hx]
          linarith [not_lt.mp hnew]
      unfold Ordered
      rw [hempty]
      exact .nil

end Exact

end ResidualBuffer

/-! ## What a step does to the buffer -/

namespace Fusion

section Model

variable {α : Type} [Zero α] [One α] [Neg α] [Add α] [Sub α] [Mul α] [Div α] [NatCast α]
  [OfScientific α] [LT α] [LE α] [DecidableLT α] [DecidableLE α] [BEq α] [Max α] [Min α]
  [Libm α] [FiniteTest α]

theorem Decision.buffer {f f' : Fusion α} {env : Env α} {fix : GpsFix α}
    {gpsNed : NedPos α} {t : α} {r : Residual α} {out : List (Output α)}
    (h : Decision f env fix gpsNed t r f' out) :
    f'.buffer = if f.fsm.state = .suspicious ∧ f'.fsm.state = .normal then f.buffer.clear
      else f.buffer := by
  have hpre := assessed_state f fix t r
  have hblend : ∀ g : Fusion α, (g.finalBlend fix).buffer = g.buffer := by
    intro g
    obtain ⟨_, h⟩ := finalBlend_eq g fix
    rw [h]
  cases h with
  | latched hs =>
    rw [if_neg fun h => absurd (hs.symm.trans h.1) (by simp)]
  | @settled m hs ha =>
    rw [hblend, finalBlend_fsm, if_neg (no_clear (ha.silent.trans hpre))]
  | @opened m ha =>
    rw [if_neg fun h => absurd (ha.transitioned.2.symm.trans h.2) (by simp)]
  | @escalated m g ha hg =>
    -- the actions and the dump touch no buffer but the forensic one
    obtain ⟨_, ho⟩ := onSpoofed_state g env fix r .suspicious
    rw [ho, hg, if_neg fun h => absurd (ha.transitioned.2.symm.trans h.2) (by simp)]
  | @vetoed m distance ha _ =>
    refine (if_neg fun h => ?_).symm
    have hveto := StateMachine.forceBackToSuspicious_eq ha.transitioned.2 t f.fsm.suspiciousSince
    have hn := h.2
    change (m.forceBackToSuspicious t f.fsm.suspiciousSince).state = .normal at hn
    rw [hveto] at hn
    exact absurd hn (by simp)
  | @cleared m ha _ =>
    obtain ⟨hs, hm⟩ := ha.transitioned
    rw [hblend, finalBlend_fsm, if_pos ⟨hpre.symm.trans hs, hm⟩]
    rfl

/-- A fix leaves the buffer alone, but for a committed clear, which empties it. -/
theorem FixPath.buffer {f f' : Fusion α} {env : Env α} {fix : GpsFix α}
    {out : List (Output α)} (h : FixPath f env fix f' out) :
    f'.buffer = if f.fsm.state = .suspicious ∧ f'.fsm.state = .normal then f.buffer.clear
      else f.buffer := by
  cases h with
  | rejected => rw [if_neg (no_clear rfl)]
  | first =>
    obtain ⟨_, _, _, h⟩ := refreshPreflight_eq
      { f with
        nav := f.nav.onGpsFix fix
        checklist := { f.checklist with firstFixAccepted := true } } env fix.t
    rw [h, if_neg (no_clear rfl)]
  | preflight =>
    obtain ⟨_, _, _, h⟩ := refreshPreflight_eq f env fix.t
    obtain ⟨_, _, h'⟩ := preflightAnchor_eq (f.refreshPreflight env fix.t).1 fix
    unfold onPreflightFix
    rw [andThen_fst, h', h, if_neg (no_clear rfl)]
  | @skipped g out e _ _ hg =>
    refine ((if_neg (no_clear ?_)).trans hg.tracked.buffer.symm).symm
    exact hg.tracked.fsm.state_eq
  | @evaluated g out gpsNed r f' out' _ _ hg _ _ hd =>
    rw [hd.buffer, hg.tracked.buffer, hg.tracked.fsm.state_eq]

variable [Nalgebra α]

/-- The snapshot a sample leaves, if it is integrated. -/
def snapshotOf (f : Fusion α) (sample : ImuSample α) : Option (NavStateSnapshot α) :=
  (f.nav.integrates sample).map fun _ =>
    ⟨f.nav.monoSecs sample.t.mono, (f.nav.step sample).1.strapdown.pos,
      (f.nav.step sample).1.strapdown.vel⟩

theorem onImu_buffer {α : Type} [Zero α] [One α] [Neg α] [Add α] [Sub α] [Mul α] [Div α] [NatCast α]
    [OfScientific α] [LT α] [LE α] [DecidableLT α] [DecidableLE α] [Max α] [Libm α] [FiniteTest α]
    [Nalgebra α] (f : Fusion α) (sample : ImuSample α) :
    (f.onImu sample).buffer =
      match f.snapshotOf sample with
      | some snap => f.buffer.push snap
      | none => f.buffer := by
  have hstep := DeadReckoner.step_stepped f.nav sample
  unfold onImu snapshotOf
  dsimp only
  generalize (f.nav.step sample).1 = nav at hstep ⊢
  generalize (f.nav.step sample).2 = answer at hstep ⊢
  cases hstep with
  | skipped hi _ _ _ _ ha =>
    rw [hi]
    split
    · rename_i snap
      exact absurd rfl (ha snap)
    · rfl
  | integrated hi hs =>
    rw [hi]
    rfl

/-- A reset and the end of a background task leave the buffer alone. -/
theorem step_buffer_kept (f : Fusion α) {i : Input α} (hgps : ¬ ∃ fix env, i = .gps fix env)
    (himu : ¬ ∃ sample, i = .imu sample) : (f.step i).1.buffer = f.buffer := by
  cases i with
  | imu sample => exact absurd ⟨sample, rfl⟩ himu
  | gps fix env => exact absurd ⟨fix, env, rfl⟩ hgps
  | reset now => rfl
  | background now done =>
    obtain ⟨_, hb⟩ := onBackground_eq f now done
    show (f.onBackground now done).1.buffer = f.buffer
    rw [hb]

/-! ## Order -/

/-- The sample is integrated although it is not newer than the back of the buffer, and near
    enough to it for the back to stay in the window. -/
def PushesBehind (f : Fusion α) : Input α → Prop
  | .imu sample =>
    f.nav.integrates sample ≠ none ∧
      ∃ last ∈ f.buffer.latest, f.nav.monoSecs sample.t.mono ≤ last ∧
        f.nav.monoSecs sample.t.mono - last ≤ f.buffer.windowSecs
  | _ => False

instance [DecidableEq α] (f : Fusion α) (i : Input α) : Decidable (PushesBehind f i) :=
  match i with
  | .imu sample =>
    inferInstanceAs (Decidable (f.nav.integrates sample ≠ none ∧ ∃ last ∈ f.buffer.latest, _ ∧ _))
  | .gps _ _ | .reset _ | .background _ _ => .isFalse id

theorem Built.capacity {α : Type} [Zero α] [One α] [Mul α] [OfScientific α] [Libm α]
    {c : FusionConfig α} {boot : Instant} {f : Fusion α}
    (h : Built c boot f) : 2 ≤ f.buffer.capacity ∧ f.buffer.buf = [] := by
  induction h with
  | new => exact ⟨(by decide : 2 ≤ 4).trans (Nat.le_add_left _ _), rfl⟩
  | withMavMonitor _ _ ih => exact ih
  | withForensic _ _ _ ih => exact ih

theorem step_capacity (f : Fusion α) (i : Input α) :
    (f.step i).1.buffer.capacity = f.buffer.capacity := by
  by_cases hgps : ∃ fix env, i = .gps fix env
  · obtain ⟨fix, env, rfl⟩ := hgps
    show (f.onGps env fix).1.buffer.capacity = _
    rw [(onGps_path f env fix).buffer]
    split <;> rfl
  · by_cases himu : ∃ sample, i = .imu sample
    · obtain ⟨sample, rfl⟩ := himu
      show (f.onImu sample).buffer.capacity = _
      rw [onImu_buffer]
      split
      · exact ResidualBuffer.push_capacity _ _
      · rfl
    · rw [step_buffer_kept f hgps himu]

end Model

section Order

variable {F : Type} [Field F] [LinearOrder F] [IsStrictOrderedRing F] [Libm F] [Nalgebra F]

theorem ordered_step {f : Fusion F} (hcap : 2 ≤ f.buffer.capacity) (h : f.buffer.Ordered)
    (i : Input F) : (f.step i).1.buffer.Ordered ↔ ¬ PushesBehind f i := by
  by_cases hgps : ∃ fix env, i = .gps fix env
  · obtain ⟨fix, env, rfl⟩ := hgps
    refine iff_of_true ?_ not_false
    show (f.onGps env fix).1.buffer.Ordered
    rw [(onGps_path f env fix).buffer]
    split
    · exact .nil
    · exact h
  · by_cases himu : ∃ sample, i = .imu sample
    · obtain ⟨sample, rfl⟩ := himu
      show (f.onImu sample).buffer.Ordered ↔ _
      rw [onImu_buffer]
      unfold snapshotOf PushesBehind
      dsimp only
      cases hi : f.nav.integrates sample with
      | none => exact iff_of_true h fun hp => hp.1 rfl
      | some dt =>
        refine (ResidualBuffer.push_ordered_iff h hcap _).trans ?_
        constructor
        · rintro hno ⟨-, last, hl, hbehind⟩
          exact hno last hl hbehind
        · intro hno last hl hbehind
          exact hno ⟨by simp, last, hl, hbehind⟩
    · rw [step_buffer_kept f hgps himu]
      refine iff_of_true h ?_
      unfold PushesBehind
      split
      · rename_i sample
        exact absurd ⟨sample, rfl⟩ himu
      · exact id

/-- **When the buffer is in order.** Along every run from boot, the snapshots are strictly
    newer from front to back in every state reached if and only if no sample is integrated
    behind the back of the buffer. -/
theorem ordered_iff {c : FusionConfig F} {boot : Instant} {f : Fusion F}
    (hf : Built c boot f) (is : List (Input F)) :
    (∀ pre post, is = pre ++ post → (run step f pre).buffer.Ordered) ↔
      Along step (fun f i => ¬ PushesBehind f i) f is := by
  obtain ⟨hcap, hempty⟩ := hf.capacity
  have hstart : f.buffer.Ordered := by
    unfold ResidualBuffer.Ordered
    rw [hempty]
    exact .nil
  exact reached_iff_along_all (J := fun f : Fusion F => 2 ≤ f.buffer.capacity)
    (fun f i hc => by rw [step_capacity]; exact hc) (fun f i hc h => ordered_step hc h i)
    hcap hstart

end Order

/-- Anchored, then two samples, one 50 ms back, which is skipped, and one 10 ms after it. -/
def regressing : List (Input ℚ) :=
  samples [0, 10, 20, 30, 40, 50, 60, 70, 80, 90] ++ fixes quietEnv [(95, 0)] ++
    samples [100, 110, 60, 70]

/-- The buffer then holds the snapshots of 100, 110 and 70 ms, in this order. -/
theorem regression_unorders :
    ¬ ∀ pre post, regressing = pre ++ post →
      (run step (Fusion.new quickCfg 0) pre).buffer.Ordered := by
  intro h
  have hlast : ¬ (run step (Fusion.new quickCfg 0) regressing).buffer.Ordered := by
    decide +kernel
  exact hlast (h regressing [] (List.append_nil _).symm)

/-- Anchored, then two samples, and two more after a gap. -/
def gapped : List (Input ℚ) :=
  samples [0, 10, 20, 30, 40, 50, 60, 70, 80, 90] ++ fixes quietEnv [(95, 0)] ++
    samples [100, 110, 400, 410]

/-- Without the step back the buffer stays in order, also across a gap. -/
theorem ordered_across_gap : (run step (Fusion.new quickCfg 0) gapped).buffer.Ordered :=
  (ordered_iff (.new : Built quickCfg 0 _) gapped).mpr (by decide +kernel) gapped []
    (List.append_nil _).symm

/-! ## The frame -/

section Frame

variable {α : Type} [Zero α] [One α] [Neg α] [Add α] [Sub α] [Mul α] [Div α] [NatCast α]
  [OfScientific α] [LT α] [LE α] [DecidableLT α] [DecidableLE α] [BEq α] [Max α] [Min α]
  [Libm α] [FiniteTest α] [Nalgebra α] [DecidableEq α]

/-- The snapshots produced since a fix last moved the origin or the position. -/
def trackFrame (since : List (NavStateSnapshot α)) (f : Fusion α) (i : Input α)
    (f' : Fusion α) : List (NavStateSnapshot α) :=
  match i with
  | .imu sample => since ++ (f.snapshotOf sample).toList
  | .gps _ _ =>
    if f'.nav.origin = f.nav.origin ∧ f'.nav.drPos = f.nav.drPos then since else []
  | _ => since

/-- The task with the snapshots of the frame there is. -/
def framedStep : Fusion α × List (NavStateSnapshot α) → Input α →
    (Fusion α × List (NavStateSnapshot α)) × List (Output α) :=
  ghost step trackFrame

/-- The buffer holds the latest of the snapshots of this frame, and no others. -/
def OneFrame (x : Fusion α × List (NavStateSnapshot α)) : Prop := x.1.buffer.buf <:+ x.2

/-- The fix re-anchors, without a clear and away from where the anchor is, with snapshots in
    the buffer. -/
def MixesFrames (f : Fusion α) (i : Input α) : Prop :=
  MovesSilently f i ∧ f.buffer.isEmpty = false

instance (f : Fusion α) (i : Input α) : Decidable (MixesFrames f i) :=
  inferInstanceAs (Decidable (_ ∧ _))

/-- From boot on, there are no snapshots without an origin. -/
def Placed (f : Fusion α) : Prop := f.nav.origin = none → f.buffer.buf = []

theorem Placed.step {α : Type} [Zero α] [One α] [Neg α] [Add α] [Sub α] [Mul α] [Div α] [NatCast α]
    [OfScientific α] [LT α] [LE α] [DecidableLT α] [DecidableLE α] [BEq α] [Max α] [Min α] [Libm α]
    [FiniteTest α] [Nalgebra α]
    {f : Fusion α} (h : Placed f) (i : Input α) : Placed (f.step i).1 := by
  by_cases hgps : ∃ fix env, i = .gps fix env
  · obtain ⟨fix, env, rfl⟩ := hgps
    intro ho
    change (f.onGps env fix).1.nav.origin = none at ho
    show (f.onGps env fix).1.buffer.buf = []
    have hmove := (onGps_path f env fix).anchor
    rw [(onGps_path f env fix).buffer]
    generalize (f.onGps env fix).1 = f' at hmove ho ⊢
    split
    · rfl
    · cases hmove with
      | kept _ hk => exact h (hk.origin.symm.trans ho)
      | first ho' => exact h ho'
      | reAnchored _ ho' => exact absurd (ho'.symm.trans ho) (by simp)
      | cleared _ _ _ ho' => exact absurd (ho'.symm.trans ho) (by simp)
  · intro ho
    rw [(f.step_still hgps).1.origin] at ho
    by_cases himu : ∃ sample, i = .imu sample
    · obtain ⟨sample, rfl⟩ := himu
      have hno : f.snapshotOf sample = none := by
        simp [snapshotOf, DeadReckoner.integrates, DeadReckoner.isInitialized, ho]
      show (f.onImu sample).buffer.buf = []
      rw [onImu_buffer, hno]
      exact h ho
    · rw [step_buffer_kept f hgps himu]
      exact h ho

theorem oneFrame_gps {f : Fusion α} {since : List (NavStateSnapshot α)} (hp : Placed f)
    (h : OneFrame (f, since)) (fix : GpsFix α) (env : Env α) :
    OneFrame (framedStep (f, since) (.gps fix env)).1 ↔ ¬ MixesFrames f (.gps fix env) := by
  show OneFrame ((f.onGps env fix).1, trackFrame since f (.gps fix env) (f.onGps env fix).1) ↔
    ¬ ((f.reAnchors fix = true ∧
      ¬ (f.nav.origin = some fix.coords ∧ f.nav.drPos = NedPos.default)) ∧
      f.buffer.isEmpty = false)
  unfold OneFrame trackFrame
  dsimp only
  have hmove := (onGps_path f env fix).anchor
  rw [(onGps_path f env fix).buffer]
  generalize (f.onGps env fix).1 = f' at hmove ⊢
  cases hmove with
  | kept hr hk hpos hc =>
    rw [if_neg hc, if_pos ⟨hk.origin, hpos⟩]
    exact iff_of_true h fun hm => absurd (hr.symm.trans hm.1.1) (by simp)
  | first ho _ _ hs =>
    rw [if_neg (no_clear hs), hp ho]
    refine iff_of_true (List.nil_suffix) fun hm => ?_
    simp [reAnchors, ho] at hm
  | cleared hr hs hs' =>
    rw [if_pos ⟨hs, hs'⟩]
    exact iff_of_true List.nil_suffix fun hm => absurd (hr.symm.trans hm.1.1) (by simp)
  | reAnchored hr ho hpos _ hc =>
    rw [if_neg hc, ho, hpos]
    by_cases hat : f.nav.origin = some fix.coords ∧ f.nav.drPos = NedPos.default
    · rw [if_pos ⟨hat.1.symm, hat.2.symm⟩]
      exact iff_of_true h fun hm => hm.1.2 hat
    · rw [if_neg fun he => hat ⟨he.1.symm, he.2.symm⟩, List.suffix_nil]
      unfold ResidualBuffer.isEmpty
      rw [← List.isEmpty_iff]
      cases f.buffer.buf.isEmpty with
      | true => simp
      | false => simp [hr, hat]

theorem oneFrame_step {x : Fusion α × List (NavStateSnapshot α)} (hp : Placed x.1)
    (h : OneFrame x) (i : Input α) : OneFrame (framedStep x i).1 ↔ ¬ MixesFrames x.1 i := by
  obtain ⟨f, since⟩ := x
  by_cases hgps : ∃ fix env, i = .gps fix env
  · obtain ⟨fix, env, rfl⟩ := hgps
    exact oneFrame_gps hp h fix env
  have hmoves : ¬ MixesFrames f i := by
    rintro ⟨hm, -⟩
    unfold MovesSilently at hm
    split at hm
    · rename_i fix env
      exact hgps ⟨fix, env, rfl⟩
    · exact hm
  refine iff_of_true ?_ hmoves
  by_cases himu : ∃ sample, i = .imu sample
  · obtain ⟨sample, rfl⟩ := himu
    show (f.onImu sample).buffer.buf <:+ since ++ (f.snapshotOf sample).toList
    rw [onImu_buffer]
    cases f.snapshotOf sample with
    | none =>
      rw [Option.toList_none, List.append_nil]
      exact h
    | some snap =>
      obtain ⟨older, hsince⟩ := h
      refine (ResidualBuffer.push_suffix f.buffer snap).trans ⟨older, ?_⟩
      rw [← List.append_assoc, hsince]
      rfl
  · have hkept : trackFrame since f i (f.step i).1 = since := by
      unfold trackFrame
      split
      · rename_i sample
        exact absurd ⟨sample, rfl⟩ himu
      · rename_i fix env
        exact absurd ⟨fix, env, rfl⟩ hgps
      · rfl
    show (f.step i).1.buffer.buf <:+ trackFrame since f i (f.step i).1
    rw [step_buffer_kept f hgps himu, hkept]
    exact h

/-- **When the buffer is of one frame.** Along every run from boot, all snapshots held were
    produced since a fix last moved the origin, in every state reached, if and only if no fix
    re-anchors silently with snapshots in the buffer. -/
theorem oneFrame_iff {c : FusionConfig α} {boot : Instant} {f : Fusion α}
    (hf : Built c boot f) (is : List (Input α)) :
    (∀ pre post, is = pre ++ post → OneFrame (run framedStep (f, []) pre)) ↔
      Along step (fun f i => ¬ MixesFrames f i) f is := by
  have hghost : Along framedStep (fun x i => ¬ MixesFrames x.1 i) (f, []) is ↔
      Along step (fun f i => ¬ MixesFrames f i) f is :=
    along_ghost (P := fun f i => ¬ MixesFrames f i) (f, []) is
  rw [← hghost]
  have hempty : f.buffer.buf = [] := hf.capacity.2
  have hstart : OneFrame (f, []) := by
    show f.buffer.buf <:+ []
    exact ⟨[], hempty⟩
  exact reached_iff_along_all
    (J := fun x : Fusion α × List (NavStateSnapshot α) => Placed x.1)
    (fun x i hp => hp.step i) (fun x i hp h => oneFrame_step hp h i) (fun _ => hempty) hstart

end Frame

/-- A first fix during initialisation, samples until there is a snapshot, and a fix a degree
    away and too late for the buffer. -/
def lateFarFix : List (Input ℚ) :=
  fixes quietEnv [(5, 0)] ++ samples [10, 20, 30, 40, 50, 60, 70, 80, 90, 100, 110] ++
    fixes quietEnv [(500, 1)]

/-- The fix becomes the origin, and the snapshot from before stays. -/
theorem late_far_fix_mixes :
    quickCfg.validate = .ok () ∧
    ¬ ∀ pre post, lateFarFix = pre ++ post →
      OneFrame (run framedStep (Fusion.new quickCfg 0, []) pre) := by
  refine ⟨runChecks_ok.mpr (by decide +kernel), fun h => ?_⟩
  have hlast := (h lateFarFix [] (List.append_nil _).symm).length_le
  exact absurd hlast (by decide +kernel)

/-- A first fix after initialisation locks, and the frame stays. -/
theorem oneFrame_locked :
    OneFrame (run framedStep (Fusion.new quickCfg 0, []) (arming ++ fixes quietEnv [(500, 1)])) :=
  (oneFrame_iff (.new : Built quickCfg 0 _) _).mpr (by decide +kernel) _ []
    (List.append_nil _).symm

end Fusion

end FlyingSquirrel

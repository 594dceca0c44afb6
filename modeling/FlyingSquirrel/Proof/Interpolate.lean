import FlyingSquirrel.Lib.Polyline
import FlyingSquirrel.Proof.Buffer

/-!
# What the residual buffer answers

Fed snapshots in order, the buffer holds an end of them, **the longest that its capacity and its
window allow**, and `interpolate` reads a curve off what it holds: one polyline for each of the
six components, level before the first snapshot, and going on after the last with the velocity
that snapshot has.

Both are stated without the buffer's own loops. `LongestSuffix` says what is held, and
`reference` is the curve of `Lib.Polyline` through it.
-/

set_option autoImplicit false

namespace FlyingSquirrel

open Lib

namespace ResidualBuffer

variable {F : Type} [Field F] [LinearOrder F]

/-! ## What is held -/

/-- `ys` ends `xs`, meets `P`, and is the longest end of `xs` that does. -/
structure LongestSuffix {β : Type} (P : List β → Prop) (ys xs : List β) : Prop where
  suffix : ys <:+ xs
  meets : P ys
  longest : ∀ zs, zs <:+ xs → P zs → zs <:+ ys

/-- No more than the capacity, and nothing older than the window behind the newest snapshot. -/
def Fits (b : ResidualBuffer F) (newest : Option (NavStateSnapshot F))
    (held : List (NavStateSnapshot F)) : Prop :=
  held.length ≤ b.capacity ∧
    ∀ last ∈ newest, ∀ s ∈ held, last.monoSecs - s.monoSecs ≤ b.windowSecs

def InOrder (snaps : List (NavStateSnapshot F)) : Prop :=
  snaps.Pairwise fun s s' => s.monoSecs < s'.monoSecs

theorem inOrder_snoc {F : Type} [LinearOrder F]
    {snaps : List (NavStateSnapshot F)} {s : NavStateSnapshot F}
    (h : InOrder (snaps ++ [s])) : InOrder snaps ∧ ∀ x ∈ snaps, x.monoSecs < s.monoSecs := by
  obtain ⟨hinit, -, hlast⟩ := List.pairwise_append.mp h
  exact ⟨hinit, fun x hx => hlast x hx s List.mem_cons_self⟩

variable [IsStrictOrderedRing F]

/-- In order, everything behind a snapshot within the window is within it too. -/
theorem window_of_head {latest w : F} {x : NavStateSnapshot F} {xs : List (NavStateSnapshot F)}
    (hs : InOrder (x :: xs)) (hx : latest - x.monoSecs ≤ w) :
    ∀ y ∈ x :: xs, latest - y.monoSecs ≤ w := by
  intro y hy
  rcases List.mem_cons.mp hy with rfl | hy
  · exact hx
  · have hnewer := (List.pairwise_cons.mp hs).1 y hy
    linarith

/-- The window trim leaves nothing outside the window. -/
theorem dropWhile_window {latest w : F} {xs : List (NavStateSnapshot F)} (hs : InOrder xs) :
    ∀ y ∈ xs.dropWhile fun front => decide (latest - front.monoSecs > w),
      latest - y.monoSecs ≤ w := by
  have hdropped : InOrder (xs.dropWhile fun front => decide (latest - front.monoSecs > w)) :=
    hs.sublist (List.dropWhile_suffix _).sublist
  cases hd : xs.dropWhile fun front => decide (latest - front.monoSecs > w) with
  | nil => simp
  | cons x rest =>
    have hhead := List.head_dropWhile_not (l := xs)
      (fun front => decide (latest - front.monoSecs > w)) (by simp [hd])
    simp only [hd, List.head_cons, decide_eq_false_iff_not, not_lt] at hhead
    rw [hd] at hdropped
    exact window_of_head hdropped hhead

/-- **A push keeps the longest end.** -/
theorem push_longest {b : ResidualBuffer F} {snaps : List (NavStateSnapshot F)}
    {s : NavStateSnapshot F} (hs : InOrder (snaps ++ [s]))
    (h : LongestSuffix (b.Fits snaps.getLast?) b.buf snaps) :
    LongestSuffix (b.Fits (snaps ++ [s]).getLast?) (b.push s).buf (snaps ++ [s]) := by
  obtain ⟨hsnaps, hnewer⟩ := inOrder_snoc hs
  have hall : b.buf ++ [s] <:+ snaps ++ [s] := (List.suffix_append_inj_of_length_eq rfl).mpr
    ⟨h.suffix, rfl⟩
  have hin : InOrder (b.buf ++ [s]) := hs.sublist hall.sublist
  refine ⟨(b.push_suffix s).trans hall, ⟨?_, ?_⟩, ?_⟩
  · unfold push
    rw [List.length_drop]
    omega
  · intro last hlast x hx
    obtain rfl : s = last := by simpa using hlast
    exact dropWhile_window hin x ((List.drop_suffix _ _).subset hx)
  · rintro zs hzs ⟨hcap, hwindow⟩
    -- without the new snapshot, such an end was already allowed before the push
    rcases List.suffix_concat_iff.mp hzs with rfl | ⟨init, rfl, hinit⟩
    · exact List.nil_suffix
    have hbefore : b.Fits snaps.getLast? init := by
      refine ⟨by simp at hcap; omega, fun last hlast x hx => ?_⟩
      have hlast' := hnewer last (List.mem_of_getLast? hlast)
      have hx' := hwindow s (by simp) x (List.mem_append_left _ hx)
      linarith
    have hbuf : init ++ [s] <:+ b.buf ++ [s] := (List.suffix_append_inj_of_length_eq rfl).mpr
      ⟨h.longest init hinit hbefore, rfl⟩
    have hkept : init ++ [s] <:+ (b.buf ++ [s]).dropWhile
        fun front => decide (s.monoSecs - front.monoSecs > b.windowSecs) := by
      obtain ⟨dropped, hsplit⟩ := hbuf
      rw [← hsplit]
      cases hz : init ++ [s] with
      | nil => exact List.nil_suffix
      | cons x rest =>
        rw [hz] at hwindow
        apply dropWhile_keeps
        simpa using hwindow s (by simp) x List.mem_cons_self
    have hlen := hkept.length_le
    refine List.suffix_of_suffix_length_le hkept (List.drop_suffix _ _) ?_
    unfold push
    rw [List.length_drop]
    omega

/-- What a sequence of pushes leaves of the configuration. -/
theorem foldl_push_cfg {F : Type} [Field F] [LinearOrder F]
    (b : ResidualBuffer F) (snaps : List (NavStateSnapshot F)) :
    (snaps.foldl push b).capacity = b.capacity ∧ (snaps.foldl push b).windowSecs = b.windowSecs ∧
      (snaps.foldl push b).maxExtrapolationS = b.maxExtrapolationS := by
  induction snaps generalizing b with
  | nil => exact ⟨rfl, rfl, rfl⟩
  | cons s rest ih => exact ih (b.push s)

theorem foldl_push_longest {b : ResidualBuffer F} (hempty : b.buf = [])
    {snaps : List (NavStateSnapshot F)} (hs : InOrder snaps) :
    LongestSuffix (b.Fits snaps.getLast?) (snaps.foldl push b).buf snaps := by
  induction snaps using List.reverseRecOn with
  | nil =>
    rw [List.foldl_nil, hempty]
    exact ⟨List.nil_suffix, ⟨Nat.zero_le _, by simp⟩, fun zs hzs _ => hzs⟩
  | append_singleton init s ih =>
    obtain ⟨hcap, hwindow, -⟩ := foldl_push_cfg b init
    have hfits : ∀ newest, (init.foldl push b).Fits newest = b.Fits newest := by
      intro newest
      unfold Fits
      rw [hcap, hwindow]
    have hpush := push_longest hs (by rw [hfits]; exact ih (inOrder_snoc hs).1)
    rw [hfits] at hpush
    rw [List.foldl_append]
    exact hpush

/-! ## The curve through it -/

/-- One component over time: the polyline through what is held, going on at the rate the last
    snapshot gives. -/
def curve (held : List (NavStateSnapshot F)) (value rate : NavStateSnapshot F → F) (t : F) : F :=
  polyline ((held.getLast?.map rate).getD 0) (held.map fun s => (s.monoSecs, value s)) t

/-- Position and velocity over time. Position goes on at the last velocity, and velocity
    stays. -/
def reference (held : List (NavStateSnapshot F)) (t : F) : NedPos F × NedVel F :=
  (⟨curve held (·.pos.n) (·.vel.n) t, curve held (·.pos.e) (·.vel.e) t,
    curve held (·.pos.d) (·.vel.d) t⟩,
   ⟨curve held (·.vel.n) (fun _ => 0) t, curve held (·.vel.e) (fun _ => 0) t,
    curve held (·.vel.d) (fun _ => 0) t⟩)

section Curve

variable {held : List (NavStateSnapshot F)} {value rate : NavStateSnapshot F → F} {t : F}

theorem curve_isPolyline {F : Type} [Field F] [LinearOrder F] {held : List (NavStateSnapshot F)}
    {value rate : NavStateSnapshot F → F} (hs : InOrder held) :
    IsPolyline ((held.getLast?.map rate).getD 0) (held.map fun s => (s.monoSecs, value s))
      (curve held value rate) :=
  polyline_isPolyline (List.pairwise_map.mpr hs)

section

omit [IsStrictOrderedRing F]

theorem curve_before (hs : InOrder held) {front : NavStateSnapshot F}
    (hf : held.head? = some front) (ht : t ≤ front.monoSecs) :
    curve held value rate t = value front :=
  (curve_isPolyline hs).before (front.monoSecs, value front) (by simp [hf]) t ht

theorem curve_between (hs : InOrder held) {x y : NavStateSnapshot F} (hxy : [x, y] <:+: held)
    (hx : x.monoSecs ≤ t) (hy : t ≤ y.monoSecs) :
    curve held value rate t =
      value x + (t - x.monoSecs) / (y.monoSecs - x.monoSecs) * (value y - value x) :=
  (curve_isPolyline hs).between (x.monoSecs, value x) (y.monoSecs, value y)
    (hxy.map fun s : NavStateSnapshot F => (s.monoSecs, value s)) t hx hy

theorem curve_after (hs : InOrder held) {back : NavStateSnapshot F}
    (hb : held.getLast? = some back) (ht : back.monoSecs ≤ t) :
    curve held value rate t = value back + rate back * (t - back.monoSecs) := by
  have hpolyline : IsPolyline ((held.getLast?.map rate).getD 0)
      (held.map fun s => (s.monoSecs, value s)) (curve held value rate) := curve_isPolyline hs
  have h := hpolyline.after
    (back.monoSecs, value back) (by simp [hb]) t ht
  simpa [hb] using h

theorem curve_at_sample (hs : InOrder held) {s : NavStateSnapshot F} (hmem : s ∈ held) :
    curve held value rate s.monoSecs = value s :=
  (curve_isPolyline hs).at_knot (List.pairwise_map.mpr hs) (List.mem_map_of_mem hmem)

end

/-- **The curve goes through the snapshots.** -/
theorem reference_at_sample {F : Type} [Field F] [LinearOrder F] {held : List (NavStateSnapshot F)}
    (hs : InOrder held) {s : NavStateSnapshot F} (hmem : s ∈ held) :
    reference held s.monoSecs = (s.pos, s.vel) := by
  unfold reference
  simp only [curve_at_sample hs hmem]

end Curve

/-! ## The scan -/

/-- The bracket of a time inside is two neighbours, one before it and one not. -/
theorem bracket_spec {F : Type} [LinearOrder F]
    {t : F} : ∀ {prev : NavStateSnapshot F} {rest : List (NavStateSnapshot F)},
    prev.monoSecs < t → (∃ s ∈ rest, t ≤ s.monoSecs) →
    [(bracket t prev rest).1, (bracket t prev rest).2] <:+: prev :: rest ∧
      (bracket t prev rest).1.monoSecs < t ∧ t ≤ (bracket t prev rest).2.monoSecs := by
  intro prev rest hprev hsome
  induction rest generalizing prev with
  | nil => simp at hsome
  | cons s rest ih =>
    unfold bracket
    split
    · rename_i hs
      exact ⟨⟨[], rest, rfl⟩, hprev, hs⟩
    · rename_i hs
      have hlater : ∃ x ∈ rest, t ≤ x.monoSecs := by
        obtain ⟨x, hx, htx⟩ := hsome
        rcases List.mem_cons.mp hx with rfl | hx
        · exact absurd htx hs
        · exact ⟨x, hx, htx⟩
      obtain ⟨hin, hb⟩ := ih (not_le.mp hs) hlater
      exact ⟨List.infix_cons hin, hb⟩

/-- The times that are served: up to 20 ms before the first snapshot, and up to the horizon
    after the last. -/
def InRange (b : ResidualBuffer F) (t : F) : Prop :=
  match b.buf.head?, b.buf.getLast? with
  | some first, some last =>
    first.monoSecs - 0.02 ≤ t ∧ t ≤ last.monoSecs + b.maxExtrapolationS
  | _, _ => False

instance (b : ResidualBuffer F) (t : F) : Decidable (b.InRange t) := by
  unfold InRange
  split <;> infer_instance

theorem inRange_iff {b : ResidualBuffer F} {t : F} : b.InRange t ↔
    ∃ first last, b.buf.head? = some first ∧ b.buf.getLast? = some last ∧
      first.monoSecs - 0.02 ≤ t ∧ t ≤ last.monoSecs + b.maxExtrapolationS := by
  unfold InRange
  cases b.buf.head? <;> cases b.buf.getLast? <;> simp

variable [Libm F]

/-- In order, a time inside its range is answered with the curve. -/
theorem interpolate_inRange {b : ResidualBuffer F} (hs : InOrder b.buf) {t : F}
    (ht : b.InRange t) : b.interpolate t = .ok (reference b.buf t) := by
  obtain ⟨front, back, hfront, hback, hfrom, hto⟩ := inRange_iff.mp ht
  unfold interpolate
  simp only [hfront, hback]
  rw [if_neg (by
    rintro (h | h)
    · exact absurd hfrom (not_le.mpr h)
    · exact absurd hto (not_le.mpr h))]
  split
  · rename_i hafter
    unfold reference
    simp only [curve_after hs hback hafter, extrapolate, zero_mul, add_zero]
  · rename_i hinside
    split
    · rename_i hbefore
      unfold reference
      simp only [curve_before hs hfront hbefore]
    · rename_i hlate
      obtain ⟨rest, hbuf⟩ := List.head?_eq_some_iff.mp hfront
      have hmem : back ∈ b.buf := List.mem_of_getLast? hback
      -- the scan starts at the front, which it passes over
      have hscan : bracket t front b.buf = bracket t front rest := by
        rw [hbuf, bracket, if_neg hlate]
      have hsome : ∃ s ∈ rest, t ≤ s.monoSecs := by
        rw [hbuf] at hmem
        rcases List.mem_cons.mp hmem with rfl | hmem
        · exact absurd (not_le.mp hlate).le hinside
        · exact ⟨back, hmem, (not_le.mp hinside).le⟩
      obtain ⟨hin, hlo, hhi⟩ := bracket_spec (not_le.mp hlate) hsome
      rw [← hbuf] at hin
      rw [hscan]
      generalize bracket t front rest = ends at hin hlo hhi ⊢
      obtain ⟨lo, hi⟩ := ends
      dsimp only at hin hlo hhi ⊢
      have hspan : 0 < hi.monoSecs - lo.monoSecs := sub_pos.mpr (hlo.trans_le hhi)
      have hratio : clamp ((t - lo.monoSecs) / (hi.monoSecs - lo.monoSecs)) 0 1 =
          (t - lo.monoSecs) / (hi.monoSecs - lo.monoSecs) := by
        unfold clamp
        rw [if_neg (not_lt.mpr (div_nonneg (sub_pos.mpr hlo).le hspan.le)),
          if_neg (not_lt.mpr ((div_le_one hspan).mpr (sub_le_sub_right hhi _)))]
      rw [if_neg (not_le.mpr hspan), hratio]
      unfold reference
      simp only [curve_between hs hin hlo.le hhi, lerp]

/-- Outside, whatever is held, the answer is an error. -/
theorem interpolate_outside {b : ResidualBuffer F} {t : F} (ht : ¬ b.InRange t) :
    ∃ e, b.interpolate t = .error e := by
  cases hi : b.interpolate t with
  | error e => exact ⟨e, rfl⟩
  | ok v =>
    have hok : (b.interpolate t).toBool = true := by rw [hi]; rfl
    obtain ⟨first, last, hf, hl, hinside⟩ := interpolate_ok_iff.mp hok
    obtain ⟨front, hfront, rfl⟩ := Option.map_eq_some_iff.mp hf
    obtain ⟨back, hback, rfl⟩ := Option.map_eq_some_iff.mp hl
    obtain ⟨hfrom, hto⟩ := not_or.mp hinside
    exact absurd (inRange_iff.mpr
      ⟨front, back, hfront, hback, not_lt.mp hfrom, not_lt.mp hto⟩) ht

/-- **The buffer answers with the curve through what it holds.** From empty, and fed snapshots
    in order, it holds the longest end of them that fits; the curve goes through what is held;
    and a time is answered with the curve where it is served, and with an error elsewhere. -/
theorem interpolate_reference {b : ResidualBuffer F} (hempty : b.buf = [])
    {snaps : List (NavStateSnapshot F)} (hs : InOrder snaps) :
    let fed := snaps.foldl push b
    LongestSuffix (b.Fits snaps.getLast?) fed.buf snaps ∧
      (∀ s ∈ fed.buf, reference fed.buf s.monoSecs = (s.pos, s.vel)) ∧
      ∀ t, (fed.InRange t → fed.interpolate t = .ok (reference fed.buf t)) ∧
        (¬ fed.InRange t → ∃ e, fed.interpolate t = .error e) := by
  intro fed
  have hheld : LongestSuffix (b.Fits snaps.getLast?) fed.buf snaps := foldl_push_longest hempty hs
  have hin : InOrder fed.buf := hs.sublist hheld.suffix.sublist
  exact ⟨hheld, fun s hmem => reference_at_sample hin hmem,
    fun t => ⟨interpolate_inRange hin, interpolate_outside⟩⟩

/-- Three snapshots half a second apart, moving north. -/
def moving : List (NavStateSnapshot ℚ) :=
  [⟨1, ⟨0, 0, 0⟩, ⟨8, 0, 0⟩⟩, ⟨1.5, ⟨4, 0, 0⟩, ⟨8, 0, 0⟩⟩, ⟨2, ⟨10, 0, 0⟩, ⟨16, 0, 0⟩⟩]

/-- In a window of 0.6 s, the last two are held, and a time between them is served. -/
theorem interpolate_reference_moving :
    (moving.foldl push (new 0.6 10)).interpolate 1.75 =
      .ok (reference (moving.foldl push (new 0.6 10)).buf 1.75) :=
  have hrange : (moving.foldl push (new 0.6 10)).InRange 1.75 := by decide +kernel
  have horder : InOrder moving := by unfold InOrder; decide +kernel
  ((interpolate_reference (b := new 0.6 10) rfl horder).2.2 1.75).1 hrange

end ResidualBuffer

end FlyingSquirrel

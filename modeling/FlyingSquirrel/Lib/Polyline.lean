import Mathlib.Algebra.Order.Field.Basic
import Mathlib.Tactic.Linarith

/-!
# Piecewise-linear curves

Nothing in this file knows about a program. A curve is given by its knots, which are times
and values in order, and by the slope it goes on with after the last one. It is **constant
before the first knot, straight from each knot to the next, and of the given slope after the
last**. `polyline` computes it, and `IsPolyline` says which curve it is.
-/

set_option autoImplicit false

namespace FlyingSquirrel
namespace Lib

variable {F : Type} [Field F] [LinearOrder F]

/-- The value at `t` on the line from the knot `a` to the knot `b`. -/
def segment (a b : F × F) (t : F) : F := a.2 + (t - a.1) / (b.1 - a.1) * (b.2 - a.2)

def polyline (slope : F) : List (F × F) → F → F
  | [], _ => 0
  | [k], t => k.2 + slope * (max t k.1 - k.1)
  | k :: k' :: rest, t =>
    if t < k'.1 then segment k k' (max t k.1) else polyline slope (k' :: rest) t

/-- What makes a function of time the curve through the knots. -/
structure IsPolyline (slope : F) (knots : List (F × F)) (curve : F → F) : Prop where
  before : ∀ k ∈ knots.head?, ∀ t, t ≤ k.1 → curve t = k.2
  between : ∀ a b, [a, b] <:+: knots → ∀ t, a.1 ≤ t → t ≤ b.1 → curve t = segment a b t
  after : ∀ k ∈ knots.getLast?, ∀ t, k.1 ≤ t → curve t = k.2 + slope * (t - k.1)

@[simp] theorem segment_start {F : Type} [Field F] (a b : F × F) : segment a b a.1 = a.2 := by
  simp [segment]

theorem segment_end {a b : F × F} (h : a.1 < b.1) : segment a b b.1 = b.2 := by
  have hspan : b.1 - a.1 ≠ 0 := sub_ne_zero.mpr h.ne'
  rw [segment, div_self hspan, one_mul]
  exact add_sub_cancel a.2 b.2

variable {slope : F} {knots : List (F × F)}

theorem polyline_before {k : F × F} {rest : List (F × F)}
    (hs : (k :: rest).Pairwise fun a b => a.1 < b.1) {t : F} (ht : t ≤ k.1) :
    polyline slope (k :: rest) t = k.2 := by
  cases rest with
  | nil => simp [polyline, max_eq_right ht]
  | cons k' rest =>
    have hnext : k.1 < k'.1 := (List.pairwise_cons.mp hs).1 k' List.mem_cons_self
    rw [polyline, if_pos (ht.trans_lt hnext), max_eq_right ht, segment_start]

/-- Two neighbours among knots in order are the first two, or neighbours after the first. -/
theorem neighbours_cons {F : Type}
    {a b k : F × F} {rest : List (F × F)} (h : [a, b] <:+: k :: rest) :
    (a = k ∧ ∃ tail, rest = b :: tail) ∨ [a, b] <:+: rest := by
  rcases List.infix_cons_iff.mp h with hp | hi
  · obtain ⟨tail, htail⟩ := hp
    obtain ⟨rfl, hrest⟩ := List.cons_eq_cons.mp htail
    exact .inl ⟨rfl, tail, hrest.symm⟩
  · exact .inr hi

theorem polyline_between (hs : knots.Pairwise fun a b => a.1 < b.1) {a b : F × F}
    (hab : [a, b] <:+: knots) {t : F} (ha : a.1 ≤ t) (hb : t ≤ b.1) :
    polyline slope knots t = segment a b t := by
  induction knots with
  | nil => exact absurd hab.length_le (by simp)
  | cons k rest ih =>
    obtain ⟨hk, hrest⟩ := List.pairwise_cons.mp hs
    rcases neighbours_cons hab with ⟨rfl, tail, rfl⟩ | hin
    · have hab' : a.1 < b.1 := hk b List.mem_cons_self
      rcases hb.lt_or_eq with hlt | rfl
      · rw [polyline, if_pos hlt, max_eq_left ha]
      · rw [polyline, if_neg (lt_irrefl _), polyline_before hrest le_rfl, segment_end hab']
    · cases rest with
      | nil => exact absurd hin.length_le (by simp)
      | cons k' rest =>
        -- `a` is not before the second knot, so neither is `t`
        have hk' : k'.1 ≤ a.1 := by
          rcases List.mem_cons.mp (hin.subset List.mem_cons_self) with rfl | hmem
          · exact le_rfl
          · exact ((List.pairwise_cons.mp hrest).1 a hmem).le
        rw [polyline, if_neg (not_lt.mpr (hk'.trans ha))]
        exact ih hrest hin

theorem polyline_after (hs : knots.Pairwise fun a b => a.1 < b.1) {k : F × F}
    (hk : k ∈ knots.getLast?) {t : F} (ht : k.1 ≤ t) :
    polyline slope knots t = k.2 + slope * (t - k.1) := by
  induction knots with
  | nil => simp at hk
  | cons k₀ rest ih =>
    obtain ⟨hk₀, hrest⟩ := List.pairwise_cons.mp hs
    cases rest with
    | nil =>
      obtain rfl : k₀ = k := by simpa using hk
      rw [polyline, max_eq_left ht]
    | cons k' rest =>
      rw [List.getLast?_cons_cons] at hk
      have hk' : k'.1 ≤ k.1 := by
        rcases List.mem_cons.mp (List.mem_of_getLast? hk) with rfl | hmem
        · exact le_rfl
        · exact ((List.pairwise_cons.mp hrest).1 k hmem).le
      rw [polyline, if_neg (not_lt.mpr (hk'.trans ht))]
      exact ih hrest hk

/-- **What `polyline` computes is the curve through the knots.** -/
theorem polyline_isPolyline (hs : knots.Pairwise fun a b => a.1 < b.1) :
    IsPolyline slope knots (polyline slope knots) where
  before := by
    intro k hk t ht
    obtain ⟨rest, rfl⟩ : ∃ rest, knots = k :: rest := by
      cases knots with
      | nil => simp at hk
      | cons k' rest => exact ⟨rest, by rw [Option.some.inj hk]⟩
    exact polyline_before hs ht
  between := fun _ _ hab _ ha hb => polyline_between hs hab ha hb
  after := fun _ hk _ ht => polyline_after hs hk ht

/-- The curve goes through its knots. -/
theorem IsPolyline.at_knot {curve : F → F} (h : IsPolyline slope knots curve)
    (hs : knots.Pairwise fun a b => a.1 < b.1) {k : F × F} (hk : k ∈ knots) :
    curve k.1 = k.2 := by
  obtain ⟨init, tail, rfl⟩ := List.append_of_mem hk
  cases tail with
  | nil =>
    have hlast : k ∈ (init ++ [k]).getLast? := by simp
    simpa using h.after k hlast k.1 le_rfl
  | cons k' tail =>
    have hnext : [k, k'] <:+: init ++ k :: k' :: tail := ⟨init, tail, by simp⟩
    have hle : k.1 < k'.1 := by
      have hpair := hs.sublist hnext.sublist
      simpa using hpair
    rw [h.between k k' hnext k.1 le_rfl hle.le, segment_start]

end Lib
end FlyingSquirrel

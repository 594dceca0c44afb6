import FlyingSquirrel.Hw.AxisMap
import Mathlib.Algebra.Order.Field.Basic
import Mathlib.Tactic.IntervalCases
import Mathlib.Tactic.LinearCombination
import Mathlib.Tactic.Linarith
import Mathlib.Tactic.NormNum

/-!
# What the axis map accepts

A rotation of space keeps products of vectors, the scalar one and the vector one; a reflection
turns the second round. The parser looks at neither. It looks at which axes are named, and at a
determinant, and that comes to the same: it accepts the texts that spell a rotation, all of
them, and no others.
-/

set_option autoImplicit false

namespace FlyingSquirrel

open Lib

section Products

variable {F : Type} [Add F] [Sub F] [Mul F]

def Vec3.dot (v w : Vec3 F) : F := v.x * w.x + v.y * w.y + v.z * w.z

def Vec3.cross (v w : Vec3 F) : Vec3 F :=
  ⟨v.y * w.z - v.z * w.y, v.z * w.x - v.x * w.z, v.x * w.y - v.y * w.x⟩

end Products

namespace AxisMap

/-- The map keeps both products: it turns the axes, and does not mirror them. -/
def IsRotation {F : Type} [Add F] [Sub F] [Mul F] (m : AxisMap F) : Prop :=
  ∀ v w, (m.apply v).dot (m.apply w) = v.dot w ∧
    (m.apply v).cross (m.apply w) = m.apply (v.cross w)

section Field

variable {F : Type} [Field F] [LinearOrder F]

/-- A row that names an axis of the chip. -/
def Signed (row : Nat × F) : Prop := row.1 ≤ 2 ∧ (row.2 = 1 ∨ row.2 = -1)

theorem Signed.sq {F : Type} [Field F] {row : Nat × F} (h : Signed row) : row.2 * row.2 = 1 := by
  rcases h.2 with h | h <;> rw [h] <;> ring

variable [IsStrictOrderedRing F]

theorem checkSources_ok_iff {κ : Type} (x y z : Nat × κ) :
    checkSources [x, y, z] [] = .ok () ↔
      (x.1 ≤ 2 ∧ y.1 ≤ 2 ∧ z.1 ≤ 2) ∧ x.1 ≠ y.1 ∧ x.1 ≠ z.1 ∧ y.1 ≠ z.1 := by
  simp only [checkSources, List.not_mem_nil, if_false, List.mem_cons, or_false]
  split
  · exact iff_of_false (by simp) (by omega)
  · split
    · exact iff_of_false (by simp) (by omega)
    · split
      · exact iff_of_false (by simp) (by omega)
      · split
        · exact iff_of_false (by simp) (by omega)
        · split
          · exact iff_of_false (by simp) (by omega)
          · exact iff_of_true rfl (by omega)

/-- A map is valid if its axes are distinct ones and its determinant is about one. -/
theorem validate_ok_iff (m : AxisMap F) :
    m.validate = .ok () ↔
      ((m.x.1 ≤ 2 ∧ m.y.1 ≤ 2 ∧ m.z.1 ≤ 2) ∧ m.x.1 ≠ m.y.1 ∧ m.x.1 ≠ m.z.1 ∧ m.y.1 ≠ m.z.1) ∧
        |m.determinant - 1| ≤ 1e-6 := by
  rw [← checkSources_ok_iff]
  unfold validate sources
  cases h : checkSources [m.x, m.y, m.z] [] with
  | error e => simp
  | ok _ =>
    dsimp only
    rw [fabs_eq_abs]
    split
    · rename_i hbig
      refine iff_of_false (by simp) fun hok => ?_
      exact absurd hok.2 (not_le.mpr (by norm_num at hbig ⊢; exact hbig))
    · rename_i hsmall
      exact iff_of_true rfl ⟨rfl, by norm_num at hsmall ⊢; exact hsmall⟩

/-- The images of the axes, by their entries. -/
theorem apply_axes {F : Type} [Field F]
    (m : AxisMap F) (hx : m.x.1 ≤ 2) (hy : m.y.1 ≤ 2) (hz : m.z.1 ≤ 2) :
    m.apply ⟨1, 0, 0⟩ = ⟨entry m.x 0, entry m.y 0, entry m.z 0⟩ ∧
      m.apply ⟨0, 1, 0⟩ = ⟨entry m.x 1, entry m.y 1, entry m.z 1⟩ ∧
      m.apply ⟨0, 0, 1⟩ = ⟨entry m.x 2, entry m.y 2, entry m.z 2⟩ := by
  have hrow : ∀ row : Nat × F, row.1 ≤ 2 →
      row.2 * Vec3.get ⟨1, 0, 0⟩ row.1 = entry row 0 ∧
      row.2 * Vec3.get ⟨0, 1, 0⟩ row.1 = entry row 1 ∧
      row.2 * Vec3.get ⟨0, 0, 1⟩ row.1 = entry row 2 := by
    rintro ⟨src, sign⟩ hsrc
    dsimp only at hsrc
    interval_cases src <;> simp [Vec3.get, entry]
  obtain ⟨hx₀, hx₁, hx₂⟩ := hrow m.x hx
  obtain ⟨hy₀, hy₁, hy₂⟩ := hrow m.y hy
  obtain ⟨hz₀, hz₁, hz₂⟩ := hrow m.z hz
  unfold apply
  exact ⟨by rw [hx₀, hy₀, hz₀], by rw [hx₁, hy₁, hz₁], by rw [hx₂, hy₂, hz₂]⟩

/-- The determinant is the volume that the images of the axes span. -/
theorem determinant_eq_dot_cross {F : Type} [Field F]
    (m : AxisMap F) (hx : m.x.1 ≤ 2) (hy : m.y.1 ≤ 2)
    (hz : m.z.1 ≤ 2) :
    m.determinant =
      (m.apply ⟨1, 0, 0⟩).dot ((m.apply ⟨0, 1, 0⟩).cross (m.apply ⟨0, 0, 1⟩)) := by
  obtain ⟨h₀, h₁, h₂⟩ := apply_axes m hx hy hz
  rw [h₀, h₁, h₂]
  unfold determinant Vec3.dot Vec3.cross
  ring

/-- What a rotation does to the axes passes the checks. -/
theorem validate_of_isRotation {m : AxisMap F} (hx : Signed m.x) (hy : Signed m.y)
    (hz : Signed m.z) (h : m.IsRotation) : m.validate = .ok () := by
  obtain ⟨h₀, h₁, h₂⟩ := apply_axes m hx.1 hy.1 hz.1
  have hdet : m.determinant = 1 := by
    rw [determinant_eq_dot_cross m hx.1 hy.1 hz.1, (h _ _).2]
    have haxis : (Vec3.cross ⟨0, 1, 0⟩ ⟨0, 0, 1⟩ : Vec3 F) = ⟨1, 0, 0⟩ := by
      simp [Vec3.cross]
    rw [haxis, (h _ _).1]
    simp [Vec3.dot]
  -- each column has length one, and a chip axis named twice would make it longer
  have hcol : ∀ k ≤ 2, entry m.x k * entry m.x k + entry m.y k * entry m.y k +
      entry m.z k * entry m.z k = 1 := by
    intro k hk
    have hone : ∀ e : Vec3 F, e.dot e = 1 → (m.apply e).dot (m.apply e) = 1 := fun e he =>
      (h e e).1.trans he
    interval_cases k
    · simpa [h₀, Vec3.dot] using hone ⟨1, 0, 0⟩ (by simp [Vec3.dot])
    · simpa [h₁, Vec3.dot] using hone ⟨0, 1, 0⟩ (by simp [Vec3.dot])
    · simpa [h₂, Vec3.dot] using hone ⟨0, 0, 1⟩ (by simp [Vec3.dot])
  have hown : ∀ {row : Nat × F}, Signed row → entry row row.1 * entry row row.1 = 1 := by
    intro row hrow
    rw [entry, if_pos rfl]
    exact hrow.sq
  have hxx := hcol m.x.1 hx.1
  have hyy := hcol m.y.1 hy.1
  have hx₁ := hown hx
  have hy₁ := hown hy
  have hz₁ := hown hz
  refine (validate_ok_iff m).mpr ⟨⟨⟨hx.1, hy.1, hz.1⟩, fun heq => ?_, fun heq => ?_, fun heq => ?_⟩,
    by rw [hdet]; norm_num⟩
  · rw [← heq] at hy₁
    nlinarith [mul_self_nonneg (entry m.z m.x.1)]
  · rw [← heq] at hz₁
    nlinarith [mul_self_nonneg (entry m.y m.x.1)]
  · rw [← heq] at hz₁
    nlinarith [mul_self_nonneg (entry m.x m.y.1)]

/-- A number whose square is one, and that is about one, is one. -/
theorem eq_one_of_near {d : F} (hsq : d * d = 1) (hnear : |d - 1| ≤ 1e-6) : d = 1 := by
  rcases mul_self_eq_one_iff.mp hsq with h | h
  · exact h
  · rw [h] at hnear
    norm_num at hnear

/-- A map that names each axis once and has a determinant of about one is a rotation. -/
theorem isRotation_of_validate {m : AxisMap F} (hx : Signed m.x) (hy : Signed m.y)
    (hz : Signed m.z) (h : m.validate = .ok ()) : m.IsRotation := by
  obtain ⟨⟨-, hxy, hxz, hyz⟩, hdet⟩ := (validate_ok_iff m).mp h
  obtain ⟨⟨i, a⟩, ⟨j, b⟩, ⟨k, c⟩⟩ := m
  have ha : a * a = 1 := hx.sq
  have hb : b * b = 1 := hy.sq
  have hc : c * c = 1 := hz.sq
  have hi : i ≤ 2 := hx.1
  have hj : j ≤ 2 := hy.1
  have hk : k ≤ 2 := hz.1
  dsimp only at hxy hxz hyz
  -- the determinant of a signed permutation is the product of its signs, or the negative of it
  have hsq : (determinant ⟨(i, a), (j, b), (k, c)⟩ : F) *
      determinant ⟨(i, a), (j, b), (k, c)⟩ = 1 := by
    interval_cases i <;> interval_cases j <;> (try omega) <;> interval_cases k <;>
      (try omega) <;> simp [determinant, entry] <;>
      linear_combination (b * b * c * c) * ha + (c * c) * hb + hc
  have hone := eq_one_of_near hsq hdet
  intro v w
  -- and then each sign is the product of the others, up to the sign of the permutation
  interval_cases i <;> interval_cases j <;> (try omega) <;> interval_cases k <;> (try omega) <;>
    simp [determinant, entry] at hone <;>
    simp only [apply, Vec3.dot, Vec3.cross, Vec3.get, Vec3.mk.injEq] <;>
    refine ⟨?_, ?_, ?_, ?_⟩ <;> grind

theorem validate_iff_isRotation {m : AxisMap F} (hx : Signed m.x) (hy : Signed m.y)
    (hz : Signed m.z) : m.validate = .ok () ↔ m.IsRotation :=
  ⟨isRotation_of_validate hx hy hz, validate_of_isRotation hx hy hz⟩

/-! ## Spelling -/

theorem axisIndex_le {letter : List Char} {src : Nat} (h : axisIndex letter = some src) :
    src ≤ 2 := by
  unfold axisIndex at h
  split at h <;> cases h <;> decide

theorem signed_of_parseToken {F : Type} [Field F]
    {tok : List Char} {row : Nat × F} (h : parseToken tok = .ok row) :
    Signed row := by
  unfold parseToken at h
  dsimp only at h
  split at h
  · rename_i src hsrc
    cases h
    refine ⟨axisIndex_le hsrc, ?_⟩
    cases (stripSign tok).1 with
    | true => exact .inr rfl
    | false => exact .inl rfl
  · cases h

theorem parse_ok {F : Type} [Field F] [LinearOrder F]
    {s : String} {m : AxisMap F} (h : parse s = .ok m) :
    Signed m.x ∧ Signed m.y ∧ Signed m.z ∧ m.validate = .ok () := by
  unfold parse at h
  split at h
  · split at h
    · cases h
    · cases h
    · cases h
    · rename_i hx hy hz
      dsimp only at h
      split at h
      · cases h
      · rename_i hvalid
        cases h
        exact ⟨signed_of_parseToken hx, signed_of_parseToken hy, signed_of_parseToken hz, hvalid⟩
  · cases h

end Field

/-- An axis of the chip, with a sign. -/
structure SignedAxis where
  src : Fin 3
  neg : Bool
deriving DecidableEq, Repr

/-- How an axis is written: blanks around it, the case of the letter, a plus. -/
structure Spelling where
  before : List Char
  after : List Char
  lower : Bool
  plus : Bool
  blank_before : ∀ c ∈ before, isWhitespace c = true
  blank_after : ∀ c ∈ after, isWhitespace c = true

namespace SignedAxis

def row {F : Type} [One F] [Neg F] (a : SignedAxis) : Nat × F :=
  (a.src, if a.neg then -1 else 1)

def letter (a : SignedAxis) (lower : Bool) : Char :=
  let upper := (['X', 'Y', 'Z'] : List Char).get a.src
  if lower then upper.toLower else upper

/-- The token, without the blanks. -/
def token (a : SignedAxis) (lower plus : Bool) : List Char :=
  (if a.neg then ['-'] else if plus then ['+'] else []) ++ [a.letter lower]

def text (a : SignedAxis) (sp : Spelling) : List Char :=
  sp.before ++ a.token sp.lower sp.plus ++ sp.after

theorem stripSign_token (a : SignedAxis) (lower plus : Bool) :
    stripSign (a.token lower plus) = (a.neg, [a.letter lower]) := by
  obtain ⟨src, neg⟩ := a
  revert src neg lower plus
  decide

theorem axisIndex_letter (a : SignedAxis) (lower : Bool) :
    axisIndex ([a.letter lower].map Char.toUpper) = some a.src := by
  obtain ⟨src, neg⟩ := a
  revert src neg lower
  decide

theorem parseToken_token {F : Type} [Field F] [LinearOrder F] (a : SignedAxis)
    (lower plus : Bool) :
    parseToken (a.token lower plus) = (.ok a.row : Except (AxisMapError F) (Nat × F)) := by
  unfold parseToken
  rw [stripSign_token]
  dsimp only
  rw [axisIndex_letter]
  rfl

theorem token_chars (a : SignedAxis) (lower plus : Bool) :
    ∀ c ∈ a.token lower plus, isWhitespace c = false ∧ c ≠ ',' := by
  have hall : (a.token lower plus).all (fun c => !isWhitespace c && c != ',') = true := by
    obtain ⟨src, neg⟩ := a
    revert src neg lower plus
    decide
  intro c hc
  simpa using List.all_eq_true.mp hall c hc

theorem token_ne_nil (a : SignedAxis) (lower plus : Bool) : a.token lower plus ≠ [] := by
  unfold token
  simp

theorem comma_not_mem_text (a : SignedAxis) (sp : Spelling) : ',' ∉ a.text sp := by
  have hblank : ∀ l : List Char, (∀ c ∈ l, isWhitespace c = true) → ',' ∉ l := fun l hl hmem =>
    absurd (hl ',' hmem) (by decide)
  unfold text
  rw [List.mem_append, List.mem_append]
  rintro ((h | h) | h)
  · exact hblank _ sp.blank_before h
  · exact (token_chars a sp.lower sp.plus ',' h).2 rfl
  · exact hblank _ sp.blank_after h

end SignedAxis

/-- Trimming takes the blanks around a text that neither starts nor ends with one. -/
theorem trim_blanks {before s after : List Char} (hb : ∀ c ∈ before, isWhitespace c = true)
    (hs : ∀ c ∈ s, isWhitespace c = false) (hne : s ≠ [])
    (ha : ∀ c ∈ after, isWhitespace c = true) : trim (before ++ s ++ after) = s := by
  have hkeep : ∀ {l l' : List Char}, l ≠ [] → (∀ c ∈ l, isWhitespace c = false) →
      (l ++ l').dropWhile isWhitespace = l ++ l' := by
    intro l l' hl hno
    cases l with
    | nil => exact absurd rfl hl
    | cons c l =>
      rw [List.cons_append, List.dropWhile_cons_of_neg]
      simp [hno c List.mem_cons_self]
  unfold trim
  rw [List.append_assoc, List.dropWhile_append_of_pos hb, hkeep hne hs, List.reverse_append,
    List.dropWhile_append_of_pos (by simpa using ha)]
  have hrev : s.reverse.dropWhile isWhitespace = s.reverse := by
    simpa using @hkeep s.reverse [] (by simpa using hne) (by simpa using hs)
  rw [hrev, List.reverse_reverse]

theorem trim_text (a : SignedAxis) (sp : Spelling) :
    trim (a.text sp) = a.token sp.lower sp.plus :=
  trim_blanks sp.blank_before (fun c hc => (a.token_chars sp.lower sp.plus c hc).1)
    (a.token_ne_nil sp.lower sp.plus) sp.blank_after

/-- Three axes, written out with commas between them. -/
def spell (a b c : SignedAxis) (sa sb sc : Spelling) : String :=
  String.ofList (a.text sa ++ ',' :: (b.text sb ++ ',' :: c.text sc))

theorem tokens_spell (a b c : SignedAxis) (sa sb sc : Spelling) :
    tokens (spell a b c sa sb sc).toList =
      [a.token sa.lower sa.plus, b.token sb.lower sb.plus, c.token sc.lower sc.plus] := by
  unfold tokens spell
  rw [String.toList_ofList, List.splitOn_append_cons_self_of_not_mem (a.comma_not_mem_text sa),
    List.splitOn_append_cons_self_of_not_mem (b.comma_not_mem_text sb),
    List.splitOn_eq_singleton (c.comma_not_mem_text sc)]
  simp only [List.map_cons, List.map_nil, trim_text]
  rw [List.filter_eq_self.mpr]
  simp [SignedAxis.token_ne_nil]

section Field

variable {F : Type} [Field F] [LinearOrder F] [IsStrictOrderedRing F]

theorem isRotation_of_parse {s : String} {m : AxisMap F} (h : parse s = .ok m) :
    m.IsRotation := by
  obtain ⟨hx, hy, hz, hvalid⟩ := parse_ok h
  exact isRotation_of_validate hx hy hz hvalid

theorem parse_spell_iff (a b c : SignedAxis) (sa sb sc : Spelling) :
    parse (spell a b c sa sb sc) = .ok (⟨a.row, b.row, c.row⟩ : AxisMap F) ↔
      (⟨a.row, b.row, c.row⟩ : AxisMap F).IsRotation := by
  have hsigned : ∀ a : SignedAxis, Signed (a.row : Nat × F) := fun a =>
    signed_of_parseToken (a.parseToken_token false false)
  rw [← validate_iff_isRotation (hsigned a) (hsigned b) (hsigned c)]
  unfold parse
  rw [tokens_spell]
  simp only [SignedAxis.parseToken_token]
  split
  · rename_i e he
    simp [he]
  · rename_i hok
    exact iff_of_true rfl hok

end Field

/-- **The parser accepts the rotations.** A text that is accepted names a map that keeps both
    products of every two vectors. And each such map is accepted, and read right, however it is
    spelled: with blanks around its axes, in either case, with or without a plus. -/
theorem parse_rotations {F : Type} [Field F] [LinearOrder F] [IsStrictOrderedRing F] :
    (∀ (s : String) (m : AxisMap F), parse s = .ok m → m.IsRotation) ∧
    ∀ (a b c : SignedAxis) (sa sb sc : Spelling),
      parse (spell a b c sa sb sc) = .ok (⟨a.row, b.row, c.row⟩ : AxisMap F) ↔
        (⟨a.row, b.row, c.row⟩ : AxisMap F).IsRotation :=
  ⟨fun _ _ => isRotation_of_parse, parse_spell_iff⟩

/-- A chip mounted a quarter turn round. -/
theorem parse_rotations_quarter :
    (⟨(1, 1), (0, -1), (2, 1)⟩ : AxisMap ℚ).IsRotation :=
  parse_rotations.1 " +y , -x , +z " _ (by decide +kernel)

end AxisMap
end FlyingSquirrel

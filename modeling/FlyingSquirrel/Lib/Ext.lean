import FlyingSquirrel.Lib.Num
import Mathlib.Tactic.NormNum

/-!
# Numbers with infinities

Nothing in this file knows about a program. `Ext F` is an ordered field with the three
values a floating-point format adds to its finite ones: `∞`, `-∞` and the undefined value.
The operators follow IEEE 754 on all of them, and are exact on the finite values, so that
what is proved over `Ext F` is about **special values and not about rounding**.

The undefined value compares with nothing, not even with itself, and `max` passes over it.
Zero has no sign: a quotient by zero takes the sign of what is divided.
-/

set_option autoImplicit false

namespace FlyingSquirrel
namespace Lib

inductive Ext (F : Type)
  | fin (x : F)
  | posInf
  | negInf
  | nan
deriving Repr

namespace Ext

variable {F : Type}

section Operators

variable [Field F] [LinearOrder F]

/-- The infinity with the sign of `x`. -/
def infinity (x : F) : Ext F := if x = 0 then nan else if 0 < x then posInf else negInf

def neg : Ext F → Ext F
  | fin x => fin (-x)
  | posInf => negInf
  | negInf => posInf
  | nan => nan

def add : Ext F → Ext F → Ext F
  | fin x, fin y => fin (x + y)
  | nan, _ | _, nan | posInf, negInf | negInf, posInf => nan
  | posInf, _ | _, posInf => posInf
  | negInf, _ | _, negInf => negInf

def mul : Ext F → Ext F → Ext F
  | fin x, fin y => fin (x * y)
  | nan, _ | _, nan => nan
  | fin x, posInf | posInf, fin x => infinity x
  | fin x, negInf | negInf, fin x => infinity (-x)
  | posInf, posInf | negInf, negInf => posInf
  | posInf, negInf | negInf, posInf => negInf

def div : Ext F → Ext F → Ext F
  | fin x, fin y => if y = 0 then infinity x else fin (x / y)
  | nan, _ | _, nan => nan
  | fin _, posInf | fin _, negInf => fin 0
  | posInf, fin y => if y = 0 then posInf else infinity y
  | negInf, fin y => if y = 0 then negInf else infinity (-y)
  | posInf, posInf | posInf, negInf | negInf, posInf | negInf, negInf => nan

def lt : Ext F → Ext F → Prop
  | fin x, fin y => x < y
  | fin _, posInf | negInf, fin _ | negInf, posInf => True
  | _, _ => False

def le : Ext F → Ext F → Prop
  | fin x, fin y => x ≤ y
  | fin _, posInf | negInf, fin _ | negInf, posInf | posInf, posInf | negInf, negInf => True
  | _, _ => False

def beq : Ext F → Ext F → Bool
  | fin x, fin y => decide (x = y)
  | posInf, posInf | negInf, negInf => true
  | _, _ => false

instance : Zero (Ext F) := ⟨fin 0⟩
instance : One (Ext F) := ⟨fin 1⟩
instance : Neg (Ext F) := ⟨neg⟩
instance : Add (Ext F) := ⟨add⟩
instance : Sub (Ext F) := ⟨fun a b => a.add b.neg⟩
instance : Mul (Ext F) := ⟨mul⟩
instance : Div (Ext F) := ⟨div⟩
instance : NatCast (Ext F) := ⟨fun n => fin n⟩
instance : OfScientific (Ext F) := ⟨fun m s e => fin (OfScientific.ofScientific m s e)⟩
instance : LT (Ext F) := ⟨lt⟩
instance : LE (Ext F) := ⟨le⟩
instance : BEq (Ext F) := ⟨beq⟩

instance : DecidableLT (Ext F) := fun a b =>
  match a, b with
  | fin x, fin y => inferInstanceAs (Decidable (x < y))
  | fin _, posInf | negInf, fin _ | negInf, posInf => .isTrue trivial
  | fin _, negInf | fin _, nan | negInf, negInf | negInf, nan => .isFalse id
  | posInf, fin _ | posInf, posInf | posInf, negInf | posInf, nan => .isFalse id
  | nan, fin _ | nan, posInf | nan, negInf | nan, nan => .isFalse id

instance : DecidableLE (Ext F) := fun a b =>
  match a, b with
  | fin x, fin y => inferInstanceAs (Decidable (x ≤ y))
  | fin _, posInf | negInf, fin _ | negInf, posInf => .isTrue trivial
  | posInf, posInf | negInf, negInf => .isTrue trivial
  | fin _, negInf | fin _, nan | negInf, nan => .isFalse id
  | posInf, fin _ | posInf, negInf | posInf, nan => .isFalse id
  | nan, fin _ | nan, posInf | nan, negInf | nan, nan => .isFalse id

/-- The larger value, or the one that is defined. -/
instance : Max (Ext F) where
  max
    | nan, b => b
    | a, nan => a
    | a, b => if a ≤ b then b else a

instance : FiniteTest (Ext F) where
  isFinite
    | fin _ => true
    | posInf | negInf | nan => false

/-- The number a finite value is. -/
def finitePart : Ext F → F
  | fin x => x
  | posInf | negInf | nan => 0

end Operators

/-! ## The operators on finite values -/

section Finite

variable [Field F] [LinearOrder F]

section

omit [LinearOrder F]

@[simp] theorem zero_eq : (0 : Ext F) = fin 0 := rfl

@[simp] theorem one_eq : (1 : Ext F) = fin 1 := rfl

@[simp] theorem natCast_eq (n : ℕ) : ((n : ℕ) : Ext F) = fin (n : F) := rfl

@[simp] theorem ofScientific_eq (m : ℕ) (s : Bool) (e : ℕ) :
    (OfScientific.ofScientific m s e : Ext F) = fin (OfScientific.ofScientific m s e) := rfl

@[simp] theorem neg_fin (x : F) : -(fin x) = fin (-x) := rfl

@[simp] theorem add_fin (x y : F) : fin x + fin y = fin (x + y) := rfl

@[simp] theorem sub_fin (x y : F) : fin x - fin y = fin (x - y) := by
  rw [sub_eq_add_neg]
  rfl

end

@[simp] theorem mul_fin (x y : F) : fin x * fin y = fin (x * y) := rfl

theorem div_fin (x : F) {y : F} (hy : y ≠ 0) : fin x / fin y = fin (x / y) := if_neg hy

section

omit [Field F]

@[simp] theorem lt_fin (x y : F) : (fin x < fin y) = (x < y) := rfl

@[simp] theorem le_fin (x y : F) : (fin x ≤ fin y) = (x ≤ y) := rfl

end

@[simp] theorem isFinite_fin {F : Type} (x : F) : isFinite (fin x) = true := rfl

@[simp] theorem max_fin {F : Type} [LinearOrder F]
    (x y : F) : max (fin x) (fin y) = fin (max x y) := by
  show (if fin x ≤ fin y then fin y else fin x) = _
  rw [max_def]
  exact (apply_ite fin _ _ _).symm

theorem eq_fin_of_isFinite {F : Type} [Field F]
    {a : Ext F} (h : isFinite a = true) : a = fin a.finitePart := by
  cases a with
  | fin x => rfl
  | posInf => exact absurd h Bool.false_ne_true
  | negInf => exact absurd h Bool.false_ne_true
  | nan => exact absurd h Bool.false_ne_true

theorem fabs_fin (x : F) : fabs (fin x) = fin (fabs x) := by
  unfold fabs
  by_cases h : x < 0
  · rw [if_pos h]
    exact if_pos h
  · rw [if_neg h]
    exact if_neg h

theorem ite_fin {F : Type}
    {p q : Prop} [Decidable p] [Decidable q] (h : p ↔ q) {a b : Ext F} {x y : F}
    (ha : a = fin x) (hb : b = fin y) : (if p then a else b) = fin (if q then x else y) := by
  rw [ha, hb, if_congr h rfl rfl]
  exact (apply_ite fin _ _ _).symm

theorem sum_map_fin {F : Type} [Field F] (xs : List F) : (xs.map fin).sum = fin xs.sum := by
  induction xs with
  | nil => rfl
  | cons x xs ih => rw [List.map_cons, List.sum_cons, List.sum_cons, ih, add_fin]

end Finite

/-! ## Signs -/

section Signs

variable [Field F] [LinearOrder F]

section

omit [Field F]

theorem not_le_of_gt {a b : Ext F} (h : a < b) : ¬ b ≤ a := by
  cases a <;> cases b
  case fin.fin x y => exact not_le.mpr h
  all_goals first | exact id | exact absurd h id

theorem not_lt_of_gt {a b : Ext F} (h : a < b) : ¬ b < a := by
  cases a <;> cases b
  case fin.fin x y => exact lt_asymm h
  all_goals first | exact id | exact absurd h id

theorem eq_of_le_of_le {a b : Ext F} (h : a ≤ b) (h' : b ≤ a) : a = b := by
  cases a <;> cases b
  case fin.fin x y => exact congrArg fin (le_antisymm h h')
  all_goals first | rfl | exact absurd h id | exact absurd h' id

end

/-- A value that may be anything does not get below zero. -/
theorem not_max_zero_lt (a : Ext F) : ¬ max a 0 < (0 : Ext F) := by
  cases a with
  | fin x =>
    rw [zero_eq, max_fin]
    exact not_lt.mpr (le_max_right x 0)
  | posInf => exact id
  | negInf => exact lt_irrefl (0 : F)
  | nan => exact lt_irrefl (0 : F)

variable [IsStrictOrderedRing F]

theorem max_zero_sub {a : Ext F} (h : ¬ a < 0) : max (0 - a) 0 = (0 : Ext F) := by
  cases a with
  | fin x =>
    have hx : 0 ≤ x := not_lt.mp h
    rw [zero_eq, sub_fin, max_fin, zero_sub, max_eq_right (neg_nonpos.mpr hx)]
  | posInf => rfl
  | negInf => exact absurd trivial h
  | nan => rfl

theorem posInf_mul_fin {F : Type} [Field F] [LinearOrder F]
    {x : F} (hx : 0 < x) : (posInf : Ext F) * fin x = posInf := by
  show infinity x = posInf
  rw [infinity, if_neg hx.ne', if_pos hx]

theorem mul_fin_pos {a : Ext F} (ha : 0 < a) {x : F} (hx : 0 < x) : 0 < a * fin x := by
  cases a with
  | fin y => exact mul_pos (show (0 : F) < y from ha) hx
  | posInf =>
    rw [posInf_mul_fin hx]
    trivial
  | negInf => exact absurd ha id
  | nan => exact absurd ha id

/-- What exceeds a multiple of a positive value exceeds the value. -/
theorem lt_of_mul_fin_lt {a b : Ext F} (ha : 0 < a) {c : F} (hc : 1 ≤ c) (h : a * fin c < b) :
    a < b := by
  cases a with
  | fin x =>
    have hx : x ≤ x * c := le_mul_of_one_le_right (show (0 : F) < x from ha).le hc
    cases b with
    | fin y => exact hx.trans_lt h
    | posInf => trivial
    | negInf => exact absurd h id
    | nan => exact absurd h id
  | posInf =>
    rw [posInf_mul_fin (zero_lt_one.trans_le hc)] at h
    cases b <;> exact absurd h id
  | negInf => exact absurd ha id
  | nan => exact absurd ha id

theorem le_of_mul_fin_le {a b : Ext F} (ha : 0 < a) {c : F} (hc : 1 ≤ c) (h : a * fin c ≤ b) :
    a ≤ b := by
  cases a with
  | fin x =>
    have hx : x ≤ x * c := le_mul_of_one_le_right (show (0 : F) < x from ha).le hc
    cases b with
    | fin y => exact hx.trans h
    | posInf => trivial
    | negInf => exact absurd h id
    | nan => exact absurd h id
  | posInf =>
    rw [posInf_mul_fin (zero_lt_one.trans_le hc)] at h
    exact h
  | negInf => exact absurd ha id
  | nan => exact absurd ha id

/-- A threshold that is reached when it is the wider of the two is reached. -/
theorem widened_le {p q : Prop} [Decidable p] [Decidable q] (hpq : p → q) {t s : Ext F}
    (ht : 0 < t) {c : F} (hc : 1 ≤ c) (h : (if q then t * fin c else t) ≤ s) :
    (if p then t * fin c else t) ≤ s := by
  by_cases hp : p
  · rw [if_pos (hpq hp)] at h
    rwa [if_pos hp]
  · rw [if_neg hp]
    by_cases hq : q
    · rw [if_pos hq] at h
      exact le_of_mul_fin_le ht hc h
    · rwa [if_neg hq] at h

theorem widened_lt {p q : Prop} [Decidable p] [Decidable q] (hpq : p → q) {t s : Ext F}
    (ht : 0 < t) {c : F} (hc : 1 ≤ c) (h : (if q then t * fin c else t) < s) :
    (if p then t * fin c else t) < s := by
  by_cases hp : p
  · rw [if_pos (hpq hp)] at h
    rwa [if_pos hp]
  · rw [if_neg hp]
    by_cases hq : q
    · rw [if_pos hq] at h
      exact lt_of_mul_fin_lt ht hc h
    · rwa [if_neg hq] at h

theorem lt_one_of_lt_zero {a : Ext F} (ha : a < 0) : a < 1 := by
  cases a with
  | fin x => exact lt_trans (show x < 0 from ha) zero_lt_one
  | posInf => exact absurd ha id
  | negInf => trivial
  | nan => exact absurd ha id

theorem fin_of_pos {F : Type} [Field F] [LinearOrder F]
    {a : Ext F} (ha : 0 < a) (hfinite : a ≠ posInf) : ∃ x, a = fin x := by
  cases a with
  | fin x => exact ⟨x, rfl⟩
  | posInf => exact absurd rfl hfinite
  | negInf => exact absurd ha id
  | nan => exact absurd ha id

end Signs

end Ext

end Lib
end FlyingSquirrel

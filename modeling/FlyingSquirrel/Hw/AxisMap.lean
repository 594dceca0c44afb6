import FlyingSquirrel.Types

/-!
# The axis map (`hw/axis_map.rs`)

A chip is mounted in some orientation, and the map says for each body axis which axis of the
chip feeds it, and with what sign. It is read from a text like `Y,-X,Z`, and only a rotation is
accepted: a reflection would turn the gyroscope against the accelerometer.
-/

set_option autoImplicit false

namespace FlyingSquirrel

open Lib

/-- `char::is_whitespace`: the code points of `White_Space`. -/
def isWhitespace (c : Char) : Bool :=
  let n := c.toNat
  decide (9 ≤ n ∧ n ≤ 13) || n == 0x20 || n == 0x85 || n == 0xA0 || n == 0x1680 ||
    decide (0x2000 ≤ n ∧ n ≤ 0x200A) || n == 0x2028 || n == 0x2029 || n == 0x202F ||
    n == 0x205F || n == 0x3000

/-- `str::trim`. -/
def trim (s : List Char) : List Char :=
  ((s.dropWhile isWhitespace).reverse.dropWhile isWhitespace).reverse

/-- `v[i]`, of three components. -/
def Vec3.get {α : Type} (v : Vec3 α) : Nat → α
  | 0 => v.x
  | 1 => v.y
  | _ => v.z

/-- For each body axis, the chip axis that feeds it and the sign. -/
structure AxisMap (α : Type) where
  x : Nat × α
  y : Nat × α
  z : Nat × α
deriving DecidableEq, Repr

/-- What a map is refused for, with what the message shows. -/
inductive AxisMapError (α : Type)
  /-- "axis map must be 3 comma-separated axes like \"Y,-X,Z\" (got …)" -/
  | tokens (got : String)
  /-- "axis token … must be X, Y, or Z (optionally signed, e.g. -Y)" -/
  | letter (other : String)
  /-- "axis source index … out of range (must be 0..=2)" -/
  | outOfRange (src : Nat)
  /-- "axis map reuses chip axis …; each of X/Y/Z must appear exactly once" -/
  | reused (axis : String)
  /-- "axis map determinant is … but must be +1" -/
  | determinant (det : α)
deriving DecidableEq, Repr

namespace AxisMap

variable {α : Type}

def identity [One α] : AxisMap α := ⟨(0, 1), (1, 1), (2, 1)⟩

def sources (m : AxisMap α) : List (Nat × α) := [m.x, m.y, m.z]

/-- Remap a vector of the chip's frame. -/
def apply [Mul α] (m : AxisMap α) (v : Vec3 α) : Vec3 α :=
  ⟨m.x.2 * v.get m.x.1, m.y.2 * v.get m.y.1, m.z.2 * v.get m.z.1⟩

/-- The entry of a row of the matrix. -/
def entry [Zero α] (row : Nat × α) (col : Nat) : α := if row.1 = col then row.2 else 0

def determinant [Zero α] [Add α] [Sub α] [Mul α] (m : AxisMap α) : α :=
  entry m.x 0 * (entry m.y 1 * entry m.z 2 - entry m.y 2 * entry m.z 1) -
    entry m.x 1 * (entry m.y 0 * entry m.z 2 - entry m.y 2 * entry m.z 0) +
    entry m.x 2 * (entry m.y 0 * entry m.z 1 - entry m.y 1 * entry m.z 0)

/-- The loop of `validate` over the axes, with those seen. -/
def checkSources : List (Nat × α) → List Nat → Except (AxisMapError α) Unit
  | [], _ => .ok ()
  | (src, _) :: rest, seen =>
    if src > 2 then .error (.outOfRange src)
    else if src ∈ seen then .error (.reused ((["X", "Y", "Z"])[src]?.getD ""))
    else checkSources rest (src :: seen)

/-- Whether a token starts with a minus, and what is left of it without its sign. -/
def stripSign : List Char → Bool × List Char
  | '-' :: rest => (true, rest)
  | '+' :: rest => (false, rest)
  | tok => (false, tok)

def axisIndex : List Char → Option Nat
  | ['X'] => some 0
  | ['Y'] => some 1
  | ['Z'] => some 2
  | _ => none

section Checked

variable [Zero α] [One α] [Neg α] [Add α] [Sub α] [Mul α] [OfScientific α] [LT α]
  [DecidableLT α]

/-- Refuse what is not a rotation of the axes. -/
def validate (m : AxisMap α) : Except (AxisMapError α) Unit :=
  match checkSources m.sources [] with
  | .error e => .error e
  | .ok () =>
    let det := m.determinant
    if fabs (det - 1.0) > 1e-6 then .error (.determinant det) else .ok ()

/-- One token: a chip axis, and the sign. -/
def parseToken (tok : List Char) : Except (AxisMapError α) (Nat × α) :=
  let (neg, letter) := stripSign tok
  match axisIndex (letter.map Char.toUpper) with
  | some src => .ok (src, if neg then -1 else 1)
  | none => .error (.letter (String.ofList (letter.map Char.toUpper)))

/-- The trimmed tokens between the commas, but for the empty ones. -/
def tokens (s : List Char) : List (List Char) :=
  ((s.splitOn ',').map trim).filter (· ≠ [])

/-- Read a text like `Y,-X,Z`. -/
def parse (s : String) : Except (AxisMapError α) (AxisMap α) :=
  match tokens s.toList with
  | [t₀, t₁, t₂] =>
    match parseToken t₀, parseToken t₁, parseToken t₂ with
    | .error e, _, _ => .error e
    | _, .error e, _ => .error e
    | _, _, .error e => .error e
    | .ok x, .ok y, .ok z =>
      let m : AxisMap α := ⟨x, y, z⟩
      match m.validate with
      | .error e => .error e
      | .ok () => .ok m
  | _ => .error (.tokens s)

end Checked

end AxisMap

example : (AxisMap.parse " +y , -x , +z " : Except _ (AxisMap ℚ)).toOption =
    some ⟨(1, 1), (0, -1), (2, 1)⟩ := by
  decide +kernel

end FlyingSquirrel

import Mathlib.Algebra.Ring.Int.Defs
import Mathlib.Algebra.Ring.Nat
import Mathlib.Data.List.Basic

/-!
# Records in sectioned documents

Nothing in this file knows about a program. A document is a list of named sections, and a section
a list of named scalars: the shape of a configuration file with one level of tables. A record is
written field by field, an absent `Option` as no field at all, and read back field by field, a
missing field as its default. A field the record does not have is refused.

`Value` is what a field's type needs for that: a scalar for each of its values, and the way back.
Its law is a field, so a record's round trip is a matter of looking up names.

A format may carry fewer integers than the types do. `InRange` says which documents it carries.
-/

namespace FlyingSquirrel
namespace Lib

inductive Scalar (α : Type)
  | str (s : String)
  | int (n : Int)
  | float (x : α)
  | bool (b : Bool)
deriving DecidableEq, Repr

/-- The entries of a section, in order. -/
abbrev Entries (α : Type) := List (String × Scalar α)

abbrev Document (α : Type) := List (String × Entries α)

inductive ReadError
  | unknownField (name : String)
  | invalidType
  | outOfRange (n : Int)
deriving DecidableEq, Repr

/-- A type whose values are scalars. -/
class Value (α : Type) (β : Type) where
  write : β → Scalar α
  read : Scalar α → Except ReadError β
  read_write : ∀ b, read (write b) = .ok b

section Instances

variable {α : Type}

instance : Value α String where
  write s := .str s
  read
    | .str s => .ok s
    | _ => .error .invalidType
  read_write _ := rfl

instance : Value α Bool where
  write b := .bool b
  read
    | .bool b => .ok b
    | _ => .error .invalidType
  read_write _ := rfl

/-- An integer is accepted where a float is expected. -/
instance [IntCast α] : Value α α where
  write x := .float x
  read
    | .float x => .ok x
    | .int n => .ok (n : α)
    | _ => .error .invalidType
  read_write _ := rfl

/-- Read a fixed-width unsigned integer of fewer than `size` values. -/
def readUnsigned {β : Type} (size : Nat) (ofNat : Nat → β) : Scalar α → Except ReadError β
  | .int n => if 0 ≤ n ∧ n < size then .ok (ofNat n.toNat) else .error (.outOfRange n)
  | _ => .error .invalidType

theorem readUnsigned_ok {β : Type} {size : Nat} {ofNat : Nat → β} {n : Nat} (h : n < size) :
    readUnsigned size ofNat (.int n : Scalar α) = .ok (ofNat n) := by
  have hn : (0 : Int) ≤ n ∧ (n : Int) < size := ⟨Int.natCast_nonneg n, by omega⟩
  exact (if_pos hn).trans (by rw [Int.toNat_natCast])

instance : Value α UInt8 where
  write n := .int n.toNat
  read := readUnsigned (2 ^ 8) UInt8.ofNat
  read_write n := by rw [readUnsigned_ok n.toNat_lt, UInt8.ofNat_toNat]

instance : Value α UInt32 where
  write n := .int n.toNat
  read := readUnsigned (2 ^ 32) UInt32.ofNat
  read_write n := by rw [readUnsigned_ok n.toNat_lt, UInt32.ofNat_toNat]

instance : Value α UInt64 where
  write n := .int n.toNat
  read := readUnsigned (2 ^ 64) UInt64.ofNat
  read_write n := by rw [readUnsigned_ok n.toNat_lt, UInt64.ofNat_toNat]

end Instances

namespace Entries

variable {α β : Type} [Value α β]

def put (name : String) (b : β) : Entries α := [(name, Value.write b)]

def putOption (name : String) : Option β → Entries α
  | some b => put name b
  | none => []

/-- The field `name`, or its default where there is none. -/
def get (es : Entries α) (name : String) (dflt : β) : Except ReadError β :=
  match es.lookup name with
  | some v => Value.read v
  | none => .ok dflt

def getOption (es : Entries α) (name : String) : Except ReadError (Option β) :=
  match es.lookup name with
  | some v => (Value.read v).map some
  | none => .ok none

end Entries

/-- Refuse a name that is not among the known ones. -/
def denyUnknown {κ : Type} (known : List String) : List (String × κ) → Except ReadError Unit
  | [] => .ok ()
  | (name, _) :: rest =>
    if name ∈ known then denyUnknown known rest else .error (.unknownField name)

/-- The section `name`, or no entries where there is none. -/
def Document.section {α : Type} (d : Document α) (name : String) : Entries α :=
  (d.lookup name).getD []

/-- The integers a format of 64-bit signed ones carries. -/
def Scalar.InRange {α : Type} : Scalar α → Prop
  | .int n => -2 ^ 63 ≤ n ∧ n < 2 ^ 63
  | _ => True

def Entries.InRange {α : Type} (es : Entries α) : Prop := ∀ e ∈ es, e.2.InRange

def Document.InRange {α : Type} (d : Document α) : Prop := ∀ s ∈ d, Entries.InRange s.2

instance {α : Type} : DecidablePred (Scalar.InRange (α := α)) := fun v =>
  match v with
  | .int _ => inferInstanceAs (Decidable (_ ∧ _))
  | .str _ | .float _ | .bool _ => .isTrue trivial

instance {α : Type} (d : Document α) : Decidable d.InRange :=
  inferInstanceAs (Decidable (∀ s ∈ d, ∀ e ∈ s.2, Scalar.InRange e.2))

section Laws

variable {α β : Type} [Value α β]

@[simp] theorem Entries.get_cons_self (name : String) (b dflt : β) (es : Entries α) :
    Entries.get ((name, Value.write b) :: es) name dflt = .ok b := by
  simp [Entries.get, Value.read_write]

@[simp] theorem Entries.get_cons_ne {name name' : String} (h : name ≠ name') (v : Scalar α)
    (dflt : β) (es : Entries α) :
    Entries.get ((name', v) :: es) name dflt = Entries.get es name dflt := by
  simp [Entries.get, List.lookup_cons, beq_eq_false_iff_ne.mpr h]

@[simp] theorem Entries.getOption_cons_self (name : String) (b : β) (es : Entries α) :
    Entries.getOption ((name, Value.write b) :: es) name = .ok (some b) := by
  simp [Entries.getOption, Value.read_write, Except.map]

@[simp] theorem Entries.getOption_cons_ne {name name' : String} (h : name ≠ name')
    (v : Scalar α) (es : Entries α) :
    (Entries.getOption ((name', v) :: es) name : Except ReadError (Option β)) =
      Entries.getOption es name := by
  simp [Entries.getOption, List.lookup_cons, beq_eq_false_iff_ne.mpr h]

@[simp] theorem Entries.getOption_nil (name : String) :
    (Entries.getOption ([] : Entries α) name : Except ReadError (Option β)) = .ok none := rfl

@[simp] theorem denyUnknown_nil {κ : Type} (known : List String) :
    denyUnknown known ([] : List (String × κ)) = .ok () := rfl

@[simp] theorem denyUnknown_cons {κ : Type} {known : List String} {name : String}
    (h : name ∈ known) (v : κ) (rest : List (String × κ)) :
    denyUnknown known ((name, v) :: rest) = denyUnknown known rest := if_pos h

@[simp] theorem Document.section_cons_self (name : String) (es : Entries α) (d : Document α) :
    Document.section ((name, es) :: d) name = es := by
  simp [Document.section]

@[simp] theorem Document.section_cons_ne {name name' : String} (h : name ≠ name')
    (es : Entries α) (d : Document α) :
    Document.section ((name', es) :: d) name = Document.section d name := by
  simp [Document.section, List.lookup_cons, beq_eq_false_iff_ne.mpr h]

theorem mapError_ok {ε ε' γ : Type} (f : ε → ε') (c : γ) :
    Except.mapError f (.ok c) = .ok c := rfl

theorem ok_bind {ε γ δ : Type} (c : γ) (f : γ → Except ε δ) :
    ((Except.ok c : Except ε γ) >>= f) = f c := rfl

theorem bind_ok {ε γ δ : Type} {x : Except ε γ} {f : γ → Except ε δ} {d : δ} :
    x >>= f = .ok d ↔ ∃ c, x = .ok c ∧ f c = .ok d := by
  cases x with
  | error e => exact iff_of_false (fun h => nomatch h) (fun ⟨_, h, _⟩ => nomatch h)
  | ok c => exact ⟨fun h => ⟨c, rfl, h⟩, fun ⟨_, h, hf⟩ => by cases h; exact hf⟩

@[simp] theorem Entries.inRange_append {es es' : Entries α} :
    Entries.InRange (es ++ es') ↔ Entries.InRange es ∧ Entries.InRange es' :=
  List.forall_mem_append

@[simp] theorem Entries.inRange_put {name : String} {b : β} :
    Entries.InRange (put name b : Entries α) ↔ (Value.write b : Scalar α).InRange :=
  List.forall_mem_singleton

@[simp] theorem Entries.inRange_putOption {name : String} {b : Option β} :
    Entries.InRange (putOption name b : Entries α) ↔
      ∀ x ∈ b, (Value.write x : Scalar α).InRange := by
  cases b with
  | none => exact iff_of_true (by simp [putOption, Entries.InRange]) (by simp)
  | some x => simp [putOption]

end Laws

section Widths

variable {α : Type}

@[simp] theorem inRange_string (s : String) : (Value.write s : Scalar α).InRange := trivial

@[simp] theorem inRange_bool (b : Bool) : (Value.write b : Scalar α).InRange := trivial

@[simp] theorem inRange_float [IntCast α] (x : α) : (Value.write x : Scalar α).InRange := trivial

@[simp] theorem inRange_uInt8 (n : UInt8) : (Value.write n : Scalar α).InRange := by
  have h := n.toNat_lt
  show -2 ^ 63 ≤ (n.toNat : Int) ∧ (n.toNat : Int) < 2 ^ 63
  omega

@[simp] theorem inRange_uInt32 (n : UInt32) : (Value.write n : Scalar α).InRange := by
  have h := n.toNat_lt
  show -2 ^ 63 ≤ (n.toNat : Int) ∧ (n.toNat : Int) < 2 ^ 63
  omega

/-- A 64-bit unsigned integer has one bit more than the format carries. -/
theorem inRange_uInt64 (n : UInt64) :
    (Value.write n : Scalar α).InRange ↔ n.toNat < 2 ^ 63 := by
  show -2 ^ 63 ≤ (n.toNat : Int) ∧ (n.toNat : Int) < 2 ^ 63 ↔ _
  omega

end Widths

end Lib
end FlyingSquirrel

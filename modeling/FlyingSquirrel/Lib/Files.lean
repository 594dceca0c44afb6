import Mathlib.Logic.Function.Basic

/-!
# Files, and the calls that change them

A file system is what each path holds. A call takes, beside its arguments, the fault it meets,
if any: every call may fail, and one that fails reports its fault and, except for a write that
got part of the way, leaves the files alone.

`Added` is what a careful writer wants: the new file is there in full, and no file that was
there before is another one now.
-/

set_option autoImplicit false

namespace FlyingSquirrel
namespace Lib

abbrev Files (P : Type) := P → Option (List UInt8)

namespace Files

variable {P E : Type} [DecidableEq P]

/-- Open a file that must not be there yet. -/
def createNew (alreadyExists : E) (fault : Option E) (fs : Files P) (p : P) :
    Except E Unit × Files P :=
  match fault, fs p with
  | some e, _ => (.error e, fs)
  | none, some _ => (.error alreadyExists, fs)
  | none, none => (.ok (), Function.update fs p (some []))

/-- Write at the end of an open file. A fault says how many bytes were written before it. -/
def writeAll (fault : Option (Nat × E)) (fs : Files P) (p : P) (bytes : List UInt8) :
    Except E Unit × Files P :=
  match fault with
  | some (n, e) => (.error e, Function.update fs p ((fs p).map (· ++ bytes.take n)))
  | none => (.ok (), Function.update fs p ((fs p).map (· ++ bytes)))

/-- POSIX `rename`: whatever the target held is gone. -/
def rename (notFound : E) (fault : Option E) (fs : Files P) (source target : P) :
    Except E Unit × Files P :=
  match fault, fs source with
  | some e, _ => (.error e, fs)
  | none, none => (.error notFound, fs)
  | none, some content =>
    (.ok (), Function.update (Function.update fs source none) target (some content))

def removeFile (notFound : E) (fault : Option E) (fs : Files P) (p : P) :
    Except E Unit × Files P :=
  match fault, fs p with
  | some e, _ => (.error e, fs)
  | none, none => (.error notFound, fs)
  | none, some _ => (.ok (), Function.update fs p none)

/-- The file `p` is there with its content, and no file of before was touched. -/
def Added (before after : Files P) (p : P) (content : List UInt8) : Prop :=
  after p = some content ∧ ∀ q, before q ≠ none → after q = before q

variable {fs : Files P} {p target : P} {content : List UInt8}

theorem createNew_ok {alreadyExists : E} {fault : Option E}
    (h : (fs.createNew alreadyExists fault p).1 = .ok ()) :
    fault = none ∧ fs p = none ∧
      fs.createNew alreadyExists fault p = (.ok (), Function.update fs p (some [])) := by
  unfold createNew at h ⊢
  cases fault with
  | some e => cases h
  | none =>
    cases hp : fs p with
    | some old => rw [hp] at h; cases h
    | none => exact ⟨rfl, rfl, rfl⟩

theorem createNew_error {alreadyExists e : E} {fault : Option E}
    (h : (fs.createNew alreadyExists fault p).1 = .error e) :
    (fs.createNew alreadyExists fault p).2 = fs := by
  unfold createNew at h ⊢
  cases fault with
  | some e => rfl
  | none =>
    cases hp : fs p with
    | some old => rfl
    | none => rw [hp] at h; cases h

/-- Taking away a file that was not there before brings the files back. -/
theorem removeFile_created (notFound : E) (h : fs p = none) :
    (removeFile notFound none (Function.update fs p (some content)) p).2 = fs := by
  unfold removeFile
  rw [Function.update_self, Function.update_idem, ← h, Function.update_eq_self]

/-- Moving a new file onto a path adds it just if nothing else was there. -/
theorem added_moved_iff (content : List UInt8) (h : fs p = none) (hne : target ≠ p) :
    Added fs (Function.update (Function.update (Function.update fs p (some content)) p none)
        target (some content)) target content ↔
      ∀ old, fs target = some old → old = content := by
  rw [Function.update_idem, ← h, Function.update_eq_self]
  constructor
  · intro hadded old hold
    have hkept := hadded.2 target (by simp [hold])
    rw [hadded.1, hold] at hkept
    exact (Option.some.inj hkept).symm
  · intro hsame
    refine ⟨Function.update_self .., fun q hq => ?_⟩
    by_cases hqt : q = target
    · obtain ⟨old, hold⟩ := Option.ne_none_iff_exists'.mp hq
      subst hqt
      rw [Function.update_self, hold, hsame old hold]
    · exact Function.update_of_ne hqt ..

end Files

end Lib
end FlyingSquirrel

import Mathlib.Data.List.AList
import Mathlib.Data.List.MinMax

/-!
# Bounded maps that forget their oldest entry

Nothing in this file knows about a program. A map holds for each key the latest value
recorded under it, and when there are more than `cap` keys it drops one whose value is
oldest.

The order in which a hash map is iterated is not something a program can rely on, so
**which of several equally old entries is dropped is a parameter**: an `IterOrder` is any
function that lists the entries in some order, and the oldest is the first minimum of that
list. What holds for every `IterOrder` holds whatever the map's order happens to be.
-/

namespace FlyingSquirrel
namespace Lib

variable {κ ν : Type} [DecidableEq κ]

/-- A map, as a list of entries with distinct keys. -/
abbrev Map (κ ν : Type) := AList (fun _ : κ => ν)

/-- An order of iteration: some rearrangement of the entries. -/
structure IterOrder (κ ν : Type) where
  order : List (Sigma fun _ : κ => ν) → List (Sigma fun _ : κ => ν)
  perm : ∀ es, (order es).Perm es

/-- Iteration in the order the entries are stored. -/
def IterOrder.stored : IterOrder κ ν := ⟨id, fun _ => .refl _⟩

/-- Past the cap, drop the first of the oldest entries. -/
def evictOldest (o : IterOrder κ ν) (time : ν → Nat) (cap : Nat) (m : Map κ ν) :
    Map κ ν :=
  if m.entries.length > cap then
    match (o.order m.entries).argmin (fun e => time e.2) with
    | some oldest => m.erase oldest.1
    | none => m
  else m

/-- Record `v` as the latest value of `k`, within the cap. -/
def recordLatest (o : IterOrder κ ν) (time : ν → Nat) (cap : Nat) (k : κ) (v : ν)
    (m : Map κ ν) : Map κ ν :=
  evictOldest o time cap (m.insert k v)

section Lookup

variable {o : IterOrder κ ν} {time : ν → Nat} {cap : Nat} {m : Map κ ν} {k k' : κ} {v w : ν}

theorem lookup_evictOldest (h : (evictOldest o time cap m).lookup k = some v) :
    m.lookup k = some v := by
  unfold evictOldest at h
  split at h
  · split at h
    · rename_i oldest _
      by_cases hk : k = oldest.1
      · subst hk; rw [AList.lookup_erase] at h; exact absurd h (by simp)
      · rwa [AList.lookup_erase_ne hk] at h
    · exact h
  · exact h

theorem lookup_recordLatest_self (h : (recordLatest o time cap k v m).lookup k = some w) :
    w = v := by
  have hl := lookup_evictOldest h
  rw [AList.lookup_insert] at hl
  exact (Option.some.inj hl).symm

theorem lookup_recordLatest_of_ne (hk : k' ≠ k)
    (h : (recordLatest o time cap k v m).lookup k' = some w) : m.lookup k' = some w := by
  have hl := lookup_evictOldest h
  rwa [AList.lookup_insert_ne hk] at hl

end Lookup

end Lib
end FlyingSquirrel

import Mathlib.Data.List.Chain

/-!
# Alarms along a trace

Nothing in this file knows about a program. A watch goes over a trace and compares each entry
with the one before: an entry that is not `Near` it should raise an alarm. If nearness adds up
along the trace, comparing neighbours is enough for any two entries, and **exactly when the watch
misses no neighbour**.
-/

namespace FlyingSquirrel
namespace Lib

variable {κ : Type} {Near : κ → κ → Prop} {alarm : κ → Prop} {trace : List κ}

/-- What neighbours are known to be helps to say what else they are. -/
theorem isChain_congr_of {R S T : κ → κ → Prop} (h : trace.IsChain T)
    (hiff : ∀ a b, T a b → (R a b ↔ S a b)) : trace.IsChain R ↔ trace.IsChain S := by
  rw [List.isChain_iff_forall_rel_of_append_cons_cons] at h ⊢
  rw [List.isChain_iff_forall_rel_of_append_cons_cons]
  constructor
  · intro hR a b pre post hsplit
    exact (hiff a b (h hsplit)).mp (hR hsplit)
  · intro hS a b pre post hsplit
    exact (hiff a b (h hsplit)).mpr (hS hsplit)

/-- Two entries that are not near have an alarm after the one and up to the other. -/
def NoneMissed (Near : κ → κ → Prop) (alarm : κ → Prop) (trace : List κ) : Prop :=
  ∀ a mid b, a :: mid ++ [b] <:+: trace → ¬ Near a b → ∃ x ∈ mid ++ [b], alarm x

theorem near_of_silent [IsTrans κ Near] {a b : κ} {mid : List κ}
    (h : List.IsChain (fun a b => Near a b ∨ alarm b) (a :: mid ++ [b]))
    (hsilent : ∀ x ∈ mid ++ [b], ¬ alarm x) : Near a b := by
  induction mid generalizing a with
  | nil =>
    have hab := (List.isChain_cons_cons.mp h).1
    exact hab.resolve_right (hsilent b (by simp))
  | cons c mid ih =>
    obtain ⟨hac, hrest⟩ := List.isChain_cons_cons.mp h
    have hnear := hac.resolve_right (hsilent c (by simp))
    have hcb := ih hrest fun x hx => hsilent x (List.mem_cons_of_mem c hx)
    exact IsTrans.trans _ _ _ hnear hcb

/-- **Neighbours decide.** -/
theorem noneMissed_iff [IsTrans κ Near] :
    NoneMissed Near alarm trace ↔ List.IsChain (fun a b => Near a b ∨ alarm b) trace := by
  constructor
  · intro h
    rw [List.isChain_iff_forall_rel_of_append_cons_cons]
    rintro a b pre post rfl
    by_cases hab : Near a b
    · exact .inl hab
    · obtain ⟨x, hx, hraised⟩ := h a [] b ⟨pre, post, by simp⟩ hab
      obtain rfl := List.mem_singleton.mp hx
      exact .inr hraised
  · intro h a mid b hinfix hab
    by_contra hnone
    have hchain := List.IsChain.infix h hinfix
    exact hab (near_of_silent hchain fun x hx hraised => hnone ⟨x, hx, hraised⟩)

end Lib
end FlyingSquirrel

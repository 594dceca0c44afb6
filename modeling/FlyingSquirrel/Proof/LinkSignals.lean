import FlyingSquirrel.Hw.LinkHealth
import Mathlib.Data.List.Induction

/-!
# What the link's history says of its state

The classification goes by when three signals last came: a fix, a byte, an NMEA sentence. Each
flows at an instant if it came less than a window before. As times do not go back, the last
time a signal came is the latest, so the classification at any instant can be read off the
history: off its inputs up to that instant.
-/

set_option autoImplicit false

namespace FlyingSquirrel

open Lib

namespace LinkHealth

inductive Signal
  | fix
  | byte
  | line
deriving DecidableEq, Repr

namespace Signal

/-- When the link last noted the signal. -/
def lastAt : Signal → LinkHealth → Option Nat
  | .fix, h => h.lastFixAt
  | .byte, h => h.lastByteAt
  | .line, h => h.lastNmeaLineAt

/-- Whether an input brings the signal. A byte count does if it has grown. -/
def comesWith : Signal → LinkHealth → LinkEvent → Bool
  | .fix, _, .fix => true
  | .byte, h, .observeBytes total => decide (total > h.counts.bytes)
  | .byte, _, .item _ => true
  | .line, _, .item (.line s) => startsWithDollar s
  | _, _, _ => false

/-- The time of an input that brings the signal. -/
def note (g : Signal) (h : LinkHealth) (i : LinkInput) : Option Nat :=
  if g.comesWith h i.event then some i.now else none

/-- When the signal came. -/
def times (g : Signal) (hist : List LinkInput) : List Nat := notes step g.note new hist

/-- The signal came less than a window before. -/
def Flowing (g : Signal) (hist : List LinkInput) (now : Nat) : Prop :=
  ∃ t ∈ g.times hist, t ≤ now ∧ now - t < activityWindow

end Signal

theorem lastAt_step (g : Signal) (h : LinkHealth) (i : LinkInput) :
    g.lastAt (h.step i).1 = (g.note h i).or (g.lastAt h) := by
  obtain ⟨now, event⟩ := i
  unfold Signal.note
  cases event with
  | observeBytes total =>
    unfold step observeBytes
    by_cases hmore : total > h.counts.bytes
    · cases g <;> simp [Signal.lastAt, Signal.comesWith, hmore]
    · cases g <;> simp [Signal.lastAt, Signal.comesWith, hmore]
  | item evt =>
    cases evt with
    | line s =>
      cases hs : startsWithDollar s <;> cases g <;>
        simp [step, onEvent, Signal.lastAt, Signal.comesWith, hs]
    | _ => cases g <;> rfl
  | poll =>
    change g.lastAt (h.poll now).1 = _
    rcases poll_cases h now with ⟨was, -, -, hp⟩ | ⟨-, hp⟩ | ⟨-, -, hp⟩ <;> rw [hp] <;>
      cases g <;> rfl
  | _ => cases g <;> rfl

/-- Time does not go back. -/
def Ordered (hist : List LinkInput) : Prop := hist.Pairwise (fun i j => i.now ≤ j.now)

instance (hist : List LinkInput) : Decidable (Ordered hist) :=
  inferInstanceAs (Decidable (List.Pairwise _ _))

section History

variable {g : Signal} {hist : List LinkInput} {i : LinkInput} {t now : Nat}

theorem Ordered.init (h : Ordered (hist ++ [i])) :
    Ordered hist ∧ ∀ j ∈ hist, j.now ≤ i.now := by
  obtain ⟨hhist, -, hlast⟩ := List.pairwise_append.mp h
  exact ⟨hhist, fun j hj => hlast j hj i (List.mem_singleton_self i)⟩

/-- A signal comes at the time of an input. -/
theorem exists_of_mem_times (h : t ∈ g.times hist) :
    ∃ pre j post, hist = pre ++ j :: post ∧ g.comesWith (run step new pre) j.event = true ∧
      j.now = t := by
  obtain ⟨pre, j, post, rfl, hj⟩ := mem_notes_iff.mp h
  unfold Signal.note at hj
  split at hj
  · rename_i hcomes
    exact ⟨pre, j, post, rfl, hcomes, Option.some.inj hj⟩
  · cases hj

theorem mem_times_of_split {pre post : List LinkInput}
    (h : g.comesWith (run step new pre) i.event = true) :
    i.now ∈ g.times (pre ++ i :: post) :=
  mem_notes_iff.mpr ⟨pre, i, post, rfl, if_pos h⟩

theorem lastAt_run (g : Signal) (hist : List LinkInput) :
    g.lastAt (run step new hist) = (g.times hist).getLast? := by
  rw [notes_getLast? g.lastAt (lastAt_step g)]
  cases g <;> exact Option.or_none

theorem times_snoc (g : Signal) (hist : List LinkInput) (i : LinkInput) :
    g.times (hist ++ [i]) = g.times hist ++ (g.note (run step new hist) i).toList := by
  unfold Signal.times
  rw [notes_append, notes, notes, List.append_nil]

/-- The last time a signal came is the latest. -/
theorem le_lastAt (hord : Ordered hist) (h : t ∈ g.times hist) :
    ∃ u, g.lastAt (run step new hist) = some u ∧ t ≤ u := by
  induction hist using List.reverseRecOn with
  | nil => exact absurd h (by simp [Signal.times, notes])
  | append_singleton hist i ih =>
    obtain ⟨hbefore, hlast⟩ := hord.init
    have hle : t ≤ i.now := by
      obtain ⟨pre, j, post, hsplit, -, rfl⟩ := exists_of_mem_times h
      have hj : j ∈ hist ++ [i] := hsplit ▸ by simp
      rcases List.mem_append.mp hj with hj | hj
      · exact hlast j hj
      · exact Nat.le_of_eq (congrArg LinkInput.now (List.mem_singleton.mp hj))
    rw [run_snoc, lastAt_step]
    rw [times_snoc, List.mem_append] at h
    cases hnote : g.note (run step new hist) i with
    | none =>
      rw [hnote] at h
      obtain ⟨u, hu, htu⟩ := ih hbefore (h.resolve_right (by simp))
      exact ⟨u, hu, htu⟩
    | some u =>
      have hu : u = i.now := by
        unfold Signal.note at hnote
        split at hnote
        · exact (Option.some.inj hnote).symm
        · cases hnote
      exact ⟨u, rfl, hu ▸ hle⟩

/-- A signal is recent if it came less than a window before, at any time. -/
theorem recent_iff (hord : Ordered hist) :
    recent now (g.lastAt (run step new hist)) = true ↔
      ∃ t ∈ g.times hist, now - t < activityWindow := by
  constructor
  · intro h
    cases ht : g.lastAt (run step new hist) with
    | none =>
      rw [ht] at h
      cases h
    | some t =>
      rw [ht] at h
      rw [lastAt_run] at ht
      exact ⟨t, List.mem_of_getLast? ht, of_decide_eq_true h⟩
  · rintro ⟨t, ht, hrecent⟩
    obtain ⟨u, hu, htu⟩ := le_lastAt hord ht
    rw [hu]
    exact decide_eq_true (Nat.lt_of_le_of_lt (Nat.sub_le_sub_left htu now) hrecent)

end History

end LinkHealth

end FlyingSquirrel

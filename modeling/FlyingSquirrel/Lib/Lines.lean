import Mathlib.Data.List.Basic

/-!
# Streams cut at a separator

Nothing in this file knows about a program. A stream is a list, and a separator ends a line of it.
`lines sep s` are the lines that have ended, without their separators, and `leftover sep s` is
what has arrived since: both are read off `List.splitOn`.

A stream arrives in pieces, and a reader that holds the leftover of what it has read so far can
go on from there: that is `lines_append` and `leftover_append`. Proofs about a reader that takes
one line at a time go by `lines_induction`.
-/

namespace FlyingSquirrel
namespace Lib

variable {α : Type} [BEq α] [LawfulBEq α] {sep : α}

def lines (sep : α) (s : List α) : List (List α) := (s.splitOn sep).dropLast

def leftover (sep : α) (s : List α) : List α :=
  (s.splitOn sep).getLast (List.splitOn_ne_nil sep s)

theorem lines_of_not_mem {s : List α} (h : sep ∉ s) : lines sep s = [] := by
  simp [lines, List.splitOn_eq_singleton h]

theorem leftover_of_not_mem {s : List α} (h : sep ∉ s) : leftover sep s = s := by
  simp [leftover, List.splitOn_eq_singleton h]

@[simp] theorem lines_nil : lines sep ([] : List α) = [] := lines_of_not_mem (by simp)

@[simp] theorem leftover_nil : leftover sep ([] : List α) = [] := leftover_of_not_mem (by simp)

theorem lines_cons {l : List α} (h : sep ∉ l) (s : List α) :
    lines sep (l ++ sep :: s) = l :: lines sep s := by
  unfold lines
  rw [List.splitOn_append_cons_self_of_not_mem h,
    List.dropLast_cons_of_ne_nil (List.splitOn_ne_nil sep s)]

theorem leftover_cons {l : List α} (h : sep ∉ l) (s : List α) :
    leftover sep (l ++ sep :: s) = leftover sep s := by
  unfold leftover
  simp only [List.splitOn_append_cons_self_of_not_mem h]
  rw [List.getLast_cons (List.splitOn_ne_nil sep s)]

/-- A stream in which no line has ended, or its first line and the rest. -/
theorem lines_induction (sep : α) {motive : List α → Prop} (opened : ∀ s, sep ∉ s → motive s)
    (line : ∀ l s, sep ∉ l → motive s → motive (l ++ sep :: s)) (s : List α) : motive s := by
  induction hn : s.length using Nat.strongRecOn generalizing s with
  | ind n ih =>
    by_cases h : sep ∈ s
    · obtain ⟨l, rest, rfl, hl⟩ := List.eq_append_cons_of_mem h
      refine line l rest hl (ih rest.length ?_ rest rfl)
      rw [← hn]
      simp
      omega
    · exact opened s h

theorem not_mem_leftover (s : List α) : sep ∉ leftover sep s := by
  induction s using lines_induction sep with
  | opened s h => rwa [leftover_of_not_mem h]
  | line l s h ih => rwa [leftover_cons h]

theorem lines_append (s s' : List α) :
    lines sep (s ++ s') = lines sep s ++ lines sep (leftover sep s ++ s') := by
  induction s using lines_induction sep with
  | opened s h => rw [lines_of_not_mem h, leftover_of_not_mem h, List.nil_append]
  | line l s h ih =>
    rw [List.append_assoc, List.cons_append, lines_cons h, lines_cons h, leftover_cons h, ih,
      List.cons_append]

theorem leftover_append (s s' : List α) :
    leftover sep (s ++ s') = leftover sep (leftover sep s ++ s') := by
  induction s using lines_induction sep with
  | opened s h => rw [leftover_of_not_mem h]
  | line l s h ih => rw [List.append_assoc, List.cons_append, leftover_cons h, leftover_cons h, ih]

/-- What is left over of the first part of a stream goes on as a line of the whole, or as what is
    left over of it. -/
theorem leftover_prefix (sep : α) (s s' : List α) :
    (∃ l ∈ lines sep (s ++ s'), leftover sep s <+: l) ∨
      leftover sep s <+: leftover sep (s ++ s') := by
  rw [lines_append, leftover_append]
  by_cases h : sep ∈ s'
  · obtain ⟨l, rest, rfl, hl⟩ := List.eq_append_cons_of_mem h
    have hline : sep ∉ leftover sep s ++ l := by simp [not_mem_leftover, hl]
    refine .inl ⟨leftover sep s ++ l, ?_, List.prefix_append _ _⟩
    rw [← List.append_assoc, lines_cons hline]
    simp
  · have hopen : sep ∉ leftover sep s ++ s' := by simp [not_mem_leftover, h]
    refine .inr ?_
    rw [leftover_of_not_mem hopen]
    exact List.prefix_append _ _

theorem leftover_length_le {s s' : List α} {n : Nat}
    (hlines : ∀ l ∈ lines sep (s ++ s'), l.length ≤ n)
    (hleft : (leftover sep (s ++ s')).length ≤ n) : (leftover sep s).length ≤ n := by
  rcases leftover_prefix sep s s' with ⟨l, hl, hp⟩ | hp
  · exact Nat.le_trans hp.length_le (hlines l hl)
  · exact Nat.le_trans hp.length_le hleft

/-- Where only an end of the open line is held, what goes on from it ends lines that are ends of
    the lines of the whole. -/
theorem lines_of_suffix {held opened : List α} (hopen : sep ∉ opened) (h : held <:+ opened)
    (s : List α) :
    (∀ l ∈ lines sep (held ++ s), ∃ l' ∈ lines sep (opened ++ s), l <:+ l') ∧
      leftover sep (held ++ s) <:+ leftover sep (opened ++ s) := by
  have hheld : sep ∉ held := fun hmem => hopen (h.subset hmem)
  have happ : ∀ t, held ++ t <:+ opened ++ t := fun t => by
    obtain ⟨u, rfl⟩ := h
    exact ⟨u, (List.append_assoc u held t).symm⟩
  by_cases hs : sep ∈ s
  · obtain ⟨l, rest, rfl, hl⟩ := List.eq_append_cons_of_mem hs
    have hshort : sep ∉ held ++ l := by simp [hheld, hl]
    have hlong : sep ∉ opened ++ l := by simp [hopen, hl]
    rw [← List.append_assoc, ← List.append_assoc, lines_cons hshort, lines_cons hlong,
      leftover_cons hshort, leftover_cons hlong]
    refine ⟨fun l' hl' => ?_, List.suffix_refl _⟩
    rcases List.mem_cons.mp hl' with rfl | hrest
    · exact ⟨_, List.mem_cons_self, happ l⟩
    · exact ⟨l', List.mem_cons_of_mem _ hrest, List.suffix_refl _⟩
  · have hshort : sep ∉ held ++ s := by simp [hheld, hs]
    have hlong : sep ∉ opened ++ s := by simp [hopen, hs]
    rw [lines_of_not_mem hshort, leftover_of_not_mem hshort, leftover_of_not_mem hlong]
    exact ⟨fun l hl => absurd hl (by simp), happ s⟩

end Lib
end FlyingSquirrel

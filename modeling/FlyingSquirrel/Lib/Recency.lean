import FlyingSquirrel.Lib.RecencyMap
import FlyingSquirrel.Lib.Run
import Mathlib.Data.List.Dedup
import Mathlib.Data.List.TakeWhile

/-!
# What a bounded map has kept

Nothing in this file knows about a program. A history of writes is a list of keys with the
times they were written at, oldest first. `recents` lists its keys by their latest write,
the most recent first, as a move-to-front list does.

A map of `cap` entries that drops the oldest is `Kept`: its keys are the first `cap` of the
recents, each with the time of its latest write. Times have to tell writes apart for that,
and then the order in which the map is iterated no longer matters.
-/

namespace FlyingSquirrel
namespace Lib

variable {κ ν : Type} [DecidableEq κ]

/-- Move a key to the front. -/
def touch (w : κ × Nat) (rs : List (κ × Nat)) : List (κ × Nat) :=
  w :: rs.filter (fun r => decide (r.1 ≠ w.1))

/-- The latest write of each key, the most recent first. -/
def recents (hist : List (κ × Nat)) : List (κ × Nat) :=
  hist.foldl (fun rs w => touch w rs) []

/-- The distinct keys written since the last write of `k`. -/
def othersSince (k : κ) (keys : List κ) : List κ :=
  (keys.reverse.takeWhile (fun x => decide (x ≠ k))).dedup

section Recents

variable {hist : List (κ × Nat)} {w r : κ × Nat}

@[simp] theorem recents_nil : recents ([] : List (κ × Nat)) = [] := rfl

theorem recents_snoc (hist : List (κ × Nat)) (w : κ × Nat) :
    recents (hist ++ [w]) = touch w (recents hist) := by
  unfold recents
  rw [List.foldl_append]
  rfl

theorem mem_touch {rs : List (κ × Nat)} : r ∈ touch w rs ↔ r = w ∨ (r ∈ rs ∧ r.1 ≠ w.1) := by
  unfold touch
  rw [List.mem_cons, List.mem_filter, decide_eq_true_eq]

theorem recents_subset (hist : List (κ × Nat)) : recents hist ⊆ hist := by
  induction hist using List.reverseRecOn with
  | nil => exact List.Subset.refl _
  | append_singleton hist w ih =>
    intro r hr
    rw [recents_snoc, mem_touch] at hr
    rcases hr with rfl | ⟨hr, -⟩
    · exact List.mem_append_right _ (List.mem_singleton_self _)
    · exact List.mem_append_left _ (ih hr)

theorem touch_keys_nodup {rs : List (κ × Nat)} (h : (rs.map Prod.fst).Nodup) :
    ((touch w rs).map Prod.fst).Nodup := by
  refine List.nodup_cons.mpr ⟨fun hmem => ?_, h.sublist (List.filter_sublist.map _)⟩
  obtain ⟨r, hr, hrw⟩ := List.mem_map.mp hmem
  exact of_decide_eq_true (List.mem_filter.mp hr).2 hrw

theorem recents_keys_nodup (hist : List (κ × Nat)) : ((recents hist).map Prod.fst).Nodup := by
  induction hist using List.reverseRecOn with
  | nil => exact List.nodup_nil
  | append_singleton hist w ih => rw [recents_snoc]; exact touch_keys_nodup ih

/-- Writes at increasing times are listed at decreasing ones. -/
theorem recents_sorted (h : hist.Pairwise (fun a b => a.2 < b.2)) :
    (recents hist).Pairwise (fun a b => b.2 < a.2) := by
  induction hist using List.reverseRecOn with
  | nil => exact List.Pairwise.nil
  | append_singleton hist w ih =>
    obtain ⟨hhist, -, hw⟩ := List.pairwise_append.mp h
    rw [recents_snoc]
    refine List.pairwise_cons.mpr ⟨fun r hr => ?_, (ih hhist).filter _⟩
    exact hw r (recents_subset hist (List.mem_of_mem_filter hr)) w (List.mem_singleton_self w)

end Recents

/-! ## The keys of the recents -/

section Keys

variable {keys : List κ} {k : κ}

theorem dedup_snoc (keys : List κ) (k : κ) :
    (keys ++ [k]).dedup = keys.dedup.filter (fun x => decide (x ≠ k)) ++ [k] := by
  induction keys with
  | nil => rfl
  | cons a keys ih =>
    rw [List.cons_append]
    by_cases hk : a = k
    · subst hk
      rw [List.dedup_cons_of_mem (List.mem_append_right _ (List.mem_singleton_self a)), ih]
      by_cases ha : a ∈ keys
      · rw [List.dedup_cons_of_mem ha]
      · rw [List.dedup_cons_of_notMem ha, List.filter_cons_of_neg (by simp)]
    · by_cases ha : a ∈ keys
      · rw [List.dedup_cons_of_mem (List.mem_append_left _ ha), ih, List.dedup_cons_of_mem ha]
      · rw [List.dedup_cons_of_notMem (by simp [ha, hk]), ih, List.dedup_cons_of_notMem ha,
          List.filter_cons_of_pos (by simp [hk]), List.cons_append]

/-- The keys of the recents are the distinct keys written, by last write. -/
theorem recents_keys (hist : List (κ × Nat)) :
    (recents hist).map Prod.fst = (hist.map Prod.fst).dedup.reverse := by
  induction hist using List.reverseRecOn with
  | nil => rfl
  | append_singleton hist w ih =>
    rw [recents_snoc, List.map_append, List.map_singleton, dedup_snoc, List.reverse_append,
      ← List.filter_reverse, ← ih, List.filter_map]
    rfl

/-- What stands before `k` in the recents are the keys written since. -/
theorem mem_takeWhile_dedup (keys : List κ) (k x : κ) :
    x ∈ keys.dedup.reverse.takeWhile (fun y => decide (y ≠ k)) ↔ x ∈ othersSince k keys := by
  unfold othersSince
  rw [List.mem_dedup]
  induction keys using List.reverseRecOn with
  | nil => exact Iff.rfl
  | append_singleton keys a ih =>
    rw [dedup_snoc, List.reverse_append, List.reverse_append, ← List.filter_reverse]
    by_cases ha : a = k
    · simp [ha]
    · have hboth : (fun y => !decide (y ≠ a) || decide (y ≠ k)) =
          (fun y => decide (y ≠ k)) := by
        funext y
        by_cases hy : y = a
        · simp [hy, ha]
        · simp [hy]
      rw [List.reverse_singleton, List.singleton_append, List.singleton_append,
        List.takeWhile_cons_of_pos (by simp [ha]), List.takeWhile_cons_of_pos (by simp [ha]),
        List.takeWhile_filter, hboth, List.mem_cons, List.mem_cons, List.mem_filter, ih]
      by_cases hx : x = a
      · simp [hx]
      · simp [hx]

theorem mem_take_iff_takeWhile (l : List κ) (k : κ) (n : Nat) :
    k ∈ l.take n ↔ k ∈ l ∧ (l.takeWhile (fun y => decide (y ≠ k))).length < n := by
  induction l generalizing n with
  | nil => simp
  | cons a l ih =>
    cases n with
    | zero => simp
    | succ n =>
      by_cases ha : a = k
      · simp [ha]
      · rw [List.take_succ_cons, List.mem_cons, List.mem_cons, ih,
          List.takeWhile_cons_of_pos (by simp [ha]), List.length_cons, Nat.succ_lt_succ_iff]
        simp [Ne.symm ha]

/-- **How far back a key is.** A key is among the `n` most recent exactly if it was written
    and fewer than `n` others have been written since. -/
theorem mem_take_dedup (keys : List κ) (k : κ) (n : Nat) :
    k ∈ keys.dedup.reverse.take n ↔ k ∈ keys ∧ (othersSince k keys).length < n := by
  have hperm : (keys.dedup.reverse.takeWhile (fun y => decide (y ≠ k))).Perm
      (othersSince k keys) := by
    refine (List.perm_ext_iff_of_nodup ?_ (List.nodup_dedup _)).mpr (mem_takeWhile_dedup keys k)
    exact (List.nodup_reverse.mpr (List.nodup_dedup keys)).sublist (List.takeWhile_sublist _)
  rw [mem_take_iff_takeWhile, hperm.length_eq, List.mem_reverse, List.mem_dedup]

/-- The key just written has no others since. -/
@[simp] theorem othersSince_snoc_self (keys : List κ) (k : κ) :
    othersSince k (keys ++ [k]) = [] := by
  unfold othersSince
  rw [List.reverse_append, List.reverse_singleton, List.singleton_append,
    List.takeWhile_cons_of_neg (by simp), List.dedup_nil]

theorem othersSince_length_lt (h : k ∈ keys) :
    (othersSince k keys).length < keys.dedup.length := by
  have hnd : (k :: othersSince k keys).Nodup := by
    refine List.nodup_cons.mpr ⟨fun hk => ?_, List.nodup_dedup _⟩
    unfold othersSince at hk
    have hself := List.mem_takeWhile_imp (List.mem_dedup.mp hk)
    exact absurd hself (by simp)
  refine (List.subperm_of_subset hnd fun x hx => List.mem_dedup.mpr ?_).length_le
  rcases List.mem_cons.mp hx with rfl | hx
  · exact h
  · exact List.mem_reverse.mp (List.takeWhile_subset _ (List.mem_dedup.mp hx))

theorem dedup_length_le {keys' : List κ} (h : keys ⊆ keys') :
    keys.dedup.length ≤ keys'.dedup.length :=
  (List.subperm_of_subset (List.nodup_dedup keys) fun _ hx =>
    List.mem_dedup.mpr (h (List.mem_dedup.mp hx))).length_le

end Keys

/-! ## A map that keeps the recents -/

/-- The entries of `m`, their values read as times, are those listed. -/
def Lists (time : ν → Nat) (m : Map κ ν) (rs : List (κ × Nat)) : Prop :=
  ∀ k t, (m.lookup k).map time = some t ↔ (k, t) ∈ rs

section Lists

variable {o : IterOrder κ ν} {time : ν → Nat} {cap : Nat} {m : Map κ ν} {k : κ} {v : ν}
  {rs : List (κ × Nat)}

theorem Lists.empty (time : ν → Nat) : Lists time (∅ : Map κ ν) [] := fun k t => by
  rw [AList.lookup_empty]
  simp

theorem Lists.mem_iff (h : Lists time m rs) : k ∈ m ↔ k ∈ rs.map Prod.fst := by
  rw [← AList.lookup_isSome, Option.isSome_iff_exists, List.mem_map]
  constructor
  · rintro ⟨v, hv⟩
    exact ⟨(k, time v), (h k (time v)).mp (by rw [hv]; rfl), rfl⟩
  · rintro ⟨r, hr, rfl⟩
    obtain ⟨v, hv, -⟩ := Option.map_eq_some_iff.mp ((h r.1 r.2).mpr hr)
    exact ⟨v, hv⟩

theorem Lists.keys_perm (h : Lists time m rs) (hnd : (rs.map Prod.fst).Nodup) :
    m.keys.Perm (rs.map Prod.fst) :=
  (List.perm_ext_iff_of_nodup m.keys_nodup hnd).mpr fun _ => AList.mem_keys.symm.trans h.mem_iff

theorem Lists.length_eq (h : Lists time m rs) (hnd : (rs.map Prod.fst).Nodup) :
    m.entries.length = rs.length := by
  have hlen := (h.keys_perm hnd).length_eq
  rwa [List.length_map, AList.keys, List.keys, List.length_map] at hlen

theorem Lists.insert (h : Lists time m rs) (k : κ) (v : ν) :
    Lists time (m.insert k v) (touch (k, time v) rs) := fun k' t => by
  rw [mem_touch]
  by_cases hk : k' = k
  · subst hk
    simp [AList.lookup_insert, eq_comm]
  · rw [AList.lookup_insert_ne hk, h k' t]
    simp [hk]

/-- **Eviction drops the last.** Whatever the order of iteration, what is left of one entry
    too many are the `cap` most recent. -/
theorem Lists.evict (h : Lists time m rs) (hnd : (rs.map Prod.fst).Nodup)
    (hsorted : rs.Pairwise (fun a b => b.2 < a.2)) (hlen : rs.length ≤ cap + 1) :
    Lists time (evictOldest o time cap m) (rs.take cap) := by
  unfold evictOldest
  rw [h.length_eq hnd]
  split
  · rename_i hover
    have hsplit : rs.take cap ++ [rs[cap]] = rs := by
      rw [List.take_append_getElem, List.take_of_length_le (by omega)]
    rw [← hsplit] at hnd hsorted
    obtain ⟨-, -, hlater⟩ := List.pairwise_append.mp hsorted
    cases hmin : (o.order m.entries).argmin (fun e => time e.2) with
    | none =>
      rw [List.argmin_eq_none] at hmin
      have hzero := (o.perm m.entries).length_eq
      rw [hmin, h.length_eq (hsplit ▸ hnd), List.length_nil] at hzero
      omega
    | some e =>
      -- the entry dropped is the last one listed, as no other is as old
      have hin : (e.1, time e.2) ∈ rs := by
        refine (h e.1 (time e.2)).mp ?_
        rw [AList.mem_lookup_iff.mpr ((o.perm m.entries).mem_iff.mp (List.argmin_mem hmin))]
        rfl
      have hlast : e.1 = rs[cap].1 := by
        obtain ⟨v, hv, ht⟩ := Option.map_eq_some_iff.mp
          ((h rs[cap].1 rs[cap].2).mpr (List.getElem_mem _))
        have hle : time e.2 ≤ time v := List.le_of_mem_argmin (f := fun e => time e.2)
          ((o.perm m.entries).mem_iff.mpr (AList.mem_lookup_iff.mp hv)) hmin
        rw [← hsplit, List.mem_append, List.mem_singleton] at hin
        rcases hin with hin | hin
        · have := hlater _ hin _ (List.mem_singleton_self _)
          dsimp only at this
          omega
        · rw [← hin]
      intro k t
      dsimp only
      by_cases hk : k = e.1
      · rw [hk, AList.lookup_erase, hlast]
        refine ⟨fun habs => absurd habs (by simp), fun hmem => ?_⟩
        rw [List.map_append] at hnd
        have hkey : rs[cap].1 ∈ (rs.take cap).map Prod.fst :=
          List.mem_map.mpr ⟨_, hmem, rfl⟩
        exact absurd (List.mem_singleton_self _)
          (List.disjoint_left.mp (List.nodup_append'.mp hnd).2.2 hkey)
      · rw [AList.lookup_erase_ne hk, h k t, ← hsplit, List.mem_append, List.mem_singleton,
          hsplit]
        refine ⟨fun hmem => hmem.resolve_right fun heq => ?_, .inl⟩
        exact hk (hlast ▸ congrArg Prod.fst heq)
  · rwa [List.take_of_length_le (by omega)]

theorem take_filter_take {rs : List (κ × Nat)} (hnd : (rs.map Prod.fst).Nodup) (k : κ)
    (n : Nat) :
    ((rs.take (n + 1)).filter (fun r => decide (r.1 ≠ k))).take n =
      (rs.filter (fun r => decide (r.1 ≠ k))).take n := by
  induction rs generalizing n with
  | nil => rfl
  | cons r rs ih =>
    obtain ⟨hr, hrs⟩ := List.nodup_cons.mp hnd
    rw [List.take_succ_cons]
    by_cases hk : r.1 = k
    · have hfree : ∀ x ∈ rs, decide (x.1 ≠ k) = true := fun x hx => by
        refine decide_eq_true fun hxk => hr ?_
        exact List.mem_map.mpr ⟨x, hx, hxk.trans hk.symm⟩
      rw [List.filter_cons_of_neg (by simp [hk]), List.filter_cons_of_neg (by simp [hk]),
        List.filter_eq_self.mpr hfree,
        List.filter_eq_self.mpr fun x hx => hfree x (List.mem_of_mem_take hx), List.take_take,
        min_self]
    · rw [List.filter_cons_of_pos (by simp [hk]), List.filter_cons_of_pos (by simp [hk])]
      cases n with
      | zero => rfl
      | succ n => rw [List.take_succ_cons, List.take_succ_cons, ih hrs]

end Lists

/-- A map of `cap` entries written by `hist` has kept its most recent keys. -/
def Kept (time : ν → Nat) (cap : Nat) (m : Map κ ν) (hist : List (κ × Nat)) : Prop :=
  Lists time m ((recents hist).take cap)

section Kept

variable {o : IterOrder κ ν} {time : ν → Nat} {cap : Nat} {m : Map κ ν} {k : κ} {v : ν}
  {hist : List (κ × Nat)}

theorem Kept.empty (time : ν → Nat) (cap : Nat) : Kept time cap (∅ : Map κ ν) [] := by
  unfold Kept
  rw [recents_nil, List.take_nil]
  exact Lists.empty time

theorem take_keys_nodup (hist : List (κ × Nat)) (cap : Nat) :
    (((recents hist).take cap).map Prod.fst).Nodup :=
  (recents_keys_nodup hist).sublist ((List.take_sublist _ _).map _)

/-- **The step lemma.** A write later than all before it keeps the map's keys the most
    recent ones. -/
theorem Kept.record (h : Kept time (cap + 1) m hist)
    (hhist : (hist ++ [(k, time v)]).Pairwise (fun a b => a.2 < b.2)) :
    Kept time (cap + 1) (recordLatest o time (cap + 1) k v m) (hist ++ [(k, time v)]) := by
  obtain ⟨hbefore, -, hnew⟩ := List.pairwise_append.mp hhist
  have hsorted : (touch (k, time v) ((recents hist).take (cap + 1))).Pairwise
      (fun a b => b.2 < a.2) := by
    refine List.pairwise_cons.mpr ⟨fun r hr => ?_, ?_⟩
    · exact hnew r (recents_subset hist (List.mem_of_mem_take (List.mem_of_mem_filter hr)))
        _ (List.mem_singleton_self _)
    · exact ((recents_sorted hbefore).sublist (List.take_sublist _ _)).filter _
  have hlen : (touch (k, time v) ((recents hist).take (cap + 1))).length ≤ cap + 1 + 1 := by
    refine Nat.succ_le_succ (le_trans (List.length_filter_le _ _) ?_)
    exact List.length_take_le _ _
  have hevict : Lists time (recordLatest o time (cap + 1) k v m) _ :=
    (h.insert k v).evict (o := o) (touch_keys_nodup (take_keys_nodup hist _)) hsorted hlen
  unfold Kept
  rw [recents_snoc]
  unfold touch at hevict ⊢
  rwa [List.take_succ_cons, take_filter_take (recents_keys_nodup hist),
    ← List.take_succ_cons] at hevict

theorem Kept.mem_iff (h : Kept time cap m hist) :
    k ∈ m ↔ k ∈ hist.map Prod.fst ∧ (othersSince k (hist.map Prod.fst)).length < cap := by
  rw [Lists.mem_iff h, List.map_take, recents_keys, mem_take_dedup]

theorem Kept.keys_perm (h : Kept time cap m hist) :
    m.keys.Perm ((hist.map Prod.fst).dedup.reverse.take cap) := by
  have hperm := Lists.keys_perm h (take_keys_nodup hist cap)
  rwa [List.map_take, recents_keys] at hperm

/-- **The run lemma.** A map that some inputs of a machine write, and the others leave
    alone, keeps the most recent of what a run has written. -/
theorem Kept.run {σ ι ο : Type} (step : σ → ι → σ × List ο) (view : σ → Map κ ν)
    (write : ι → Option (κ × Nat))
    (hquiet : ∀ s i, write i = none → view (step s i).1 = view s)
    (hwrite : ∀ s i k t, write i = some (k, t) → ∃ o v, time v = t ∧
      view (step s i).1 = recordLatest o time (cap + 1) k v (view s))
    {s : σ} (hs : view s = ∅) {is : List ι}
    (htimes : (is.filterMap write).Pairwise (fun a b => a.2 < b.2)) :
    Kept time (cap + 1) (view (Lib.run step s is)) (is.filterMap write) := by
  induction is using List.reverseRecOn with
  | nil =>
    rw [run_nil, hs]
    exact Kept.empty _ _
  | append_singleton is i ih =>
    rw [run_snoc]
    rw [List.filterMap_append] at htimes ⊢
    have hbefore := ih (List.pairwise_append.mp htimes).1
    cases hi : write i with
    | none =>
      rw [hquiet _ i hi, List.filterMap_cons_none hi, List.filterMap_nil, List.append_nil]
      exact hbefore
    | some w =>
      obtain ⟨k, t⟩ := w
      obtain ⟨o, v, rfl, hview⟩ := hwrite (Lib.run step s is) i k t hi
      rw [List.filterMap_cons_some hi, List.filterMap_nil] at htimes ⊢
      rw [hview]
      exact hbefore.record htimes

end Kept

end Lib
end FlyingSquirrel

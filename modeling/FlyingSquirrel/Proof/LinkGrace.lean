import FlyingSquirrel.Proof.LinkEpisodes
import Mathlib.Data.List.TakeWhile

/-!
# A condition and its grace

A state is to be reported once the link has been in it for the grace of that state. What a poll
compares with the grace is one clock for all of them, the time since the last fix. So a state
that has just replaced another is reported at once, if the fixes have been away long enough for
its own grace.

Where the signals have been of one kind for the whole of the grace, that makes no difference,
and `Steady` says in times of the inputs what that is for each state.
-/

set_option autoImplicit false

namespace FlyingSquirrel

open Lib

namespace LinkHealth

/-- The inputs up to an instant. -/
def upTo (now : Nat) (hist : List LinkInput) : List LinkInput :=
  hist.takeWhile (fun i => decide (i.now ≤ now))

/-- How the link is classified at an instant. -/
def stateAt (hist : List LinkInput) (now : Nat) : LinkState :=
  (Lib.run LinkHealth.step new (upTo now hist)).classify now

/-- The link has been in a state for the whole of its grace. -/
def HeldFor (s : LinkState) (hist : List LinkInput) (now : Nat) : Prop :=
  s.grace ≤ now ∧ ∀ τ, now - s.grace ≤ τ → τ ≤ now → stateAt hist τ = s

/-- What the gate made of a fix: it was rejected, or not. -/
def outcome (i : LinkInput) : Option Bool :=
  match i.event with
  | .fix => some false
  | .fixRejected => some true
  | _ => none

/-- The last fix that was decoded by then was rejected. -/
def Rejecting (hist : List LinkInput) : Prop := latest outcome hist = some true

/-- A signal stayed away for a time and for the window before it. -/
def Signal.Away (g : Signal) (hist : List LinkInput) (since : Nat) : Prop :=
  ∀ t ∈ g.times hist, t + activityWindow ≤ since

/-- A signal never stayed away for a window. -/
def Signal.Flows (g : Signal) (hist : List LinkInput) (since now : Nat) : Prop :=
  ∀ τ, since ≤ τ → τ ≤ now → g.Flowing hist τ

/-- The inputs of the last grace, and of a window before it, are all of the kind that makes
    the state. -/
def Steady (s : LinkState) (hist : List LinkInput) (now : Nat) : Prop :=
  let since := now - s.grace
  s.grace ≤ now ∧ Signal.fix.Away hist since ∧
    match s with
    | .healthy => False
    | .noBytes => Signal.byte.Away hist since
    | .noSentences => Signal.byte.Flows hist since now ∧ Signal.line.Away hist since
    | .fixesRejected => Signal.line.Flows hist since now ∧ Rejecting (upTo since hist)
    | .noFix => Signal.line.Flows hist since now ∧ ¬ Rejecting hist

/-! ## The history up to an instant -/

section UpTo

variable {g : Signal} {hist : List LinkInput} {now t since : Nat}

theorem upTo_append (now : Nat) (hist : List LinkInput) :
    ∃ after, hist = upTo now hist ++ after ∧
      (Ordered hist → ∀ i ∈ after, now < i.now) := by
  refine ⟨hist.dropWhile (fun i => decide (i.now ≤ now)), ?_, fun hord i hi => ?_⟩
  · exact List.takeWhile_append_dropWhile.symm
  · have hsorted : Ordered (hist.dropWhile (fun i => decide (i.now ≤ now))) :=
      hord.sublist (List.dropWhile_sublist _)
    cases hd : hist.dropWhile (fun i => decide (i.now ≤ now)) with
    | nil => rw [hd] at hi; cases hi
    | cons j after =>
      have hj : now < j.now := by
        have hhead := List.head_dropWhile_not (fun i : LinkInput => decide (i.now ≤ now))
          (show hist.dropWhile _ ≠ [] by rw [hd]; simp)
        simp only [hd, List.head_cons, decide_eq_false_iff_not, Nat.not_le] at hhead
        exact hhead
      rw [hd] at hi hsorted
      rcases List.mem_cons.mp hi with rfl | hi
      · exact hj
      · exact Nat.lt_of_lt_of_le hj ((List.pairwise_cons.mp hsorted).1 i hi)

theorem upTo_now {i : LinkInput} (h : i ∈ upTo now hist) : i.now ≤ now :=
  of_decide_eq_true (List.mem_takeWhile_imp (p := fun i : LinkInput => decide (i.now ≤ now)) h)

theorem upTo_ordered (hord : Ordered hist) : Ordered (upTo now hist) :=
  hord.sublist (List.takeWhile_sublist _)

theorem mem_times_upTo (hord : Ordered hist) :
    t ∈ g.times (upTo now hist) ↔ t ∈ g.times hist ∧ t ≤ now := by
  obtain ⟨after, hsplit, hafter⟩ := upTo_append now hist
  constructor
  · intro h
    refine ⟨?_, ?_⟩
    · rw [hsplit]
      unfold Signal.times
      rw [notes_append]
      exact List.mem_append_left _ h
    · obtain ⟨pre, j, post, hj, -, rfl⟩ := exists_of_mem_times h
      have hmem : j ∈ upTo now hist := by rw [hj]; simp
      exact upTo_now hmem
  · rintro ⟨h, hle⟩
    rw [hsplit] at h
    unfold Signal.times at h ⊢
    rw [notes_append, List.mem_append] at h
    refine h.resolve_right fun hlate => ?_
    obtain ⟨pre, j, post, hj, hnote⟩ := mem_notes_iff.mp hlate
    unfold Signal.note at hnote
    split at hnote
    · obtain rfl := Option.some.inj hnote
      exact absurd hle (Nat.not_le.mpr (hafter hord j (hj ▸ by simp)))
    · cases hnote

/-- Up to an instant a signal is recent exactly if it flows then. -/
theorem recent_upTo (g : Signal) (hord : Ordered hist) (now : Nat) :
    recent now (g.lastAt (Lib.run LinkHealth.step new (upTo now hist))) = true ↔
      g.Flowing hist now := by
  rw [recent_iff (upTo_ordered hord)]
  constructor
  · rintro ⟨t, ht, hrecent⟩
    obtain ⟨ht, hle⟩ := (mem_times_upTo hord).mp ht
    exact ⟨t, ht, hle, hrecent⟩
  · rintro ⟨t, ht, hle, hrecent⟩
    exact ⟨t, (mem_times_upTo hord).mpr ⟨ht, hle⟩, hrecent⟩

theorem rejectedSinceFix_iff (hist : List LinkInput) :
    (Lib.run LinkHealth.step new hist).rejectedSinceFix > 0 ↔ Rejecting hist := by
  unfold Rejecting
  induction hist using List.reverseRecOn with
  | nil => simp [new, latest]
  | append_singleton hist i ih =>
    rw [run_snoc, latest_snoc]
    obtain ⟨now, event⟩ := i
    cases event with
    | observeBytes total =>
      refine Iff.trans ?_ ih
      unfold step observeBytes
      dsimp only
      split <;> rfl
    | item evt =>
      refine Iff.trans ?_ ih
      unfold step onEvent
      dsimp only
      cases evt with
      | line s => dsimp only; split <;> rfl
      | _ => rfl
    | parseError => exact ih
    | fix => simp [step, onFix, outcome]
    | fixRejected => simp [step, onFixRejected, outcome]
    | poll =>
      change (LinkHealth.poll _ now).1.rejectedSinceFix > 0 ↔ _
      rcases poll_cases (Lib.run LinkHealth.step new hist) now with ⟨was, -, -, hp⟩ | ⟨-, hp⟩ |
        ⟨-, -, hp⟩ <;> rw [hp] <;> exact ih

/-- The classification at an instant, in what flows and what was rejected. -/
theorem stateAt_eq_iff (hord : Ordered hist) (now : Nat) (s : LinkState) :
    stateAt hist now = s ↔
      match s with
      | .healthy => Signal.fix.Flowing hist now
      | .noBytes => ¬ Signal.fix.Flowing hist now ∧ ¬ Signal.byte.Flowing hist now
      | .noSentences => ¬ Signal.fix.Flowing hist now ∧ Signal.byte.Flowing hist now ∧
          ¬ Signal.line.Flowing hist now
      | .fixesRejected => ¬ Signal.fix.Flowing hist now ∧ Signal.byte.Flowing hist now ∧
          Signal.line.Flowing hist now ∧ Rejecting (upTo now hist)
      | .noFix => ¬ Signal.fix.Flowing hist now ∧ Signal.byte.Flowing hist now ∧
          Signal.line.Flowing hist now ∧ ¬ Rejecting (upTo now hist) := by
  have hfix := recent_upTo .fix hord now
  have hbyte := recent_upTo .byte hord now
  have hline := recent_upTo .line hord now
  have hrej := rejectedSinceFix_iff (upTo now hist)
  unfold stateAt classify
  rw [← hfix, ← hbyte, ← hline, ← hrej]
  unfold Signal.lastAt
  dsimp only
  cases recent now (Lib.run LinkHealth.step new (upTo now hist)).lastFixAt <;>
    cases recent now (Lib.run LinkHealth.step new (upTo now hist)).lastByteAt <;>
    cases recent now (Lib.run LinkHealth.step new (upTo now hist)).lastNmeaLineAt <;>
    by_cases h : (Lib.run LinkHealth.step new (upTo now hist)).rejectedSinceFix > 0 <;>
    cases s <;> simp [h]

/-! ## A whole grace of one kind -/

theorem mem_times_now {hist : List LinkInput} (hnow : ∀ i ∈ hist, i.now ≤ now)
    (h : t ∈ g.times hist) : t ≤ now := by
  obtain ⟨pre, j, post, hj, -, rfl⟩ := exists_of_mem_times h
  have hmem : j ∈ hist := by rw [hj]; simp
  exact hnow j hmem

theorem away_iff (hnow : ∀ i ∈ hist, i.now ≤ now) (hsince : since ≤ now) :
    g.Away hist since ↔ ∀ τ, since ≤ τ → τ ≤ now → ¬ g.Flowing hist τ := by
  constructor
  · rintro haway τ hle - ⟨t, ht, -, hrecent⟩
    have := haway t ht
    omega
  · intro hquiet t ht
    by_contra hlate
    have hpos : 0 < activityWindow := by decide
    have htime := mem_times_now hnow ht
    -- it still flowed when it came, or when the time began
    exact hquiet (max t since) (by omega) (by omega) ⟨t, ht, by omega, by omega⟩

theorem byte_flowing_of_line (h : Signal.line.Flowing hist now) : Signal.byte.Flowing hist now := by
  obtain ⟨t, ht, hle, hrecent⟩ := h
  obtain ⟨pre, j, post, rfl, hj, rfl⟩ := exists_of_mem_times ht
  refine ⟨j.now, mem_times_of_split ?_, hle, hrecent⟩
  cases he : j.event with
  | item evt => rfl
  | _ => rw [he] at hj; cases hj

/-- Without a fix in between, a rejection is not taken back. -/
theorem rejecting_append {pre post : List LinkInput} (hpost : ∀ i ∈ post, i.event ≠ .fix)
    (h : Rejecting pre) : Rejecting (pre ++ post) := by
  unfold Rejecting at h ⊢
  induction post using List.reverseRecOn with
  | nil => rwa [List.append_nil]
  | append_singleton post i ih =>
    rw [← List.append_assoc, latest_snoc,
      ih fun j hj => hpost j (List.mem_append_left _ hj)]
    obtain ⟨now, event⟩ := i
    cases event with
    | fix => exact absurd rfl (hpost _ (List.mem_append_right _ (List.mem_singleton_self _)))
    | _ => rfl

theorem not_fix_of_away (haway : Signal.fix.Away hist since) {i : LinkInput} (hi : i ∈ hist)
    (hlate : since < i.now) : i.event ≠ .fix := by
  intro hfix
  obtain ⟨pre, post, rfl⟩ := List.append_of_mem hi
  have := haway i.now (mem_times_of_split (comesWith_fix.mpr hfix))
  omega

theorem rejecting_upTo {τ : Nat} (hord : Ordered hist) (haway : Signal.fix.Away hist since)
    (hle : since ≤ τ) (h : Rejecting (upTo since hist)) : Rejecting (upTo τ hist) := by
  have hshorter : upTo since hist = upTo since (upTo τ hist) := by
    unfold upTo
    rw [List.takeWhile_takeWhile]
    refine congrArg (fun p => hist.takeWhile p) (funext fun i => ?_)
    by_cases hi : i.now ≤ since
    · simp [hi, Nat.le_trans hi hle]
    · simp [hi]
  obtain ⟨after, hsplit, hafter⟩ := upTo_append since (upTo τ hist)
  rw [hsplit, ← hshorter]
  refine rejecting_append (fun i hi => not_fix_of_away haway ?_ ?_) h
  · have hmem : i ∈ upTo τ hist := hsplit ▸ List.mem_append_right _ hi
    exact List.takeWhile_subset _ hmem
  · exact hafter (upTo_ordered hord) i hi

theorem rejecting_of_upTo {τ : Nat} (hord : Ordered hist) (haway : Signal.fix.Away hist since)
    (hle : since ≤ τ) (h : Rejecting (upTo τ hist)) : Rejecting hist := by
  obtain ⟨after, hsplit, hafter⟩ := upTo_append τ hist
  rw [hsplit]
  refine rejecting_append (fun i hi => not_fix_of_away haway ?_ ?_) h
  · exact hsplit ▸ List.mem_append_right _ hi
  · exact Nat.lt_of_le_of_lt hle (hafter hord i hi)

theorem upTo_eq_self (hnow : ∀ i ∈ hist, i.now ≤ now) : upTo now hist = hist :=
  List.takeWhile_eq_self_iff.mpr fun i hi => decide_eq_true (hnow i hi)

/-- A state is held for its grace exactly if the inputs are steady for it. -/
theorem heldFor_iff_steady (hord : Ordered hist) (hnow : ∀ i ∈ hist, i.now ≤ now)
    {s : LinkState} (hs : s ≠ .healthy) : HeldFor s hist now ↔ Steady s hist now := by
  unfold HeldFor Steady
  dsimp only
  refine and_congr_right fun _ => ?_
  have hsince : now - s.grace ≤ now := Nat.sub_le _ _
  rw [away_iff hnow hsince]
  cases s with
  | healthy => exact absurd rfl hs
  | noBytes =>
    simp only [stateAt_eq_iff hord]
    rw [away_iff hnow hsince]
    exact ⟨fun h => ⟨fun τ h₁ h₂ => (h τ h₁ h₂).1, fun τ h₁ h₂ => (h τ h₁ h₂).2⟩,
      fun h τ h₁ h₂ => ⟨h.1 τ h₁ h₂, h.2 τ h₁ h₂⟩⟩
  | noSentences =>
    simp only [stateAt_eq_iff hord]
    rw [away_iff hnow hsince]
    exact ⟨fun h => ⟨fun τ h₁ h₂ => (h τ h₁ h₂).1, fun τ h₁ h₂ => (h τ h₁ h₂).2.1,
      fun τ h₁ h₂ => (h τ h₁ h₂).2.2⟩,
      fun h τ h₁ h₂ => ⟨h.1 τ h₁ h₂, h.2.1 τ h₁ h₂, h.2.2 τ h₁ h₂⟩⟩
  | fixesRejected =>
    simp only [stateAt_eq_iff hord]
    constructor
    · intro h
      exact ⟨fun τ h₁ h₂ => (h τ h₁ h₂).1, fun τ h₁ h₂ => (h τ h₁ h₂).2.2.1,
        (h _ (Nat.le_refl _) hsince).2.2.2⟩
    · rintro ⟨haway, hflows, hrejecting⟩ τ h₁ h₂
      refine ⟨haway τ h₁ h₂, byte_flowing_of_line (hflows τ h₁ h₂), hflows τ h₁ h₂, ?_⟩
      exact rejecting_upTo hord ((away_iff hnow hsince).mpr haway) h₁ hrejecting
  | noFix =>
    simp only [stateAt_eq_iff hord]
    constructor
    · intro h
      refine ⟨fun τ h₁ h₂ => (h τ h₁ h₂).1, fun τ h₁ h₂ => (h τ h₁ h₂).2.2.1, ?_⟩
      have hlast := (h now hsince (Nat.le_refl _)).2.2.2
      rwa [upTo_eq_self hnow] at hlast
    · rintro ⟨haway, hflows, hrejecting⟩ τ h₁ h₂
      refine ⟨haway τ h₁ h₂, byte_flowing_of_line (hflows τ h₁ h₂), hflows τ h₁ h₂, fun h => ?_⟩
      exact hrejecting
        (rejecting_of_upTo hord ((away_iff hnow hsince).mpr haway) h₁ h)

end UpTo

/-! ## Reported after its grace -/

/-- What a poll reports as trouble, the link has been in for its grace. -/
def ReportedAfterGrace (hist : List LinkInput) (i : LinkInput) : Prop :=
  ∀ r ∈ ((Lib.run LinkHealth.step new hist).step i).2, ∀ d, r.report = .trouble d →
    HeldFor d.state hist i.now

/-- A poll that is due to report comes upon steady inputs. -/
def SteadyWhenDue (hist : List LinkInput) (i : LinkInput) : Prop :=
  i.event = .poll → (Lib.run LinkHealth.step new hist).Due i.now →
    Steady ((Lib.run LinkHealth.step new hist).classify i.now) hist i.now

theorem reportedAfterGrace_iff {hist : List LinkInput} {i : LinkInput}
    (hord : Ordered (hist ++ [i])) : ReportedAfterGrace hist i ↔ SteadyWhenDue hist i := by
  obtain ⟨hhist, hnow⟩ := hord.init
  obtain ⟨now, event⟩ := i
  unfold ReportedAfterGrace SteadyWhenDue
  by_cases hi : event = .poll
  · subst hi
    change (∀ r ∈ (LinkHealth.poll _ now).2.toList.map (LinkLog.mk now), _) ↔ _
    rcases poll_cases (Lib.run LinkHealth.step new hist) now with ⟨was, hstate, -, hp⟩ |
      ⟨hdue, hp⟩ | ⟨-, hdue, hp⟩
    · rw [hp]
      refine iff_of_true (fun r hr d hd => ?_) (fun _ hdue => absurd hstate hdue.1)
      obtain rfl : r = _ := List.mem_singleton.mp hr
      cases hd
    · rw [hp]
      have hsteady := heldFor_iff_steady hhist hnow hdue.1
      constructor
      · intro h _ _
        exact hsteady.mp (h _ (List.mem_singleton_self _) _ rfl)
      · rintro h r hr d hd
        obtain rfl : r = _ := List.mem_singleton.mp hr
        obtain rfl := LinkReport.trouble.inj hd
        exact hsteady.mpr (h rfl hdue)
    · rw [hp]
      exact iff_of_true (fun r hr => absurd hr (by simp)) (fun _ h => absurd h hdue)
  · refine iff_of_true (fun r hr => ?_) (fun h => absurd h hi)
    rw [(step_reported hi).2.2] at hr
    exact absurd hr (by simp)

/-- **A condition and its grace, exactly.** Along whatever comes in, in the order of time, no
    trouble is reported before the link has been in its state for the grace of it if and only
    if every poll that is due comes upon steady inputs. -/
theorem reported_after_grace_iff (is : List LinkInput) (hord : Ordered is) :
    (∀ pre i post, is = pre ++ i :: post → ReportedAfterGrace pre i) ↔
      ∀ pre i post, is = pre ++ i :: post → SteadyWhenDue pre i := by
  refine forall_congr' fun pre => forall_congr' fun i => forall_congr' fun post => ?_
  refine forall_congr' fun hsplit => reportedAfterGrace_iff ?_
  rw [hsplit, List.append_cons] at hord
  exact (List.pairwise_append.mp hord).1

/-- A dead wire is reported after ten seconds of it. -/
theorem reported_after_grace_dead_wire : ReportedAfterGrace [] ⟨fromSecs 10, .poll⟩ := by
  refine (reported_after_grace_iff [⟨fromSecs 10, .poll⟩] (by decide)).mpr ?_ [] _ [] rfl
  rintro pre i post hsplit - -
  obtain ⟨rfl, rfl, rfl⟩ : pre = [] ∧ i = ⟨fromSecs 10, .poll⟩ ∧ post = [] := by
    cases pre with
    | nil =>
      obtain ⟨rfl, rfl⟩ := List.cons_eq_cons.mp hsplit
      exact ⟨rfl, rfl, rfl⟩
    | cons j pre => simp at hsplit
  exact ⟨by decide, fun t ht => absurd ht (by simp [Signal.times, notes]),
    fun t ht => absurd ht (by simp [Signal.times, notes])⟩

/-- Sentences without a fix, one each second. -/
def coldStart : List LinkInput :=
  (List.range 16).map fun k => ⟨fromSecs k, .item (.line "$")⟩

/-- The first fix of a cold start, after 15 s, is rejected. -/
def lateRejection : List LinkInput := coldStart ++ [⟨fromSecs 15, .fixRejected⟩]

/-- That every fix is rejected is reported at once. -/
theorem lateRejection_reported :
    Ordered (lateRejection ++ [⟨fromSecs 15, .poll⟩]) ∧
    ¬ ReportedAfterGrace lateRejection ⟨fromSecs 15, .poll⟩ := by
  refine ⟨by decide +kernel, fun h => ?_⟩
  have hreported : (⟨fromSecs 15, .trouble ⟨.fixesRejected,
      ⟨0, 16, 16, 0, 0, 0, 0, 1⟩, fromSecs 15⟩⟩ : LinkLog) ∈
      ((Lib.run LinkHealth.step new lateRejection).step ⟨fromSecs 15, .poll⟩).2 := by
    decide +kernel
  have hheld := (h _ hreported _ rfl).2 (fromSecs 5) (by decide +kernel) (by decide +kernel)
  exact absurd hheld (by decide +kernel)

end LinkHealth

end FlyingSquirrel

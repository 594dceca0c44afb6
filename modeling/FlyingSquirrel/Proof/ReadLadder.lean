import FlyingSquirrel.Hw.ReadHealth
import Mathlib.Data.List.Induction

/-!
# The escalation ladder of the IMU

Every read is fresh or bad. The ladder counts the bad ones since the last fresh one, so it is a
function of that number and of nothing else. A frame that comes back again and again is fresh
at most 100 times.

A repeat that still counts as fresh sends the ladder to its foot, and a failing sensor may have
99 of those. So how long it can be read without a new frame is a product, not a sum.
-/

set_option autoImplicit false

namespace FlyingSquirrel

open Lib

def u32Max : Nat := 4294967295

namespace ReadHealth

/-! ## The ladder -/

/-- The bad reads since the last fresh one. -/
def streak (reads : List ImuRead) : Nat :=
  ((outputs step new reads).reverse.takeWhile (fun a => !a.isFresh)).length

/-- What the `n`-th bad read of a streak escalates to. -/
def OnLadder (n : Nat) (t : Trouble) : Prop :=
  t.consecutiveErrors = min n u32Max ∧
  (t.warnDegraded = true ↔ n = degradedThreshold) ∧
  (t.reinit = true ↔ reinitInterval ∣ n ∧ n < busDownThreshold) ∧
  (t.endStream = true ↔ busDownThreshold ≤ n)

/-- What is said of a read that comes after a streak of `n` bad ones. -/
def Regular (n : Nat) : ReadAnswer → Prop
  | .verdict (.fresh recoveredAfter) =>
    recoveredAfter = if 0 < n then some (min n u32Max) else none
  | .verdict (.frozen t) => OnLadder (n + 1) t
  | .failed t => OnLadder (n + 1) t

theorem onLadder_ladder (kind : TroubleKind) (n : Nat) :
    OnLadder n (ladder kind (min n u32Max)) := by
  unfold OnLadder ladder u32Max degradedThreshold reinitInterval busDownThreshold
  refine ⟨rfl, ?_, ?_, ?_⟩
  · rw [beq_iff_eq]
    omega
  · rw [Bool.and_eq_true, Bool.not_eq_true', decide_eq_false_iff_not, beq_iff_eq]
    omega
  · rw [decide_eq_true_eq]
    omega

theorem succU32_min (n : Nat) : succU32 (min n u32Max) = min (n + 1) u32Max := by
  unfold succU32 u32Max
  omega

theorem streak_snoc (reads : List ImuRead) (r : ImuRead) :
    streak (reads ++ [r]) =
      if ((run step new reads).answer r).2.isFresh then 0 else streak reads + 1 := by
  unfold streak
  rw [outputs_snoc, step, List.reverse_append, List.reverse_singleton, List.singleton_append,
    List.takeWhile_cons]
  cases ((run step new reads).answer r).2.isFresh <;> rfl

/-- **The step lemma.** From a count of the streak, a read is answered as the ladder says, and
    leaves a count of the streak. -/
theorem regular_answer {h : ReadHealth} {n : Nat} (hn : h.consecutiveErrors = min n u32Max)
    (r : ImuRead) :
    Regular n (h.answer r).2 ∧ (h.answer r).1.consecutiveErrors =
      min (if (h.answer r).2.isFresh then 0 else n + 1) u32Max := by
  have hfresh : Regular n (.verdict h.recover.2) := by
    unfold Regular recover u32Max
    dsimp only
    rw [hn]
    unfold u32Max
    by_cases hpos : 0 < n
    · rw [if_pos hpos, if_pos (by omega)]
    · rw [if_neg hpos, if_neg (by omega)]
  have hbad := succU32_min n
  rw [← hn] at hbad
  rcases answer_cases h r with ⟨raw, -, -, ha⟩ | ⟨raw, -, -, -, ha⟩ | ⟨raw, -, -, -, ha⟩ | ⟨-, ha⟩
  · rw [ha]
    exact ⟨hfresh, rfl⟩
  · rw [ha]
    exact ⟨hfresh, rfl⟩
  · rw [ha, hbad]
    exact ⟨onLadder_ladder _ _, rfl⟩
  · rw [ha, hbad]
    exact ⟨onLadder_ladder _ _, rfl⟩

/-- **The run lemma.** The ladder counts the streak. -/
theorem consecutiveErrors_run (reads : List ImuRead) :
    (run step new reads).consecutiveErrors = min (streak reads) u32Max := by
  induction reads using List.reverseRecOn with
  | nil => rfl
  | append_singleton reads r ih =>
    rw [run_snoc, streak_snoc]
    exact (regular_answer ih r).2

/-! ## How often one frame passes -/

/-- How often the frame `raw` may still pass while no other is read. -/
def passesLeft (raw : RawFrame) (h : ReadHealth) : Nat :=
  if h.lastRaw = some raw then frozenOutputThreshold - 1 - h.frozenRun else frozenOutputThreshold

theorem passesLeft_le (raw : RawFrame) (h : ReadHealth) :
    passesLeft raw h ≤ frozenOutputThreshold := by
  unfold passesLeft frozenOutputThreshold
  split <;> omega

theorem passes_step {raw : RawFrame} (h : ReadHealth) {r : ImuRead}
    (hr : r = .err ∨ r = .ok raw) :
    (if (h.answer r).2.isFresh then 1 else 0) + passesLeft raw (h.answer r).1 ≤
      passesLeft raw h := by
  rcases answer_cases h r with ⟨raw', rfl, hnew, ha⟩ | ⟨raw', rfl, hsame, hshort, ha⟩ |
    ⟨raw', rfl, hsame, hlong, ha⟩ | ⟨rfl, ha⟩
  · obtain rfl : raw' = raw := by simpa using hr
    rw [ha]
    unfold passesLeft
    rw [if_neg hnew]
    simp [ReadAnswer.isFresh, recover, frozenOutputThreshold]
  · obtain rfl : raw' = raw := by simpa using hr
    rw [ha]
    unfold passesLeft
    rw [if_pos hsame]
    unfold succU32 frozenOutputThreshold at *
    simp [ReadAnswer.isFresh, recover]
    omega
  · obtain rfl : raw' = raw := by simpa using hr
    rw [ha]
    unfold passesLeft
    rw [if_pos hsame]
    unfold succU32 frozenOutputThreshold at *
    simp [ReadAnswer.isFresh]
    omega
  · rw [ha]
    simp [ReadAnswer.isFresh, passesLeft]

theorem passes_run {raw : RawFrame} (h : ReadHealth) {reads : List ImuRead}
    (hreads : ∀ r ∈ reads, r = .err ∨ r = .ok raw) :
    (outputs step h reads).countP ReadAnswer.isFresh + passesLeft raw (run step h reads) ≤
      passesLeft raw h := by
  induction reads generalizing h with
  | nil => simp [outputs]
  | cons r reads ih =>
    obtain ⟨hr, hrest⟩ := List.forall_mem_cons.mp hreads
    have hone := passes_step h hr
    have hmany := ih (h.answer r).1 hrest
    rw [outputs, List.countP_append, run_cons]
    change [(h.answer r).2].countP ReadAnswer.isFresh +
      (outputs step (h.answer r).1 reads).countP ReadAnswer.isFresh +
      passesLeft raw (run step (h.answer r).1 reads) ≤ passesLeft raw h
    rw [List.countP_singleton]
    omega

/-- **Bounded exposure and a regular ladder.** However errors and frames alternate: while no
    other frame is read, one and the same passes at most 100 times; and each read is answered
    by the length of the streak it continues or ends. -/
theorem readHealth_regular :
    (∀ pre reads raw, (∀ r ∈ reads, r = .err ∨ r = .ok raw) →
      (outputs step (run step new pre) reads).countP ReadAnswer.isFresh ≤
        frozenOutputThreshold) ∧
    ∀ reads r, Regular (streak reads) ((run step new reads).answer r).2 := by
  refine ⟨fun pre reads raw hreads => ?_, fun reads r => ?_⟩
  · have hpasses := passes_run (run step new pre) hreads
    have hle := passesLeft_le raw (run step new pre)
    omega
  · exact (regular_answer (consecutiveErrors_run reads) r).1

/-! ## How long a sensor is read that brings nothing new -/

/-- A read that brings no frame unlike the last: an error, or the last frame again. -/
def Stale (before : List ImuRead) (r : ImuRead) : Prop :=
  r = .err ∨ ∃ raw, latest ImuRead.frame? before = some raw ∧ r = .ok raw

instance (before : List ImuRead) (r : ImuRead) : Decidable (Stale before r) :=
  match r with
  | .err => .isTrue (.inl rfl)
  | .ok raw =>
    decidable_of_iff (latest ImuRead.frame? before = some raw) <| by
      constructor
      · intro h
        exact .inr ⟨raw, h, rfl⟩
      · rintro (h | ⟨raw', h, hraw⟩)
        · cases h
        · cases hraw
          exact h

/-- Some of these reads ends the stream. -/
def EndsWithin (h : ReadHealth) (reads : List ImuRead) : Prop :=
  ∃ a ∈ outputs step h reads, a.endsStream = true

instance (h : ReadHealth) (reads : List ImuRead) : Decidable (EndsWithin h reads) :=
  inferInstanceAs (Decidable (∃ a ∈ outputs step h reads, a.endsStream = true))

theorem lastRaw_run (reads : List ImuRead) :
    (run step new reads).lastRaw = latest ImuRead.frame? reads := by
  induction reads using List.reverseRecOn with
  | nil => rfl
  | append_singleton reads r ih =>
    rw [run_snoc]
    change ((run step new reads).answer r).1.lastRaw = _
    have hok : ∀ raw, latest ImuRead.frame? (reads ++ [.ok raw]) = some raw := fun raw => by
      rw [latest_snoc]
      rfl
    rcases answer_cases (run step new reads) r with ⟨raw, rfl, -, ha⟩ | ⟨raw, rfl, -, -, ha⟩ |
      ⟨raw, rfl, -, -, ha⟩ | ⟨rfl, ha⟩
    · rw [ha]
      exact (hok raw).symm
    · rw [ha]
      exact (hok raw).symm
    · rw [ha]
      exact (hok raw).symm
    · rw [ha]
      exact ih.trans (latest_snoc_none rfl).symm

/-- The reads without a new frame that are left before one ends the stream: the rest of this
    streak, and a whole streak for each pass the last frame has left. -/
def budget (h : ReadHealth) : Nat :=
  (frozenOutputThreshold - 1 - h.frozenRun) * busDownThreshold +
    (busDownThreshold - 1 - h.consecutiveErrors)

theorem budget_lt (h : ReadHealth) : budget h < frozenOutputThreshold * busDownThreshold := by
  unfold budget frozenOutputThreshold busDownThreshold
  omega

theorem endsStream_ladder {h : ReadHealth}
    (hc : busDownThreshold ≤ succU32 h.consecutiveErrors) (kind : TroubleKind) :
    (ladder kind (succU32 h.consecutiveErrors)).endStream = true := decide_eq_true hc

/-- A read that brings nothing new ends the stream or is paid for. -/
theorem stale_step {h : ReadHealth} {r : ImuRead}
    (hr : r = .err ∨ ∃ raw, h.lastRaw = some raw ∧ r = .ok raw) :
    (h.answer r).2.endsStream = true ∨
      ((h.answer r).1.lastRaw = h.lastRaw ∧ budget (h.answer r).1 < budget h) := by
  by_cases hc : busDownThreshold ≤ succU32 h.consecutiveErrors
  · rcases answer_cases h r with ⟨raw, rfl, hnew, ha⟩ | ⟨raw, rfl, hsame, hshort, ha⟩ |
      ⟨raw, rfl, hsame, hlong, ha⟩ | ⟨rfl, ha⟩
    · obtain ⟨raw', hlast, hraw⟩ := hr.resolve_left (by simp)
      exact absurd (hlast.trans (congrArg some (ImuRead.ok.inj hraw).symm)) hnew
    · right
      rw [ha]
      refine ⟨hsame.symm, ?_⟩
      unfold budget succU32 frozenOutputThreshold busDownThreshold at *
      dsimp only
      omega
    · left
      rw [ha]
      exact endsStream_ladder hc _
    · left
      rw [ha]
      exact endsStream_ladder hc _
  · right
    rcases answer_cases h r with ⟨raw, rfl, hnew, ha⟩ | ⟨raw, rfl, hsame, hshort, ha⟩ |
      ⟨raw, rfl, hsame, hlong, ha⟩ | ⟨rfl, ha⟩
    · obtain ⟨raw', hlast, hraw⟩ := hr.resolve_left (by simp)
      exact absurd (hlast.trans (congrArg some (ImuRead.ok.inj hraw).symm)) hnew
    all_goals
      rw [ha]
      refine ⟨by first | exact hsame.symm | rfl, ?_⟩
      unfold budget succU32 frozenOutputThreshold busDownThreshold at *
      dsimp only
      omega

theorem endsWithin_of_budget {h : ReadHealth} {reads : List ImuRead}
    (hreads : ∀ r ∈ reads, r = .err ∨ ∃ raw, h.lastRaw = some raw ∧ r = .ok raw)
    (hlen : budget h < reads.length) : EndsWithin h reads := by
  induction reads generalizing h with
  | nil => exact absurd hlen (Nat.not_lt_zero _)
  | cons r reads ih =>
    obtain ⟨hr, hrest⟩ := List.forall_mem_cons.mp hreads
    rcases stale_step hr with hend | ⟨hlast, hless⟩
    · exact ⟨(h.answer r).2, List.mem_append_left _ (List.mem_singleton_self _), hend⟩
    · rw [← hlast] at hrest
      obtain ⟨a, ha, hend⟩ := ih hrest (by rw [List.length_cons] at hlen; omega)
      exact ⟨a, List.mem_append_right _ ha, hend⟩

/-! ## The longest that it goes on -/

/-- Reads that lead from one state to another and do not end the stream. -/
def GoesOn (h : ReadHealth) (reads : List ImuRead) (h' : ReadHealth) : Prop :=
  run step h reads = h' ∧ ¬ EndsWithin h reads

theorem GoesOn.append {h h' h'' : ReadHealth} {reads reads' : List ImuRead}
    (hfirst : GoesOn h reads h') (hthen : GoesOn h' reads' h'') :
    GoesOn h (reads ++ reads') h'' := by
  obtain ⟨rfl, hquiet⟩ := hfirst
  obtain ⟨rfl, hquiet'⟩ := hthen
  refine ⟨run_append h reads reads', ?_⟩
  rintro ⟨a, ha, hend⟩
  rw [outputs_append, List.mem_append] at ha
  rcases ha with ha | ha
  · exact hquiet ⟨a, ha, hend⟩
  · exact hquiet' ⟨a, ha, hend⟩

theorem goesOn_single {h h' : ReadHealth} {r : ImuRead} (hnext : (h.answer r).1 = h')
    (hquiet : (h.answer r).2.endsStream = false) : GoesOn h [r] h' := by
  refine ⟨hnext, ?_⟩
  rintro ⟨a, ha, hend⟩
  obtain rfl : a = (h.answer r).2 := by simpa [outputs, step] using ha
  exact absurd (hquiet.symm.trans hend) (by simp)

theorem goesOn_errors {c n : Nat} (raw : Option RawFrame) (k : Nat)
    (h : c + n < busDownThreshold) :
    GoesOn ⟨c, raw, k⟩ (List.replicate n .err) ⟨c + n, raw, k⟩ := by
  induction n with
  | zero => exact ⟨rfl, by simp [EndsWithin, outputs]⟩
  | succ n ih =>
    rw [List.replicate_succ']
    have hcount : succU32 (c + n) = c + (n + 1) := by
      unfold succU32 busDownThreshold at *
      omega
    refine (ih (by omega)).append (goesOn_single ?_ ?_)
    · exact congrArg (fun c => ReadHealth.mk c raw k) hcount
    · exact decide_eq_false (by dsimp only; rw [hcount]; exact Nat.not_le.mpr h)

/-- A streak just short of the budget, and the last frame again. -/
def flaky (raw : RawFrame) : List ImuRead := List.replicate (busDownThreshold - 1) .err ++ [.ok raw]

theorem goesOn_flaky {raw : RawFrame} {k : Nat} (hk : k + 1 < frozenOutputThreshold) :
    GoesOn ⟨0, some raw, k⟩ (flaky raw) ⟨0, some raw, k + 1⟩ := by
  have hcount : succU32 k = k + 1 := by
    unfold succU32 frozenOutputThreshold at *
    omega
  refine (goesOn_errors (some raw) k (by decide)).append ?_
  rcases answer_cases ⟨0 + (busDownThreshold - 1), some raw, k⟩ (.ok raw) with
    ⟨raw', hraw, hnew, -⟩ | ⟨raw', hraw, -, -, ha⟩ | ⟨raw', hraw, -, hlong, -⟩ | ⟨hraw, -⟩
  · exact absurd (congrArg some (ImuRead.ok.inj hraw)) hnew
  · obtain rfl := ImuRead.ok.inj hraw
    refine goesOn_single ?_ ?_
    · rw [ha]
      exact congrArg (fun k => ReadHealth.mk 0 (some raw) k) hcount
    · rw [ha]
      rfl
  · dsimp only at hlong
    rw [hcount] at hlong
    exact absurd hk (Nat.not_lt.mpr hlong)
  · cases hraw

theorem goesOn_flakies {raw : RawFrame} {n : Nat} (hn : n < frozenOutputThreshold) :
    GoesOn ⟨0, some raw, 0⟩ (List.replicate n (flaky raw)).flatten ⟨0, some raw, n⟩ := by
  induction n with
  | zero => exact ⟨rfl, by simp [EndsWithin, outputs]⟩
  | succ n ih =>
    rw [List.replicate_succ', List.flatten_append, List.flatten_singleton]
    exact (ih (by omega)).append (goesOn_flaky hn)

/-- The longest reading of one frame: each of its passes is put off as long as it can be. -/
def drawnOut (raw : RawFrame) : List ImuRead :=
  (List.replicate (frozenOutputThreshold - 1) (flaky raw)).flatten ++
    List.replicate (busDownThreshold - 1) .err

theorem drawnOut_length (raw : RawFrame) :
    (drawnOut raw).length + 1 = frozenOutputThreshold * busDownThreshold := by
  unfold drawnOut flaky
  rw [List.length_append, List.length_flatten, List.map_replicate, List.sum_replicate,
    List.length_append, List.length_replicate, List.length_singleton]
  rfl

theorem drawnOut_stale (raw : RawFrame) : ∀ r ∈ drawnOut raw, Stale [.ok raw] r := by
  intro r hr
  unfold drawnOut flaky at hr
  simp only [List.mem_append, List.mem_flatten, List.mem_replicate] at hr
  rcases hr with ⟨l, ⟨-, rfl⟩, hr⟩ | ⟨-, rfl⟩
  · simp only [List.mem_append, List.mem_replicate, List.mem_singleton] at hr
    rcases hr with ⟨-, rfl⟩ | rfl
    · exact .inl rfl
    · exact .inr ⟨raw, rfl, rfl⟩
  · exact .inl rfl

theorem drawnOut_goesOn (raw : RawFrame) :
    ¬ EndsWithin (run step new [.ok raw]) (drawnOut raw) :=
  ((goesOn_flakies (by decide)).append (goesOn_errors (some raw) _ (by decide))).2

/-- **A dead sensor ends the stream.** After any reads, `n` more that bring no frame unlike the
    last one always end it if and only if there are at least as many as the two thresholds
    multiply to. -/
theorem stale_reads_end_iff (n : Nat) :
    (∀ before reads, (∀ r ∈ reads, Stale before r) → n ≤ reads.length →
      EndsWithin (run step new before) reads) ↔
      frozenOutputThreshold * busDownThreshold ≤ n := by
  constructor
  · intro h
    by_contra hfew
    have hraw : RawFrame := Vector.replicate rawFrameLen 0
    refine drawnOut_goesOn hraw (h [.ok hraw] (drawnOut hraw) (drawnOut_stale hraw) ?_)
    have hlen := drawnOut_length hraw
    omega
  · intro hn before reads hstale hlen
    refine endsWithin_of_budget (fun r hr => ?_) ?_
    · rw [lastRaw_run]
      exact hstale r hr
    · have hbudget := budget_lt (run step new before)
      omega

/-- A frame, 999 errors, the frame once more and 100 errors. -/
def flakyOnce (raw : RawFrame) : List ImuRead := flaky raw ++ List.replicate 100 .err

/-- The sum of the thresholds is not enough. -/
theorem flakyOnce_goesOn :
    let raw : RawFrame := Vector.replicate rawFrameLen 0
    (flakyOnce raw).length = busDownThreshold + frozenOutputThreshold ∧
    (∀ r ∈ flakyOnce raw, Stale [.ok raw] r) ∧
    ¬ EndsWithin (run step new [.ok raw]) (flakyOnce raw) := by
  refine ⟨by decide +kernel, by decide +kernel, ?_⟩
  exact ((goesOn_flaky (by decide)).append (goesOn_errors _ _ (by decide))).2

end ReadHealth

end FlyingSquirrel

import FlyingSquirrel.Proof.LinkSignals

/-!
# Reports of the link come in episodes

The state and the time of the last report are set together and cleared together, so they say
where in an episode the link stands: `Episodes` is the grammar of what it has reported, and the
two cells are the end of the word.
-/

set_option autoImplicit false

namespace FlyingSquirrel

open Lib

namespace LinkHealth

/-- Troubles and then a recovery, again and again, and where that stands: the state and the
    time of the last trouble, if no recovery has come since. Troubles of one episode keep the
    repeat interval, and a recovery is from the last of them. -/
inductive Episodes : List LinkLog → Option (LinkState × Nat) → Prop
  | start : Episodes [] none
  | trouble {said : List LinkLog} {since : Option (LinkState × Nat)} (h : Episodes said since)
      (now : Nat) (d : LinkDiagnosis)
      (hgap : ∀ s last, since = some (s, last) → last + repeatInterval ≤ now) :
      Episodes (said ++ [⟨now, .trouble d⟩]) (some (d.state, now))
  | recovered {said : List LinkLog} {was : LinkState} {last : Nat}
      (h : Episodes said (some (was, last))) (now : Nat) (counts : LinkCounts) :
      Episodes (said ++ [⟨now, .recovered was counts⟩]) none

/-- The two cells hold the end of the word. -/
structure Tells (h : LinkHealth) (said : List LinkLog) (since : Option (LinkState × Nat)) :
    Prop where
  episodes : Episodes said since
  reported : h.reported = since.map Prod.fst
  lastReportAt : h.lastReportAt = since.map Prod.snd

theorem Tells.step {h : LinkHealth} {said : List LinkLog} {since : Option (LinkState × Nat)}
    (ht : Tells h said since) (i : LinkInput) :
    ∃ since', Tells (h.step i).1 (said ++ (h.step i).2) since' := by
  obtain ⟨hepisodes, hreported, hlast⟩ := ht
  by_cases hi : i.event = .poll
  · obtain ⟨now, event⟩ := i
    obtain rfl : event = .poll := hi
    change ∃ since', Tells (h.poll now).1
      (said ++ (h.poll now).2.toList.map (LinkLog.mk now)) since'
    rcases poll_cases h now with ⟨was, -, hwas, hp⟩ | ⟨hdue, hp⟩ | ⟨-, -, hp⟩
    · rw [hp]
      obtain ⟨⟨was', last⟩, rfl, rfl⟩ := Option.map_eq_some_iff.mp (hreported.symm.trans hwas)
      exact ⟨none, hepisodes.recovered now h.counts, rfl, rfl⟩
    · rw [hp]
      refine ⟨some (h.classify now, now), hepisodes.trouble now _ fun s last hs => ?_, rfl, rfl⟩
      -- the repeat timer runs from the last trouble
      have hout := hdue.2.2
      unfold repeatElapsed at hout
      rw [hlast, hs, Option.map_some, Bool.not_eq_true', decide_eq_false_iff_not] at hout
      unfold repeatInterval fromSecs at *
      omega
    · rw [hp]
      exact ⟨since, by simpa using hepisodes, hreported, hlast⟩
  · obtain ⟨hsame, hsame', hsilent⟩ := step_reported (h := h) hi
    rw [hsilent, List.append_nil]
    exact ⟨since, hepisodes, hsame.trans hreported, hsame'.trans hlast⟩

theorem Tells.run (is : List LinkInput) :
    ∃ since, Tells (Lib.run LinkHealth.step new is) (outputs LinkHealth.step new is) since := by
  induction is using List.reverseRecOn with
  | nil => exact ⟨none, .start, rfl, rfl⟩
  | append_singleton is i ih =>
    obtain ⟨since, ht⟩ := ih
    rw [run_snoc, outputs_snoc]
    exact ht.step i

/-- A fix came less than a window before. -/
def FixRecent (hist : List LinkInput) (now : Nat) : Prop :=
  ∃ j ∈ hist, j.event = .fix ∧ now - j.now < activityWindow

theorem classify_eq_healthy (h : LinkHealth) (now : Nat) :
    h.classify now = .healthy ↔ recent now h.lastFixAt = true := by
  unfold classify
  constructor
  · intro hstate
    by_contra hno
    rw [if_neg hno] at hstate
    split at hstate
    · cases hstate
    · split at hstate
      · cases hstate
      · split at hstate <;> cases hstate
  · exact fun h => if_pos h

theorem comesWith_fix {h : LinkHealth} {e : LinkEvent} :
    Signal.fix.comesWith h e = true ↔ e = .fix := by
  cases e <;> simp [Signal.comesWith]

theorem healthy_iff_fixRecent {hist : List LinkInput} (hord : Ordered hist) (now : Nat) :
    (Lib.run LinkHealth.step new hist).classify now = .healthy ↔ FixRecent hist now := by
  rw [classify_eq_healthy]
  change recent now (Signal.fix.lastAt _) = true ↔ _
  rw [recent_iff hord]
  constructor
  · rintro ⟨t, ht, hrecent⟩
    obtain ⟨pre, j, post, rfl, hj, rfl⟩ := exists_of_mem_times ht
    exact ⟨j, by simp, comesWith_fix.mp hj, hrecent⟩
  · rintro ⟨j, hj, hfix, hrecent⟩
    obtain ⟨pre, post, rfl⟩ := List.append_of_mem hj
    exact ⟨j.now, mem_times_of_split (comesWith_fix.mpr hfix), hrecent⟩

/-- What is said of a poll, from a history. -/
def SaidRightly (hist : List LinkInput) (i : LinkInput) (r : LinkLog) : Prop :=
  i.event = .poll ∧ r.now = i.now ∧
    match r.report with
    | .trouble _ => ¬ FixRecent hist i.now
    | .recovered _ _ => FixRecent hist i.now

theorem saidRightly_step {hist : List LinkInput} (hord : Ordered hist) {i : LinkInput}
    {r : LinkLog} (hr : r ∈ ((Lib.run LinkHealth.step new hist).step i).2) :
    SaidRightly hist i r := by
  by_cases hi : i.event = .poll
  · obtain ⟨now, event⟩ := i
    obtain rfl : event = .poll := hi
    change r ∈ (LinkHealth.poll _ now).2.toList.map (LinkLog.mk now) at hr
    rcases poll_cases (Lib.run LinkHealth.step new hist) now with ⟨was, hstate, -, hp⟩ |
      ⟨hdue, hp⟩ | ⟨-, -, hp⟩
    · rw [hp] at hr
      obtain rfl : r = _ := List.mem_singleton.mp hr
      exact ⟨rfl, rfl, (healthy_iff_fixRecent hord now).mp hstate⟩
    · rw [hp] at hr
      obtain rfl : r = _ := List.mem_singleton.mp hr
      exact ⟨rfl, rfl, fun hfix => hdue.1 ((healthy_iff_fixRecent hord now).mpr hfix)⟩
    · rw [hp] at hr
      exact absurd hr (by simp)
  · rw [(step_reported hi).2.2] at hr
    exact absurd hr (by simp)

/-- **Reports form closed episodes.** Whatever comes in, in the order of time: what polls
    report is troubles, no closer than the repeat interval, closed by a recovery from the last
    of them, again and again; a recovery comes with a fix less than a window old, and a trouble
    never does. -/
theorem reports_form_episodes (is : List LinkInput) (hord : Ordered is) :
    (∃ since, Episodes (outputs LinkHealth.step new is) since) ∧
    ∀ pre i post, is = pre ++ i :: post →
      ∀ r ∈ ((Lib.run LinkHealth.step new pre).step i).2, SaidRightly pre i r := by
  refine ⟨?_, ?_⟩
  · obtain ⟨since, ht⟩ := Tells.run is
    exact ⟨since, ht.episodes⟩
  · rintro pre i post rfl r hr
    exact saidRightly_step (List.pairwise_append.mp hord).1 hr

/-- A dead wire, a repeat, a fix and the recovery. -/
theorem reports_form_episodes_dead_wire :
    let is : List LinkInput :=
      [⟨fromSecs 10, .poll⟩, ⟨fromSecs 69, .poll⟩, ⟨fromSecs 70, .poll⟩, ⟨fromSecs 71, .fix⟩,
        ⟨fromSecs 72, .poll⟩]
    outputs LinkHealth.step new is =
        [⟨fromSecs 10, .trouble ⟨.noBytes, new.counts, fromSecs 10⟩⟩,
          ⟨fromSecs 70, .trouble ⟨.noBytes, new.counts, fromSecs 70⟩⟩,
          ⟨fromSecs 72, .recovered .noBytes { new.counts with fixes := 1 }⟩] ∧
      ∃ since, Episodes (outputs LinkHealth.step new is) since :=
  ⟨by decide +kernel, (reports_form_episodes _ (by decide +kernel)).1⟩

end LinkHealth

end FlyingSquirrel

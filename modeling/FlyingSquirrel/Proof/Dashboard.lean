import FlyingSquirrel.Mav.Watchdog
import FlyingSquirrel.Proof.EventTrail
import FlyingSquirrel.Proof.Mode
import FlyingSquirrel.Watch

/-!
# What the operator sees

The log is written in two parts for each event, its line and a newline, and the dashboard reads
whatever is there when it looks. **Wherever the reads fall between the writes, each event is
shown once**: a line read without its newline is complete, and the newline read by itself is
blank. Keys move the selection and stop the scrolling, and change nothing that is counted.

Over a run of the detector the count of Spoofed is then the number of moves into Spoofed that the
run announced.
-/

set_option autoImplicit false

namespace FlyingSquirrel

open Lib

variable {α : Type}

/-- An event, as the dashboard reads it back. -/
def SpoofingEvent.view (e : SpoofingEvent α) : WatchEvent α :=
  ⟨e.monoNs, e.kind.name, e.state.debug, e.residualM, some e.detail⟩

/-- The crate writes the event as a line of its own, an object, and reads it back. It does where
    every number is finite; another is written as `null`, which is no number. -/
structure JsonCrate.Carries (J : JsonCrate α) (e : SpoofingEvent α) (line : List Char) : Prop where
  written : J.toString e = .ok line
  oneLine : '\n' ∉ line
  object : ∃ inner, line = inner ++ ['}']
  read : J.fromStr line = .ok e.view

/-- The key neither ends the dashboard nor clears its list. -/
def Key.keeps : Key → Bool
  | .esc => false
  | .char c _ => decide (c ≠ 'q') && decide (c ≠ 'c')
  | _ => true

def DashboardInput.text? : DashboardInput → Option (List Char)
  | .grows text => some text
  | .key _ => none

/-- The event announces that the mode is Spoofed now. -/
def SpoofingEvent.intoSpoofed (e : SpoofingEvent α) : Bool :=
  decide (e.kind = .stateTransition) && decide (e.state = .spoofed)

namespace Dashboard

/-! ## One read -/

theorem trimEnd_blank {s : List Char} {c : Char} (h : isWhitespace c = true) :
    trimEnd (s ++ [c]) = trimEnd s := by
  unfold trimEnd
  rw [List.reverse_append, List.reverse_singleton, List.singleton_append,
    List.dropWhile_cons_of_pos h]

theorem trimEnd_of_not {s : List Char} {c : Char} (h : isWhitespace c = false) :
    trimEnd (s ++ [c]) = s ++ [c] := by
  unfold trimEnd
  rw [List.reverse_append, List.reverse_singleton, List.singleton_append,
    List.dropWhile_cons_of_neg (by simp [h]), List.reverse_cons, List.reverse_reverse]

theorem onLine_newline (J : JsonCrate α) (d : Dashboard α) : onLine J d ['\n'] = d := by
  unfold onLine
  rw [show trimEnd ['\n'] = [] by decide]
  exact if_pos rfl

/-- A line is read alike with its newline and without. -/
theorem onLine_line {J : JsonCrate α} {e : SpoofingEvent α} {line : List Char}
    (h : J.Carries e line) (d : Dashboard α) :
    onLine J d line = d.push e.view ∧ onLine J d (line ++ ['\n']) = d.push e.view := by
  obtain ⟨inner, hobject⟩ := h.object
  have htrim : trimEnd line = line := by
    rw [hobject]
    exact trimEnd_of_not (by decide)
  have hne : line ≠ [] := by simp [hobject]
  unfold onLine
  rw [trimEnd_blank (by decide), htrim, if_neg hne, h.read]
  exact ⟨rfl, rfl⟩

/-! ## A stretch of the log -/

/-- Consecutive writes of the log, with the events whose lines are among them. -/
inductive Written (J : JsonCrate α) : List (List Char) → List (SpoofingEvent α) → Prop
  | nil : Written J [] []
  | newline {writes : List (List Char)} {es : List (SpoofingEvent α)} (h : Written J writes es) :
      Written J (['\n'] :: writes) es
  | last {e : SpoofingEvent α} {line : List Char} (he : J.Carries e line) : Written J [line] [e]
  | line {e : SpoofingEvent α} {line : List Char} {writes : List (List Char)}
      {es : List (SpoofingEvent α)} (he : J.Carries e line) (h : Written J writes es) :
      Written J (line :: ['\n'] :: writes) (e :: es)

/-- The log of a list of events. -/
theorem Written.log {J : JsonCrate α} {c : ConsoleController} (hc : c.jsonWriter = true)
    {es : List (SpoofingEvent α)} (hes : ∀ e ∈ es, ∃ line, J.Carries e line) :
    Written J (es.flatMap (c.onEvent J)) es := by
  induction es with
  | nil => exact .nil
  | cons e es ih =>
    obtain ⟨line, he⟩ := hes e List.mem_cons_self
    have hwrites : c.onEvent J e = [line, ['\n']] := by
      unfold ConsoleController.onEvent
      rw [if_pos hc, he.written]
    rw [List.flatMap_cons, hwrites]
    exact .line he (ih fun e he => hes e (List.mem_cons_of_mem _ he))

/-- A stretch of the log can be cut between any two writes. -/
theorem Written.split {J : JsonCrate α} {writes : List (List Char)}
    {es : List (SpoofingEvent α)} (h : Written J writes es) {first rest : List (List Char)}
    (hcut : writes = first ++ rest) :
    ∃ es₁ es₂, es = es₁ ++ es₂ ∧ Written J first es₁ ∧ Written J rest es₂ := by
  induction h generalizing first with
  | nil =>
    obtain ⟨rfl, rfl⟩ := List.append_eq_nil_iff.mp hcut.symm
    exact ⟨[], [], rfl, .nil, .nil⟩
  | newline h ih =>
    obtain ⟨rfl, rfl⟩ | ⟨first, rfl, htail⟩ := List.cons_eq_append_iff.mp hcut
    · exact ⟨[], _, rfl, .nil, .newline h⟩
    · obtain ⟨es₁, es₂, hes, h₁, h₂⟩ := ih htail
      exact ⟨es₁, es₂, hes, .newline h₁, h₂⟩
  | last he =>
    obtain ⟨rfl, rfl⟩ | ⟨first, rfl, htail⟩ := List.cons_eq_append_iff.mp hcut
    · exact ⟨[], _, rfl, .nil, .last he⟩
    · obtain ⟨rfl, rfl⟩ := List.append_eq_nil_iff.mp htail.symm
      exact ⟨_, [], (List.append_nil _).symm, .last he, .nil⟩
  | @line e line writes es he h ih =>
    obtain ⟨rfl, rfl⟩ | ⟨first, rfl, hnewline⟩ := List.cons_eq_append_iff.mp hcut
    · exact ⟨[], _, rfl, .nil, .line he h⟩
    · obtain ⟨rfl, rfl⟩ | ⟨first, rfl, htail⟩ := List.cons_eq_append_iff.mp hnewline
      -- the cut is between a line and its newline
      · exact ⟨[e], es, rfl, .last he, .newline h⟩
      · obtain ⟨es₁, es₂, hes, h₁, h₂⟩ := ih htail
        exact ⟨e :: es₁, es₂, by rw [hes, List.cons_append], .line he h₁, h₂⟩

theorem readLines_line {line : List Char} (h : '\n' ∉ line) (text : List Char) :
    readLines (line ++ '\n' :: text) = (line ++ ['\n']) :: readLines text := by
  unfold readLines
  rw [lines_cons h, leftover_cons h, List.map_cons, List.cons_append]

/-- **A stretch of the log shows its events**, each once. -/
theorem Written.read {J : JsonCrate α} {writes : List (List Char)}
    {es : List (SpoofingEvent α)} (h : Written J writes es) (d : Dashboard α) :
    (readLines writes.flatten).foldl (onLine J) d = es.foldl (fun d e => d.push e.view) d := by
  induction h generalizing d with
  | nil => rfl
  | @newline writes es h ih =>
    have hblank := readLines_line (List.not_mem_nil (a := '\n')) writes.flatten
    rw [List.nil_append, List.nil_append] at hblank
    rw [List.flatten_cons, List.singleton_append, hblank, List.foldl_cons, onLine_newline, ih]
  | @last e line he =>
    have hone : readLines line = [line] := by
      obtain ⟨inner, hobject⟩ := he.object
      unfold readLines
      rw [lines_of_not_mem he.oneLine, leftover_of_not_mem he.oneLine,
        if_neg (by simp [hobject])]
      rfl
    rw [List.flatten_singleton, hone, List.foldl_cons, List.foldl_nil, (onLine_line he d).1]
    rfl
  | @line e line writes es he h ih =>
    rw [List.flatten_cons, List.flatten_cons, List.singleton_append, readLines_line he.oneLine,
      List.foldl_cons, (onLine_line he d).2, List.foldl_cons, ih]

/-! ## The summary -/

theorem noteKind_parseErrors (s : Snapshot) (e : WatchEvent α) :
    (s.noteKind e).parseErrors = s.parseErrors := by
  unfold Snapshot.noteKind
  split
  case h_5 | h_6 => split <;> rfl
  all_goals rfl

theorem noteKind_fsmState (s : Snapshot) (e : WatchEvent α) :
    (s.noteKind e).fsmState = s.fsmState := by
  unfold Snapshot.noteKind
  split
  case h_5 | h_6 => split <;> rfl
  all_goals rfl

theorem noteKind_spoofedCount (s : Snapshot) (e : WatchEvent α) :
    (s.noteKind e).spoofedCount =
      if e.kind = "StateTransition" ∧ e.state = "Spoofed" then (s.spoofedCount + 1) % 2 ^ 32
      else s.spoofedCount := by
  unfold Snapshot.noteKind
  split
  case h_6 hkind =>
    split
    · rename_i hstate
      rw [if_pos ⟨hkind, hstate⟩]
    · rename_i hstate
      rw [if_neg fun h => hstate h.2]
  case h_5 hkind =>
    rw [if_neg fun h => absurd (hkind.symm.trans h.1) (by decide)]
    split <;> rfl
  case h_11 =>
    have hother : e.kind ≠ "StateTransition" := by assumption
    rw [if_neg fun h => hother h.1]
  all_goals
    rename_i hkind
    rw [if_neg fun h => absurd (hkind.symm.trans h.1) (by decide)]

theorem noteState_eq (s : Snapshot) (state : String) :
    ∃ shown, s.noteState state = { s with fsmState := shown } ∧ (state ≠ "" → shown = state) := by
  unfold Snapshot.noteState
  by_cases h : state = ""
  · exact ⟨s.fsmState, if_pos h, fun hne => absurd h hne⟩
  · exact ⟨state, if_neg h, fun _ => rfl⟩

theorem applyTo_parseErrors (s : Snapshot) (e : WatchEvent α) :
    (s.applyTo e).parseErrors = s.parseErrors := by
  obtain ⟨shown, hnote, -⟩ := noteState_eq s e.state
  unfold Snapshot.applyTo
  rw [noteKind_parseErrors, hnote]

/-- An event that has a state shows it. -/
theorem applyTo_fsmState (s : Snapshot) {e : WatchEvent α} (h : e.state ≠ "") :
    (s.applyTo e).fsmState = e.state := by
  obtain ⟨shown, hnote, hshown⟩ := noteState_eq s e.state
  unfold Snapshot.applyTo
  rw [noteKind_fsmState, hnote]
  exact hshown h

theorem applyTo_spoofedCount (s : Snapshot) (e : WatchEvent α) :
    (s.applyTo e).spoofedCount =
      if e.kind = "StateTransition" ∧ e.state = "Spoofed" then (s.spoofedCount + 1) % 2 ^ 32
      else s.spoofedCount := by
  obtain ⟨shown, hnote, -⟩ := noteState_eq s e.state
  unfold Snapshot.applyTo
  rw [noteKind_spoofedCount, hnote]

/-! ## What is shown -/

theorem view_counts (e : SpoofingEvent α) :
    (e.view.kind = "StateTransition" ∧ e.view.state = "Spoofed") ↔ e.intoSpoofed = true := by
  have hkind : e.kind.name = "StateTransition" ↔ e.kind = .stateTransition := by
    cases e.kind <;> decide
  have hstate : e.state.debug = "Spoofed" ↔ e.state = .spoofed := by
    cases e.state <;> decide
  unfold SpoofingEvent.intoSpoofed
  rw [Bool.and_eq_true, decide_eq_true_iff, decide_eq_true_iff, ← hkind, ← hstate]
  exact Iff.rfl

/-- A full list loses its first event to the new one, and so keeps the last ones. -/
theorem keepLast {β : Type} (b : Nat) (l : List β) (x : β) :
    (if (l.drop (l.length - max b 1)).length ≥ b then (l.drop (l.length - max b 1)).tail
      else l.drop (l.length - max b 1)) ++ [x] =
      (l ++ [x]).drop ((l ++ [x]).length - max b 1) := by
  rw [List.length_append, List.length_singleton, List.length_drop]
  by_cases hfull : max b 1 ≤ l.length
  · have hk : l.length + 1 - max b 1 = l.length - max b 1 + 1 := by omega
    rw [if_pos (by omega), List.tail_drop, hk, List.drop_append_of_le_length (by omega)]
  · have hk : l.length - max b 1 = 0 := by omega
    have hk' : l.length + 1 - max b 1 = 0 := by omega
    rw [hk, hk', List.drop_zero, List.drop_zero, Nat.sub_zero]
    split
    · -- only an empty buffer is full here
      have hnil : l = [] := List.eq_nil_of_length_eq_zero (by omega)
      rw [hnil]
      rfl
    · rfl

/-- The selected place is in the list, or the first one of an empty list. -/
def Placed (events : List (WatchEvent α)) (selected : Option Nat) : Prop :=
  ∀ i ∈ selected, i < events.length ∨ (events = [] ∧ i = 0)

/-- The dashboard shows the events of the log so far: its summary is of all of them, its list of
    the last ones, and the selected place is in the list. -/
structure Shows (size : Nat) (es : List (SpoofingEvent α)) (d : Dashboard α) : Prop where
  buffer : d.buffer = size
  running : d.running = true
  snap : d.snap = (es.map (·.view)).foldl Snapshot.applyTo .default
  events : d.events = (es.map (·.view)).drop (es.length - max size 1)
  selected : Placed d.events d.selected

variable {size : Nat} {es es' : List (SpoofingEvent α)} {d : Dashboard α}

theorem Shows.start (size : Nat) : Shows size [] (.start size : Dashboard α) where
  buffer := rfl
  running := rfl
  snap := rfl
  events := List.drop_nil.symm
  selected := by simp [Dashboard.start, Placed]

theorem Shows.push (h : Shows size es d) (e : SpoofingEvent α) :
    Shows size (es ++ [e]) (d.push e.view) where
  buffer := h.buffer
  running := h.running
  snap := by
    show d.snap.applyTo e.view = _
    rw [h.snap, List.map_append, List.foldl_append]
    rfl
  events := by
    have hkeep := keepLast size (es.map (·.view)) e.view
    rw [List.length_map, ← h.events] at hkeep
    show (if d.events.length ≥ d.buffer then d.events.tail else d.events) ++ [e.view] = _
    rw [h.buffer, hkeep, List.map_append, List.map_singleton, List.length_append,
      List.length_append, List.length_map, List.length_singleton, List.length_singleton]
  selected := by
    intro i hi
    have hlen : d.events.length ≤ (d.push e.view).events.length ∧
        0 < (d.push e.view).events.length := by
      show _ ≤ ((if d.events.length ≥ d.buffer then d.events.tail else d.events) ++
        [e.view]).length ∧ 0 < (_ ++ [e.view]).length
      rw [List.length_append, List.length_singleton]
      split
      · rw [List.length_tail]
        omega
      · omega
    refine .inl ?_
    by_cases hp : d.paused = true
    · have hsel : (d.push e.view).selected = d.selected := if_pos hp
      rcases h.selected i (hsel ▸ hi) with hlt | ⟨-, rfl⟩
      · omega
      · exact hlen.2
    · have hsel : (d.push e.view).selected = some ((d.push e.view).events.length - 1) :=
        if_neg hp
      rw [hsel, Option.mem_some_iff] at hi
      omega

theorem Shows.pushes (h : Shows size es d) (es' : List (SpoofingEvent α)) :
    Shows size (es ++ es') (es'.foldl (fun d e => d.push e.view) d) := by
  induction es' generalizing es d with
  | nil => rwa [List.append_nil]
  | cons e es' ih =>
    have hrest := ih (h.push e)
    rwa [List.append_assoc] at hrest

theorem placed_of_lt {events : List (WatchEvent α)} {i : Nat} (h : i < max events.length 1) :
    Placed events (some i) := by
  intro j hj
  obtain rfl := Option.mem_some_iff.mp hj
  cases events with
  | nil => exact .inr ⟨rfl, by simpa using h⟩
  | cons e events => exact .inl (by simpa using h)

theorem Placed.getD_lt {events : List (WatchEvent α)} {selected : Option Nat}
    (h : Placed events selected) : selected.getD 0 < max events.length 1 := by
  cases selected with
  | none => exact lt_max_of_lt_right Nat.one_pos
  | some i =>
    show i < _
    rcases h i rfl with hlt | ⟨-, rfl⟩
    · exact lt_max_of_lt_left hlt
    · exact lt_max_of_lt_right Nat.one_pos

/-- A key moves the selection, within the list. -/
theorem handleKey_keeps (d : Dashboard α) {k : Key} (hk : k.keeps = true) :
    ∃ sel paused, d.handleKey k = { d with selected := sel, paused := paused } ∧
      (Placed d.events d.selected → Placed d.events sel) := by
  cases k with
  | esc => exact absurd hk (by decide)
  | other => exact ⟨d.selected, d.paused, rfl, id⟩
  | char c control =>
    have hc : c ≠ 'q' ∧ c ≠ 'c' := by simpa [Key.keeps] using hk
    unfold handleKey
    dsimp only
    rw [if_neg hc.1, if_neg fun h => hc.2 h.2]
    by_cases hp : c = 'p'
    · rw [if_pos hp]
      exact ⟨d.selected, true, rfl, id⟩
    · rw [if_neg hp]
      by_cases hr : c = 'r'
      · rw [if_pos hr]
        exact ⟨d.selected, false, rfl, id⟩
      · rw [if_neg hr, if_neg hc.2]
        exact ⟨d.selected, d.paused, rfl, id⟩
  | up =>
    refine ⟨_, true, rfl, fun h => ?_⟩
    have hcur := h.getD_lt
    split
    · exact placed_of_lt (by omega)
    · exact h
  | down =>
    refine ⟨_, true, rfl, fun h => ?_⟩
    split
    · exact placed_of_lt (by omega)
    · exact h
  | pageUp =>
    refine ⟨_, true, rfl, fun h => placed_of_lt ?_⟩
    have hcur := h.getD_lt
    omega
  | pageDown =>
    refine ⟨_, true, rfl, fun h => placed_of_lt ?_⟩
    omega

theorem Shows.key (h : Shows size es d) {k : Key} (hk : k.keeps = true) :
    Shows size es (d.handleKey k) := by
  obtain ⟨sel, paused, he, hsel⟩ := handleKey_keeps d hk
  rw [he]
  exact { h with selected := hsel h.selected }

/-- **The step lemma**, for a whole run: each look at the file takes what was written since the
    last one. -/
theorem Shows.run {J : JsonCrate α} (h : Shows size es d) {groups : List (List (List Char))}
    (hw : Written J groups.flatten es') {is : List DashboardInput}
    (hreads : is.filterMap DashboardInput.text? = groups.map List.flatten)
    (hkeys : ∀ k, .key k ∈ is → k.keeps = true) :
    Shows size (es ++ es') (Lib.run (step J) d is) := by
  induction is generalizing es es' d groups with
  | nil =>
    have hnil : groups = [] := List.map_eq_nil_iff.mp hreads.symm
    rw [hnil] at hw
    cases hw with
    | nil => rwa [List.append_nil]
  | cons i is ih =>
    have hrest : ∀ k, .key k ∈ is → k.keeps = true := fun k hk =>
      hkeys k (List.mem_cons_of_mem _ hk)
    cases i with
    | key k =>
      have hstep : (step J d (.key k)).1 = d.handleKey k := by
        simp only [step, h.running, if_true]
      rw [run_cons, hstep]
      exact ih (h.key (hkeys k List.mem_cons_self)) hw hreads hrest
    | grows text =>
      cases groups with
      | nil => exact absurd hreads (by simp [DashboardInput.text?])
      | cons writes groups =>
        have hsplit : text = writes.flatten ∧
            is.filterMap DashboardInput.text? = groups.map List.flatten := by
          simpa [DashboardInput.text?] using hreads
        obtain ⟨rfl, htexts⟩ := hsplit
        obtain ⟨es₁, es₂, rfl, h₁, h₂⟩ := hw.split List.flatten_cons
        have hstep : (step J d (.grows writes.flatten)).1 =
            es₁.foldl (fun d e => d.push e.view) d := by
          simp only [step, h.running, if_true]
          exact h₁.read d
        rw [run_cons, hstep, ← List.append_assoc]
        exact ih (h.pushes es₁) h₂ htexts hrest

/-- What the summary says of the events it is of. -/
theorem summary_counts (es : List (SpoofingEvent α)) (s : Snapshot) :
    let shown := (es.map (·.view)).foldl Snapshot.applyTo s
    shown.parseErrors = s.parseErrors ∧
      shown.spoofedCount % 2 ^ 32 = (s.spoofedCount + es.countP (·.intoSpoofed)) % 2 ^ 32 ∧
      (s.spoofedCount < 2 ^ 32 → shown.spoofedCount < 2 ^ 32) := by
  induction es generalizing s with
  | nil => exact ⟨rfl, rfl, id⟩
  | cons e es ih =>
    obtain ⟨hparse, hcount, hlt⟩ := ih (s.applyTo e.view)
    refine ⟨hparse.trans (applyTo_parseErrors s _), hcount.trans ?_, fun h => hlt ?_⟩
    · rw [applyTo_spoofedCount, List.countP_cons, if_congr (view_counts e) rfl rfl]
      split <;> omega
    · rw [applyTo_spoofedCount]
      split
      · exact Nat.mod_lt _ (by norm_num)
      · exact h

/-- The count of Spoofed, which is a `u32`. -/
theorem summary_spoofedCount (es : List (SpoofingEvent α)) :
    ((es.map (·.view)).foldl Snapshot.applyTo .default).spoofedCount =
      es.countP (·.intoSpoofed) % 2 ^ 32 := by
  obtain ⟨-, hcount, hlt⟩ := summary_counts es .default
  rw [show Snapshot.default.spoofedCount = 0 from rfl, Nat.zero_add] at hcount
  rw [← hcount, Nat.mod_eq_of_lt (hlt (by decide))]

/-- The state shown is that of the last event, whoever it came from. -/
theorem summary_state (es : List (SpoofingEvent α)) (e : SpoofingEvent α) :
    (((es ++ [e]).map (·.view)).foldl Snapshot.applyTo .default).fsmState = e.state.debug := by
  have hne : e.view.state ≠ "" := by
    show e.state.debug ≠ ""
    cases e.state <;> decide
  rw [List.map_append, List.map_singleton, List.foldl_append, List.foldl_cons, List.foldl_nil,
    applyTo_fsmState _ hne]
  rfl

/-- A dashboard that reads a stretch of the log shows that stretch of the events. -/
theorem shows_stretch {J : JsonCrate α} {c : ConsoleController} (hc : c.jsonWriter = true)
    (hes : ∀ e ∈ es, ∃ line, J.Carries e line) {skipped rest : List (List Char)}
    {groups : List (List (List Char))}
    (hlog : es.flatMap (c.onEvent J) = skipped ++ groups.flatten ++ rest)
    {is : List DashboardInput}
    (hreads : is.filterMap DashboardInput.text? = groups.map List.flatten)
    (hkeys : ∀ k, .key k ∈ is → k.keeps = true) (size : Nat) :
    ∃ before shown after, es = before ++ shown ++ after ∧ (skipped = [] → before = []) ∧
      (rest = [] → after = []) ∧ Shows size shown (Lib.run (step J) (.start size) is) := by
  obtain ⟨upTo, after, rfl, hupTo, hafter⟩ := (Written.log hc hes).split hlog
  obtain ⟨before, shown, rfl, hbefore, hshown⟩ := hupTo.split rfl
  refine ⟨before, shown, after, rfl, ?_, ?_, (Shows.start size).run hshown hreads hkeys⟩
  · rintro rfl
    cases hbefore
    rfl
  · rintro rfl
    cases hafter
    rfl

theorem shows_log {J : JsonCrate α} {c : ConsoleController} (hc : c.jsonWriter = true)
    (hes : ∀ e ∈ es, ∃ line, J.Carries e line) {groups : List (List (List Char))}
    (hgroups : groups.flatten = es.flatMap (c.onEvent J)) {is : List DashboardInput}
    (hreads : is.filterMap DashboardInput.text? = groups.map List.flatten)
    (hkeys : ∀ k, .key k ∈ is → k.keeps = true) (size : Nat) :
    Shows size es (Lib.run (step J) (.start size) is) :=
  (Shows.start size).run (hgroups ▸ Written.log hc hes) hreads hkeys

/-- **The dashboard follows the log.** Wherever its reads fall between the console's writes, and
    whatever keys come in between, short of those that end it or clear its list: its summary is
    that of every event once, in order, none of them unreadable, its count of Spoofed is exact up
    to the width of the counter, its list holds the last events, as many as it has room for and
    one at least, and the selected place is in the list, or the first one of an empty list. -/
theorem follows_log {J : JsonCrate α} {c : ConsoleController} (hc : c.jsonWriter = true)
    {es : List (SpoofingEvent α)} (hes : ∀ e ∈ es, ∃ line, J.Carries e line)
    {groups : List (List (List Char))} (hgroups : groups.flatten = es.flatMap (c.onEvent J))
    {is : List DashboardInput}
    (hreads : is.filterMap DashboardInput.text? = groups.map List.flatten)
    (hkeys : ∀ k, .key k ∈ is → k.keeps = true) (size : Nat) :
    let d := Lib.run (step J) (.start size) is
    d.running = true ∧
    d.snap = (es.map (·.view)).foldl Snapshot.applyTo .default ∧
    d.snap.parseErrors = 0 ∧
    d.snap.spoofedCount = es.countP (·.intoSpoofed) % 2 ^ 32 ∧
    (∀ e ∈ es.getLast?, d.snap.fsmState = e.state.debug) ∧
    d.events = (es.map (·.view)).drop (es.length - max size 1) ∧
    ∀ i ∈ d.selected, i < d.events.length ∨ (d.events = [] ∧ i = 0) := by
  intro d
  have hshows : Shows size es d := shows_log hc hes hgroups hreads hkeys size
  refine ⟨hshows.running, hshows.snap, ?_, ?_, fun e he => ?_, hshows.events, hshows.selected⟩
  · rw [hshows.snap]
    exact (summary_counts es .default).1
  · rw [hshows.snap]
    exact summary_spoofedCount es
  · obtain ⟨init, rfl⟩ := List.getLast?_eq_some_iff.mp he
    rw [hshows.snap]
    exact summary_state init e

/-! ## A crate that carries what it is given

It writes numbers to one decimal place, and reads back the lines of the events it was made for. -/

def quote (s : String) : List Char := ['\x22'] ++ s.toList ++ ['\x22']

def writeInt (i : Int) : List Char :=
  (if i < 0 then ['-'] else []) ++ Nat.toDigits 10 i.natAbs

def writeNum (x : ℚ) : List Char :=
  let tenths := (|x| * 10).floor.toNat
  (if x < 0 then ['-'] else []) ++ Nat.toDigits 10 (tenths / 10) ++ ['.'] ++
    Nat.toDigits 10 (tenths % 10)

mutual

def writeJson : Json ℚ → List Char
  | .bool b => (if b then "true" else "false").toList
  | .int i => writeInt i
  | .num x => writeNum x
  | .str s => quote s
  | .obj fields => ['{'] ++ writeFields fields ++ ['}']

def writeFields : List (String × Json ℚ) → List Char
  | [] => []
  | [(name, x)] => quote name ++ [':'] ++ writeJson x
  | (name, x) :: field :: fields =>
    quote name ++ [':'] ++ writeJson x ++ [','] ++ writeFields (field :: fields)

end

def writeEvent (e : SpoofingEvent ℚ) : List Char :=
  writeJson (.obj [("mono_ns", .int e.monoNs), ("kind", .str e.kind.name),
    ("state", .str e.state.debug), ("residual_m", .num e.residualM), ("detail", e.detail)])

def crateOf (es : List (SpoofingEvent ℚ)) : JsonCrate ℚ where
  toString e := .ok (writeEvent e)
  fromStr line :=
    match es.find? fun e => decide (writeEvent e = line) with
    | some e => .ok e.view
    | none => .error "expected value at line 1 column 1"

theorem crateOf_carries {es : List (SpoofingEvent ℚ)} (hdistinct : (es.map writeEvent).Nodup)
    (hlines : ∀ e ∈ es, '\n' ∉ writeEvent e) {e : SpoofingEvent ℚ} (he : e ∈ es) :
    (crateOf es).Carries e (writeEvent e) where
  written := rfl
  oneLine := hlines e he
  object := ⟨_, rfl⟩
  read := by
    have hfind : es.find? (fun e' => decide (writeEvent e' = writeEvent e)) = some e := by
      cases hfound : es.find? fun e' => decide (writeEvent e' = writeEvent e) with
      | none => exact absurd (List.find?_eq_none.mp hfound e he) (by simp)
      | some e' =>
        have hsame : writeEvent e' = writeEvent e := by simpa using List.find?_some hfound
        rw [List.inj_on_of_nodup_map hdistinct (List.mem_of_find?_eq_some hfound) he hsame]
    unfold crateOf
    dsimp only
    rw [hfind]

/-- An escalation, and the link coming back after it. -/
def escalated : SpoofingEvent ℚ :=
  ⟨7, none, .stateTransition, .spoofed, 120,
    .obj [("from", .str "Suspicious"), ("to", .str "Spoofed")]⟩

def restored : SpoofingEvent ℚ := emitLinkEvent 9 0 true 4

/-- The first look falls between a line and its newline, and a key between the two looks. The
    mode is still Spoofed, and the dashboard shows that of the link's event. -/
theorem follows_log_cut :
    let d := Lib.run (step (crateOf [escalated, restored])) (.start 500)
      [.grows (writeEvent escalated), .key .up, .grows ('\n' :: writeEvent restored ++ ['\n'])]
    d.snap.spoofedCount = 1 ∧ d.snap.fsmState = "Normal" := by
  have hcarries : ∀ e ∈ [escalated, restored],
      ∃ line, (crateOf [escalated, restored]).Carries e line :=
    fun e he => ⟨_, crateOf_carries (by decide +kernel) (by decide +kernel) he⟩
  have hgroups : [[writeEvent escalated], [['\n'], writeEvent restored, ['\n']]].flatten =
      [escalated, restored].flatMap
        (ConsoleController.onEvent (crateOf [escalated, restored]) ⟨true⟩) :=
    rfl
  have hreads : [DashboardInput.grows (writeEvent escalated), .key .up,
      .grows ('\n' :: writeEvent restored ++ ['\n'])].filterMap DashboardInput.text? =
      [[writeEvent escalated], [['\n'], writeEvent restored, ['\n']]].map List.flatten := by
    simp [DashboardInput.text?, List.filterMap_cons]
  have hall := follows_log (c := ⟨true⟩) rfl hcarries hgroups hreads
    (fun k hk => by rw [show k = .up by simpa using hk]; rfl) 500
  exact ⟨hall.2.2.2.1, hall.2.2.2.2.1 restored rfl⟩

end Dashboard

/-! ## The detector's moves, as events

Two ways to read the moves off the outputs agree: by the `to` of the detail, as the record of
the run does, and by the event's own state, as the dashboard does. -/

/-- A transition that is put out names the mode it is put out in. -/
def Output.Names : Output α → Prop
  | .event e => e.kind = .stateTransition → e.detail.text "to" = some e.state.debug
  | .call _ | .spawn _ => True

theorem names_of_quiet {out : List (Output α)} (h : transitionsIn out = []) :
    ∀ o ∈ out, o.Names := by
  intro o ho
  have hnone := List.filterMap_eq_nil_iff.mp h o ho
  cases o with
  | event e =>
    intro hkind
    simp [Output.announced, hkind] at hnone
  | call c => trivial
  | spawn task => trivial

/-- How many of the moves lead into Spoofed. -/
def intoSpoofed (moves : List (Option String × Option String)) : Nat :=
  moves.countP fun move => move.2 = some "Spoofed"

theorem countP_intoSpoofed {out : List (Output α)} (h : ∀ o ∈ out, o.Names) :
    (out.filterMap Output.event?).countP (·.intoSpoofed) = intoSpoofed (transitionsIn out) := by
  induction out with
  | nil => rfl
  | cons o out ih =>
    have hrest := ih fun o ho => h o (List.mem_cons_of_mem _ ho)
    cases o with
    | event e =>
      have hnames : e.kind = .stateTransition → e.detail.text "to" = some e.state.debug :=
        h _ List.mem_cons_self
      have hstate : e.state.debug = "Spoofed" ↔ e.state = .spoofed := by
        cases e.state <;> decide
      unfold intoSpoofed transitionsIn at hrest ⊢
      rw [List.filterMap_cons_some (show Output.event? (.event e) = some e from rfl),
        List.countP_cons, hrest]
      by_cases hkind : e.kind = .stateTransition
      · have hmove : Output.announced (.event e) =
            some (e.detail.text "from", e.detail.text "to") := if_pos hkind
        rw [List.filterMap_cons_some hmove, List.countP_cons, hnames hkind]
        simp [SpoofingEvent.intoSpoofed, hkind, hstate]
      · rw [List.filterMap_cons_none (show Output.announced (.event e) = none from if_neg hkind)]
        simp [SpoofingEvent.intoSpoofed, hkind]
    | call c => exact hrest
    | spawn task => exact hrest

namespace Fusion

variable [Zero α] [One α] [Neg α] [Add α] [Sub α] [Mul α] [Div α] [NatCast α]
  [OfScientific α] [LT α] [LE α] [DecidableLT α] [DecidableLE α] [BEq α] [Max α] [Min α]
  [Libm α] [FiniteTest α]

theorem decideFix_names (f : Fusion α) (env : Env α) (fix : GpsFix α) (gpsNed : NedPos α) (t : α)
    (r : Residual α) : ∀ o ∈ (f.decideFix env fix gpsNed t r).2, o.Names := by
  have hd := decideFix_decision f env fix gpsNed t r
  generalize (f.decideFix env fix gpsNed t r).1 = f' at hd
  generalize (f.decideFix env fix gpsNed t r).2 = out at hd ⊢
  have hreports : ∀ m, ∀ o ∈ f.reports fix t r m, o.Names := fun m =>
    names_of_quiet (detectorReports_quiet { f with fsm := m } fix r _ _)
  have hmove : ∀ {m : StateMachine α} {source target : NavStateKind}, m.state = target →
      ∀ o ∈ [emit { f with fsm := m } (.transition source target) fix r], o.Names := by
    intro m source target hm o ho
    rw [List.mem_singleton.mp ho]
    intro _
    rw [← hm]
    rfl
  cases hd with
  | latched => exact fun o ho => absurd ho List.not_mem_nil
  | @settled m _ ha => exact hreports m
  | @opened m ha =>
    exact List.forall_mem_append.mpr ⟨hreports m, hmove ha.transitioned.2⟩
  | @escalated m g ha hg =>
    exact List.forall_mem_append.mpr
      ⟨List.forall_mem_append.mpr ⟨hreports m, hmove ha.transitioned.2⟩,
        names_of_quiet (onSpoofed_quiet g fix r env .suspicious)⟩
  | @vetoed m distance ha _ =>
    exact List.forall_mem_append.mpr ⟨hreports m, names_of_quiet (vetoClear_quiet ..)⟩
  | @cleared m ha _ =>
    exact List.forall_mem_append.mpr ⟨hreports m, hmove ha.transitioned.2⟩

/-- What a fix puts out has a decision's transition in it, or none. -/
theorem onGps_names (f : Fusion α) (env : Env α) (fix : GpsFix α) :
    ∀ o ∈ (f.onGps env fix).2, o.Names := by
  unfold onGps
  split
  · unfold onFirstFix
    split
    · exact names_of_quiet (transitionsIn_event (by simp))
    · exact names_of_quiet (refreshPreflight_quiet ..)
  · rename_i gpsNed hned
    split
    · refine names_of_quiet ?_
      show transitionsIn ((f.refreshPreflight env fix.t).2 ++ []) = []
      rw [List.append_nil, refreshPreflight_quiet]
    · unfold onArmedFix
      dsimp only
      refine List.forall_mem_append.mpr ⟨names_of_quiet (drainDwellNotice_quiet _ fix), ?_⟩
      dsimp only
      split
      · exact names_of_quiet (transitionsIn_event (by simp))
      · rw [evaluateFix_eq]
        exact List.forall_mem_append.mpr
          ⟨names_of_quiet (throughDetectors_quiet ..), decideFix_names _ env fix gpsNed _ _⟩

variable [Nalgebra α]

/-- **The step lemma.** -/
theorem step_names (f : Fusion α) (i : Input α) : ∀ o ∈ (f.step i).2, o.Names := by
  cases i with
  | imu sample => exact fun o ho => absurd ho List.not_mem_nil
  | gps fix env => exact onGps_names f env fix
  | reset now =>
    intro o ho
    rcases List.mem_pair.mp ho with rfl | rfl
    · trivial
    · exact fun _ => rfl
  | background now done =>
    refine names_of_quiet ?_
    show transitionsIn (f.onBackground now done).2 = []
    unfold onBackground
    dsimp only
    split <;> rfl

theorem outputs_names (f : Fusion α) (is : List (Input α)) :
    ∀ o ∈ outputs step f is, o.Names := by
  induction is generalizing f with
  | nil => exact fun o ho => absurd ho List.not_mem_nil
  | cons i is ih => exact List.forall_mem_append.mpr ⟨step_names f i, ih _⟩

end Fusion

namespace Runtime

variable [Zero α] [One α] [Neg α] [Add α] [Sub α] [Mul α] [Div α] [NatCast α]
  [OfScientific α] [LT α] [LE α] [DecidableLT α] [DecidableLE α] [BEq α] [Max α] [Min α]
  [Libm α] [FiniteTest α] [Nalgebra α] {B : Type} [Broadcast B (SpoofingEvent α)]

/-- What was sent announces the detector's moves, and nothing else does. -/
theorem countP_sent (f : Fusion α) {is : List (RuntimeInput α)}
    (hwatchdog : ∀ e, .watchdog e ∈ is → e.kind ≠ .stateTransition) :
    (sentIn (outputs step (start B f) is)).countP (·.intoSpoofed) =
      intoSpoofed (transitionsIn (outputs Fusion.step f ((start B f).taken is))) := by
  have hquiet : ∀ e ∈ is.filterMap RuntimeInput.watchdog?, e.intoSpoofed ≠ true := by
    intro e he
    obtain ⟨i, hi, hie⟩ := List.mem_filterMap.mp he
    cases i with
    | watchdog e' =>
      obtain rfl := Option.some.inj hie
      simp [SpoofingEvent.intoSpoofed, hwatchdog e' hi]
    | _ => exact absurd hie (by simp [RuntimeInput.watchdog?])
  have hperm := sentIn_perm (outputs step (start B f) is)
  rw [outputs_warnings, show _ = outputs Fusion.step f ((start B f).taken is) from
    (run_fusion (start B f) is).2] at hperm
  rw [hperm.countP_eq, List.countP_append, List.countP_eq_zero.mpr hquiet, Nat.add_zero]
  exact countP_intoSpoofed (Fusion.outputs_names f _)

/-- A detector that is in Spoofed has announced a move there. -/
theorem intoSpoofed_pos {a b : Option String} {moves : List (Option String × Option String)}
    (h : Path a moves b) (ha : a ≠ some "Spoofed") (hb : b = some "Spoofed") :
    0 < intoSpoofed moves := by
  induction h with
  | nil a => exact absurd hb ha
  | @cons a b c moves h ih =>
    unfold intoSpoofed at ih ⊢
    rw [List.countP_cons]
    by_cases hmid : b = some "Spoofed"
    · simp [hmid]
    · exact Nat.lt_add_right _ (ih hmid hb)

/-- **What the operator sees of the detector.** However the tasks interleave, on a channel of the
    documented kind, and whatever stretch of what the console writes down the dashboard has read,
    wherever its looks fall between the writes: the count of Spoofed it shows is never more than
    the moves into Spoofed that the detector announced. Where it has read all of it, and the action
    task waits for more and was never more than the channel's capacity behind, the count is exact up
    to the width of the counter, and not zero while the detector is in Spoofed. -/
theorem operator_sees {Trails : B → Trail (SpoofingEvent α) → Prop}
    (hdoc : Broadcast.Documented Trails) {J : JsonCrate α} {console : ConsoleController}
    (hconsole : console.jsonWriter = true) {c : FusionConfig α} {boot : Instant} {f : Fusion α}
    (hf : Fusion.Built c boot f) (is : List (RuntimeInput α))
    (hwatchdog : ∀ e, .watchdog e ∈ is → e.kind ≠ .stateTransition)
    (hcarries : ∀ e ∈ Broadcast.values (answersIn (outputs step (start B f) is)),
      ∃ line, J.Carries e line)
    {skipped rest : List (List Char)} {groups : List (List (List Char))}
    (hlog : (Broadcast.values (answersIn (outputs step (start B f) is))).flatMap
      (console.onEvent J) = skipped ++ groups.flatten ++ rest)
    {looks : List DashboardInput}
    (hreads : looks.filterMap DashboardInput.text? = groups.map List.flatten)
    (hkeys : ∀ k, .key k ∈ looks → k.keeps = true) (size : Nat) :
    let d := run (Dashboard.step J) (.start size) looks
    let rt := run step (start B f) is
    let moves := transitionsIn (outputs Fusion.step f ((start B f).taken is))
    d.snap.parseErrors = 0 ∧
    d.snap.spoofedCount ≤ intoSpoofed moves ∧
    (skipped = [] → rest = [] →
      (∀ is₁, is₁ <+: is → behind (outputs step (start B f) is₁) ≤ eventsCap) →
      Broadcast.recv rt.events = none →
      d.snap.spoofedCount = intoSpoofed moves % 2 ^ 32 ∧
        (intoSpoofed moves < 2 ^ 32 → rt.loop.fusion.fsm.state = .spoofed →
          0 < d.snap.spoofedCount)) := by
  intro d rt moves
  obtain ⟨before, shown, after, hhanded, hbefore, hafter, hshows⟩ :=
    Dashboard.shows_stretch hconsole hcarries hlog hreads hkeys size
  have hcount : d.snap.spoofedCount = shown.countP (·.intoSpoofed) % 2 ^ 32 := by
    rw [hshows.snap]
    exact Dashboard.summary_spoofedCount shown
  have hsent : (sentIn (outputs step (start B f) is)).countP (·.intoSpoofed) = intoSpoofed moves :=
    countP_sent f hwatchdog
  refine ⟨?_, ?_, fun hfirst hlast hwithin hwaits => ?_⟩
  · rw [hshows.snap]
    exact (Dashboard.summary_counts shown .default).1
  · have hstretch : shown.Sublist (before ++ shown ++ after) :=
      (List.sublist_append_right before shown).trans (List.sublist_append_left _ after)
    have hread := (told_outputs hdoc f is).accounts.sublist.trans (List.take_sublist _ _)
    rw [hhanded] at hread
    calc d.snap.spoofedCount ≤ shown.countP (·.intoSpoofed) := hcount ▸ Nat.mod_le _ _
      _ ≤ (sentIn (outputs step (start B f) is)).countP (·.intoSpoofed) :=
          (hstretch.trans hread).countP_le
      _ = intoSpoofed moves := hsent
  · have hall : shown = sentIn (outputs step (start B f) is) := by
      rw [hbefore hfirst, hafter hlast, List.nil_append, List.append_nil] at hhanded
      rw [← hhanded]
      exact handed_outputs hdoc hwithin hwaits
    have hexact : d.snap.spoofedCount = intoSpoofed moves % 2 ^ 32 := by rw [hcount, hall, hsent]
    refine ⟨hexact, fun hwidth hspoofed => ?_⟩
    obtain ⟨-, hnormal⟩ := hf.modes
    have hpath := path_outputs (fun f i => (Fusion.step_mode f i).path) f ((start B f).taken is)
    have hmode : (run Fusion.step f ((start B f).taken is)).mode = some "Spoofed" := by
      have hrun : rt.loop.fusion = run Fusion.step f ((start B f).taken is) :=
        (run_fusion (start B f) is).1
      rw [← hrun]
      exact congrArg (fun s : NavStateKind => some s.debug) hspoofed
    rw [hexact, Nat.mod_eq_of_lt hwidth]
    exact intoSpoofed_pos hpath (by rw [hnormal]; decide) hmode

/-- Each input of the fusion step, as its source's task passes it on. -/
def passedOn : Input ℚ → List (RuntimeInput ℚ)
  | .imu sample => [.imuYields (some (.ok sample)), .pollImu, .pollImu, .pollFusion quietEnv]
  | .gps fix env => [.gpsYields (some (.ok fix)), .pollGps, .pollGps, .pollFusion env]
  | .reset _ | .background _ _ => []

/-- Two fixes a degree away, a dwell apart, and the action task reads what came of them. -/
def announced : List (RuntimeInput ℚ) :=
  (Fusion.arming ++ Fusion.fixes quietEnv [(110, 1), (211, 1)]).flatMap passedOn ++
    List.replicate 7 .pollAction

def handedOn : List (SpoofingEvent ℚ) :=
  Broadcast.values (answersIn (outputs step (start EventRing (Fusion.new quickCfg 0)) announced))

def logged : List (List Char) :=
  handedOn.flatMap (ConsoleController.onEvent (Dashboard.crateOf handedOn) ⟨true⟩)

/-- The dashboard looks twice, the first time between a line and its newline. -/
theorem operator_sees_announced :
    let d := run (Dashboard.step (Dashboard.crateOf handedOn)) (.start 500)
      [.grows (logged.take 7).flatten, .key .up, .grows (logged.drop 7).flatten]
    (run step (start EventRing (Fusion.new quickCfg 0)) announced).loop.fusion.fsm.state =
      .spoofed ∧ d.snap.spoofedCount = 1 := by
  have hcarries : ∀ e ∈ handedOn, ∃ line, (Dashboard.crateOf handedOn).Carries e line :=
    fun e he => ⟨_, Dashboard.crateOf_carries (by decide +kernel) (by decide +kernel) he⟩
  have hlog : logged = [] ++ [logged.take 7, logged.drop 7].flatten ++ [] := by simp
  have hreads : [DashboardInput.grows (logged.take 7).flatten, .key .up,
      .grows (logged.drop 7).flatten].filterMap DashboardInput.text? =
      [logged.take 7, logged.drop 7].map List.flatten := by
    simp [DashboardInput.text?, List.filterMap_cons]
  have hkeys : ∀ k, .key k ∈ [DashboardInput.grows (logged.take 7).flatten, .key .up,
      .grows (logged.drop 7).flatten] → k.keeps = true := by
    intro k hk
    rw [show k = .up by simpa using hk]
    rfl
  have hsources : ∀ i ∈ announced, i.watchdog?.isNone = true := by decide +kernel
  have hsent : (sentIn (outputs step (start EventRing (Fusion.new quickCfg 0)) announced)).length ≤
      eventsCap := by decide +kernel
  have hconsole : (⟨true⟩ : ConsoleController).jsonWriter = true := rfl
  have hexact := (operator_sees RingChannel.documented hconsole .new announced
    (fun e he => absurd (hsources _ he) Bool.false_ne_true) hcarries hlog hreads hkeys 500).2.2
    rfl rfl (fun is₁ his₁ => (behind_le_sent his₁).trans hsent)
    (Option.isNone_iff_eq_none.mp (by decide +kernel))
  refine ⟨by decide +kernel, hexact.1.trans ?_⟩
  decide +kernel

end Runtime

end FlyingSquirrel

import FlyingSquirrel.Hw.NmeaLink

/-!
# The link health (`hw/nmea_link.rs`)

A port that opens and delivers no fixes is diagnosed by what reaches each stage: bytes, lines,
NMEA sentences, fixes, and the plausibility gate. `LinkHealth` notes when each last happened,
and a poll classifies the link by that and decides whether to say something.

Times are nanoseconds since the port opened. The counts are `u64`s that never come near their
end, so overflow is left out.
-/

set_option autoImplicit false

namespace FlyingSquirrel

open Lib

/-- `Duration::from_secs`. -/
def fromSecs (n : Nat) : Nat := n * 1000000000

def activityWindow : Nat := fromSecs 6
def quietLinkGrace : Nat := fromSecs 10
def noFixGrace : Nat := fromSecs 60
def repeatInterval : Nat := fromSecs 60

inductive LinkState
  | healthy
  | noBytes
  | noSentences
  | noFix
  | fixesRejected
deriving DecidableEq, Repr

/-- How long a condition must hold before it is first reported. -/
def LinkState.grace : LinkState → Nat
  | .healthy => 0
  | .noFix => noFixGrace
  | _ => quietLinkGrace

structure LinkCounts where
  bytes : Nat
  lines : Nat
  nmeaLines : Nat
  nonUtf8Lines : Nat
  overlongDiscards : Nat
  parseErrors : Nat
  fixes : Nat
  rejectedFixes : Nat
deriving DecidableEq, Repr

structure LinkDiagnosis where
  state : LinkState
  counts : LinkCounts
  /-- Since the last plausible fix, or since the port opened. -/
  silentFor : Nat
deriving DecidableEq, Repr

inductive LinkReport
  | trouble (d : LinkDiagnosis)
  | recovered (was : LinkState) (counts : LinkCounts)
deriving DecidableEq, Repr

structure LinkHealth where
  counts : LinkCounts
  lastByteAt : Option Nat
  lastNmeaLineAt : Option Nat
  lastFixAt : Option Nat
  /-- Rejections since the last accepted fix. -/
  rejectedSinceFix : Nat
  lastReportAt : Option Nat
  reported : Option LinkState
deriving DecidableEq, Repr

/-- `s.starts_with('$')`. -/
def startsWithDollar (s : String) : Bool := s.toList.head? == some '$'

/-- Something happened less than a window ago. -/
def recent (now : Nat) (t : Option Nat) : Bool := t.any fun t => decide (now - t < activityWindow)

namespace LinkHealth

def new : LinkHealth := ⟨⟨0, 0, 0, 0, 0, 0, 0, 0⟩, none, none, none, 0, none, none⟩

/-- The codec's byte count, looked at on the poll tick. -/
def observeBytes (h : LinkHealth) (total now : Nat) : LinkHealth :=
  if total > h.counts.bytes then
    { h with counts := { h.counts with bytes := total }, lastByteAt := some now }
  else h

def onEvent (h : LinkHealth) (evt : NmeaLine) (now : Nat) : LinkHealth :=
  let h :=
    match evt with
    | .line s =>
      let h := { h with counts := { h.counts with lines := h.counts.lines + 1 } }
      if startsWithDollar s then
        { h with
          counts := { h.counts with nmeaLines := h.counts.nmeaLines + 1 }
          lastNmeaLineAt := some now }
      else h
    | .nonUtf8 _ =>
      { h with
        counts := { h.counts with
          lines := h.counts.lines + 1
          nonUtf8Lines := h.counts.nonUtf8Lines + 1 } }
    | .overlong _ =>
      { h with
        counts := { h.counts with overlongDiscards := h.counts.overlongDiscards + 1 } }
  -- an item proves that bytes arrived, even before the poll tick has counted them
  { h with lastByteAt := some now }

def onParseError (h : LinkHealth) : LinkHealth :=
  { h with counts := { h.counts with parseErrors := h.counts.parseErrors + 1 } }

def onFix (h : LinkHealth) (now : Nat) : LinkHealth :=
  { h with
    counts := { h.counts with fixes := h.counts.fixes + 1 }
    rejectedSinceFix := 0
    lastFixAt := some now }

def onFixRejected (h : LinkHealth) : LinkHealth :=
  { h with
    counts := { h.counts with rejectedFixes := h.counts.rejectedFixes + 1 }
    rejectedSinceFix := h.rejectedSinceFix + 1 }

def classify (h : LinkHealth) (now : Nat) : LinkState :=
  if recent now h.lastFixAt then .healthy
  else if !recent now h.lastByteAt then .noBytes
  else if !recent now h.lastNmeaLineAt then .noSentences
  else if h.rejectedSinceFix > 0 then .fixesRejected
  else .noFix

/-- Time since the last fix, or since the port opened. -/
def silentFor (h : LinkHealth) (now : Nat) : Nat := now - h.lastFixAt.getD 0

/-- Whether the repeat timer has run out, if it is running. -/
def repeatElapsed (h : LinkHealth) (now : Nat) : Bool :=
  match h.lastReportAt with
  | some last => !decide (now - last < repeatInterval)
  | none => true

/-- Decide whether to report. -/
def poll (h : LinkHealth) (now : Nat) : LinkHealth × Option LinkReport :=
  let state := h.classify now
  if state = .healthy then
    match h.reported with
    | some was =>
      ({ h with reported := none, lastReportAt := none }, some (.recovered was h.counts))
    | none => (h, none)
  else if h.silentFor now < state.grace then (h, none)
  else if h.repeatElapsed now then
    ({ h with lastReportAt := some now, reported := some state },
      some (.trouble ⟨state, h.counts, h.silentFor now⟩))
  else (h, none)

end LinkHealth

/-! ## The connection

What a connection does to its link health, one call after another, each at its time. -/

inductive LinkEvent
  | observeBytes (total : Nat)
  | item (evt : NmeaLine)
  | parseError
  | fix
  | fixRejected
  | poll
deriving DecidableEq, Repr

structure LinkInput where
  now : Nat
  event : LinkEvent
deriving DecidableEq, Repr

/-- A report, with the time of its poll. -/
structure LinkLog where
  now : Nat
  report : LinkReport
deriving DecidableEq, Repr

namespace LinkHealth

def step (h : LinkHealth) (i : LinkInput) : LinkHealth × List LinkLog :=
  match i.event with
  | .observeBytes total => (h.observeBytes total i.now, [])
  | .item evt => (h.onEvent evt i.now, [])
  | .parseError => (h.onParseError, [])
  | .fix => (h.onFix i.now, [])
  | .fixRejected => (h.onFixRejected, [])
  | .poll => ((h.poll i.now).1, (h.poll i.now).2.toList.map (LinkLog.mk i.now))

/-- A poll has something to report: the link is not healthy, silent for the grace of its
    state, and the repeat timer is out. -/
def Due (h : LinkHealth) (now : Nat) : Prop :=
  h.classify now ≠ .healthy ∧ (h.classify now).grace ≤ h.silentFor now ∧
    h.repeatElapsed now = true

instance (h : LinkHealth) (now : Nat) : Decidable (h.Due now) :=
  inferInstanceAs (Decidable (_ ∧ _ ∧ _))

/-! ## What one call can do -/

/-- **What a poll does.** It closes the open episode of a healthy link, or opens one or
    repeats when it is due, or says nothing and changes nothing. -/
theorem poll_cases (h : LinkHealth) (now : Nat) :
    (∃ was, h.classify now = .healthy ∧ h.reported = some was ∧
      h.poll now = ({ h with reported := none, lastReportAt := none },
        some (.recovered was h.counts))) ∨
    (h.Due now ∧
      h.poll now = ({ h with lastReportAt := some now, reported := some (h.classify now) },
        some (.trouble ⟨h.classify now, h.counts, h.silentFor now⟩))) ∨
    ((h.classify now = .healthy → h.reported = none) ∧ ¬ h.Due now ∧ h.poll now = (h, none)) := by
  unfold poll Due
  by_cases hstate : h.classify now = .healthy
  · cases hwas : h.reported with
    | some was => exact .inl ⟨was, hstate, rfl, by rw [if_pos hstate]⟩
    | none => exact .inr (.inr ⟨fun _ => rfl, fun hdue => hdue.1 hstate, by rw [if_pos hstate]⟩)
  · by_cases hgrace : h.silentFor now < (h.classify now).grace
    · refine .inr (.inr ⟨fun habs => absurd habs hstate, fun hdue => ?_, ?_⟩)
      · exact absurd hgrace (Nat.not_lt.mpr hdue.2.1)
      · rw [if_neg hstate, if_pos hgrace]
    · cases htimer : h.repeatElapsed now with
      | true =>
        refine .inr (.inl ⟨⟨hstate, Nat.not_lt.mp hgrace, rfl⟩, ?_⟩)
        rw [if_neg hstate, if_neg hgrace, if_pos rfl]
      | false =>
        refine .inr (.inr ⟨fun habs => absurd habs hstate, fun hdue => ?_, ?_⟩)
        · exact absurd hdue.2.2 (by simp)
        · rw [if_neg hstate, if_neg hgrace, if_neg (by simp)]

/-- Only a poll touches what was reported. -/
theorem step_reported {h : LinkHealth} {i : LinkInput} (hi : i.event ≠ .poll) :
    (h.step i).1.reported = h.reported ∧ (h.step i).1.lastReportAt = h.lastReportAt ∧
      (h.step i).2 = [] := by
  obtain ⟨now, event⟩ := i
  cases event with
  | observeBytes total =>
    unfold step observeBytes
    dsimp only
    split <;> exact ⟨rfl, rfl, rfl⟩
  | item evt =>
    unfold step onEvent
    dsimp only
    cases evt with
    | line s => dsimp only; split <;> exact ⟨rfl, rfl, rfl⟩
    | _ => exact ⟨rfl, rfl, rfl⟩
  | poll => exact absurd rfl hi
  | _ => exact ⟨rfl, rfl, rfl⟩

end LinkHealth

end FlyingSquirrel

import FlyingSquirrel.Hw.AxisMap
import FlyingSquirrel.Lib.Lines
import FlyingSquirrel.Lib.Run
import FlyingSquirrel.Types

/-!
# The event log and the dashboard (`action/console.rs`, `watch/src/main.rs`)

The console controller appends every event to a file, as one line of JSON. The dashboard is a
program of its own, which follows that file: it reads what has been added, line by line, keeps a
summary and the last events, and answers the operator's keys in between.

A read that finds no newline takes what there is, so a line may be read in two parts. The JSON
crate is a parameter. How the screen is drawn is left out, and with it the pace of a replay.
-/

set_option autoImplicit false

namespace FlyingSquirrel

open Lib

/-! ## The log -/

/-- The name an event's kind is written as. -/
def SpoofKind.name : SpoofKind → String
  | .jump => "Jump"
  | .drift => "Drift"
  | .stateTransition => "StateTransition"
  | .syncWarning => "SyncWarning"
  | .actionFailed => "ActionFailed"
  | .actionAcked => "ActionAcked"
  | .actionUnconfirmed => "ActionUnconfirmed"
  | .linkDown => "LinkDown"
  | .linkRestored => "LinkRestored"
  | .pilotModeChange => "PilotModeChange"
  | .bootAnchorRejected => "BootAnchorRejected"
  | .preflightFailed => "PreflightFailed"
  | .preflightPassed => "PreflightPassed"
  | .dwellPauseExceeded => "DwellPauseExceeded"
  | .frozenGps => "FrozenGps"
  | .forensicDumpWritten => "ForensicDumpWritten"
  | .forensicDumpFailed => "ForensicDumpFailed"
  | .forensicDumpSuppressed => "ForensicDumpSuppressed"

/-- The dashboard's `Event`: the part of an event that is displayed. A field that is not there
    has its default, and `null` is no value. -/
structure WatchEvent (α : Type) where
  monoNs : Nat
  kind : String
  state : String
  residualM : α
  detail : Option (Json α)

/-- `serde_json`, at the two types it is used at; an error is its text. -/
structure JsonCrate (α : Type) where
  toString : SpoofingEvent α → Except String (List Char)
  fromStr : List Char → Except String (WatchEvent α)

/-- `detail.get(name).and_then(as_u64)`. -/
def Json.getU64 {α : Type} (detail : Option (Json α)) (name : String) : Option Nat :=
  match detail with
  | some (.obj fields) =>
    match fields.lookup name with
    | some (.int i) => if 0 ≤ i ∧ i < 2 ^ 64 then some i.toNat else none
    | _ => none
  | _ => none

/-- The controller that only writes things down; what it remembers of the actions is left out. -/
structure ConsoleController where
  /-- Whether there is a log. -/
  jsonWriter : Bool
deriving DecidableEq, Repr

namespace ConsoleController

/-- `on_event`: the writes to the log, of which the second is the newline. -/
def onEvent {α : Type} (J : JsonCrate α) (c : ConsoleController) (ev : SpoofingEvent α) :
    List (List Char) :=
  if c.jsonWriter then
    match J.toString ev with
    | .ok line => [line, ['\n']]
    | .error _ => []
  else []

end ConsoleController

/-! ## The dashboard -/

structure Snapshot where
  fsmState : String
  preflight : String
  link : String
  autopilotMode : Option Nat
  bootAnchorArmed : Bool
  lastAction : String
  spoofedCount : Nat
  rtlAckedCount : Nat
  parseErrors : Nat
deriving DecidableEq, Repr

namespace Snapshot

def default : Snapshot := ⟨"", "", "", none, false, "", 0, 0, 0⟩

def noteState (s : Snapshot) (state : String) : Snapshot :=
  if state = "" then s else { s with fsmState := state }

/-- What an event of its kind changes. The counts are `u32`, and `+=` wraps in a release. -/
def noteKind {α : Type} (s : Snapshot) (e : WatchEvent α) : Snapshot :=
  match e.kind with
  | "PreflightPassed" => { s with preflight := "Passed" }
  | "PreflightFailed" => { s with preflight := "Failed" }
  | "LinkRestored" => { s with link := "Up" }
  | "LinkDown" => { s with link := "Down" }
  | "PilotModeChange" =>
    match Json.getU64 e.detail "new_custom_mode" with
    | some m => { s with autopilotMode := some m }
    | none => s
  | "StateTransition" =>
    if e.state = "Spoofed" then
      { s with
        spoofedCount := (s.spoofedCount + 1) % 2 ^ 32
        lastAction := "STATE -> Spoofed" }
    else s
  | "ActionAcked" =>
    { s with rtlAckedCount := (s.rtlAckedCount + 1) % 2 ^ 32, lastAction := "RTL Acked" }
  | "ActionUnconfirmed" => { s with lastAction := "RTL Unconfirmed!" }
  | "ActionFailed" => { s with lastAction := "Action FAILED" }
  | "BootAnchorRejected" =>
    { s with bootAnchorArmed := true, lastAction := "BootAnchor REJECTED" }
  | _ => s

/-- `apply_to_snapshot`. -/
def applyTo {α : Type} (s : Snapshot) (e : WatchEvent α) : Snapshot :=
  (s.noteState e.state).noteKind e

end Snapshot

/-- A key, with whether Control is held. -/
inductive Key
  | char (c : Char) (control : Bool)
  | esc
  | up
  | down
  | pageUp
  | pageDown
  | other
deriving DecidableEq, Repr

structure Dashboard (α : Type) where
  /-- The most events kept, `--buffer`. -/
  buffer : Nat
  events : List (WatchEvent α)
  snap : Snapshot
  /-- The selected place in the list. -/
  selected : Option Nat
  paused : Bool
  running : Bool

inductive DashboardInput
  /-- What has been added to the file since it was last read to its end. -/
  | grows (text : List Char)
  | key (k : Key)

/-- What `read_line` returns, until it returns nothing. -/
def readLines (text : List Char) : List (List Char) :=
  (lines '\n' text).map (· ++ ['\n']) ++
    (if leftover '\n' text = [] then [] else [leftover '\n' text])

/-- `str::trim_end`. -/
def trimEnd (s : List Char) : List Char := (s.reverse.dropWhile isWhitespace).reverse

namespace Dashboard

variable {α : Type}

def start (buffer : Nat) : Dashboard α := ⟨buffer, [], .default, none, false, true⟩

/-- An event has been read. -/
def push (d : Dashboard α) (e : WatchEvent α) : Dashboard α :=
  let events := (if d.events.length ≥ d.buffer then d.events.tail else d.events) ++ [e]
  { d with
    snap := d.snap.applyTo e
    events := events
    selected := if d.paused then d.selected else some (events.length - 1) }

/-- The body of the reading loop. -/
def onLine (J : JsonCrate α) (d : Dashboard α) (read : List Char) : Dashboard α :=
  let line := trimEnd read
  if line = [] then d
  else
    match J.fromStr line with
    | .ok e => d.push e
    | .error _ => { d with snap := { d.snap with parseErrors := succU32 d.snap.parseErrors } }

def handleKey (d : Dashboard α) (k : Key) : Dashboard α :=
  match k with
  | .esc => { d with running := false }
  | .char c control =>
    if c = 'q' then { d with running := false }
    else if control = true ∧ c = 'c' then { d with running := false }
    else if c = 'p' then { d with paused := true }
    else if c = 'r' then { d with paused := false }
    else if c = 'c' then { d with events := [], selected := none }
    else d
  | .up =>
    let cur := d.selected.getD 0
    { d with paused := true, selected := if cur > 0 then some (cur - 1) else d.selected }
  | .down =>
    let cur := d.selected.getD 0
    { d with
      paused := true
      selected := if cur + 1 < d.events.length then some (cur + 1) else d.selected }
  | .pageUp => { d with paused := true, selected := some (d.selected.getD 0 - 20) }
  | .pageDown =>
    { d with
      paused := true
      selected := some (min (d.selected.getD 0 + 20) (d.events.length - 1)) }
  | .other => d

def step (J : JsonCrate α) (d : Dashboard α) : DashboardInput → Dashboard α × List Unit
  | .grows text => if d.running then ((readLines text).foldl (onLine J) d, []) else (d, [])
  | .key k => if d.running then (d.handleKey k, []) else (d, [])

end Dashboard

end FlyingSquirrel

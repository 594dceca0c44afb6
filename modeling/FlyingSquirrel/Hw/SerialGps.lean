import FlyingSquirrel.Hw.LinkHealth
import FlyingSquirrel.Ingest.Nmea
import FlyingSquirrel.Mav.Listener

/-!
# The serial GPS source (`hw/serial_gps.rs`)

A connection has two sources of work, and takes them in whatever order they are ready: the next
item the codec makes of the port's bytes, and the tick that asks the link health whether it has
something to say. Both are inputs here, beside what happens at the port itself, so a run is any
interleaving of the three.

`FramedRead` decodes its buffer until the codec asks for more and hands the items out one at a
time. The items it still holds are a queue of the connection's state.
-/

set_option autoImplicit false

namespace FlyingSquirrel

open Lib

def IoError.message : IoError → String
  | .other message => message

/-- What one connection produces. -/
inductive SerialEvent (α : Type)
  | fix (fix : GpsFix α)
  | disconnected (reason : String) (hadFirstFix : Bool)

/-- An event, or a line of the log. -/
inductive ConnectionOutput (α : Type)
  | event (e : SerialEvent α)
  | report (r : LinkReport)

inductive PortInput
  /-- A read of the port brings bytes. -/
  | bytes (chunk : List UInt8)
  /-- A read brings none: the other end is gone. -/
  | eof
  | readError (e : IoError)
  /-- `select!` takes the branch of `framed.next()`, if it is ready. -/
  | next (now : Instant)
  /-- `select!` takes the branch of the probe. -/
  | probe (now : Instant)
deriving DecidableEq, Repr

/-- Something happens at the port. The others are branches of the loop. -/
def PortInput.isPort : PortInput → Bool
  | .next _ | .probe _ => false
  | _ => true

structure Connection (P : Type) where
  framed : NmeaReader
  /-- Decoded and not yet handed out. -/
  items : List (Except IoError NmeaLine)
  /-- Nothing comes after the items. -/
  ended : Bool
  parser : P
  openedAt : Instant
  health : LinkHealth
  running : Bool

namespace Connection

variable {P α : Type} [Zero α] [Neg α] [Mul α] [OfScientific α] [LT α] [LE α] [DecidableLT α]
  [DecidableLE α] [FiniteTest α]

/-- The connection over a port just opened. -/
def new (N : NmeaCrate P α) (openedAt : Instant) : Connection P where
  framed := .new
  items := []
  ended := false
  parser := N.default
  openedAt := openedAt
  health := .new
  running := true

/-- The end of the stream. No reason means the other end is gone. -/
def disconnect (c : Connection P) (reason : Option String) :
    Connection P × List (ConnectionOutput α) :=
  ({ c with running := false },
    [.event (.disconnected (reason.getD "stream ended (peer EOF)")
      (decide (c.health.counts.fixes > 0)))])

/-- A line that starts with `$`. -/
def onSentence (N : NmeaCrate P α) (c : Connection P) (line : String) (now : Instant) :
    Connection P × List (ConnectionOutput α) :=
  match N.parseSentence c.parser line now with
  | (p, .ok (some fix)) =>
    let c := { c with parser := p }
    if gpsFixIsPlausible fix then
      ({ c with health := c.health.onFix (now - c.openedAt) }, [.event (.fix fix)])
    else ({ c with health := c.health.onFixRejected }, [])
  | (p, .ok none) => ({ c with parser := p }, [])
  | (p, .error _) => ({ c with parser := p, health := c.health.onParseError }, [])

/-- An item that `framed.next()` brings. A framing fault is evidence for the link health and
    nothing else, and an error is the end. -/
def onItem (N : NmeaCrate P α) (c : Connection P) (item : Except IoError NmeaLine)
    (now : Instant) : Connection P × List (ConnectionOutput α) :=
  match item with
  | .error e => c.disconnect (some e.message)
  | .ok evt =>
    let c := { c with health := c.health.onEvent evt (now - c.openedAt) }
    match evt with
    | .line l => if startsWithDollar l then c.onSentence N l now else (c, [])
    | .nonUtf8 _ | .overlong _ => (c, [])

/-- The tick of the probe. -/
def onProbe (c : Connection P) (now : Instant) : Connection P × List (ConnectionOutput α) :=
  let now := now - c.openedAt
  let (health, report) := (c.health.observeBytes c.framed.codec.bytesSeen now).poll now
  ({ c with health := health }, report.toList.map .report)

def step (N : NmeaCrate P α) (c : Connection P) : PortInput →
    Connection P × List (ConnectionOutput α)
  | .bytes chunk =>
    if c.ended then (c, [])
    else
      let (framed, items) := c.framed.read chunk
      ({ c with framed := framed, items := c.items ++ items }, [])
  | .eof =>
    if c.ended then (c, [])
    else
      let (framed, items) := c.framed.finish
      ({ c with framed := framed, items := c.items ++ items, ended := true }, [])
  | .readError e =>
    if c.ended then (c, []) else ({ c with items := c.items ++ [.error e], ended := true }, [])
  | .next now =>
    if c.running = false then (c, [])
    else
      match c.items with
      | item :: items => onItem N { c with items := items } item now
      | [] => if c.ended then c.disconnect none else (c, [])
  | .probe now => if c.running = false then (c, []) else c.onProbe now

end Connection

/-! ## Reconnecting -/

/-- Milliseconds. -/
def reconnectBackoffInitial : Nat := 250
def reconnectBackoffMax : Nat := 5000

inductive SourceInput
  /-- The port is opened, or is not. -/
  | opened (now : Instant)
  | openFailed (error : String)
  | port (i : PortInput)
deriving DecidableEq, Repr

inductive SourceOutput (α : Type)
  /-- `yield Ok(fix)`. -/
  | fix (fix : GpsFix α)
  | report (r : LinkReport)
  | connected
  | openFailed (error : String) (backoffMs : Nat)
  | disconnected (reason : String) (hadFirstFix : Bool) (backoffMs : Nat)
  | sleep (ms : Nat)

structure SerialGpsSource (P : Type) where
  backoff : Nat
  /-- The connection, while there is one. -/
  connection : Option (Connection P)

namespace SerialGpsSource

variable {P α : Type} [Zero α] [Neg α] [Mul α] [OfScientific α] [LT α] [LE α] [DecidableLT α]
  [DecidableLE α] [FiniteTest α]

def new : SerialGpsSource P := ⟨reconnectBackoffInitial, none⟩

/-- `sleep(backoff)` and then double it. -/
def backOff (s : SerialGpsSource P) : SerialGpsSource P × List (SourceOutput α) :=
  ({ s with backoff := min (s.backoff * 2) reconnectBackoffMax }, [.sleep s.backoff])

/-- What the loop does with an output of the connection. -/
def ofConnection (backoff : Nat) : ConnectionOutput α → SourceOutput α
  | .event (.fix fix) => .fix fix
  | .event (.disconnected reason had) => .disconnected reason had backoff
  | .report r => .report r

def step (N : NmeaCrate P α) (s : SerialGpsSource P) : SourceInput →
    SerialGpsSource P × List (SourceOutput α)
  | .opened now =>
    match s.connection with
    | none => (⟨reconnectBackoffInitial, some (.new N now)⟩, [.connected])
    | some _ => (s, [])
  | .openFailed error =>
    match s.connection with
    | none => andThen (s, [.openFailed error s.backoff]) backOff
    | some _ => (s, [])
  | .port i =>
    match s.connection with
    | none => (s, [])
    | some c =>
      let (c, out) := c.step N i
      let out := out.map (ofConnection s.backoff)
      if c.running then ({ s with connection := some c }, out)
      else andThen ({ s with connection := none }, out) backOff

end SerialGpsSource
end FlyingSquirrel

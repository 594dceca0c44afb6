import FlyingSquirrel.Lib.Lines
import FlyingSquirrel.Lib.Run

/-!
# The NMEA line codec (`hw/nmea_link.rs`)

The serial source reads bytes in chunks and splits them on `\n`. `decode` takes one item off the
buffer, and a reader **drains** it after every read: it calls `decode` until that asks for more.
At the end of the stream it drains `decodeEof` the same way.

A framing fault is an item, not an error. The error of `decode` ends the stream, and no branch
of it produces one.
-/

set_option autoImplicit false

namespace FlyingSquirrel

open Lib

/-- `b'\n'` and `b'\r'`. -/
def newline : UInt8 := 10
def carriageReturn : UInt8 := 13

def nmeaMaxLineBytes : Nat := 512

inductive NmeaLine
  /-- A terminated line, carriage returns stripped, valid UTF-8. -/
  | line (text : String)
  /-- A terminated line that is not; its bytes are discarded. -/
  | nonUtf8 (n : Nat)
  /-- Bytes discarded without a line end. -/
  | overlong (n : Nat)
deriving DecidableEq, Repr

/-- `std::io::Error`, which a decoder ends the stream with. -/
inductive IoError
  | other (message : String)
deriving DecidableEq, Repr

structure NmeaLineCodec where
  bytesSeen : Nat
  /-- The buffer's length when `decode` last returned. -/
  lastLen : Nat
deriving DecidableEq, Repr

namespace NmeaLineCodec

def new : NmeaLineCodec := ⟨0, 0⟩

/-- `String::from_utf8`, of the bytes of a line. -/
def ofUtf8 (bytes : List UInt8) : NmeaLine :=
  match String.fromUTF8? ⟨bytes.toArray⟩ with
  | some text => .line text
  | none => .nonUtf8 bytes.length

/-- Take one item off the buffer: the item, and the codec and the buffer it leaves. -/
def decode (c : NmeaLineCodec) (src : List UInt8) :
    Except IoError (Option NmeaLine) × NmeaLineCodec × List UInt8 :=
  let bytesSeen := c.bytesSeen + (src.length - c.lastLen)
  match src.findIdx? (· == newline) with
  | some pos =>
    let line := src.take (pos + 1)
    let rest := src.drop (pos + 1)
    let trimmed := (line.take (line.length - 1)).filter (· != carriageReturn)
    (.ok (some (ofUtf8 trimmed)), ⟨bytesSeen, rest.length⟩, rest)
  | none =>
    if src.length > nmeaMaxLineBytes then
      (.ok (some (.overlong src.length)), ⟨bytesSeen, 0⟩, [])
    else (.ok none, ⟨bytesSeen, src.length⟩, src)

/-- At the end of the stream a tail that is no line is dropped. -/
def decodeEof (c : NmeaLineCodec) (src : List UInt8) :
    Except IoError (Option NmeaLine) × NmeaLineCodec × List UInt8 :=
  match c.decode src with
  | (.error e, c, src) => (.error e, c, src)
  | (.ok (some item), c, src) => (.ok (some item), c, src)
  | (.ok none, c, _) => (.ok none, { c with lastLen := 0 }, [])

/-- Bytes counted once a buffer has been looked at. -/
def arrived (c : NmeaLineCodec) (src : List UInt8) : Nat :=
  c.bytesSeen + (src.length - c.lastLen)

/-! ## What one call does -/

theorem findIdx_newline {l : List UInt8} (h : newline ∉ l) : l.findIdx? (· == newline) = none :=
  List.findIdx?_eq_none_iff.mpr fun _ hb => beq_eq_false_iff_ne.mpr fun he => h (he ▸ hb)

/-- A buffer in which a line has ended gives its first line. -/
theorem decode_line (c : NmeaLineCodec) {l : List UInt8} (h : newline ∉ l) (rest : List UInt8) :
    c.decode (l ++ newline :: rest) =
      (.ok (some (ofUtf8 (l.filter (· != carriageReturn)))),
        ⟨c.arrived (l ++ newline :: rest), rest.length⟩, rest) := by
  have hpos : (l ++ newline :: rest).findIdx? (· == newline) = some l.length := by
    simp [List.findIdx?_append, findIdx_newline h, List.findIdx?_cons]
  unfold decode
  rw [hpos]
  simp [arrived, List.take_take]

theorem decode_open (c : NmeaLineCodec) {src : List UInt8} (h : newline ∉ src) :
    c.decode src =
      if src.length > nmeaMaxLineBytes then
        (.ok (some (.overlong src.length)), ⟨c.arrived src, 0⟩, [])
      else (.ok none, ⟨c.arrived src, src.length⟩, src) := by
  unfold decode
  rw [findIdx_newline h]
  rfl

/-- An item is paid for with bytes of the buffer. -/
theorem decode_shrinks {c c' : NmeaLineCodec} {src src' : List UInt8} {item : NmeaLine}
    (h : c.decode src = (.ok (some item), c', src')) : src'.length < src.length := by
  by_cases hn : newline ∈ src
  · obtain ⟨l, rest, rfl, hl⟩ := List.eq_append_cons_of_mem hn
    rw [decode_line c hl] at h
    cases h
    simp
    omega
  · rw [decode_open c hn] at h
    split at h
    · rename_i hlong
      cases h
      exact Nat.lt_of_le_of_lt (Nat.zero_le _) hlong
    · cases h

/-- `decode`, or `decode_eof` at the end of the stream. -/
def pull (eof : Bool) (c : NmeaLineCodec) (src : List UInt8) :
    Except IoError (Option NmeaLine) × NmeaLineCodec × List UInt8 :=
  if eof then c.decodeEof src else c.decode src

theorem pull_shrinks {eof : Bool} {c c' : NmeaLineCodec} {src src' : List UInt8} {item : NmeaLine}
    (h : pull eof c src = (.ok (some item), c', src')) : src'.length < src.length := by
  cases eof with
  | false => exact decode_shrinks h
  | true =>
    unfold pull decodeEof at h
    rw [if_pos rfl] at h
    split at h
    · cases h
    · rename_i hd
      cases h
      exact decode_shrinks hd
    · cases h

end NmeaLineCodec

/-! ## Reading a stream -/

/-- The reader of a port between two reads: its codec, and the bytes still buffered. -/
structure NmeaReader where
  codec : NmeaLineCodec
  buf : List UInt8
deriving DecidableEq, Repr

namespace NmeaReader

def new : NmeaReader := ⟨NmeaLineCodec.new, []⟩

/-- Pull items until more bytes are asked for, or an error ends the stream. -/
def drain (eof : Bool) (c : NmeaLineCodec) (src : List UInt8) :
    NmeaReader × List (Except IoError NmeaLine) :=
  match h : NmeaLineCodec.pull eof c src with
  | (.error e, c', src') => (⟨c', src'⟩, [.error e])
  | (.ok none, c', src') => (⟨c', src'⟩, [])
  | (.ok (some item), c', src') =>
    have := NmeaLineCodec.pull_shrinks h
    let (r, items) := drain eof c' src'
    (r, .ok item :: items)
termination_by src.length

/-- One read: the bytes of a chunk arrive and the buffer is drained. -/
def read (r : NmeaReader) (chunk : List UInt8) : NmeaReader × List (Except IoError NmeaLine) :=
  drain false r.codec (r.buf ++ chunk)

/-- The end of the stream. -/
def finish (r : NmeaReader) : NmeaReader × List (Except IoError NmeaLine) :=
  drain true r.codec r.buf

end NmeaReader
end FlyingSquirrel

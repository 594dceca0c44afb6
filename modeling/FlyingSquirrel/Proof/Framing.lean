import FlyingSquirrel.Hw.NmeaLink
import Mathlib.Data.List.Basic

/-!
# Framing loses nothing

The codec holds two things across calls: the bytes since the last line end, and how many of the
buffered bytes it has counted. Neither depends on where the reads fell: after some reads the
reader is `CaughtUp` with the bytes that have arrived, whichever way they were cut, and each read
reports exactly the lines that have ended since the one before.

The cap on buffered bytes is looked at only where no line has ended, so a stream whose lines and
tail keep to it never meets it.
-/

set_option autoImplicit false

namespace FlyingSquirrel
namespace NmeaReader

open Lib NmeaLineCodec

/-- What a line of the stream is reported as. -/
def reported (l : List UInt8) : NmeaLine := ofUtf8 (l.filter (· != carriageReturn))

example : reported [36, 71, 80, 13] = .line "$GP" ∧ reported [255, 254, 13] = .nonUtf8 2 := by
  decide +kernel

/-! ## Draining a buffer -/

theorem drain_line (eof : Bool) (c : NmeaLineCodec) {l : List UInt8} (h : newline ∉ l)
    (rest : List UInt8) :
    drain eof c (l ++ newline :: rest) =
      ((drain eof ⟨c.arrived (l ++ newline :: rest), rest.length⟩ rest).1,
        .ok (reported l) ::
          (drain eof ⟨c.arrived (l ++ newline :: rest), rest.length⟩ rest).2) := by
  have hpull : pull eof c (l ++ newline :: rest) =
      (.ok (some (reported l)), ⟨c.arrived (l ++ newline :: rest), rest.length⟩, rest) := by
    cases eof <;> simp [pull, decodeEof, decode_line c h, reported]
  rw [drain]
  split
  · rename_i he
    rw [hpull] at he
    cases he
  · rename_i he
    rw [hpull] at he
    cases he
  · rename_i he
    rw [hpull] at he
    cases he
    rfl

theorem drain_open (eof : Bool) (c : NmeaLineCodec) {src : List UInt8} (h : newline ∉ src)
    (hlen : src.length ≤ nmeaMaxLineBytes) :
    drain eof c src =
      (if eof then ⟨⟨c.arrived src, 0⟩, []⟩ else ⟨⟨c.arrived src, src.length⟩, src⟩, []) := by
  have hdecode : c.decode src = (.ok none, ⟨c.arrived src, src.length⟩, src) := by
    rw [decode_open c h, if_neg (Nat.not_lt.mpr hlen)]
  rw [drain]
  cases eof with
  | false =>
    have hpull : pull false c src = (.ok none, ⟨c.arrived src, src.length⟩, src) := hdecode
    split <;> rename_i he <;> rw [hpull] at he <;> cases he
    rfl
  | true =>
    have hpull : pull true c src = (.ok none, ⟨c.arrived src, 0⟩, []) := by
      simp [pull, decodeEof, hdecode]
    split <;> rename_i he <;> rw [hpull] at he <;> cases he
    rfl

/-- **A drain reports the lines of the buffer** and keeps what is left over of it, which at the
    end of the stream is dropped. -/
theorem drain_eq (eof : Bool) (c : NmeaLineCodec) {src : List UInt8}
    (hleft : (leftover newline src).length ≤ nmeaMaxLineBytes) :
    drain eof c src =
      (if eof then ⟨⟨c.arrived src, 0⟩, []⟩
        else ⟨⟨c.arrived src, (leftover newline src).length⟩, leftover newline src⟩,
        (lines newline src).map fun l => .ok (reported l)) := by
  induction src using lines_induction newline generalizing c with
  | opened s h =>
    rw [leftover_of_not_mem h] at hleft ⊢
    rw [drain_open eof c h hleft, lines_of_not_mem h]
    rfl
  | line l s h ih =>
    rw [leftover_cons h] at hleft ⊢
    rw [drain_line eof c h, ih _ hleft, lines_cons h]
    simp [arrived]

/-! ## Reading a stream -/

/-- The reader has seen the bytes `s`: it has counted them, and holds what is left over. -/
structure CaughtUp (r : NmeaReader) (s : List UInt8) : Prop where
  bytesSeen : r.codec.bytesSeen = s.length
  lastLen : r.codec.lastLen = r.buf.length
  buf : r.buf = leftover newline s

theorem CaughtUp.start : CaughtUp new [] := ⟨rfl, rfl, leftover_nil.symm⟩

/-- Bytes that arrive are counted once. -/
theorem CaughtUp.arrived {r : NmeaReader} {s : List UInt8} (h : CaughtUp r s)
    (chunk : List UInt8) :
    r.codec.arrived (r.buf ++ chunk) = (s ++ chunk).length := by
  unfold NmeaLineCodec.arrived
  rw [h.bytesSeen, h.lastLen, List.length_append, List.length_append, Nat.add_sub_cancel_left]

theorem CaughtUp.read {r : NmeaReader} {s : List UInt8} (h : CaughtUp r s) (chunk : List UInt8)
    (hleft : (leftover newline (s ++ chunk)).length ≤ nmeaMaxLineBytes) :
    CaughtUp (r.read chunk).1 (s ++ chunk) ∧
      lines newline s ++ lines newline (leftover newline s ++ chunk) = lines newline (s ++ chunk) ∧
      (r.read chunk).2 =
        (lines newline (leftover newline s ++ chunk)).map fun l => .ok (reported l) := by
  have hread : r.read chunk = drain false r.codec (r.buf ++ chunk) := rfl
  have hcount := h.arrived chunk
  rw [leftover_append] at hleft
  rw [h.buf] at hread hcount
  rw [hread, drain_eq false _ hleft, hcount]
  exact ⟨⟨rfl, rfl, (leftover_append s chunk).symm⟩, (lines_append s chunk).symm, rfl⟩

theorem CaughtUp.finish {r : NmeaReader} {s : List UInt8} (h : CaughtUp r s)
    (hleft : (leftover newline s).length ≤ nmeaMaxLineBytes) :
    r.finish = (⟨⟨s.length, 0⟩, []⟩, []) := by
  have hcount := h.arrived []
  rw [List.append_nil, List.append_nil] at hcount
  unfold NmeaReader.finish
  rw [drain_open true _ (by rw [h.buf]; exact not_mem_leftover s) (by rw [h.buf]; exact hleft),
    hcount]
  rfl

/-- **Reads report the lines that end in them**, however the stream is cut. -/
theorem CaughtUp.run {r : NmeaReader} {s : List UInt8} (h : CaughtUp r s)
    (chunks : List (List UInt8))
    (hlines : ∀ l ∈ lines newline (s ++ chunks.flatten), l.length ≤ nmeaMaxLineBytes)
    (hleft : (leftover newline (s ++ chunks.flatten)).length ≤ nmeaMaxLineBytes) :
    CaughtUp (Lib.run NmeaReader.read r chunks) (s ++ chunks.flatten) ∧
      (lines newline s).map (fun l => .ok (reported l)) ++ outputs NmeaReader.read r chunks =
        (lines newline (s ++ chunks.flatten)).map fun l => .ok (reported l) := by
  induction chunks generalizing r s with
  | nil => simpa [outputs] using h
  | cons chunk chunks ih =>
    rw [List.flatten_cons, ← List.append_assoc] at hlines hleft ⊢
    obtain ⟨hnext, happ, hout⟩ := h.read chunk (leftover_length_le hlines hleft)
    obtain ⟨hrun, hrest⟩ := ih hnext hlines hleft
    refine ⟨hrun, ?_⟩
    rw [outputs, hout, ← hrest, ← happ, List.map_append, List.append_assoc]

/-- **Framing is lossless and independent of chunking.** For a stream whose lines and whose
    unterminated tail keep to the cap, and any way of cutting it into reads: draining after
    each read and at the end reports exactly the lines of the stream, in order, each as text or
    as invalid UTF-8 and none of them as an error; and after each drain every byte that has
    arrived is counted and at most the cap is buffered. -/
theorem framing_lossless (chunks : List (List UInt8))
    (hlines : ∀ l ∈ lines newline chunks.flatten, l.length ≤ nmeaMaxLineBytes)
    (htail : (leftover newline chunks.flatten).length ≤ nmeaMaxLineBytes) :
    outputs read new chunks ++ (run read new chunks).finish.2 =
        (lines newline chunks.flatten).map (fun l => .ok (reported l)) ∧
      (∀ pre post, chunks = pre ++ post →
        (run read new pre).codec.bytesSeen = pre.flatten.length ∧
        (run read new pre).buf.length ≤ nmeaMaxLineBytes) ∧
      (run read new chunks).finish.1.codec.bytesSeen = chunks.flatten.length ∧
      (run read new chunks).finish.1.buf = [] := by
  obtain ⟨hrun, hout⟩ := CaughtUp.start.run chunks hlines htail
  rw [List.nil_append] at hrun hout
  rw [hrun.finish htail]
  refine ⟨by simpa using hout, ?_, rfl, rfl⟩
  rintro pre post rfl
  -- the reads so far keep to the cap too: what they leave over goes on in the stream
  rw [List.flatten_append] at hlines htail
  have hleft := leftover_length_le hlines htail
  have hso : ∀ l ∈ lines newline pre.flatten, l.length ≤ nmeaMaxLineBytes := by
    intro l hl
    rw [lines_append] at hlines
    exact hlines l (List.mem_append_left _ hl)
  obtain ⟨hpre, -⟩ := CaughtUp.start.run pre hso hleft
  rw [List.nil_append] at hpre
  exact ⟨hpre.bytesSeen, by rw [hpre.buf]; exact hleft⟩

/-- Two lines, the second not UTF-8, cut in the middle of both, and a tail. -/
theorem framing_lossless_cut :
    let chunks := [[36, 71], [80, 13, 10, 255], [], [254, 10, 36]]
    outputs read new chunks ++ (run read new chunks).finish.2 =
        [.ok (reported [36, 71, 80, 13]), .ok (reported [255, 254])] ∧
      (run read new chunks).finish.1.codec.bytesSeen = 9 := by
  have h := framing_lossless [[36, 71], [80, 13, 10, 255], [], [254, 10, 36]] (by decide)
    (by decide)
  exact ⟨h.1, h.2.2.1⟩

end NmeaReader
end FlyingSquirrel

import FlyingSquirrel.Proof.Framing

/-!
# The line cap and the reads

The cap bounds what is held without a line end: `decode` looks at the length of its buffer only
where it finds no newline in it. A line that is complete when it is looked at is taken at any
length. So the cap holds of a stream, however it is cut, exactly if the stream has no line that
breaks it, and one read of the whole stream takes what single bytes would have discarded.
-/

set_option autoImplicit false

namespace FlyingSquirrel
namespace NmeaReader

open Lib NmeaLineCodec

/-- What a drain takes: its items, each with the number of bytes that went off the buffer. -/
def takes (eof : Bool) (c : NmeaLineCodec) (src : List UInt8) : List (NmeaLine × Nat) :=
  match h : pull eof c src with
  | (.error _, _, _) => []
  | (.ok none, _, _) => []
  | (.ok (some item), c', src') =>
    have := pull_shrinks h
    (item, src.length - src'.length) :: takes eof c' src'
termination_by src.length

/-- What is taken of a stream that arrives in chunks, to its end. -/
def taken : NmeaReader → List (List UInt8) → List (NmeaLine × Nat)
  | r, [] => takes true r.codec r.buf
  | r, chunk :: chunks =>
    takes false r.codec (r.buf ++ chunk) ++ taken (r.read chunk).1 chunks

/-- A line keeps to the cap, the newline not counted. What is discarded is no line. -/
def KeepsCap : NmeaLine × Nat → Prop
  | (.overlong _, _) => True
  | (_, n) => n ≤ nmeaMaxLineBytes + 1

/-! ## Taking a buffer -/

theorem takes_some {eof : Bool} {c c' : NmeaLineCodec} {src src' : List UInt8} {item : NmeaLine}
    (h : pull eof c src = (.ok (some item), c', src')) :
    takes eof c src = (item, src.length - src'.length) :: takes eof c' src' := by
  rw [takes]
  split <;> rename_i he <;> rw [h] at he <;> cases he
  rfl

theorem takes_none {eof : Bool} {c c' : NmeaLineCodec} {src src' : List UInt8}
    (h : pull eof c src = (.ok none, c', src')) : takes eof c src = [] := by
  rw [takes]
  split
  · rfl
  · rfl
  · rename_i he
    rw [h] at he
    cases he

theorem drain_some {eof : Bool} {c c' : NmeaLineCodec} {src src' : List UInt8} {item : NmeaLine}
    (h : pull eof c src = (.ok (some item), c', src')) :
    drain eof c src = ((drain eof c' src').1, .ok item :: (drain eof c' src').2) := by
  rw [drain]
  split <;> rename_i he <;> rw [h] at he <;> cases he
  rfl

theorem pull_line (eof : Bool) (c : NmeaLineCodec) {l : List UInt8} (h : newline ∉ l)
    (rest : List UInt8) :
    pull eof c (l ++ newline :: rest) =
      (.ok (some (reported l)), ⟨c.arrived (l ++ newline :: rest), rest.length⟩, rest) := by
  cases eof <;> simp [pull, decodeEof, decode_line c h, reported]

theorem pull_overlong (eof : Bool) (c : NmeaLineCodec) {src : List UInt8} (h : newline ∉ src)
    (hlen : nmeaMaxLineBytes < src.length) :
    pull eof c src = (.ok (some (.overlong src.length)), ⟨c.arrived src, 0⟩, []) := by
  have hdecode := decode_open c h
  rw [if_pos hlen] at hdecode
  cases eof <;> simp [pull, decodeEof, hdecode]

theorem pull_short (eof : Bool) (c : NmeaLineCodec) {src : List UInt8} (h : newline ∉ src)
    (hlen : src.length ≤ nmeaMaxLineBytes) :
    ∃ c' src', pull eof c src = (.ok none, c', src') := by
  have hdecode := decode_open c h
  rw [if_neg (Nat.not_lt.mpr hlen)] at hdecode
  cases eof <;> simp [pull, decodeEof, hdecode]

/-- A drain takes the lines of the buffer, at any length, and what is left over only if it is
    too long. -/
theorem takes_eq (eof : Bool) (c : NmeaLineCodec) (src : List UInt8) :
    takes eof c src = (lines newline src).map (fun l => (reported l, l.length + 1)) ++
      if nmeaMaxLineBytes < (leftover newline src).length then
        [(.overlong (leftover newline src).length, (leftover newline src).length)]
      else [] := by
  induction src using lines_induction newline generalizing c with
  | opened s h =>
    rw [lines_of_not_mem h, leftover_of_not_mem h]
    split
    · rename_i hlong
      obtain ⟨c', src', hrest⟩ := pull_short eof ⟨c.arrived s, 0⟩
        (show newline ∉ [] by simp) (by simp)
      rw [takes_some (pull_overlong eof c h hlong), takes_none hrest]
      rfl
    · rename_i hshort
      obtain ⟨c', src', hnone⟩ := pull_short eof c h (Nat.not_lt.mp hshort)
      rw [takes_none hnone]
      rfl
  | line l s h ih =>
    rw [takes_some (pull_line eof c h s), ih, lines_cons h, leftover_cons h]
    simp
    omega

/-- What a drain leaves is what is left over, unless that is too long. -/
theorem drain_buf (c : NmeaLineCodec) (src : List UInt8) :
    (drain false c src).1.buf =
      if nmeaMaxLineBytes < (leftover newline src).length then [] else leftover newline src := by
  induction src using lines_induction newline generalizing c with
  | opened s h =>
    rw [leftover_of_not_mem h]
    split
    · rename_i hlong
      rw [drain_some (pull_overlong false c h hlong), drain_open false _ (by simp) (by simp)]
      rfl
    · rename_i hshort
      rw [drain_open false c h (Nat.not_lt.mp hshort)]
      rfl
  | line l s h ih => rw [drain_some (pull_line false c h s), ih, leftover_cons h]

theorem keepsCap_reported (l : List UInt8) :
    KeepsCap (reported l, l.length + 1) ↔ l.length ≤ nmeaMaxLineBytes := by
  unfold reported ofUtf8
  split <;> exact Nat.succ_le_succ_iff

theorem takes_keepsCap_iff (eof : Bool) (c : NmeaLineCodec) (src : List UInt8) :
    (∀ t ∈ takes eof c src, KeepsCap t) ↔ ∀ l ∈ lines newline src, l.length ≤ nmeaMaxLineBytes := by
  rw [takes_eq]
  constructor
  · intro h l hl
    refine (keepsCap_reported l).mp (h _ (List.mem_append_left _ ?_))
    exact List.mem_map.mpr ⟨l, hl, rfl⟩
  · intro h t ht
    rcases List.mem_append.mp ht with ht | ht
    · obtain ⟨l, hl, rfl⟩ := List.mem_map.mp ht
      exact (keepsCap_reported l).mpr (h l hl)
    · split at ht
      · obtain rfl := List.mem_singleton.mp ht
        trivial
      · exact absurd ht (by simp)

/-! ## One way of cutting the stream -/

/-- The cap holds of what is taken of a stream cut into these chunks. -/
def CapHolds (chunks : List (List UInt8)) : Prop := ∀ t ∈ taken new chunks, KeepsCap t

theorem not_mem_read_buf (r : NmeaReader) (chunk : List UInt8) :
    newline ∉ (r.read chunk).1.buf := by
  unfold read
  rw [drain_buf]
  split
  · simp
  · exact not_mem_leftover _

/-- The cap holds where no read completes a line that breaks it. -/
theorem taken_keepsCap_iff {r : NmeaReader} (hr : newline ∉ r.buf) (chunks : List (List UInt8)) :
    (∀ t ∈ taken r chunks, KeepsCap t) ↔
      Along read (fun r chunk => ∀ l ∈ lines newline (r.buf ++ chunk),
        l.length ≤ nmeaMaxLineBytes) r chunks := by
  induction chunks generalizing r with
  | nil =>
    refine ⟨fun _ => trivial, fun _ => (takes_keepsCap_iff true r.codec r.buf).mpr ?_⟩
    rw [lines_of_not_mem hr]
    exact fun l hl => absurd hl (by simp)
  | cons chunk chunks ih =>
    rw [taken, List.forall_mem_append, takes_keepsCap_iff, ih (not_mem_read_buf r chunk)]
    rfl

/-! ## Every way of cutting it -/

/-- What the reader holds of the bytes `s`: an end of what is left over of them, within the
    cap. -/
structure Holds (r : NmeaReader) (s : List UInt8) : Prop where
  bounded : r.buf.length ≤ nmeaMaxLineBytes
  suffix : r.buf <:+ leftover newline s

theorem Holds.start : Holds new [] := ⟨Nat.zero_le _, List.nil_suffix⟩

theorem Holds.open {r : NmeaReader} {s : List UInt8} (h : Holds r s) : newline ∉ r.buf :=
  fun hmem => not_mem_leftover s (h.suffix.subset hmem)

theorem Holds.read {r : NmeaReader} {s : List UInt8} (h : Holds r s) (chunk : List UInt8) :
    Holds (r.read chunk).1 (s ++ chunk) := by
  have hbuf : (r.read chunk).1.buf = _ := drain_buf r.codec (r.buf ++ chunk)
  constructor
  · rw [hbuf]
    split
    · exact Nat.zero_le _
    · rename_i hshort
      exact Nat.not_lt.mp hshort
  · rw [hbuf, leftover_append s chunk]
    split
    · exact List.nil_suffix
    · exact (lines_of_suffix (not_mem_leftover s) h.suffix chunk).2

/-- What a stream keeps to, its reads do. -/
theorem Holds.along {r : NmeaReader} {s : List UInt8} (h : Holds r s)
    (chunks : List (List UInt8))
    (hlines : ∀ l ∈ lines newline (s ++ chunks.flatten), l.length ≤ nmeaMaxLineBytes) :
    Along NmeaReader.read (fun r chunk => ∀ l ∈ lines newline (r.buf ++ chunk),
      l.length ≤ nmeaMaxLineBytes) r chunks := by
  induction chunks generalizing r s with
  | nil => trivial
  | cons chunk chunks ih =>
    rw [List.flatten_cons, ← List.append_assoc] at hlines
    refine ⟨fun l hl => ?_, ih (h.read chunk) hlines⟩
    obtain ⟨l', hl', hsuffix⟩ := (lines_of_suffix (not_mem_leftover s) h.suffix chunk).1 l hl
    refine Nat.le_trans hsuffix.length_le (hlines l' ?_)
    rw [lines_append, lines_append s chunk]
    exact List.mem_append_left _ (List.mem_append_right _ hl')

/-- Byte by byte nothing too long is ever completed. -/
theorem Holds.along_bytes {r : NmeaReader} {s : List UInt8} (h : Holds r s)
    (bytes : List UInt8) :
    Along NmeaReader.read (fun r chunk => ∀ l ∈ lines newline (r.buf ++ chunk),
      l.length ≤ nmeaMaxLineBytes) r (bytes.map fun b => [b]) := by
  induction bytes generalizing r s with
  | nil => trivial
  | cons b bytes ih =>
    refine ⟨fun l hl => ?_, ih (h.read [b])⟩
    by_cases hb : newline = b
    · rw [← hb, lines_cons h.open, lines_nil, List.mem_singleton] at hl
      rw [hl]
      exact h.bounded
    · rw [lines_of_not_mem (by simp [h.open, hb])] at hl
      exact absurd hl (by simp)

theorem capHolds_bytes (s : List UInt8) : CapHolds (s.map fun b => [b]) :=
  (taken_keepsCap_iff Holds.start.open _).mpr (Holds.start.along_bytes s)

theorem capHolds_whole_iff (s : List UInt8) :
    CapHolds [s] ↔ ∀ l ∈ lines newline s, l.length ≤ nmeaMaxLineBytes := by
  unfold CapHolds
  rw [taken_keepsCap_iff Holds.start.open]
  exact ⟨fun h => h.1, fun h => ⟨h, trivial⟩⟩

theorem flatten_bytes (s : List UInt8) : (s.map fun b => [b]).flatten = s := by
  induction s with
  | nil => rfl
  | cons b s ih => rw [List.map_cons, List.flatten_cons, ih, List.singleton_append]

theorem capHolds_of_lines {s : List UInt8}
    (h : ∀ l ∈ lines newline s, l.length ≤ nmeaMaxLineBytes) (chunks : List (List UInt8))
    (hs : chunks.flatten = s) : CapHolds chunks := by
  refine (taken_keepsCap_iff Holds.start.open chunks).mpr (Holds.start.along chunks ?_)
  rwa [List.nil_append, hs]

/-- **The line cap, exactly.** Cut one way, a stream has no line taken past the cap if and only
    if no read completes one. Cut every way, it has none if and only if it has no such line,
    and only then the way of cutting makes no difference. -/
theorem lineCap_iff (s : List UInt8) :
    (∀ chunks, chunks.flatten = s →
      (CapHolds chunks ↔ Along read (fun r chunk => ∀ l ∈ lines newline (r.buf ++ chunk),
        l.length ≤ nmeaMaxLineBytes) new chunks)) ∧
    ((∀ chunks, chunks.flatten = s → CapHolds chunks) ↔
      ∀ l ∈ lines newline s, l.length ≤ nmeaMaxLineBytes) ∧
    ((∀ chunks chunks', chunks.flatten = s → chunks'.flatten = s →
        (CapHolds chunks ↔ CapHolds chunks')) ↔
      ∀ l ∈ lines newline s, l.length ≤ nmeaMaxLineBytes) := by
  refine ⟨fun chunks _ => taken_keepsCap_iff Holds.start.open chunks,
    ⟨fun h => ?_, capHolds_of_lines⟩, ⟨fun h => ?_, fun h chunks chunks' hs hs' => ?_⟩⟩
  · exact (capHolds_whole_iff s).mp (h [s] (by simp))
  · exact (capHolds_whole_iff s).mp
      ((h (s.map fun b => [b]) [s] (flatten_bytes s) (by simp)).mp (capHolds_bytes s))
  · exact iff_of_true (capHolds_of_lines h chunks hs) (capHolds_of_lines h chunks' hs')

/-- A line one byte past the cap. -/
def longLine : List UInt8 := List.replicate 513 65 ++ [newline]

/-- In one read it is taken, and byte by byte it is not. -/
theorem longLine_taken :
    ¬ CapHolds [longLine] ∧ CapHolds (longLine.map fun b => [b]) := by
  refine ⟨fun h => ?_, capHolds_bytes longLine⟩
  have hline : List.replicate 513 65 ∈ lines newline longLine := by
    unfold longLine
    rw [lines_cons fun hmem => absurd (List.eq_of_mem_replicate hmem) (by decide)]
    exact List.mem_cons_self
  have hshort := (capHolds_whole_iff longLine).mp h _ hline
  rw [List.length_replicate] at hshort
  exact absurd hshort (by decide)

end NmeaReader
end FlyingSquirrel

import FlyingSquirrel.Proof.LineCap
import FlyingSquirrel.Proof.SerialStream

/-!
# A connection delivers its stream, and says what it did

What a connection yields is the decoding of the lines of its stream, stated here against
`lines` and not against the reader. And what its log says is true: a report carries the counts
of what had come by then, of each stage.
-/

set_option autoImplicit false

namespace FlyingSquirrel

open Lib NmeaReader

/-- The bytes that the port brings, up to its end. -/
def arrived : List PortInput → List UInt8
  | .bytes chunk :: is => chunk ++ arrived is
  | .eof :: _ | .readError _ :: _ | [] => []
  | .next _ :: is | .probe _ :: is => arrived is

/-- The error that the port ends with, if it does. -/
def portError : List PortInput → Option IoError
  | .readError e :: _ => some e
  | .eof :: _ | [] => none
  | .bytes _ :: is | .next _ :: is | .probe _ :: is => portError is

/-- The reason that a connection ends with. -/
def endReason (is : List PortInput) : String :=
  (portError is).elim "stream ended (peer EOF)" IoError.message

/-- The counts that a report carries. -/
def LinkReport.counts : LinkReport → LinkCounts
  | .trouble d => d.counts
  | .recovered _ counts => counts

namespace Connection

variable {P α : Type} [Zero α] [Neg α] [Mul α] [OfScientific α] [LT α] [LE α] [DecidableLT α]
  [DecidableLE α] [FiniteTest α]

/-! ## The items of a stream -/

/-- Under the cap the items are the lines of the stream, and the error at its end. -/
theorem framedItems_eq {r : NmeaReader} {s : List UInt8} (h : CaughtUp r s)
    (is : List PortInput)
    (hlines : ∀ l ∈ lines newline (s ++ arrived is), l.length ≤ nmeaMaxLineBytes)
    (htail : (leftover newline (s ++ arrived is)).length ≤ nmeaMaxLineBytes) :
    framedItems r is =
      ((lines newline (leftover newline s ++ arrived is)).map reported).map .ok ++
        (portError is).toList.map .error := by
  induction is generalizing r s with
  | nil => simp [framedItems, arrived, portError, lines_of_not_mem (not_mem_leftover s)]
  | cons i is ih =>
    cases i with
    | bytes chunk =>
      rw [arrived, ← List.append_assoc] at hlines htail
      obtain ⟨hnext, -, hout⟩ := h.read chunk (leftover_length_le hlines htail)
      have hread : (r.read chunk).2 =
          ((lines newline (leftover newline s ++ chunk)).map reported).map .ok := by
        rw [hout, List.map_map]
        rfl
      rw [framedItems, hread, ih hnext hlines htail, arrived, portError,
        ← List.append_assoc (leftover newline s), lines_append (leftover newline s ++ chunk),
        leftover_append s chunk, List.map_append, List.map_append, List.append_assoc]
    | eof =>
      rw [arrived, List.append_nil] at htail
      simp [framedItems, h.finish htail, arrived, portError, lines_of_not_mem (not_mem_leftover s)]
    | readError e => simp [framedItems, arrived, portError, lines_of_not_mem (not_mem_leftover s)]
    | next now => exact ih h hlines htail
    | probe now => exact ih h hlines htail

/-- A first part of good items and errors is a first part of the good ones. -/
theorem ok_append_eq {κ : Type} {taken items : List κ} {rest errors : List (Except IoError κ)}
    (herrors : ∀ x ∈ errors, ∃ e, x = .error e)
    (h : items.map .ok ++ errors = taken.map .ok ++ rest) :
    ∃ left, items = taken ++ left ∧ rest = left.map .ok ++ errors := by
  induction taken generalizing items with
  | nil => exact ⟨items, rfl, h.symm⟩
  | cons t taken ih =>
    cases items with
    | nil =>
      obtain ⟨e, he⟩ := herrors (.ok t) (by rw [List.map_nil, List.nil_append] at h; simp [h])
      cases he
    | cons i items =>
      obtain ⟨hhead, htail⟩ := List.cons_eq_cons.mp h
      obtain ⟨left, rfl, hrest⟩ := ih htail
      exact ⟨left, by rw [Except.ok.inj hhead]; rfl, hrest⟩

theorem new_toCome {P α : Type} (N : NmeaCrate P α) (openedAt : Instant) (is : List PortInput) :
    (Connection.new N openedAt).toCome is = framedItems .new is := rfl

/-- Once the port has ended, a connection ends in one turn more than it has items left. -/
theorem ends_of_next (N : NmeaCrate P α) {c : Connection P} (hend : c.ended = true) {n : Nat}
    (hn : c.items.length < n) (now : Instant) :
    (run (step N) c (List.replicate n (.next now))).running = false := by
  induction n generalizing c with
  | zero => exact absurd hn (Nat.not_lt_zero _)
  | succ n ih =>
    rw [List.replicate_succ, run_cons]
    cases hrun : c.running with
    | false =>
      have hstep : step N c (.next now) = (c, []) := by simp [step, hrun]
      rw [hstep]
      exact (stopped_run N hrun _).2.1
    | true =>
      cases hitems : c.items with
      | nil =>
        have hstep : step N c (.next now) = c.disconnect none := by
          simp [step, hrun, hitems, hend]
        rw [hstep]
        exact (stopped_run N rfl _).2.1
      | cons item items =>
        have hstep : step N c (.next now) = onItem N { c with items := items } item now := by
          simp [step, hrun, hitems]
        rw [hstep]
        rw [hitems, List.length_cons] at hn
        cases item with
        | error e => exact (stopped_run N rfl _).2.1
        | ok evt =>
          obtain ⟨-, hits, hended, -⟩ := onItem_frame N { c with items := items } evt now
          exact ih (hended.trans hend) (by rw [hits]; exact Nat.lt_of_succ_lt_succ hn)

/-- A connection whose port ends does, if its loop is turned often enough. -/
theorem ends_after_eof (N : NmeaCrate P α) (openedAt : Instant) (is : List PortInput) {n : Nat}
    (hn : (framedItems .new (is ++ [.eof])).length < n) (now : Instant) :
    (run (step N) (new N openedAt) (is ++ .eof :: List.replicate n (.next now))).running =
      false := by
  have happ : is ++ .eof :: List.replicate n (.next now) =
      (is ++ [.eof]) ++ List.replicate n (.next now) := by simp
  rw [happ, run_append]
  obtain ⟨taken, rest, hcome, -, hend⟩ := runs N (c := new N openedAt) rfl (is ++ [.eof])
  cases hend with
  | ended _ hstop => exact (stopped_run N hstop _).2.1
  | running _ hrest =>
    refine ends_of_next N ?_ ?_ now
    · rw [run_snoc]
      unfold step
      dsimp only
      split
      · assumption
      · rfl
    · rw [new_toCome, hrest] at hcome
      rw [hcome, List.length_append] at hn
      omega

/-- The fixes counted are the fixes yielded. -/
theorem Took.fixes_counted {N : NmeaCrate P α} {c c' : Connection P} {taken : List NmeaLine}
    {out : List (ConnectionOutput α)} (h : Took N c c' taken out) :
    c'.health.counts.fixes = c.health.counts.fixes + (fixesOf out).length := by
  rw [h.counts.fixes, ← decoded, ← h.fixes, List.length_map]
  rfl

/-- What a stream within the cap decodes to. -/
def decodedStream (N : NmeaCrate P α) (is : List PortInput) : List (GpsFix α) :=
  decoded N N.default ((lines newline (arrived is)).map reported)

/-- The lines of a stream are those taken, which made the fixes, and those left. -/
theorem stream_split (N : NmeaCrate P α) (openedAt : Instant) (is : List PortInput)
    (hlines : ∀ l ∈ lines newline (arrived is), l.length ≤ nmeaMaxLineBytes)
    (htail : (leftover newline (arrived is)).length ≤ nmeaMaxLineBytes) :
    let c := run (step N) (new N openedAt) is
    let out := outputs (step N) (new N openedAt) is
    ∃ taken left, Took N (new N openedAt) c taken out ∧
      Outcome c (left.map .ok ++ (portError is).toList.map .error) out ∧
      decodedStream N is = (fixesOf out).map GpsFix.untimed ++
        decoded N (run (judge N) N.default taken) left := by
  intro c out
  obtain ⟨taken, rest, hcome, htook, hend⟩ := runs N (c := new N openedAt) rfl is
  rw [new_toCome, framedItems_eq CaughtUp.start is hlines htail, leftover_nil, List.nil_append]
    at hcome
  obtain ⟨left, hitems, rfl⟩ := ok_append_eq (by simp) hcome
  refine ⟨taken, left, htook, hend, ?_⟩
  unfold decodedStream
  rw [hitems, decoded_append]
  exact congrArg (· ++ _) htook.fixes.symm

/-- A connection that has ended has decoded all of its stream. -/
theorem ended_stream (N : NmeaCrate P α) (openedAt : Instant) (is : List PortInput)
    (hlines : ∀ l ∈ lines newline (arrived is), l.length ≤ nmeaMaxLineBytes)
    (htail : (leftover newline (arrived is)).length ≤ nmeaMaxLineBytes)
    (hrun : (run (step N) (new N openedAt) is).running = false) :
    let out := outputs (step N) (new N openedAt) is
    (fixesOf out).map GpsFix.untimed = decodedStream N is ∧
      eventsOf out =
        (fixesOf out).map .fix ++ [.disconnected (endReason is) (!(fixesOf out).isEmpty)] := by
  intro out
  obtain ⟨taken, left, htook, hend, hall⟩ := stream_split N openedAt is hlines htail
  have hcount : (run (step N) (new N openedAt) is).health.counts.fixes = (fixesOf out).length :=
    htook.fixes_counted.trans (Nat.zero_add _)
  cases hend with
  | running hgo => exact absurd (hgo.symm.trans hrun) (by simp)
  | ended reason _ hreason hevents =>
    have hleft : left = [] ∧ reason = endReason is := by
      unfold endReason
      rcases hreason with ⟨hnil, heq⟩ | ⟨e, rest', herr, heq⟩
      · obtain ⟨hl, he⟩ := List.append_eq_nil_iff.mp hnil
        cases hp : portError is with
        | none => exact ⟨List.map_eq_nil_iff.mp hl, heq⟩
        | some e => rw [hp] at he; exact absurd he (by simp)
      · cases left with
        | cons l left => exact absurd (List.cons_eq_cons.mp herr).1 (by simp)
        | nil =>
          cases hp : portError is with
          | none => rw [hp] at herr; exact absurd herr (by simp)
          | some e' =>
            rw [hp] at herr
            obtain rfl := Except.error.inj (List.cons_eq_cons.mp herr).1
            exact ⟨rfl, heq⟩
    obtain ⟨rfl, rfl⟩ := hleft
    refine ⟨by rw [hall]; exact (List.append_nil _).symm, ?_⟩
    rw [hevents, hcount]
    cases fixesOf out <;> rfl

/-- **A connection delivers its stream.** For every parser, every interleaving of reads, turns
    of the loop and probes, and every stream whose lines and tail keep to the cap: what is
    yielded passes the plausibility check and is, but for the stamps, the decoding of the lines
    of the stream in order, so far; and when the connection has ended it is all of it, followed
    by one `Disconnected`, with the reason, that says whether there was a fix. -/
theorem delivers_stream (N : NmeaCrate P α) (openedAt : Instant) (is : List PortInput)
    (hlines : ∀ l ∈ lines newline (arrived is), l.length ≤ nmeaMaxLineBytes)
    (htail : (leftover newline (arrived is)).length ≤ nmeaMaxLineBytes) :
    let c := run (step N) (new N openedAt) is
    let out := outputs (step N) (new N openedAt) is
    (∀ f ∈ fixesOf out, gpsFixIsPlausible f = true) ∧
    (c.running = true →
      (fixesOf out).map GpsFix.untimed <+: decodedStream N is ∧
      eventsOf out = (fixesOf out).map .fix) ∧
    (c.running = false →
      (fixesOf out).map GpsFix.untimed = decodedStream N is ∧
      eventsOf out =
        (fixesOf out).map .fix ++ [.disconnected (endReason is) (!(fixesOf out).isEmpty)]) := by
  intro c out
  obtain ⟨taken, left, htook, hend, hall⟩ := stream_split N openedAt is hlines htail
  refine ⟨htook.accepted, fun hrun => ?_, ended_stream N openedAt is hlines htail⟩
  cases hend with
  | running _ _ hevents => exact ⟨⟨_, hall.symm⟩, hevents⟩
  | ended _ hstop => exact absurd (hrun.symm.trans hstop) (by simp)

/-- A sentence, and the parser that decodes it. -/
def gga : String := "$GPGGA,123519,4807.038,N,01131.000,E,1,08,0.9,545.4,M,46.9,M,,*47"

def receiver : NmeaCrate (Option (ℚ × ℚ × ℚ)) ℚ where
  default := none
  parse p line :=
    if line = gga then (some (48 + 7.038 / 60, 11 + 31 / 60, 545.4), .ok .gga)
    else (p, .error "ParsingError")
  fixType p := p.map fun _ => .gps
  latitude p := p.map (·.1)
  longitude p := p.map (·.2.1)
  altitude p := p.map (·.2.2)
  hdop p := p.map fun _ => 0.9
  fixSatellites p := p.map fun _ => 8
  speedOverGround _ := none
  trueCourse _ := none

/-- The sentence, cut in two, with a probe between the reads. -/
def cutSentence : List PortInput :=
  [.bytes (gga.toUTF8.toList.take 20), .probe 5, .next 6,
    .bytes (gga.toUTF8.toList.drop 20 ++ [13, 10]), .next 7]

theorem delivers_stream_cut :
    let is := cutSentence ++ .eof :: List.replicate 2 (.next 8)
    let out := outputs (step receiver) (new receiver 0) is
    (fixesOf out).map GpsFix.untimed = decodedStream receiver is ∧
      eventsOf out =
        (fixesOf out).map .fix ++ [.disconnected (endReason is) (!(fixesOf out).isEmpty)] := by
  have hitems : (framedItems .new (cutSentence ++ [.eof])).length < 2 := by
    rw [framedItems_eq CaughtUp.start _ (by decide +kernel) (by decide +kernel)]
    decide +kernel
  exact (delivers_stream receiver 0 _ (by decide +kernel) (by decide +kernel)).2.2
    (ends_after_eof receiver 0 cutSentence hitems 8)

/-! ## What the log says -/

/-- A drain counts every byte of its buffer once. -/
theorem drain_counts (eof : Bool) (c : NmeaLineCodec) (src : List UInt8) :
    (drain eof c src).1.codec.bytesSeen = c.arrived src ∧
      (eof = false → (drain eof c src).1.codec.lastLen = (drain eof c src).1.buf.length) := by
  induction src using lines_induction newline generalizing c with
  | opened s h =>
    by_cases hlen : s.length ≤ nmeaMaxLineBytes
    · rw [drain_open eof c h hlen]
      cases eof <;> simp
    · rw [drain_some (pull_overlong eof c h (Nat.not_le.mp hlen)),
        drain_open eof _ (by simp) (by simp)]
      cases eof <;> simp [NmeaLineCodec.arrived]
  | line l s h ih =>
    rw [drain_some (pull_line eof c h s)]
    refine ⟨(ih _).1.trans ?_, (ih _).2⟩
    simp [NmeaLineCodec.arrived]

/-- The codec has counted the bytes there were, and the link health no more than that. -/
structure Counted (c : Connection P) (n : Nat) : Prop where
  bytesSeen : c.framed.codec.bytesSeen = n
  lastLen : c.ended = false → c.framed.codec.lastLen = c.framed.buf.length
  bytes : c.health.counts.bytes ≤ n

/-- Only a probe takes the count over. -/
theorem onItem_bytes (N : NmeaCrate P α) (c : Connection P) (item : Except IoError NmeaLine)
    (now : Instant) :
    (onItem N c item now).1.health.counts.bytes = c.health.counts.bytes ∧
      (onItem N c item now).1.framed = c.framed ∧ (onItem N c item now).1.ended = c.ended := by
  have hevent : ∀ (evt : NmeaLine) (t : Nat),
      (c.health.onEvent evt t).counts.bytes = c.health.counts.bytes := fun evt t => by
    cases evt with
    | line s =>
      simp only [LinkHealth.onEvent]
      split <;> rfl
    | _ => rfl
  cases item with
  | error e => exact ⟨rfl, rfl, rfl⟩
  | ok evt =>
    obtain ⟨hframed, -, hended, -⟩ := onItem_frame N c evt now
    refine ⟨?_, hframed, hended⟩
    cases evt with
    | line l =>
      simp only [onItem]
      split
      · rw [← hevent (.line l) (now - c.openedAt)]
        unfold onSentence
        split
        · split <;> rfl
        · rfl
        · rfl
      · exact hevent _ _
    | _ => rfl

theorem Counted.start {P α : Type}
    (N : NmeaCrate P α) (openedAt : Instant) : Counted (new N openedAt) 0 :=
  ⟨rfl, fun _ => rfl, Nat.le_refl 0⟩

/-- A probe takes the count of the bytes over, and logs the counts it leaves. -/
theorem Counted.onProbe {P α : Type}
    {c : Connection P} {n : Nat} (h : Counted c n) (now : Instant) :
    (Connection.onProbe (α := α) c now).1.health.counts = { c.health.counts with bytes := n } ∧
      ∀ r, ConnectionOutput.report r ∈ (Connection.onProbe (α := α) c now).2 →
        r.counts = { c.health.counts with bytes := n } := by
  have hobserve : (c.health.observeBytes c.framed.codec.bytesSeen (now - c.openedAt)).counts =
      { c.health.counts with bytes := n } := by
    unfold LinkHealth.observeBytes
    rw [h.bytesSeen]
    split
    · rfl
    · rename_i hle
      rw [← Nat.le_antisymm h.bytes (Nat.not_lt.mp hle)]
  have hreport : ∀ {x : Option LinkReport} {r : LinkReport},
      ConnectionOutput.report r ∈ x.toList.map (ConnectionOutput.report (α := α)) → x = some r :=
    fun hr => by
      obtain ⟨r', hr', heq⟩ := List.mem_map.mp hr
      cases heq
      exact Option.mem_toList.mp hr'
  unfold Connection.onProbe
  dsimp only
  rcases LinkHealth.poll_cases
      (c.health.observeBytes c.framed.codec.bytesSeen (now - c.openedAt)) (now - c.openedAt)
    with ⟨was, -, -, hp⟩ | ⟨-, hp⟩ | ⟨-, -, hp⟩ <;> rw [hp] <;>
    refine ⟨hobserve, fun r hr => ?_⟩ <;> cases hreport hr <;> exact hobserve

theorem Counted.step (N : NmeaCrate P α) {c : Connection P} {n : Nat} (h : Counted c n)
    (i : PortInput) (is : List PortInput) :
    ∃ n', Counted (step N c i).1 n' ∧
      n + (if c.ended then 0 else (arrived (i :: is)).length) =
        n' + if (Connection.step N c i).1.ended then 0 else (arrived is).length := by
  have hsame : ∀ c₁ : Connection P, c₁.framed = c.framed → c₁.ended = c.ended →
      c₁.health.counts.bytes = c.health.counts.bytes → Counted c₁ n := by
    intro c₁ hframed hended hbytes
    exact ⟨by rw [hframed]; exact h.bytesSeen,
      fun he => by rw [hframed]; exact h.lastLen (hended ▸ he), by rw [hbytes]; exact h.bytes⟩
  cases i with
  | bytes chunk =>
    cases hend : c.ended with
    | true => exact ⟨n, by simpa [Connection.step, hend] using h, by simp [Connection.step, hend]⟩
    | false =>
      have hstep : (Connection.step N c (.bytes chunk)).1 =
          { c with framed := (c.framed.read chunk).1,
                   items := c.items ++ (c.framed.read chunk).2 } := by
        simp [Connection.step, hend]
      obtain ⟨hseen, hlast⟩ := drain_counts false c.framed.codec (c.framed.buf ++ chunk)
      have harrived : c.framed.codec.arrived (c.framed.buf ++ chunk) = n + chunk.length := by
        unfold NmeaLineCodec.arrived
        rw [h.bytesSeen, h.lastLen hend, List.length_append, Nat.add_sub_cancel_left]
      rw [hstep]
      refine ⟨n + chunk.length, ⟨hseen.trans harrived, fun _ => hlast rfl, ?_⟩, ?_⟩
      · exact Nat.le_trans h.bytes (Nat.le_add_right _ _)
      · simp [hend, arrived, Nat.add_assoc]
  | eof =>
    cases hend : c.ended with
    | true => exact ⟨n, by simpa [Connection.step, hend] using h, by simp [Connection.step, hend]⟩
    | false =>
      have hstep : (Connection.step N c .eof).1 =
          { c with framed := c.framed.finish.1, items := c.items ++ c.framed.finish.2,
                   ended := true } := by
        simp [Connection.step, hend]
      obtain ⟨hseen, -⟩ := drain_counts true c.framed.codec c.framed.buf
      have harrived : c.framed.codec.arrived c.framed.buf = n := by
        unfold NmeaLineCodec.arrived
        rw [h.bytesSeen, h.lastLen hend, Nat.sub_self, Nat.add_zero]
      rw [hstep]
      exact ⟨n, ⟨hseen.trans harrived, fun he => absurd he (by simp), h.bytes⟩, by simp [arrived]⟩
  | readError e =>
    cases hend : c.ended with
    | true => exact ⟨n, by simpa [Connection.step, hend] using h, by simp [Connection.step, hend]⟩
    | false =>
      have hstep : (Connection.step N c (.readError e)).1 =
          { c with items := c.items ++ [.error e], ended := true } := by
        simp [Connection.step, hend]
      rw [hstep]
      exact ⟨n, ⟨h.bytesSeen, fun he => absurd he (by simp), h.bytes⟩, by simp [arrived]⟩
  | next now =>
    have hkeep : (Connection.step N c (.next now)).1.framed = c.framed ∧
        (Connection.step N c (.next now)).1.ended = c.ended ∧
        (Connection.step N c (.next now)).1.health.counts.bytes = c.health.counts.bytes := by
      unfold Connection.step
      dsimp only
      split
      · exact ⟨rfl, rfl, rfl⟩
      · split
        · obtain ⟨hbytes, hframed, hended⟩ := onItem_bytes N { c with items := _ } _ now
          exact ⟨hframed, hended, hbytes⟩
        · split <;> exact ⟨rfl, rfl, rfl⟩
    obtain ⟨hframed, hended, hbytes⟩ := hkeep
    exact ⟨n, hsame _ hframed hended hbytes, by rw [hended, arrived]⟩
  | probe now =>
    cases hrun : c.running with
    | false => exact ⟨n, by simpa [Connection.step, hrun] using h, by simp [Connection.step, hrun,
        arrived]⟩
    | true =>
      have hstep : Connection.step N c (.probe now) = c.onProbe now := by
        simp [Connection.step, hrun]
      rw [hstep]
      refine ⟨n, ⟨h.bytesSeen, h.lastLen, ?_⟩, rfl⟩
      rw [(h.onProbe (α := α) now).1]

theorem Counted.run (N : NmeaCrate P α) {c : Connection P} {n : Nat} (h : Counted c n)
    (is : List PortInput) :
    Counted (run (Connection.step N) c is)
      (n + if c.ended then 0 else (arrived is).length) := by
  induction is generalizing c n with
  | nil => simpa [arrived] using h
  | cons i is ih =>
    obtain ⟨n', hnext, hcount⟩ := h.step N i is
    rw [hcount]
    exact ih hnext

/-- Only a probe logs a report, and nothing else with it. -/
theorem step_report {N : NmeaCrate P α} {c : Connection P} {i : PortInput}
    {a b : List (ConnectionOutput α)} {r : LinkReport} (h : (step N c i).2 = a ++ .report r :: b) :
    a = [] ∧ b = [] ∧ c.running = true ∧ ∃ now, i = .probe now := by
  have hmem : ConnectionOutput.report r ∈ (step N c i).2 := by rw [h]; simp
  cases i with
  | probe now =>
    cases hrun : c.running with
    | false => simp [step, hrun] at hmem
    | true =>
      have hstep : step N c (.probe now) = c.onProbe now := by simp [step, hrun]
      rw [hstep] at h
      have hone : (c.onProbe (α := α) now).2.length ≤ 1 := by
        unfold Connection.onProbe
        dsimp only
        rw [List.length_map]
        exact Option.length_toList_le
      rw [h, List.length_append, List.length_cons] at hone
      exact ⟨List.length_eq_zero_iff.mp (by omega), List.length_eq_zero_iff.mp (by omega), rfl, now,
        rfl⟩
  | next now =>
    have hitem : ∀ (c : Connection P) (item : Except IoError NmeaLine),
        ConnectionOutput.report r ∉ (onItem N c item now).2 := by
      intro c item hr
      cases item with
      | error e => simp [onItem, Connection.disconnect] at hr
      | ok evt =>
        unfold onItem at hr
        dsimp only at hr
        split at hr
        · split at hr
          · unfold onSentence at hr
            split at hr
            · split at hr <;> simp at hr
            · simp at hr
            · simp at hr
          · simp at hr
        · simp at hr
        · simp at hr
    unfold step at hmem
    dsimp only at hmem
    split at hmem
    · simp at hmem
    · split at hmem
      · exact absurd hmem (hitem _ _)
      · split at hmem <;> simp [Connection.disconnect] at hmem
  | bytes chunk =>
    unfold step at hmem
    dsimp only at hmem
    split at hmem <;> simp at hmem
  | eof =>
    unfold step at hmem
    dsimp only at hmem
    split at hmem <;> simp at hmem
  | readError e =>
    unfold step at hmem
    dsimp only at hmem
    split at hmem <;> simp at hmem

/-- **The log tells the truth.** A report that a connection logs comes of a probe, and carries, of
    each stage, the exact count of what had come through it when the probe was made: the bytes
    that had arrived, the items handed out, which with those still queued are all that the bytes
    made, and the verdicts on them, of which the fixes are the ones yielded so far. -/
theorem report_true (N : NmeaCrate P α) (openedAt : Instant) (is : List PortInput)
    (pre post : List (ConnectionOutput α)) (r : LinkReport)
    (hlog : outputs (step N) (new N openedAt) is = pre ++ .report r :: post) :
    ∃ is₀ now is₁ taken, is = is₀ ++ .probe now :: is₁ ∧
      pre = outputs (step N) (new N openedAt) is₀ ∧
      (step N (run (step N) (new N openedAt) is₀) (.probe now)).2 =
        [(.report r : ConnectionOutput α)] ∧
      framedItems .new is₀ = taken.map .ok ++ (run (step N) (new N openedAt) is₀).items ∧
      Tallied ⟨0, 0, 0, 0, 0, 0, 0, 0⟩ r.counts taken (outputs (judge N) N.default taken) ∧
      r.counts.bytes = (arrived is₀).length ∧ r.counts.fixes = (fixesOf pre).length := by
  obtain ⟨is₀, i, is₁, a, b, rfl, hstep, rfl, -⟩ := outputs_eq_split hlog
  have hcounted := (Counted.start N openedAt).run N is₀
  obtain ⟨rfl, rfl, hrun, now, rfl⟩ := step_report hstep
  obtain ⟨taken, rest, hcome, htook, hout⟩ := runs N (c := new N openedAt) rfl is₀
  have hqueued : rest = (run (step N) (new N openedAt) is₀).items := by
    cases hout with
    | running _ hrest _ => exact hrest
    | ended _ hstop => exact absurd (hrun.symm.trans hstop) (by simp)
  have hprobe : step N (run (step N) (new N openedAt) is₀) (.probe now) =
      (run (step N) (new N openedAt) is₀).onProbe now := if_neg (by simp [hrun])
  have hr : r.counts = { (run (step N) (new N openedAt) is₀).health.counts with
      bytes := 0 + (arrived is₀).length } := by
    refine (hcounted.onProbe (α := α) now).2 r ?_
    rw [← hprobe, hstep]
    simp
  have htally := htook.counts
  refine ⟨is₀, now, is₁, taken, rfl, List.append_nil _, hstep, hqueued ▸ hcome, ?_, ?_, ?_⟩
  · rw [hr]
    exact ⟨htally.lines, htally.nonUtf8Lines, htally.overlongDiscards, htally.nmeaLines,
      htally.parseErrors, htally.fixes, htally.rejectedFixes⟩
  · rw [hr]
    exact Nat.zero_add _
  · rw [hr, List.append_nil]
    exact htook.fixes_counted.trans (Nat.zero_add _)

def ConnectionOutput.report? : ConnectionOutput α → Option LinkReport
  | .report r => some r
  | .event _ => none

/-- A sentence arrives and is decoded, and then nothing for seventeen seconds, as the log says. -/
theorem report_true_silent :
    ∃ is₀ now is₁, cutSentence ++ [.probe 17000000000] = is₀ ++ .probe now :: is₁ ∧
      (arrived is₀).length = 67 ∧
      (fixesOf (outputs (step receiver) (new receiver 0) is₀)).length = 1 := by
  have hlogged : (outputs (step receiver) (new receiver 0)
      (cutSentence ++ [.probe 17000000000])).filterMap ConnectionOutput.report? =
      [.trouble ⟨.noSentences, ⟨67, 1, 1, 0, 0, 0, 1, 0⟩, 16999999993⟩] := by decide +kernel
  obtain ⟨o, hmem, ho⟩ := List.mem_filterMap.mp (hlogged ▸ List.mem_singleton_self _)
  obtain ⟨pre, post, hsplit⟩ := List.append_of_mem hmem
  cases o with
  | event e => exact absurd ho (by simp [ConnectionOutput.report?])
  | report r =>
    obtain rfl := Option.some.inj ho
    obtain ⟨is₀, now, is₁, -, his, rfl, -, -, -, hbytes, hfixes⟩ :=
      report_true receiver 0 _ pre post _ hsplit
    exact ⟨is₀, now, is₁, his, hbytes.symm, hfixes.symm⟩

end Connection
end FlyingSquirrel

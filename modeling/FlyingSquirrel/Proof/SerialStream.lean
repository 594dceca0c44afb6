import FlyingSquirrel.Hw.SerialGps
import FlyingSquirrel.Proof.Framing

/-!
# What a serial connection delivers

The link health watches a connection and never steers it, and the times at which the branches
are taken show only in the stamps. So the fixes are a function of the bytes: `judge` is the
connection with the clock, the health and the reads taken out, and a run delivers what `judge`
makes of the lines, for any way of cutting the stream into reads and any interleaving with the
probe. The counts of the link health are a tally of the same verdicts.
-/

set_option autoImplicit false

namespace FlyingSquirrel

open Lib NmeaReader

/-- A fix without its time. -/
def GpsFix.untimed {α : Type} (f : GpsFix α) : GpsFix α := { f with t := .nowMono 0 }

/-- What becomes of an item of the codec. -/
inductive LineVerdict (α : Type)
  /-- Not a sentence. -/
  | skipped
  | noFix
  | fix (fix : GpsFix α)
  | rejected
  | malformed

namespace LineVerdict

variable {α : Type}

def fix? : LineVerdict α → Option (GpsFix α)
  | .fix f => some f
  | _ => none

def isSentence : LineVerdict α → Bool
  | .skipped => false
  | _ => true

def isRejected : LineVerdict α → Bool
  | .rejected => true
  | _ => false

def isMalformed : LineVerdict α → Bool
  | .malformed => true
  | _ => false

end LineVerdict

namespace NmeaLine

/-- The item is a line that ended, readable or not. -/
def isTerminated : NmeaLine → Bool
  | .overlong _ => false
  | _ => true

def isNonUtf8 : NmeaLine → Bool
  | .nonUtf8 _ => true
  | _ => false

def isOverlong : NmeaLine → Bool
  | .overlong _ => true
  | _ => false

end NmeaLine

namespace ConnectionOutput

variable {α : Type}

def event? : ConnectionOutput α → Option (SerialEvent α)
  | .event e => some e
  | .report _ => none

def fix? : ConnectionOutput α → Option (GpsFix α)
  | .event (.fix fix) => some fix
  | _ => none

theorem fix?_report (l : List LinkReport) :
    (l.map (ConnectionOutput.report (α := α))).filterMap fix? = [] := by
  induction l with
  | nil => rfl
  | cons r l ih => exact ih

theorem event?_report (l : List LinkReport) :
    (l.map (ConnectionOutput.report (α := α))).filterMap event? = [] := by
  induction l with
  | nil => rfl
  | cons r l ih => exact ih

end ConnectionOutput

section Judge

variable {P α : Type} [Zero α] [Neg α] [Mul α] [OfScientific α] [LT α] [LE α] [DecidableLT α]
  [DecidableLE α] [FiniteTest α]

/-- Judge one sentence, with what the parser holds. -/
def judgeSentence (N : NmeaCrate P α) (p : P) (line : String) : P × LineVerdict α :=
  match N.parseSentence p line 0 with
  | (p, .ok (some fix)) => (p, if gpsFixIsPlausible fix then .fix fix else .rejected)
  | (p, .ok none) => (p, .noFix)
  | (p, .error _) => (p, .malformed)

/-- Judge one item. -/
def judge (N : NmeaCrate P α) (p : P) : NmeaLine → P × List (LineVerdict α)
  | .line l =>
    if startsWithDollar l then ((judgeSentence N p l).1, [(judgeSentence N p l).2])
    else (p, [.skipped])
  | _ => (p, [.skipped])

/-- The fixes that items bring. -/
def decoded (N : NmeaCrate P α) (p : P) (items : List NmeaLine) : List (GpsFix α) :=
  (outputs (judge N) p items).filterMap LineVerdict.fix?

theorem decoded_append (N : NmeaCrate P α) (p : P) (xs ys : List NmeaLine) :
    decoded N p (xs ++ ys) = decoded N p xs ++ decoded N (run (judge N) p xs) ys := by
  unfold decoded
  rw [outputs_append, List.filterMap_append]

/-- The time only stamps the fix. -/
theorem parseSentence_now {P α : Type} [Zero α] [Mul α] [OfScientific α]
    (N : NmeaCrate P α) (p : P) (line : String) (now : Instant) :
    N.parseSentence p line now =
      ((N.parseSentence p line 0).1,
        (N.parseSentence p line 0).2.map (Option.map fun f => { f with t := .nowMono now })) := by
  have hfix : ∀ q, N.currentFix q now =
      (N.currentFix q 0).map fun f => { f with t := .nowMono now } := fun q => by
    unfold NmeaCrate.currentFix
    split
    · rfl
    · split <;> rfl
  unfold NmeaCrate.parseSentence
  split <;> simp_all [Except.map]

theorem gpsFixIsPlausible_at {α : Type} [Zero α] [Neg α] [OfScientific α] [LT α] [LE α]
    [DecidableLT α] [DecidableLE α] [FiniteTest α] (f : GpsFix α) (t : Timestamp) :
    gpsFixIsPlausible { f with t := t } = gpsFixIsPlausible f := rfl

theorem currentFix_untimed {P α : Type} [Zero α] [Mul α] [OfScientific α]
    {N : NmeaCrate P α} {p p' : P} {line : String} {f : GpsFix α}
    (h : N.parseSentence p line 0 = (p', .ok (some f))) : f.untimed = f := by
  have hcur : ∀ q, N.currentFix q 0 = some f → f.untimed = f := fun q hq => by
    unfold NmeaCrate.currentFix at hq
    split at hq
    · cases hq
    · split at hq
      · cases hq
        rfl
      · cases hq
  unfold NmeaCrate.parseSentence at h
  split at h
  · exact hcur _ (by simpa using (Prod.ext_iff.mp h).2)
  · exact hcur _ (by simpa using (Prod.ext_iff.mp h).2)
  · cases h
  · cases h

end Judge

/-! ## What handling items does -/

/-- The counts `k` have become `k'` over the items `taken`. The bytes are counted elsewhere. -/
structure Tallied {α : Type} (k k' : LinkCounts) (taken : List NmeaLine)
    (verdicts : List (LineVerdict α)) : Prop where
  lines : k'.lines = k.lines + taken.countP NmeaLine.isTerminated
  nonUtf8Lines : k'.nonUtf8Lines = k.nonUtf8Lines + taken.countP NmeaLine.isNonUtf8
  overlongDiscards : k'.overlongDiscards = k.overlongDiscards + taken.countP NmeaLine.isOverlong
  nmeaLines : k'.nmeaLines = k.nmeaLines + verdicts.countP LineVerdict.isSentence
  parseErrors : k'.parseErrors = k.parseErrors + verdicts.countP LineVerdict.isMalformed
  fixes : k'.fixes = k.fixes + (verdicts.filterMap LineVerdict.fix?).length
  rejectedFixes : k'.rejectedFixes = k.rejectedFixes + verdicts.countP LineVerdict.isRejected

theorem Tallied.trans {α : Type} {k k₁ k' : LinkCounts} {t₀ t₁ : List NmeaLine}
    {v₀ v₁ : List (LineVerdict α)} (h₀ : Tallied k k₁ t₀ v₀) (h₁ : Tallied k₁ k' t₁ v₁) :
    Tallied k k' (t₀ ++ t₁) (v₀ ++ v₁) where
  lines := by rw [h₁.lines, h₀.lines, List.countP_append, Nat.add_assoc]
  nonUtf8Lines := by rw [h₁.nonUtf8Lines, h₀.nonUtf8Lines, List.countP_append, Nat.add_assoc]
  overlongDiscards := by
    rw [h₁.overlongDiscards, h₀.overlongDiscards, List.countP_append, Nat.add_assoc]
  nmeaLines := by rw [h₁.nmeaLines, h₀.nmeaLines, List.countP_append, Nat.add_assoc]
  parseErrors := by rw [h₁.parseErrors, h₀.parseErrors, List.countP_append, Nat.add_assoc]
  fixes := by
    rw [h₁.fixes, h₀.fixes, List.filterMap_append, List.length_append, Nat.add_assoc]
  rejectedFixes := by rw [h₁.rejectedFixes, h₀.rejectedFixes, List.countP_append, Nat.add_assoc]

namespace Connection

variable {P α : Type} [Zero α] [Neg α] [Mul α] [OfScientific α] [LT α] [LE α] [DecidableLT α]
  [DecidableLE α] [FiniteTest α]

/-- Between `c` and `c'` the items `taken` were handled, and `out` came of it. -/
structure Took (N : NmeaCrate P α) (c c' : Connection P) (taken : List NmeaLine)
    (out : List (ConnectionOutput α)) : Prop where
  parser : c'.parser = run (judge N) c.parser taken
  fixes : (out.filterMap ConnectionOutput.fix?).map GpsFix.untimed = decoded N c.parser taken
  accepted : ∀ f ∈ out.filterMap ConnectionOutput.fix?, gpsFixIsPlausible f = true
  counts : Tallied c.health.counts c'.health.counts taken (outputs (judge N) c.parser taken)

/-- Nothing was handled: the counts but for the bytes, and the parser, are the same. -/
theorem Took.nothing {N : NmeaCrate P α} {c c' : Connection P}
    {out : List (ConnectionOutput α)} (hparser : c'.parser = c.parser)
    (hcounts : ∃ bytes, c'.health.counts = { c.health.counts with bytes := bytes })
    (hout : out.filterMap ConnectionOutput.fix? = []) : Took N c c' [] out where
  parser := hparser
  fixes := by rw [hout]; rfl
  accepted := by rw [hout]; simp
  counts := by
    obtain ⟨bytes, h⟩ := hcounts
    rw [h]
    exact ⟨rfl, rfl, rfl, rfl, rfl, rfl, rfl⟩

theorem Took.trans {N : NmeaCrate P α} {c c₁ c' : Connection P} {t₀ t₁ : List NmeaLine}
    {out₀ out₁ : List (ConnectionOutput α)} (h₀ : Took N c c₁ t₀ out₀)
    (h₁ : Took N c₁ c' t₁ out₁) : Took N c c' (t₀ ++ t₁) (out₀ ++ out₁) where
  parser := by rw [h₁.parser, h₀.parser, run_append]
  fixes := by
    rw [List.filterMap_append, List.map_append, h₀.fixes, h₁.fixes, h₀.parser, decoded_append]
  accepted := by
    rw [List.filterMap_append]
    exact List.forall_mem_append.mpr ⟨h₀.accepted, h₁.accepted⟩
  counts := by
    rw [outputs_append, ← h₀.parser]
    exact h₀.counts.trans h₁.counts

/-- One item is handled, with the verdict on it. -/
theorem Took.single {N : NmeaCrate P α} {c c' : Connection P} {evt : NmeaLine}
    {v : LineVerdict α} {out : List (ConnectionOutput α)}
    (hjudge : judge N c.parser evt = (c'.parser, [v]))
    (hfixes : (out.filterMap ConnectionOutput.fix?).map GpsFix.untimed = v.fix?.toList)
    (hok : ∀ f ∈ out.filterMap ConnectionOutput.fix?, gpsFixIsPlausible f = true)
    (hcounts : Tallied c.health.counts c'.health.counts [evt] [v]) : Took N c c' [evt] out where
  parser := by rw [run_cons, hjudge, run_nil]
  fixes := by
    unfold decoded outputs
    rw [hjudge, hfixes]
    cases v <;> rfl
  accepted := hok
  counts := by
    unfold outputs
    rw [hjudge]
    exact hcounts

theorem onSentence_error {N : NmeaCrate P α} {c : Connection P} {l : String} {p : P} {e : String}
    (h : N.parseSentence c.parser l 0 = (p, .error e)) (now : Instant) :
    onSentence N c l now = ({ c with parser := p, health := c.health.onParseError }, []) := by
  unfold onSentence
  rw [parseSentence_now, h]
  rfl

theorem onSentence_noFix {N : NmeaCrate P α} {c : Connection P} {l : String} {p : P}
    (h : N.parseSentence c.parser l 0 = (p, .ok none)) (now : Instant) :
    onSentence N c l now = ({ c with parser := p }, []) := by
  unfold onSentence
  rw [parseSentence_now, h]
  rfl

theorem onSentence_fix {N : NmeaCrate P α} {c : Connection P} {l : String} {p : P} {f : GpsFix α}
    (h : N.parseSentence c.parser l 0 = (p, .ok (some f))) (now : Instant) :
    onSentence N c l now =
      if gpsFixIsPlausible f then
        ({ c with parser := p, health := c.health.onFix (now - c.openedAt) },
          [.event (.fix { f with t := .nowMono now })])
      else ({ c with parser := p, health := c.health.onFixRejected }, []) := by
  unfold onSentence
  rw [parseSentence_now, h]
  rfl

/-- **A sentence** is parsed, and its fix checked. -/
theorem onSentence_took (N : NmeaCrate P α) (c c₀ : Connection P) {l : String}
    (hl : startsWithDollar l = true) (hparser : c.parser = c₀.parser)
    (hcounts : c.health.counts =
      { c₀.health.counts with
        lines := c₀.health.counts.lines + 1
        nmeaLines := c₀.health.counts.nmeaLines + 1 }) (now : Instant) :
    Took N c₀ (onSentence N c l now).1 [.line l] (onSentence N c l now).2 ∧
    (onSentence N c l now).2.filterMap ConnectionOutput.event? =
      ((onSentence N c l now).2.filterMap ConnectionOutput.fix?).map .fix := by
  have hjudge : judge N c₀.parser (.line l) =
      ((judgeSentence N c.parser l).1, [(judgeSentence N c.parser l).2]) := by
    simp [judge, hl, hparser]
  unfold judgeSentence at hjudge
  rcases hparse : N.parseSentence c.parser l 0 with ⟨p', e | _ | f⟩
  · rw [onSentence_error hparse]
    rw [hparse] at hjudge
    refine ⟨.single hjudge rfl (by simp) ?_, rfl⟩
    constructor <;> simp [LinkHealth.onParseError, hcounts, NmeaLine.isTerminated,
      NmeaLine.isNonUtf8, NmeaLine.isOverlong, LineVerdict.isSentence, LineVerdict.isMalformed,
      LineVerdict.isRejected, LineVerdict.fix?]
  · rw [onSentence_noFix hparse]
    rw [hparse] at hjudge
    refine ⟨.single hjudge rfl (by simp) ?_, rfl⟩
    constructor <;> simp [hcounts, NmeaLine.isTerminated, NmeaLine.isNonUtf8,
      NmeaLine.isOverlong, LineVerdict.isSentence, LineVerdict.isMalformed,
      LineVerdict.isRejected, LineVerdict.fix?]
  · rw [onSentence_fix hparse]
    rw [hparse] at hjudge
    cases hok : gpsFixIsPlausible f with
    | true =>
      rw [if_pos rfl]
      dsimp only at hjudge
      rw [if_pos hok] at hjudge
      refine ⟨.single hjudge ?_ ?_ ?_, rfl⟩
      · exact congrArg (· :: []) (currentFix_untimed hparse)
      · intro g hg
        rw [List.mem_singleton.mp (show g ∈ [{ f with t := .nowMono now }] from hg)]
        exact (gpsFixIsPlausible_at f _).trans hok
      · constructor <;> simp [LinkHealth.onFix, hcounts, NmeaLine.isTerminated,
          NmeaLine.isNonUtf8, NmeaLine.isOverlong, LineVerdict.isSentence,
          LineVerdict.isMalformed, LineVerdict.isRejected, LineVerdict.fix?]
    | false =>
      rw [if_neg (by simp)]
      dsimp only at hjudge
      rw [if_neg (by simp [hok])] at hjudge
      refine ⟨.single hjudge rfl (by simp) ?_, rfl⟩
      constructor <;> simp [LinkHealth.onFixRejected, hcounts, NmeaLine.isTerminated,
        NmeaLine.isNonUtf8, NmeaLine.isOverlong, LineVerdict.isSentence,
        LineVerdict.isMalformed, LineVerdict.isRejected, LineVerdict.fix?]

/-- **Handling an item** is judging it. The queue and the port are left alone. -/
theorem onItem_took (N : NmeaCrate P α) (c : Connection P) (evt : NmeaLine) (now : Instant) :
    Took N c (onItem N c (.ok evt) now).1 [evt] (onItem N c (.ok evt) now).2 ∧
      (onItem N c (.ok evt) now).2.filterMap ConnectionOutput.event? =
        ((onItem N c (.ok evt) now).2.filterMap ConnectionOutput.fix?).map .fix := by
  cases evt with
  | nonUtf8 n =>
    exact ⟨.single rfl rfl (by simp [onItem]) ⟨rfl, rfl, rfl, rfl, rfl, rfl, rfl⟩, rfl⟩
  | overlong n =>
    exact ⟨.single rfl rfl (by simp [onItem]) ⟨rfl, rfl, rfl, rfl, rfl, rfl, rfl⟩, rfl⟩
  | line l =>
    cases hl : startsWithDollar l with
    | true =>
      have hitem : onItem N c (.ok (.line l)) now = onSentence N
          { c with health := c.health.onEvent (.line l) (now - c.openedAt) } l now := by
        simp [onItem, hl]
      rw [hitem]
      refine onSentence_took N
        { c with health := c.health.onEvent (.line l) (now - c.openedAt) } c hl rfl ?_ now
      simp [LinkHealth.onEvent, hl]
    | false =>
      have hitem : onItem N c (.ok (.line l)) now =
          ({ c with health := c.health.onEvent (.line l) (now - c.openedAt) }, []) := by
        simp [onItem, hl]
      rw [hitem]
      refine ⟨.single (v := .skipped) (by simp [judge, hl]) rfl (by simp) ?_, rfl⟩
      constructor <;> simp [LinkHealth.onEvent, hl, NmeaLine.isTerminated, NmeaLine.isNonUtf8,
        NmeaLine.isOverlong, LineVerdict.isSentence, LineVerdict.isMalformed,
        LineVerdict.isRejected, LineVerdict.fix?]

/-- What an item does not touch. -/
theorem onItem_frame (N : NmeaCrate P α) (c : Connection P) (evt : NmeaLine) (now : Instant) :
    let c' := (onItem N c (.ok evt) now).1
    c'.framed = c.framed ∧ c'.items = c.items ∧ c'.ended = c.ended ∧ c'.running = c.running := by
  have hsentence : ∀ (c : Connection P) (l : String),
      let c' := (onSentence N c l now).1
      c'.framed = c.framed ∧ c'.items = c.items ∧ c'.ended = c.ended ∧
        c'.running = c.running := by
    intro c l
    rcases hparse : N.parseSentence c.parser l 0 with ⟨p', e | _ | f⟩
    · rw [onSentence_error hparse]
      exact ⟨rfl, rfl, rfl, rfl⟩
    · rw [onSentence_noFix hparse]
      exact ⟨rfl, rfl, rfl, rfl⟩
    · rw [onSentence_fix hparse]
      split <;> exact ⟨rfl, rfl, rfl, rfl⟩
  cases evt with
  | line l =>
    simp only [onItem]
    split
    · exact hsentence _ l
    · exact ⟨rfl, rfl, rfl, rfl⟩
  | _ => exact ⟨rfl, rfl, rfl, rfl⟩

/-- The probe reads the codec's count and writes the link health, and says so in the log. -/
theorem onProbe_took (N : NmeaCrate P α) (c : Connection P) (now : Instant) :
    Took N c (c.onProbe (α := α) now).1 [] (c.onProbe now).2 ∧
      (c.onProbe (α := α) now).2.filterMap ConnectionOutput.event? = [] := by
  have hcounts : ∃ bytes,
      ((c.health.observeBytes c.framed.codec.bytesSeen (now - c.openedAt)).poll
        (now - c.openedAt)).1.counts = { c.health.counts with bytes := bytes } := by
    have hobserve : ∃ bytes, (c.health.observeBytes c.framed.codec.bytesSeen
        (now - c.openedAt)).counts = { c.health.counts with bytes := bytes } := by
      unfold LinkHealth.observeBytes
      split
      · exact ⟨_, rfl⟩
      · exact ⟨_, rfl⟩
    rcases LinkHealth.poll_cases
        (c.health.observeBytes c.framed.codec.bytesSeen (now - c.openedAt)) (now - c.openedAt)
      with ⟨was, -, -, h⟩ | ⟨-, h⟩ | ⟨-, -, h⟩ <;> rw [h] <;> exact hobserve
  exact ⟨.nothing rfl hcounts (ConnectionOutput.fix?_report _), ConnectionOutput.event?_report _⟩

/-! ## Runs -/

/-- The items that the inputs of the port make, from a reader on: up to its end. -/
def framedItems : NmeaReader → List PortInput → List (Except IoError NmeaLine)
  | _, [] => []
  | r, .bytes chunk :: is => (r.read chunk).2 ++ framedItems (r.read chunk).1 is
  | r, .eof :: _ => r.finish.2
  | _, .readError e :: _ => [.error e]
  | r, .next _ :: is => framedItems r is
  | r, .probe _ :: is => framedItems r is

/-- The items still to be handed out, if the inputs `is` follow. -/
def toCome (c : Connection P) (is : List PortInput) : List (Except IoError NmeaLine) :=
  c.items ++ if c.ended then [] else framedItems c.framed is

def fixesOf (out : List (ConnectionOutput α)) : List (GpsFix α) :=
  out.filterMap ConnectionOutput.fix?

def eventsOf (out : List (ConnectionOutput α)) : List (SerialEvent α) :=
  out.filterMap ConnectionOutput.event?

/-- What has come of a connection that leaves `rest`: it goes on and its events are fixes, or
    it has ended with one `Disconnected` after them. -/
inductive Outcome (c' : Connection P) (rest : List (Except IoError NmeaLine))
    (out : List (ConnectionOutput α)) : Prop
  | running (hrun : c'.running = true) (hrest : rest = c'.items)
      (hevents : eventsOf out = (fixesOf out).map .fix)
  | ended (reason : String) (hrun : c'.running = false)
      (hreason : rest = [] ∧ reason = "stream ended (peer EOF)" ∨
        ∃ e rest', rest = .error e :: rest' ∧ reason = e.message)
      (hevents : eventsOf out = (fixesOf out).map .fix ++
        [.disconnected reason (decide (c'.health.counts.fixes > 0))])

/-- Nothing comes of a connection that has ended. -/
theorem stopped_run (N : NmeaCrate P α) {c : Connection P} (h : c.running = false)
    (is : List PortInput) :
    outputs (step N) c is = [] ∧ (run (step N) c is).running = false ∧
      (run (step N) c is).parser = c.parser ∧ (run (step N) c is).health = c.health := by
  induction is generalizing c with
  | nil => exact ⟨rfl, h, rfl, rfl⟩
  | cons i is ih =>
    have hstep : (step N c i).2 = [] ∧ (step N c i).1.running = false ∧
        (step N c i).1.parser = c.parser ∧ (step N c i).1.health = c.health := by
      cases i with
      | next now => exact ⟨by simp [step, h], by simp [step, h], by simp [step, h], by
          simp [step, h]⟩
      | probe now => exact ⟨by simp [step, h], by simp [step, h], by simp [step, h], by
          simp [step, h]⟩
      | _ =>
        unfold step
        dsimp only
        split <;> exact ⟨rfl, h, rfl, rfl⟩
    obtain ⟨hout, hrun, hparser, hhealth⟩ := hstep
    obtain ⟨hout', hrun', hparser', hhealth'⟩ := ih hrun
    refine ⟨?_, hrun', hparser'.trans hparser, hhealth'.trans hhealth⟩
    rw [outputs, hout, hout']
    rfl

/-- The run to its outcome: what of the items to come was taken, and what came of it. -/
def Runs (N : NmeaCrate P α) (c c' : Connection P) (come : List (Except IoError NmeaLine))
    (out : List (ConnectionOutput α)) : Prop :=
  ∃ taken rest, come = taken.map .ok ++ rest ∧ Took N c c' taken out ∧ Outcome c' rest out

/-- A step that brings only fixes, and a run after it. -/
theorem Runs.cons {N : NmeaCrate P α} {c c₁ c' : Connection P} {t₀ : List NmeaLine}
    {come come₁ : List (Except IoError NmeaLine)} {out₀ out₁ : List (ConnectionOutput α)}
    (h₀ : Took N c c₁ t₀ out₀) (hevents : eventsOf out₀ = (fixesOf out₀).map .fix)
    (hcome : come = t₀.map .ok ++ come₁) (h₁ : Runs N c₁ c' come₁ out₁) :
    Runs N c c' come (out₀ ++ out₁) := by
  obtain ⟨taken, rest, rfl, htook, hend⟩ := h₁
  refine ⟨t₀ ++ taken, rest, ?_, h₀.trans htook, ?_⟩
  · rw [hcome, List.map_append, List.append_assoc]
  · have hev : ∀ tail, eventsOf out₁ = (fixesOf out₁).map .fix ++ tail →
        eventsOf (out₀ ++ out₁) = (fixesOf (out₀ ++ out₁)).map .fix ++ tail := by
      intro tail h
      unfold eventsOf fixesOf at *
      rw [List.filterMap_append, List.filterMap_append, hevents, h, List.map_append,
        List.append_assoc]
    cases hend with
    | running hrun hrest h =>
      exact .running hrun hrest (by simpa using hev [] (by simpa using h))
    | ended reason hrun hreason h => exact .ended reason hrun hreason (hev _ h)

/-- A step that handles nothing. -/
theorem Runs.quiet {N : NmeaCrate P α} {c c₁ c' : Connection P}
    {come come₁ : List (Except IoError NmeaLine)} {out : List (ConnectionOutput α)}
    (hparser : c₁.parser = c.parser) (hhealth : c₁.health = c.health) (hcome : come = come₁)
    (h : Runs N c₁ c' come₁ out) : Runs N c c' come ([] ++ out) :=
  .cons (.nothing hparser ⟨_, congrArg LinkHealth.counts hhealth⟩ rfl) rfl hcome h

/-- What happens at the port moves items from where they come from to the queue. -/
theorem port_step (N : NmeaCrate P α) (c : Connection P) {i : PortInput} (hi : i.isPort = true)
    (is : List PortInput) :
    ∃ c₁, step N c i = (c₁, []) ∧ c₁.parser = c.parser ∧ c₁.health = c.health ∧
      c₁.running = c.running ∧ c.toCome (i :: is) = c₁.toCome is := by
  unfold toCome
  cases hend : c.ended with
  | true => exact ⟨c, by cases i <;> simp_all [step, PortInput.isPort], rfl, rfl, rfl, by
      simp [hend]⟩
  | false =>
    cases i with
    | bytes chunk =>
      refine ⟨{ c with framed := (c.framed.read chunk).1,
                       items := c.items ++ (c.framed.read chunk).2 }, ?_, rfl, rfl, rfl, ?_⟩
      · simp [step, hend]
      · simp [framedItems, hend]
    | eof =>
      refine ⟨{ c with framed := c.framed.finish.1, items := c.items ++ c.framed.finish.2,
                       ended := true }, ?_, rfl, rfl, rfl, ?_⟩
      · simp [step, hend]
      · simp [framedItems]
    | readError e =>
      refine ⟨{ c with items := c.items ++ [.error e], ended := true }, ?_, rfl, rfl, rfl, ?_⟩
      · simp [step, hend]
      · simp [framedItems]
    | next now => exact absurd hi (by simp [PortInput.isPort])
    | probe now => exact absurd hi (by simp [PortInput.isPort])

/-- The end, and whatever the port does after it. -/
theorem runs_disconnect (N : NmeaCrate P α) (c₀ c : Connection P) (reason : Option String)
    {rest : List (Except IoError NmeaLine)} (is : List PortInput)
    (hparser : c.parser = c₀.parser) (hcounts : c.health.counts = c₀.health.counts)
    (hreason : rest = [] ∧ reason.getD "stream ended (peer EOF)" = "stream ended (peer EOF)" ∨
      ∃ e rest', rest = .error e :: rest' ∧ reason.getD "stream ended (peer EOF)" = e.message) :
    Runs N c₀ (run (step N) (c.disconnect (α := α) reason).1 is) rest
      ((c.disconnect reason).2 ++ outputs (step N) (c.disconnect (α := α) reason).1 is) := by
  obtain ⟨hout, hrun, hp, hh⟩ :=
    stopped_run N (c := (c.disconnect (α := α) reason).1) rfl is
  have hp' : (run (step N) (c.disconnect (α := α) reason).1 is).parser = c₀.parser :=
    hp.trans hparser
  have hk : (run (step N) (c.disconnect (α := α) reason).1 is).health.counts =
      c₀.health.counts := (congrArg LinkHealth.counts hh).trans hcounts
  rw [hout, List.append_nil]
  refine ⟨[], rest, rfl, .nothing hp' ⟨_, hk⟩ rfl, ?_⟩
  refine .ended _ hrun hreason ?_
  have hfixes : (run (step N) (c.disconnect (α := α) reason).1 is).health.counts.fixes =
      c.health.counts.fixes := congrArg (fun h => h.counts.fixes) hh
  rw [hfixes]
  rfl

/-- **What comes of a connection.** Of the items that the port's bytes make, a first part has
    been taken, in order, and judged; the events are the fixes of it, and if the connection has
    ended, one `Disconnected` behind them. -/
theorem runs (N : NmeaCrate P α) {c : Connection P} (h : c.running = true)
    (is : List PortInput) :
    Runs N c (run (step N) c is) (c.toCome is) (outputs (step N) c is) := by
  induction is generalizing c with
  | nil =>
    refine ⟨[], c.items, ?_, .nothing rfl ⟨_, rfl⟩ rfl, .running h rfl rfl⟩
    unfold toCome
    split <;> simp [framedItems]
  | cons i is ih =>
    rw [outputs, run_cons]
    have hport : i.isPort = true →
        Runs N c (run (step N) (step N c i).1 is) (c.toCome (i :: is))
          ((step N c i).2 ++ outputs (step N) (step N c i).1 is) := by
      intro hi
      obtain ⟨c₁, hstep, hparser, hhealth, hrun, hcome⟩ := port_step N c hi is
      rw [hstep]
      exact (ih (hrun.trans h)).quiet hparser hhealth hcome
    cases i with
    | bytes chunk => exact hport rfl
    | eof => exact hport rfl
    | readError e => exact hport rfl
    | probe now =>
      have hstep : step N c (.probe now) = c.onProbe now := by simp [step, h]
      rw [hstep]
      obtain ⟨htook, hevents⟩ := onProbe_took N c now
      refine .cons htook ?_ rfl (ih h)
      rw [eventsOf, hevents, fixesOf, onProbe, ConnectionOutput.fix?_report]
      rfl
    | next now =>
      cases hitems : c.items with
      | nil =>
        cases hend : c.ended with
        | true =>
          have hstep : step N c (.next now) = c.disconnect none := by simp [step, h, hitems, hend]
          rw [hstep]
          exact runs_disconnect N c c none is rfl rfl
            (.inl ⟨by simp [toCome, hitems, hend], rfl⟩)
        | false =>
          have hstep : step N c (.next now) = (c, []) := by simp [step, h, hitems, hend]
          rw [hstep]
          exact (ih h).quiet rfl rfl (by simp [toCome, hend, framedItems])
      | cons item items =>
        have hstep : step N c (.next now) = onItem N { c with items := items } item now := by
          simp [step, h, hitems]
        rw [hstep]
        cases item with
        | error e =>
          exact runs_disconnect N c { c with items := items } (some e.message) is rfl rfl
            (.inr ⟨e, _, by simp only [toCome, hitems]; rfl, rfl⟩)
        | ok evt =>
          obtain ⟨htook, hevents⟩ := onItem_took N { c with items := items } evt now
          obtain ⟨hframed, hits, hended, hrunning⟩ :=
            onItem_frame N { c with items := items } evt now
          have htook' : Took N c (onItem N { c with items := items } (.ok evt) now).1 [evt]
              (onItem N { c with items := items } (.ok evt) now).2 :=
            ⟨htook.parser, htook.fixes, htook.accepted, htook.counts⟩
          refine .cons htook' hevents ?_ (ih (hrunning.trans h))
          simp [toCome, hframed, hits, hended, hitems, framedItems]

end Connection
end FlyingSquirrel

import FlyingSquirrel.Proof.SerialDelivery

/-!
# Reconnecting

The source outlives its connections. Each one starts over, with a new codec and a new parser,
so nothing of a stream that broke off is mixed into the next one; and between them the source
waits, twice as long each time, until the port opens again.
-/

set_option autoImplicit false

namespace FlyingSquirrel

open Lib NmeaReader

namespace SourceOutput

variable {α : Type}

def fix? : SourceOutput α → Option (GpsFix α)
  | .fix f => some f
  | _ => none

/-- The count of waits since the port was last opened, after this. -/
def countWait (n : Nat) : SourceOutput α → Nat
  | .connected => 0
  | .sleep _ => n + 1
  | _ => n

end SourceOutput

/-- How often the source has waited since the port was last opened, or since the start. -/
def waits {α : Type} (out : List (SourceOutput α)) : Nat := out.foldl SourceOutput.countWait 0

theorem waits_append {α : Type} (out out' : List (SourceOutput α)) :
    waits (out ++ out') = out'.foldl SourceOutput.countWait (waits out) := List.foldl_append

/-- The wait after `n` others. -/
def backoffAfter (n : Nat) : Nat := min (reconnectBackoffInitial * 2 ^ n) reconnectBackoffMax

theorem backoffAfter_succ (n : Nat) :
    min (backoffAfter n * 2) reconnectBackoffMax = backoffAfter (n + 1) := by
  unfold backoffAfter
  rw [pow_succ, ← Nat.mul_assoc]
  omega

theorem backoffAfter_bounds (n : Nat) :
    reconnectBackoffInitial ≤ backoffAfter n ∧ backoffAfter n ≤ reconnectBackoffMax := by
  have hpos : reconnectBackoffInitial * 1 ≤ reconnectBackoffInitial * 2 ^ n :=
    Nat.mul_le_mul_left _ Nat.one_le_two_pow
  exact ⟨Nat.le_min.mpr ⟨hpos, by decide⟩, Nat.min_le_right _ _⟩

namespace SerialGpsSource

variable {P α : Type} [Zero α] [Neg α] [Mul α] [OfScientific α] [LT α] [LE α] [DecidableLT α]
  [DecidableLE α] [FiniteTest α]

/-- What a connection puts out is neither a wait nor an opening. -/
theorem foldl_ofConnection {α : Type} (backoff n : Nat) (out : List (ConnectionOutput α)) :
    (out.map (ofConnection backoff)).foldl SourceOutput.countWait n = n := by
  induction out with
  | nil => rfl
  | cons o out ih =>
    rw [List.map_cons, List.foldl_cons]
    rcases o with (e | e) | r <;> exact ih

theorem sleep_not_ofConnection {α : Type} (backoff ms : Nat) (out : List (ConnectionOutput α)) :
    SourceOutput.sleep ms ∉ out.map (ofConnection backoff) := by
  intro h
  obtain ⟨o, -, ho⟩ := List.mem_map.mp h
  rcases o with (e | e) | r <;> cases ho

/-- **What a step does to the wait.** It opens the port and starts the wait over; or it ends
    what it does by waiting, and doubles the wait; or it does neither. -/
theorem step_cases (N : NmeaCrate P α) (s : SerialGpsSource P) (i : SourceInput) :
    ((step N s i).2 = [.connected] ∧ (step N s i).1.backoff = reconnectBackoffInitial) ∨
    (∃ out, (step N s i).2 = out ++ [.sleep s.backoff] ∧
      (∀ n, out.foldl SourceOutput.countWait n = n) ∧ (∀ ms, .sleep ms ∉ out) ∧
      (step N s i).1.backoff = min (s.backoff * 2) reconnectBackoffMax) ∨
    ((∀ n, (step N s i).2.foldl SourceOutput.countWait n = n) ∧
      (∀ ms, .sleep ms ∉ (step N s i).2) ∧ (step N s i).1.backoff = s.backoff) := by
  obtain ⟨backoff, connection⟩ := s
  cases i with
  | opened now =>
    cases connection with
    | none => exact .inl ⟨rfl, rfl⟩
    | some c => exact .inr (.inr ⟨fun _ => rfl, fun _ => List.not_mem_nil, rfl⟩)
  | openFailed error =>
    cases connection with
    | none => exact .inr (.inl ⟨[.openFailed error backoff], rfl, fun _ => rfl, by simp, rfl⟩)
    | some c => exact .inr (.inr ⟨fun _ => rfl, fun _ => List.not_mem_nil, rfl⟩)
  | port i =>
    cases connection with
    | none => exact .inr (.inr ⟨fun _ => rfl, fun _ => List.not_mem_nil, rfl⟩)
    | some c =>
      have hfold := foldl_ofConnection (α := α) backoff
      have hsleep := sleep_not_ofConnection (α := α) backoff
      cases hrun : (c.step N i).1.running with
      | true =>
        have hstep : step N ⟨backoff, some c⟩ (.port i) =
            (⟨backoff, some (c.step N i).1⟩, (c.step N i).2.map (ofConnection backoff)) := by
          simp [step, hrun]
        rw [hstep]
        exact .inr (.inr ⟨fun n => hfold n _, fun ms => hsleep ms _, rfl⟩)
      | false =>
        have hstep : step N ⟨backoff, some c⟩ (.port i) =
            (⟨min (backoff * 2) reconnectBackoffMax, none⟩,
              (c.step N i).2.map (ofConnection backoff) ++ [.sleep backoff]) := by
          simp [step, hrun, andThen, backOff]
        rw [hstep]
        exact .inr (.inl ⟨_, rfl, fun n => hfold n _, fun ms => hsleep ms _, rfl⟩)

/-- The wait that is next is the one after those since the port was last opened. -/
theorem run_backoff (N : NmeaCrate P α) (is : List SourceInput) :
    (run (step N) new is).backoff = backoffAfter (waits (outputs (step N) new is)) := by
  induction is using List.reverseRecOn with
  | nil => rfl
  | append_singleton is i ih =>
    rw [run_snoc, outputs_snoc, waits_append]
    rcases step_cases N (run (step N) new is) i with ⟨hout, hback⟩ |
      ⟨out, hout, hfold, -, hback⟩ | ⟨hfold, -, hback⟩
    · rw [hback, hout]
      rfl
    · rw [hback, hout, List.foldl_append, hfold, ih, backoffAfter_succ]
      rfl
    · rw [hback, hfold, ih]

/-- **The backoff schedule.** Whenever the source waits, after a failure to open the port or
    after a connection, it is for 250 ms doubled once for each time it has waited since the port
    was last opened, and 5 s at most. -/
theorem backoff_schedule (N : NmeaCrate P α) (is : List SourceInput)
    (pre post : List (SourceOutput α)) (ms : Nat)
    (hout : outputs (step N) new is = pre ++ .sleep ms :: post) :
    ms = min (250 * 2 ^ waits pre) 5000 ∧ 250 ≤ ms ∧ ms ≤ 5000 := by
  obtain ⟨is₀, i, is₁, a, b, rfl, hstep, rfl, -⟩ := outputs_eq_split hout
  have hms : ms = backoffAfter (waits (outputs (step N) new is₀ ++ a)) := by
    rw [waits_append]
    rcases step_cases N (run (step N) new is₀) i with ⟨h, -⟩ |
      ⟨out, h, hfold, hno, -⟩ | ⟨-, hno, -⟩
    · rw [h] at hstep
      cases a <;> simp at hstep
    · rw [h] at hstep
      rcases List.append_eq_append_iff.mp hstep with ⟨a', rfl, hrest⟩ | ⟨a', rfl, hrest⟩
      · cases a' with
        | nil =>
          rw [List.append_nil, hfold, ← run_backoff]
          exact (SourceOutput.sleep.inj (List.cons_eq_cons.mp hrest).1).symm
        | cons x a' =>
          have := congrArg List.length hrest
          simp at this
      · cases a' with
        | nil =>
          rw [List.append_nil] at hfold
          rw [hfold, ← run_backoff]
          exact SourceOutput.sleep.inj (List.cons_eq_cons.mp hrest).1
        | cons x a' =>
          obtain ⟨rfl, -⟩ := List.cons_eq_cons.mp hrest
          exact absurd (show SourceOutput.sleep ms ∈ a ++ .sleep ms :: a' by simp) (hno ms)
    · exact absurd (show SourceOutput.sleep ms ∈ (step N (run (step N) new is₀) i).2 by
        rw [hstep]; simp) (hno ms)
  obtain ⟨hlo, hhi⟩ := backoffAfter_bounds (waits (outputs (step N) new is₀ ++ a))
  rw [hms]
  exact ⟨rfl, hlo, hhi⟩

/-- Two failures to open the port, one after the other. -/
theorem backoff_schedule_twice :
    500 = min (250 * 2 ^ waits (α := ℚ)
      [.openFailed "busy" 250, .sleep 250, .openFailed "busy" 500]) 5000 ∧ 250 ≤ 500 ∧ 500 ≤ 5000 :=
  backoff_schedule Connection.receiver [.openFailed "busy", .openFailed "busy"]
    [.openFailed "busy" 250, .sleep 250, .openFailed "busy" 500] [] 500 rfl

/-! ## One connection after another -/

/-- What the source yields. -/
def yielded (out : List (SourceOutput α)) : List (GpsFix α) := out.filterMap SourceOutput.fix?

theorem yielded_append {α : Type} (out out' : List (SourceOutput α)) :
    yielded (out ++ out') = yielded out ++ yielded out' := List.filterMap_append

theorem yielded_ofConnection {α : Type} (backoff : Nat) (out : List (ConnectionOutput α)) :
    yielded (out.map (ofConnection backoff)) = Connection.fixesOf out := by
  unfold yielded Connection.fixesOf
  rw [List.filterMap_map]
  congr 1
  funext o
  rcases o with (e | e) | r <;> rfl

/-- Between connections nothing happens at the port. -/
theorem run_port_idle (N : NmeaCrate P α) {s : SerialGpsSource P} (h : s.connection = none)
    (is : List PortInput) :
    outputs (step N) s (is.map .port) = [] ∧ run (step N) s (is.map .port) = s := by
  induction is with
  | nil => exact ⟨rfl, rfl⟩
  | cons i is ih =>
    have hstep : step N s (.port i) = (s, []) := by simp [step, h]
    rw [List.map_cons, outputs, run_cons, hstep]
    exact ih

/-- **The source yields what its connection does**, and lets go of it at its end. -/
theorem run_port (N : NmeaCrate P α) {c : Connection P} (h : c.running = true) (backoff : Nat)
    (is : List PortInput) :
    yielded (outputs (step N) ⟨backoff, some c⟩ (is.map .port)) =
        Connection.fixesOf (outputs (Connection.step N) c is) ∧
      ((run (Connection.step N) c is).running = false →
        (run (step N) ⟨backoff, some c⟩ (is.map .port)).connection = none) := by
  induction is generalizing c with
  | nil => exact ⟨rfl, fun hstop => absurd (h.symm.trans hstop) (by simp)⟩
  | cons i is ih =>
    rw [List.map_cons, outputs, outputs, run_cons, run_cons, yielded_append]
    unfold Connection.fixesOf
    rw [List.filterMap_append]
    cases hrun : (c.step N i).1.running with
    | true =>
      have hstep : step N ⟨backoff, some c⟩ (.port i) =
          (⟨backoff, some (c.step N i).1⟩, (c.step N i).2.map (ofConnection backoff)) := by
        simp [step, hrun]
      obtain ⟨hyield, hend⟩ := ih hrun
      rw [hstep, yielded_ofConnection, hyield]
      exact ⟨rfl, hend⟩
    | false =>
      have hstep : step N ⟨backoff, some c⟩ (.port i) =
          (⟨min (backoff * 2) reconnectBackoffMax, none⟩,
            (c.step N i).2.map (ofConnection backoff) ++ [.sleep backoff]) := by
        simp [step, hrun, andThen, backOff]
      obtain ⟨hquiet, -⟩ := Connection.stopped_run N hrun is
      obtain ⟨hidle, hsame⟩ := run_port_idle N
        (s := (⟨min (backoff * 2) reconnectBackoffMax, none⟩ : SerialGpsSource P)) rfl is
      rw [hstep, hquiet, hidle, hsame, yielded_append, yielded_ofConnection]
      exact ⟨by simp [yielded, SourceOutput.fix?, Connection.fixesOf], fun _ => rfl⟩

/-- Failures to open the port, and then a connection over it. -/
structure Session where
  failures : List String
  openedAt : Instant
  port : List PortInput

namespace Session

def inputs (s : Session) : List SourceInput :=
  s.failures.map .openFailed ++ .opened s.openedAt :: s.port.map .port

/-- The connection has a stream within the cap, and has ended. -/
structure Complete (N : NmeaCrate P α) (s : Session) : Prop where
  lines : ∀ l ∈ lines newline (arrived s.port), l.length ≤ nmeaMaxLineBytes
  tail : (leftover newline (arrived s.port)).length ≤ nmeaMaxLineBytes
  ended : (run (Connection.step N) (.new N s.openedAt) s.port).running = false

/-- The fixes in the session's stream. -/
def decoded (N : NmeaCrate P α) (s : Session) : List (GpsFix α) :=
  Connection.decodedStream N s.port

end Session

theorem run_failures (N : NmeaCrate P α) {s : SerialGpsSource P} (h : s.connection = none)
    (failures : List String) :
    yielded (outputs (step N) s (failures.map .openFailed)) = [] ∧
      (run (step N) s (failures.map .openFailed)).connection = none := by
  induction failures generalizing s with
  | nil => exact ⟨rfl, h⟩
  | cons e failures ih =>
    have hstep : step N s (.openFailed e) =
        ({ s with backoff := min (s.backoff * 2) reconnectBackoffMax },
          [.openFailed e s.backoff, .sleep s.backoff]) := by
      simp [step, h, andThen, backOff]
    rw [List.map_cons, outputs, run_cons, yielded_append, hstep]
    obtain ⟨hyield, hnone⟩ :=
      ih (s := { s with backoff := min (s.backoff * 2) reconnectBackoffMax }) h
    exact ⟨by rw [hyield]; rfl, hnone⟩

theorem run_session (N : NmeaCrate P α) {x : SerialGpsSource P} (h : x.connection = none)
    {s : Session} (hs : s.Complete N) :
    (yielded (outputs (step N) x s.inputs)).map GpsFix.untimed = s.decoded N ∧
      (run (step N) x s.inputs).connection = none := by
  obtain ⟨hfailed, hnone⟩ := run_failures N h s.failures
  have hopen : step N (run (step N) x (s.failures.map .openFailed)) (.opened s.openedAt) =
      (⟨reconnectBackoffInitial, some (.new N s.openedAt)⟩, [.connected]) := by
    simp [step, hnone]
  obtain ⟨hport, hend⟩ := run_port N (c := .new N s.openedAt) rfl reconnectBackoffInitial s.port
  obtain ⟨hall, -⟩ := Connection.ended_stream N s.openedAt s.port hs.lines hs.tail hs.ended
  unfold Session.inputs
  rw [outputs_append, run_append, yielded_append, hfailed, outputs, run_cons, hopen,
    yielded_append, hport]
  exact ⟨hall, hend hs.ended⟩

/-- From between two connections, the sessions that follow are yielded one after another. -/
theorem run_sessions (N : NmeaCrate P α) {x : SerialGpsSource P} (h : x.connection = none)
    (sessions : List Session) (hcomplete : ∀ s ∈ sessions, s.Complete N) :
    (yielded (outputs (step N) x (sessions.flatMap Session.inputs))).map GpsFix.untimed =
      sessions.flatMap (Session.decoded N) := by
  induction sessions generalizing x with
  | nil => rfl
  | cons s sessions ih =>
    obtain ⟨hyield, hnone⟩ := run_session N h (hcomplete s List.mem_cons_self)
    rw [List.flatMap_cons, outputs_append, yielded_append, List.map_append, hyield,
      ih hnone fun s hs => hcomplete s (List.mem_cons_of_mem _ hs), List.flatMap_cons]

/-- **The source delivers its sessions.** Whatever number of times the port fails to open and
    its connection breaks off, and wherever in a sentence it does: what the source yields is,
    but for the stamps, the decoding of each stream by itself, one after another, each from a
    new parser. No line is made of the end of one stream and the start of the next. -/
theorem delivers_sessions (N : NmeaCrate P α) (sessions : List Session)
    (hcomplete : ∀ s ∈ sessions, s.Complete N) :
    (yielded (outputs (step N) new (sessions.flatMap Session.inputs))).map GpsFix.untimed =
      sessions.flatMap (Session.decoded N) :=
  run_sessions N rfl sessions hcomplete

/-- A sentence that breaks off, and then, the second time the port opens, all of it. -/
def brokenOff : List Session :=
  [⟨[], 0, [.bytes (Connection.gga.toUTF8.toList.take 30)] ++
      .eof :: List.replicate 1 (.next 9)⟩,
    ⟨["busy"], 20, Connection.cutSentence ++ .eof :: List.replicate 2 (.next 28)⟩]

theorem brokenOff_complete : ∀ s ∈ brokenOff, s.Complete Connection.receiver := by
  intro s hs
  rcases List.mem_cons.mp hs with rfl | hs
  · refine ⟨by decide +kernel, by decide +kernel, ?_⟩
    refine Connection.ends_after_eof Connection.receiver 0 _ ?_ 9
    rw [Connection.framedItems_eq CaughtUp.start _ (by decide +kernel) (by decide +kernel)]
    decide +kernel
  · obtain rfl := List.mem_singleton.mp hs
    refine ⟨by decide +kernel, by decide +kernel, ?_⟩
    refine Connection.ends_after_eof Connection.receiver 20 _ ?_ 28
    rw [Connection.framedItems_eq CaughtUp.start _ (by decide +kernel) (by decide +kernel)]
    decide +kernel

theorem delivers_sessions_brokenOff :
    (yielded (outputs (step Connection.receiver) new (brokenOff.flatMap Session.inputs))).map
        GpsFix.untimed = brokenOff.flatMap (Session.decoded Connection.receiver) :=
  delivers_sessions Connection.receiver brokenOff brokenOff_complete

end SerialGpsSource
end FlyingSquirrel

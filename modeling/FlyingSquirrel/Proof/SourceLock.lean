import FlyingSquirrel.Mav.Listener

/-!
# The source lock

Whatever the listener records or forwards comes from one peer. The lock is formed by the first
message that gets as far as one of the arms, and **nothing undoes it**; what a datagram brings
about, it brings about after its arm has found the lock on the datagram's own source.

`Arm` is what the code after the look at the lock may do, whichever arm it is, and `Answered`
is what a message comes to. A step reads both off, and the run lemmas follow from the lock
being kept.
-/

set_option autoImplicit false

namespace FlyingSquirrel

open Lib

/-- The effect is a record in the monitor. -/
def MavEffect.isRecord {α : Type} : MavEffect α → Bool
  | .heartbeat _ _ | .ack _ _ _ | .param _ _ _ _ => true
  | _ => false

/-- What the monitor has recorded is the same; the lock may differ. -/
def MavMonitor.SameRecords {α : Type} (m m' : MavMonitor α) : Prop :=
  ∃ src, m' = { m with lockedSource := src }

theorem MavMonitor.SameRecords.refl {α : Type} (m : MavMonitor α) : m.SameRecords m := ⟨_, rfl⟩

theorem MavMonitor.SameRecords.trans {α : Type} {m m' m'' : MavMonitor α}
    (h : m.SameRecords m') (h' : m'.SameRecords m'') : m.SameRecords m'' := by
  obtain ⟨_, rfl⟩ := h
  obtain ⟨src, rfl⟩ := h'
  exact ⟨src, rfl⟩

/-- The ways out of the look at the lock. -/
inductive LockLook {α : Type} (m : MavMonitor α) (src : SocketAddr) (expectedPort : Option Nat) :
    MavMonitor α × Bool → Prop
  | refused : LockLook m src expectedPort (m, false)
  | locked (h : m.lockedSource = some src) : LockLook m src expectedPort (m, true)
  | locks (h : m.lockedSource = none) (hport : ∀ want, expectedPort = some want → src.port = want) :
      LockLook m src expectedPort ({ m with lockedSource := some src }, true)

theorem MavMonitor.checkOrLockSource_look {α : Type} (m : MavMonitor α) (src : SocketAddr)
    (expectedPort : Option Nat) :
    LockLook m src expectedPort (m.checkOrLockSource src expectedPort) := by
  unfold checkOrLockSource
  cases hl : m.lockedSource with
  | some locked =>
    dsimp only
    by_cases h : locked = src
    · rw [decide_eq_true h]
      exact .locked (h ▸ hl)
    · rw [decide_eq_false h]
      exact .refused
  | none =>
    cases expectedPort with
    | none => exact .locks hl (by simp)
    | some want =>
      dsimp only
      split
      · exact .refused
      · rename_i hport
        exact .locks hl fun _ h => Option.some.inj h ▸ not_not.mp hport

namespace Listener

variable {α : Type} [Zero α] [Neg α] [Mul α] [NatCast α] [IntCast α] [OfScientific α] [LT α]
  [LE α] [DecidableLT α] [DecidableLE α] [FiniteTest α]

def lockedSource (l : Listener α) : Option SocketAddr := l.monitor.lockedSource

/-- The effect is the message's own: its fields recorded, or what it converts to put on a
    channel with a stamp of its own. -/
def Carries (now : Instant) (msg : MavMessage α) : MavEffect α → Prop
  | .heartbeat _ hb => msg = .heartbeat hb
  | .ack _ command result => msg = .commandAck command result
  | .param _ paramId value paramType => msg = .paramValue paramId value paramType
  | .gps fix => ∃ t, (gpsFromMsg now msg).map (fun g => { g with t := t }) = some fix
  | .imu sample => ∃ t, (imuFromMsg now msg).map (fun s => { s with t := t }) = some sample
  | .other msg' => msg' = msg

/-- The effect `e` of an input comes of a message of the locked source, from the allowed
    address and system, and from the configured port unless any is allowed. -/
def Sanctioned (crate : MavCrate α) (filter : MavFilter) (remote : SocketAddr)
    (locked : Option SocketAddr) (e : MavEffect α) : ListenerInput α → Prop
  | .datagram d env =>
    ∃ hdr msg,
      crate.readVersionedMsg d.bytes (mavlinkVersionOf (d.bytes.headD 0)) = .ok (hdr, msg) ∧
      Carries env.now msg e ∧ locked = some d.src ∧
      (∀ ip, filter.allowedSourceIp = some ip → d.src.ip = ip) ∧
      (∀ id, filter.autopilotSysid = some id → hdr.systemId = id) ∧
      (filter.allowAnySourcePort = false → d.src.port = remote.port)
  | .recvError _ => False

/-! ## After the lock -/

/-- What the code after the look at the lock may do with a message. -/
structure Arm (now : Instant) (msg : MavMessage α) (l : Listener α)
    (x : Listener α × List (MavEffect α)) : Prop where
  filter : x.1.filter = l.filter
  remote : x.1.remote = l.remote
  lock : x.1.lockedSource = l.lockedSource
  carries : ∀ e ∈ x.2, Carries now msg e
  records : (∀ e ∈ x.2, e.isRecord = false) → l.monitor.SameRecords x.1.monitor

theorem Arm.quiet {α : Type} [Mul α] [NatCast α] [IntCast α] [OfScientific α]
    {now : Instant} {msg : MavMessage α} {l : Listener α}
    {x : Listener α × List (MavEffect α)} (hf : x.1.filter = l.filter)
    (hr : x.1.remote = l.remote) (hm : x.1.monitor = l.monitor)
    (hc : ∀ e ∈ x.2, Carries now msg e) : Arm now msg l x where
  filter := hf
  remote := hr
  lock := congrArg MavMonitor.lockedSource hm
  carries := hc
  records := fun _ => hm ▸ .refl _

/-- The channels are sent what the message carries, and the monitor is not written. -/
theorem forward_eq (l : Listener α) (env : ListenerEnv α) (msg : MavMessage α) :
    ∃ stats gpsAligner imuAligner running,
      (l.forward env msg).1 = { l with
        stats := stats
        gpsAligner := gpsAligner
        imuAligner := imuAligner
        running := running } ∧
      ∀ e ∈ (l.forward env msg).2, Carries env.now msg e ∧ e.isRecord = false := by
  unfold forward
  split
  · rename_i fix hfix
    unfold sendGps dropped
    dsimp only
    split
    · exact ⟨_, _, _, _, rfl, by simp⟩
    · split
      · refine ⟨_, _, _, _, rfl, fun e he => ?_⟩
        rw [List.mem_singleton.mp he]
        exact ⟨⟨_, by rw [hfix]; rfl⟩, rfl⟩
      · exact ⟨_, _, _, _, rfl, by simp⟩
  · split
    · rename_i sample hsample
      unfold sendImu dropped
      dsimp only
      split
      · exact ⟨_, _, _, _, rfl, by simp⟩
      · split
        · refine ⟨_, _, _, _, rfl, fun e he => ?_⟩
          rw [List.mem_singleton.mp he]
          exact ⟨⟨_, by rw [hsample]; rfl⟩, rfl⟩
        · exact ⟨_, _, _, _, rfl, by simp⟩
    · refine ⟨_, _, _, _, rfl, fun e he => ?_⟩
      split at he
      · rw [List.mem_singleton.mp he]
        exact ⟨rfl, rfl⟩
      · exact absurd he List.not_mem_nil

theorem forward_arm (l : Listener α) (env : ListenerEnv α) (msg : MavMessage α) :
    Arm env.now msg l (l.forward env msg) := by
  obtain ⟨_, _, _, _, hl, hout⟩ := forward_eq l env msg
  refine .quiet ?_ ?_ ?_ fun e he => (hout e he).1
  · rw [hl]
  · rw [hl]
  · rw [hl]

/-- An arm that makes a record first. -/
theorem record_arm {l : Listener α} {env : ListenerEnv α} {msg : MavMessage α}
    {e : MavEffect α} {monitor : MavMonitor α} (he : Carries env.now msg e)
    (hrec : e.isRecord = true) (hlock : monitor.lockedSource = l.monitor.lockedSource) :
    Arm env.now msg l
      (andThen ({ l with monitor := monitor }, [e]) fun l => l.forward env msg) := by
  have hnext := forward_arm { l with monitor := monitor } env msg
  refine ⟨hnext.filter, hnext.remote, hnext.lock.trans hlock, fun e' he' => ?_, fun hno => ?_⟩
  · rcases List.mem_cons.mp he' with rfl | htail
    · exact he
    · exact hnext.carries e' htail
  · have hthis := hno e List.mem_cons_self
    exact absurd (hrec.symm.trans hthis) (by simp)

/-! ## A message -/

/-- What a message from `src` comes to. -/
structure Answered (now : Instant) (src : SocketAddr) (msg : MavMessage α) (l : Listener α)
    (x : Listener α × List (MavEffect α)) : Prop where
  filter : x.1.filter = l.filter
  remote : x.1.remote = l.remote
  lock : x.1.lockedSource = l.lockedSource ∨
    l.lockedSource = none ∧ x.1.lockedSource = some src ∧
      ∀ want, l.expectedPort = some want → src.port = want
  source : x.2 ≠ [] → x.1.lockedSource = some src
  carries : ∀ e ∈ x.2, Carries now msg e
  records : (∀ e ∈ x.2, e.isRecord = false) → l.monitor.SameRecords x.1.monitor

theorem fromLocked_answered {α : Type} [Mul α] [NatCast α] [IntCast α] [OfScientific α]
    {l : Listener α} {now : Instant} {src : SocketAddr}
    {msg : MavMessage α} {arm : Listener α → Listener α × List (MavEffect α)}
    (harm : ∀ l, Arm now msg l (arm l)) : Answered now src msg l (l.fromLocked src arm) := by
  unfold fromLocked
  have hlook := l.monitor.checkOrLockSource_look src l.expectedPort
  generalize l.monitor.checkOrLockSource src l.expectedPort = look at hlook ⊢
  cases hlook with
  | refused =>
    exact ⟨rfl, rfl, .inl rfl, fun h => absurd rfl h, by simp [dropped], fun _ => .refl _⟩
  | locked h =>
    have ha := harm l
    exact ⟨ha.filter, ha.remote, .inl ha.lock, fun _ => ha.lock.trans h, ha.carries, ha.records⟩
  | locks h hport =>
    -- the arm runs on the listener that has just been locked
    have ha := harm { l with monitor := { l.monitor with lockedSource := some src } }
    exact ⟨ha.filter, ha.remote, .inr ⟨h, ha.lock, hport⟩, fun _ => ha.lock, ha.carries,
      fun hno => .trans ⟨_, rfl⟩ (ha.records hno)⟩

/-- Every message looks at the lock, and then goes through an arm. -/
theorem onMessage_arm (l : Listener α) (env : ListenerEnv α) (src : SocketAddr)
    (msg : MavMessage α) : ∃ arm, (∀ l, Arm env.now msg l (arm l)) ∧
      l.onMessage env src msg = l.fromLocked src arm := by
  unfold onMessage
  dsimp only
  split
  · refine ⟨_, ?_, rfl⟩
    exact fun l => record_arm rfl rfl rfl
  · refine ⟨_, ?_, rfl⟩
    exact fun l => record_arm rfl rfl rfl
  · refine ⟨_, ?_, rfl⟩
    refine fun l => record_arm rfl rfl ?_
    unfold MavMonitor.recordParamValue
    dsimp only
    split <;> rfl
  · exact ⟨_, fun l => forward_arm l env _, rfl⟩

theorem onMessage_answered (l : Listener α) (env : ListenerEnv α) (src : SocketAddr)
    (msg : MavMessage α) : Answered env.now src msg l (l.onMessage env src msg) := by
  obtain ⟨arm, harm, heq⟩ := onMessage_arm l env src msg
  rw [heq]
  exact fromLocked_answered harm

/-! ## A turn of the loop -/

/-- The configuration is the one given, and a lock is on the configured port unless any is
    allowed. -/
structure LockedRight (filter : MavFilter) (remote : SocketAddr) (l : Listener α) : Prop where
  filter_eq : l.filter = filter
  remote_eq : l.remote = remote
  port : filter.allowAnySourcePort = false → ∀ a, l.lockedSource = some a → a.port = remote.port

/-- What a turn of the loop does, from a state that is `LockedRight`. -/
structure Turned (crate : MavCrate α) (filter : MavFilter) (remote : SocketAddr)
    (l : Listener α) (i : ListenerInput α) (x : Listener α × List (MavEffect α)) : Prop where
  right : LockedRight filter remote x.1
  kept : ∀ a, l.lockedSource = some a → x.1.lockedSource = some a
  sanctioned : ∀ e ∈ x.2, Sanctioned crate filter remote x.1.lockedSource e i
  records : (∀ e ∈ x.2, e.isRecord = false) → l.monitor.SameRecords x.1.monitor

/-- A turn that leaves the monitor alone and has no effect. -/
theorem LockedRight.turned {α : Type} [Mul α] [NatCast α] [IntCast α] [OfScientific α]
    {crate : MavCrate α} {filter : MavFilter} {remote : SocketAddr}
    {l l' : Listener α} {i : ListenerInput α} (h : LockedRight filter remote l)
    (hf : l'.filter = l.filter) (hr : l'.remote = l.remote) (hm : l'.monitor = l.monitor) :
    Turned crate filter remote l i (l', []) where
  right := ⟨hf.trans h.filter_eq, hr.trans h.remote_eq, by
    unfold lockedSource
    rw [hm]
    exact h.port⟩
  kept := fun a ha => by
    unfold lockedSource
    rw [hm]
    exact ha
  sanctioned := fun e he => absurd he List.not_mem_nil
  records := fun _ => hm ▸ .refl _

/-- A message that both filters have let through, answered. -/
theorem LockedRight.answered {α : Type} [Mul α] [NatCast α] [IntCast α] [OfScientific α]
    {crate : MavCrate α} {filter : MavFilter} {remote : SocketAddr}
    {l : Listener α} {d : Datagram} {env : ListenerEnv α} {hdr : MavHeader} {msg : MavMessage α}
    {x : Listener α × List (MavEffect α)} (h : LockedRight filter remote l)
    (hread : crate.readVersionedMsg d.bytes (mavlinkVersionOf (d.bytes.headD 0)) = .ok (hdr, msg))
    (hip : ∀ ip, filter.allowedSourceIp = some ip → d.src.ip = ip)
    (hid : ∀ id, filter.autopilotSysid = some id → hdr.systemId = id)
    (hans : Answered env.now d.src msg l x) :
    Turned crate filter remote l (.datagram d env) x := by
  have hport : filter.allowAnySourcePort = false →
      ∀ a, x.1.lockedSource = some a → a.port = remote.port := by
    intro hany a ha
    -- the lock is the old one, or the source that passed the look at the port
    rcases hans.lock with hsame | ⟨-, hnew, hwant⟩
    · exact h.port hany a (hsame.symm.trans ha)
    · rw [← Option.some.inj (hnew.symm.trans ha)]
      refine hwant _ ?_
      unfold expectedPort
      rw [h.filter_eq, h.remote_eq, if_neg (by simp [hany])]
  refine ⟨⟨hans.filter.trans h.filter_eq, hans.remote.trans h.remote_eq, hport⟩, ?_, ?_,
    hans.records⟩
  · intro a ha
    rcases hans.lock with hsame | ⟨hnone, -⟩
    · exact hsame.trans ha
    · exact absurd (ha.symm.trans hnone) (by simp)
  · intro e he
    have hsrc := hans.source (List.ne_nil_of_mem he)
    exact ⟨hdr, msg, hread, hans.carries e he, hsrc, hip, hid, fun hany => hport hany _ hsrc⟩

theorem onDatagram_turned {crate : MavCrate α} {filter : MavFilter} {remote : SocketAddr}
    {l : Listener α} (h : LockedRight filter remote l) (env : ListenerEnv α) (d : Datagram) :
    Turned crate filter remote l (.datagram d env) (l.onDatagram crate env d) := by
  unfold onDatagram dropped
  dsimp only
  split
  · exact h.turned rfl rfl rfl
  split
  · exact h.turned rfl rfl rfl
  rename_i hip
  split
  case h_2 => exact h.turned rfl rfl rfl
  rename_i hdr msg hread
  split
  · exact h.turned rfl rfl rfl
  rename_i hid
  rw [h.filter_eq] at hip hid
  have hcounted : LockedRight filter remote
      { l with stats := { l.stats with recvTotal := l.stats.recvTotal + 1 } } :=
    ⟨h.filter_eq, h.remote_eq, h.port⟩
  have ht := hcounted.answered hread
    (fun ip hallowed => by rw [hallowed] at hip; exact Eq.symm (by simpa using hip))
    (fun id hwant => by rw [hwant] at hid; exact Eq.symm (by simpa using hid))
    (onMessage_answered _ env d.src msg)
  exact ⟨ht.right, ht.kept, ht.sanctioned, ht.records⟩

theorem step_turned {crate : MavCrate α} {filter : MavFilter} {remote : SocketAddr}
    {l : Listener α} (h : LockedRight filter remote l) (i : ListenerInput α) :
    Turned crate filter remote l i (l.step crate i) := by
  unfold step
  split
  · split
    · exact onDatagram_turned h _ _
    · exact h.turned rfl rfl rfl
  · split
    · exact h.turned rfl rfl rfl
    · exact h.turned rfl rfl rfl

/-! ## A run -/

section Runs

variable {crate : MavCrate α} {filter : MavFilter} {remote : SocketAddr} {l : Listener α}

theorem spawn_lockedRight {α : Type} (filter : MavFilter) (remote : SocketAddr) (boot : Instant) :
    LockedRight filter remote (spawn filter remote boot : Listener α) :=
  ⟨rfl, rfl, fun _ a ha => absurd ha (by simp [spawn, lockedSource, MavMonitor.new])⟩

theorem run_lockedRight (h : LockedRight filter remote l) (is : List (ListenerInput α)) :
    LockedRight filter remote (run (step crate) l is) :=
  run_invariant (I := LockedRight filter remote) (fun _ i hl => (step_turned hl i).right) h is

theorem run_lock_kept {a : SocketAddr} (h : LockedRight filter remote l)
    (hl : l.lockedSource = some a) (is : List (ListenerInput α)) :
    (run (step crate) l is).lockedSource = some a := by
  induction is generalizing l with
  | nil => exact hl
  | cons i is ih =>
    have ht : Turned crate filter remote l i (step crate l i) := step_turned h i
    exact ih ht.right (ht.kept a hl)

theorem Sanctioned.locked {α : Type} [Mul α] [NatCast α] [IntCast α] [OfScientific α]
    {crate : MavCrate α} {filter : MavFilter} {remote : SocketAddr}
    {locked : Option SocketAddr} {e : MavEffect α} {i : ListenerInput α}
    (h : Sanctioned crate filter remote locked e i) : ∃ a, locked = some a := by
  cases i with
  | datagram d env =>
    obtain ⟨_, _, _, _, hl, _⟩ := h
    exact ⟨d.src, hl⟩
  | recvError transient => exact h.elim

end Runs

/-- What the lock is for, over a run of a listener on a link with the given filter. -/
structure SourceLocked (crate : MavCrate α) (filter : MavFilter) (remote : SocketAddr)
    (boot : Instant) (is : List (ListenerInput α)) : Prop where
  /-- Once there is a lock it is the same at the end of the run. -/
  kept : ∀ pre post a, is = pre ++ post →
    (run (step crate) (spawn filter remote boot) pre).lockedSource = some a →
    (run (step crate) (spawn filter remote boot) is).lockedSource = some a
  /-- Whatever is recorded or forwarded on the way comes of a message of that source. -/
  sanctioned : ∀ pre i post, is = pre ++ i :: post →
    ∀ e ∈ (step crate (run (step crate) (spawn filter remote boot) pre) i).2,
      Sanctioned crate filter remote
        (run (step crate) (spawn filter remote boot) is).lockedSource e i
  /-- The monitor's records change on no other input than one that makes a record. -/
  unrecorded : ∀ pre i post, is = pre ++ i :: post →
    (∀ e ∈ (step crate (run (step crate) (spawn filter remote boot) pre) i).2,
      e.isRecord = false) →
    (run (step crate) (spawn filter remote boot) pre).monitor.SameRecords
      (run (step crate) (spawn filter remote boot) (pre ++ [i])).monitor

/-- **Source lock integrity.** For every decoder, filter and remote address, and every sequence
    of datagrams and receive errors in any environment, once set the lock never changes, and
    every record in the monitor and every fix, sample or other message on a channel is one from
    exactly the locked address and port, through the filters. -/
theorem source_locked (crate : MavCrate α) (filter : MavFilter) (remote : SocketAddr)
    (boot : Instant) (is : List (ListenerInput α)) :
    SourceLocked crate filter remote boot is := by
  have hstart : LockedRight filter remote (spawn filter remote boot : Listener α) :=
    spawn_lockedRight filter remote boot
  refine ⟨?_, ?_, ?_⟩
  · rintro pre post a rfl ha
    rw [run_append]
    exact run_lock_kept (run_lockedRight hstart pre) ha post
  · rintro pre i post rfl e he
    have hpre : LockedRight filter remote (run (step crate) (spawn filter remote boot) pre) :=
      run_lockedRight hstart pre
    have ht : Turned crate filter remote _ i (step crate _ i) := step_turned hpre i
    have hs := ht.sanctioned e he
    -- an effect needs a lock, and the lock of this turn is the lock of the whole run
    obtain ⟨a, ha⟩ := hs.locked
    rw [ha] at hs
    rw [run_append, run_cons, run_lock_kept ht.right ha post]
    exact hs
  · rintro pre i post rfl hno
    rw [run_snoc]
    exact (step_turned (run_lockedRight hstart pre) i).records hno

/-! A heartbeat from the wrong port, one from the configured peer, and one more from the first:
the lock is the peer's, and one of the three is recorded. -/

def heartbeatCrate : MavCrate ℚ := ⟨fun _ _ => .ok (⟨1, 1, 0⟩, .heartbeat ⟨4, 0x80, 4, 3⟩)⟩

def heartbeatFrom (port : Nat) : ListenerInput ℚ :=
  .datagram ⟨⟨1, port⟩, List.replicate 17 0xFE⟩ ⟨0, .stored, .stored, true, true, false⟩

example :
    let l := spawn ⟨some 1, some 1, false⟩ ⟨1, 14550⟩ 0
    let is := [heartbeatFrom 9, heartbeatFrom 14550, heartbeatFrom 9]
    (run (step heartbeatCrate) l is).lockedSource = some ⟨1, 14550⟩ ∧
      (outputs (step heartbeatCrate) l is).length = 1 ∧
      (run (step heartbeatCrate) l is).stats.droppedSourceLocked = 2 := by decide +kernel

end Listener

end FlyingSquirrel

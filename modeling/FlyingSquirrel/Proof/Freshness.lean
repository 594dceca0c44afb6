import FlyingSquirrel.Fusion.Spec
import FlyingSquirrel.Mav.Watchdog
import FlyingSquirrel.Proof.Latch
import FlyingSquirrel.Proof.SourceLock

/-!
# Heartbeat freshness

The listener stores a heartbeat's time since the boot of its link. Preflight and the watchdog
compare that with a time since the boot of the fusion task, which is later. The age they get is
short by the time between the two boots, so **their staleness limit is longer than the one they
are given** by as much.

The three tasks run side by side on one monitor. What the readers should go by is the instant of
the last heartbeat recorded, which is kept beside a run.
-/

set_option autoImplicit false

namespace FlyingSquirrel

open Lib

/-! ## One monitor and two boots -/

/-- A heartbeat was heard, and it is at most `limit` old. -/
def HeardWithin (last : Option Instant) (now : Instant) (limit : Nat) : Prop :=
  ∃ r ∈ last, now - r ≤ limit

instance (last : Option Instant) (now : Instant) (limit : Nat) :
    Decidable (HeardWithin last now limit) :=
  inferInstanceAs (Decidable (∃ r, r ∈ last ∧ now - r ≤ limit))

namespace MavMonitor

variable {α : Type} {m m' : MavMonitor α} {last : Option Instant} {link fusion now r : Instant}
  {limit : Nat}

/-- What is stored of heartbeats is the same. -/
def SameHeartbeat (m m' : MavMonitor α) : Prop :=
  m'.heartbeatEver = m.heartbeatEver ∧ m'.lastHeartbeatNs = m.lastHeartbeatNs

/-- What is stored once the last heartbeat has come at `last`, on a link booted at `link`. -/
def Stores (m : MavMonitor α) (link : Instant) : Option Instant → Prop
  | none => m.heartbeatEver = false
  | some r => m.heartbeatEver = true ∧ m.lastHeartbeatNs = sinceBoot r link

theorem SameHeartbeat.stores (h : m.SameHeartbeat m') (hm : m.Stores link last) :
    m'.Stores link last := by
  obtain ⟨hever, hns⟩ := h
  cases last with
  | none => exact hever.trans hm
  | some r => exact ⟨hever.trans hm.1, hns.trans hm.2⟩

theorem recordHeartbeat_stores (m : MavMonitor α) (r link : Instant) (hb : Heartbeat) :
    (m.recordHeartbeat (sinceBoot r link) hb).Stores link (some r) := ⟨rfl, rfl⟩

theorem recordParamValue_sameHeartbeat (m : MavMonitor α)
    (o : IterOrder ParamName (ParamEcho α)) (ns : Nat) (paramId : ParamName) (value : α)
    (paramType : Nat) : m.SameHeartbeat (m.recordParamValue o ns paramId value paramType) := by
  unfold recordParamValue
  dsimp only
  split
  · exact ⟨rfl, rfl⟩
  · exact ⟨rfl, rfl⟩

/-- The age the readers get falls short of the true one by the time between the boots. -/
theorem readAge_eq {link fusion now r : Nat} (hboot : link ≤ fusion) (hr : link ≤ r) :
    now - fusion - (r - link) = now - r - (fusion - link) := by omega

/-- The freshness the code sees is the true one for a limit longer by the time between the
    boots. -/
theorem Stores.fresh_iff (h : m.Stores link last) (hboot : link ≤ fusion)
    (hlast : ∀ r ∈ last, link ≤ r) :
    m.heartbeatFresh now fusion limit = true ↔
      HeardWithin last now (limit + (fusion - link)) := by
  unfold heartbeatFresh HeardWithin sinceBoot
  cases last with
  | none => simp [show m.heartbeatEver = false from h]
  | some r =>
    have hns : m.lastHeartbeatNs = r - link := h.2
    rw [h.1, hns, readAge_eq hboot (hlast r rfl)]
    simp

theorem within_iff {age limit gap : Nat} :
    (age ≤ limit + gap ↔ age ≤ limit) ↔ ¬ (limit < age ∧ age ≤ limit + gap) := by omega

/-- So the answer is right unless the age is over the limit, and by no more than that time. -/
theorem Stores.tells_iff (h : m.Stores link last) (hboot : link ≤ fusion)
    (hlast : ∀ r ∈ last, link ≤ r) :
    (m.heartbeatFresh now fusion limit = true ↔ HeardWithin last now limit) ↔
      ∀ r ∈ last, ¬ (limit < now - r ∧ now - r ≤ limit + (fusion - link)) := by
  rw [h.fresh_iff hboot hlast]
  unfold HeardWithin
  cases last with
  | none => simp
  | some r =>
    simp only [Option.mem_some_iff, exists_eq_left', forall_eq']
    exact within_iff

end MavMonitor

/-! ## The listener writes -/

def MavEffect.isHeartbeat {α : Type} : MavEffect α → Bool
  | .heartbeat _ _ => true
  | _ => false

namespace Listener

variable {α : Type} [Zero α] [Neg α] [Mul α] [NatCast α] [IntCast α] [OfScientific α] [LT α]
  [LE α] [DecidableLT α] [DecidableLE α] [FiniteTest α]

/-- What a datagram at `now` does to the heartbeat on record: it is that datagram's, or as it
    was. -/
structure Stamped (now : Instant) (l : Listener α) (x : Listener α × List (MavEffect α)) :
    Prop where
  boot : x.1.boot = l.boot
  heard : x.2.any (·.isHeartbeat) = true → x.1.monitor.Stores l.boot (some now)
  silent : x.2.any (·.isHeartbeat) = false → l.monitor.SameHeartbeat x.1.monitor

variable {now : Instant} {l l' : Listener α} {env : ListenerEnv α} {msg : MavMessage α}

theorem Stamped.quiet {α : Type} {now : Instant} {l : Listener α}
    {x : Listener α × List (MavEffect α)} (hb : x.1.boot = l.boot)
    (hm : x.1.monitor = l.monitor) (hno : x.2.any (·.isHeartbeat) = false) :
    Stamped now l x where
  boot := hb
  heard := fun h => absurd (h.symm.trans hno) (by simp)
  silent := fun _ => hm ▸ ⟨rfl, rfl⟩

theorem forward_quiet (l : Listener α) (env : ListenerEnv α) (msg : MavMessage α) :
    (l.forward env msg).1.boot = l.boot ∧ (l.forward env msg).1.monitor = l.monitor ∧
      (l.forward env msg).2.any (·.isHeartbeat) = false := by
  obtain ⟨_, _, _, _, hl, hout⟩ := forward_eq l env msg
  rw [hl]
  refine ⟨rfl, rfl, List.any_eq_false.mpr fun e he => ?_⟩
  have hno := (hout e he).2
  cases e with
  | heartbeat ns hb => cases hno
  | _ => exact Bool.false_ne_true

theorem forward_stamped (l : Listener α) (env : ListenerEnv α) (msg : MavMessage α) :
    Stamped now l (l.forward env msg) :=
  have h := forward_quiet l env msg
  .quiet h.1 h.2.1 h.2.2

/-- An arm that makes some other record first. -/
theorem record_stamped {e : MavEffect α} {monitor : MavMonitor α}
    (he : e.isHeartbeat = false) (hm : l.monitor.SameHeartbeat monitor) :
    Stamped now l (andThen ({ l with monitor := monitor }, [e]) fun l => l.forward env msg) := by
  obtain ⟨hboot, hmonitor, hno⟩ := forward_quiet { l with monitor := monitor } env msg
  refine ⟨hboot, fun h => ?_, fun _ => ?_⟩
  · rw [andThen_snd, List.any_append, hno] at h
    exact absurd h (by simp [he])
  · rw [andThen_fst, hmonitor]
    exact hm

/-- The heartbeat's own arm. -/
theorem heartbeat_stamped {hb : MavMonitor.Heartbeat} :
    Stamped now l (andThen
      ({ l with monitor := l.monitor.recordHeartbeat (sinceBoot now l.boot) hb },
        [.heartbeat (sinceBoot now l.boot) hb]) fun l => l.forward env msg) := by
  obtain ⟨hboot, hmonitor, -⟩ := forward_quiet
    { l with monitor := l.monitor.recordHeartbeat (sinceBoot now l.boot) hb } env msg
  refine ⟨hboot, fun _ => ?_, fun h => ?_⟩
  · rw [andThen_fst, hmonitor]
    exact l.monitor.recordHeartbeat_stores now l.boot hb
  · exact absurd h (by simp [MavEffect.isHeartbeat])

/-- The look at the lock leaves the heartbeat alone. -/
theorem fromLocked_stamped {α : Type} {now : Instant} {l : Listener α} {src : SocketAddr}
    {arm : Listener α → Listener α × List (MavEffect α)}
    (harm : ∀ l', l'.boot = l.boot → Stamped now l' (arm l')) :
    Stamped now l (l.fromLocked src arm) := by
  unfold fromLocked
  have hlook := l.monitor.checkOrLockSource_look src l.expectedPort
  generalize l.monitor.checkOrLockSource src l.expectedPort = look at hlook ⊢
  cases hlook with
  | refused => exact .quiet rfl rfl rfl
  | locked => exact harm l rfl
  | locks =>
    have ha := harm { l with monitor := { l.monitor with lockedSource := some src } } rfl
    exact ⟨ha.boot, ha.heard, ha.silent⟩

theorem onMessage_stamped (l : Listener α) (env : ListenerEnv α) (src : SocketAddr)
    (msg : MavMessage α) : Stamped env.now l (l.onMessage env src msg) := by
  unfold onMessage
  dsimp only
  split
  · refine fromLocked_stamped fun l' hb => ?_
    rw [← hb]
    exact heartbeat_stamped
  · exact fromLocked_stamped fun _ _ => record_stamped rfl ⟨rfl, rfl⟩
  · exact fromLocked_stamped fun l' _ =>
      record_stamped rfl (l'.monitor.recordParamValue_sameHeartbeat ..)
  · exact fromLocked_stamped fun l' _ => forward_stamped l' env _

theorem onDatagram_stamped (crate : MavCrate α) (l : Listener α) (env : ListenerEnv α)
    (d : Datagram) : Stamped env.now l (l.onDatagram crate env d) := by
  unfold onDatagram dropped
  dsimp only
  split
  · exact .quiet rfl rfl rfl
  split
  · exact .quiet rfl rfl rfl
  split
  · rename_i hdr msg _
    split
    · exact .quiet rfl rfl rfl
    · have h := onMessage_stamped
        { l with stats := { l.stats with recvTotal := l.stats.recvTotal + 1 } } env d.src msg
      exact ⟨h.boot, h.heard, h.silent⟩
  · exact .quiet rfl rfl rfl

/-- When a turn of the loop has recorded a heartbeat, if it has. -/
def hears (crate : MavCrate α) (l : Listener α) : ListenerInput α → Option Instant
  | .datagram d env =>
    if (l.step crate (.datagram d env)).2.any (·.isHeartbeat) then some env.now else none
  | .recvError _ => none

theorem step_boot (crate : MavCrate α) (l : Listener α) (i : ListenerInput α) :
    (l.step crate i).1.boot = l.boot := by
  unfold step
  split
  · split
    · exact (onDatagram_stamped crate l _ _).boot
    · rfl
  · split <;> rfl

theorem step_stores {crate : MavCrate α} {last : Option Instant}
    (h : l.monitor.Stores l.boot last) (i : ListenerInput α) :
    (l.step crate i).1.monitor.Stores l.boot ((l.hears crate i).or last) := by
  cases i with
  | recvError transient =>
    unfold step
    dsimp only [hears]
    split <;> exact h
  | datagram d env =>
    unfold hears step
    dsimp only
    split
    · have hs := onDatagram_stamped crate l env d
      split
      · rename_i hheard
        exact hs.heard hheard
      · rename_i hno
        exact (hs.silent (Bool.not_eq_true _ ▸ hno)).stores h
    · exact h

end Listener

/-! ## Preflight reads -/

namespace Fusion

variable {α : Type} [Zero α] [One α] [Neg α] [Add α] [Sub α] [Mul α] [Div α] [NatCast α]
  [OfScientific α] [LT α] [LE α] [DecidableLT α] [DecidableLE α] [BEq α] [Max α] [Min α]
  [Libm α] [FiniteTest α] [Nalgebra α]

/-- When an input has preflight ask the monitor, if it does: on a fix that is not refused, as
    long as preflight is not ready. -/
def asksPreflight (f : Fusion α) : Input α → Option Instant
  | .gps fix env =>
    if f.mavMonitor && decide (f.preflight ≠ .ready) &&
        (f.nav.origin.isSome || (f.nav.isFirstFixPlausible fix).toBool) then
      some env.now
    else none
  | _ => none

theorem Built.boot_eq {α : Type} [Zero α] [One α] [Mul α] [OfScientific α] [Libm α]
    {c : FusionConfig α} {boot : Instant} {f : Fusion α}
    (h : Built c boot f) : f.boot = boot := by
  induction h with
  | new => rfl
  | withMavMonitor _ _ ih => exact ih
  | withForensic _ _ _ ih => exact ih

theorem refreshPreflight_heartbeatSeen {α : Type} [Zero α] [Sub α] [Div α] [NatCast α]
    [OfScientific α] [LE α] [DecidableLE α] {f : Fusion α} (env : Env α) (t : Timestamp)
    (hm : f.mavMonitor = true) (hr : f.preflight ≠ .ready) :
    (f.refreshPreflight env t).1.checklist.heartbeatSeen =
      env.monitor.heartbeatFresh env.now f.boot 3000000000 := by
  have hnow : (f.checklistNow env).heartbeatSeen =
      env.monitor.heartbeatFresh env.now f.boot 3000000000 := by
    unfold checklistNow
    rw [if_pos hm]
  unfold refreshPreflight
  rw [if_neg hr]
  dsimp only
  split
  · exact hnow
  · split <;> exact hnow

/-- The checklist's box is ticked exactly when the monitor says fresh. -/
theorem step_heartbeatSeen {f : Fusion α} {fix : GpsFix α} {env : Env α} {now : Instant}
    (h : f.asksPreflight (.gps fix env) = some now) :
    (f.step (.gps fix env)).1.checklist.heartbeatSeen =
      env.monitor.heartbeatFresh now f.boot 3000000000 := by
  unfold asksPreflight at h
  dsimp only at h
  split at h
  case isFalse => cases h
  rename_i hasks
  obtain rfl := Option.some.inj h
  simp only [Bool.and_eq_true, decide_eq_true_eq, Bool.or_eq_true] at hasks
  obtain ⟨⟨hm, hr⟩, hfix⟩ := hasks
  unfold step
  dsimp only
  have hpath := onGps_path f env fix
  generalize (f.onGps env fix).1 = f' at hpath ⊢
  generalize (f.onGps env fix).2 = out at hpath
  cases hpath with
  | rejected ho hp => simp [ho, hp, Except.toBool] at hfix
  | first => exact refreshPreflight_heartbeatSeen env fix.t hm hr
  | preflight =>
    obtain ⟨_, _, hanchor⟩ := preflightAnchor_eq (f.refreshPreflight env fix.t).1 fix
    unfold onPreflightFix
    rw [andThen_fst, hanchor]
    exact refreshPreflight_heartbeatSeen env fix.t hm hr
  | skipped _ hready => exact absurd hready hr
  | evaluated _ hready => exact absurd hready hr

end Fusion

/-! ## The three tasks -/

/-- The fix is served by a task whose monitor is `m`. -/
def Input.hearing {α : Type} (m : MavMonitor α) : Input α → Input α
  | .gps fix env => .gps fix { env with monitor := m }
  | i => i

/-- The tasks that share the monitor of a link. -/
structure HeartbeatTasks (α : Type) where
  listener : Listener α
  fusion : Fusion α
  watchdog : Watchdog

inductive HeartbeatInput (α : Type)
  | listen (i : ListenerInput α)
  | fuse (i : Input α)
  | tick (now : Instant)

inductive HeartbeatOutput (α : Type)
  | mav (e : MavEffect α)
  | fusion (o : Output α)
  | watchdog (e : SpoofingEvent α)

/-- The clock was read after the boot instant of the task that read it. -/
def HeartbeatInput.AfterBoot {α : Type} (link fusion : Instant) : HeartbeatInput α → Prop
  | .listen (.datagram _ env) => link ≤ env.now
  | .fuse (.gps _ env) => fusion ≤ env.now
  | .tick now => fusion ≤ now
  | _ => True

instance {α : Type} (link fusion : Instant) :
    DecidablePred (HeartbeatInput.AfterBoot link fusion : HeartbeatInput α → Prop)
  | .listen (.datagram _ _) | .fuse (.gps _ _) | .tick _ => inferInstanceAs (Decidable (_ ≤ _))
  | .listen (.recvError _) | .fuse (.imu _) | .fuse (.reset _) | .fuse (.background _ _) =>
    inferInstanceAs (Decidable True)

/-- One call of `heartbeat_fresh`. -/
structure FreshQuery where
  now : Instant
  boot : Instant
  stalenessNs : Nat
deriving DecidableEq, Repr

namespace HeartbeatTasks

variable {α : Type} [Zero α] [One α] [Neg α] [Add α] [Sub α] [Mul α] [Div α] [NatCast α]
  [IntCast α] [OfScientific α] [LT α] [LE α] [DecidableLT α] [DecidableLE α] [BEq α] [Max α]
  [Min α] [Libm α] [FiniteTest α] [Nalgebra α]

/-- The watchdog is given the boot instant of the fusion task. -/
def start (filter : MavFilter) (remote : SocketAddr) (link : Instant) (f : Fusion α)
    (stalenessNs : Nat) : HeartbeatTasks α where
  listener := .spawn filter remote link
  fusion := f
  watchdog := .spawn f.boot stalenessNs

def step (crate : MavCrate α) (s : HeartbeatTasks α) :
    HeartbeatInput α → HeartbeatTasks α × List (HeartbeatOutput α)
  | .listen i =>
    let (listener, out) := s.listener.step crate i
    ({ s with listener := listener }, out.map .mav)
  | .fuse i =>
    let (fusion, out) := s.fusion.step (i.hearing s.listener.monitor)
    ({ s with fusion := fusion }, out.map .fusion)
  | .tick now =>
    let (watchdog, out) := s.watchdog.tick s.listener.monitor now
    ({ s with watchdog := watchdog }, out.map .watchdog)

/-- When the last heartbeat was received. -/
def lastHeard (crate : MavCrate α) (last : Option Instant) (s : HeartbeatTasks α) :
    HeartbeatInput α → HeartbeatTasks α → Option Instant
  | .listen i, _ => (s.listener.hears crate i).or last
  | _, _ => last

/-- The query an input makes of the monitor, if it makes one. -/
def query (s : HeartbeatTasks α) : HeartbeatInput α → Option FreshQuery
  | .listen _ => none
  | .fuse i => (s.fusion.asksPreflight i).map fun now => ⟨now, s.fusion.boot, 3000000000⟩
  | .tick now => some ⟨now, s.watchdog.boot, s.watchdog.stalenessNs⟩

/-- What the task that made the query has for an answer afterwards. -/
def answer (crate : MavCrate α) (s : HeartbeatTasks α) (i : HeartbeatInput α) : Bool :=
  match i with
  | .listen _ => false
  | .fuse _ => (s.step crate i).1.fusion.checklist.heartbeatSeen
  | .tick _ => (s.step crate i).1.watchdog.lastStateUp

def fresh (s : HeartbeatTasks α) (q : FreshQuery) : Bool :=
  s.listener.monitor.heartbeatFresh q.now q.boot q.stalenessNs

/-- What `heartbeat_fresh` returns is what the task goes by. -/
def Answers (crate : MavCrate α) (s : HeartbeatTasks α) (i : HeartbeatInput α) : Prop :=
  ∀ q ∈ s.query i, s.answer crate i = s.fresh q

/-- `heartbeat_fresh` returns true exactly when a heartbeat was seen and is recent enough. -/
def TellsAge (x : HeartbeatTasks α × Option Instant) (i : HeartbeatInput α) : Prop :=
  ∀ q ∈ x.1.query i, (x.1.fresh q = true ↔ HeardWithin x.2 q.now q.stalenessNs)

/-- No heartbeat is asked about that is over the limit by no more than the time between the
    boots. -/
def ClearOfGap (link fusion : Instant) (x : HeartbeatTasks α × Option Instant)
    (i : HeartbeatInput α) : Prop :=
  ∀ q ∈ x.1.query i, ∀ r ∈ x.2,
    ¬ (q.stalenessNs < q.now - r ∧ q.now - r ≤ q.stalenessNs + (fusion - link))

instance (x : HeartbeatTasks α × Option Instant) (i : HeartbeatInput α) :
    Decidable (TellsAge x i) :=
  inferInstanceAs (Decidable (∀ q, q ∈ x.1.query i →
    (x.1.fresh q = true ↔ HeardWithin x.2 q.now q.stalenessNs)))

instance (link fusion : Instant) (x : HeartbeatTasks α × Option Instant)
    (i : HeartbeatInput α) : Decidable (ClearOfGap link fusion x i) :=
  inferInstanceAs (Decidable (∀ q, q ∈ x.1.query i → ∀ r, r ∈ x.2 →
    ¬ (q.stalenessNs < q.now - r ∧ q.now - r ≤ q.stalenessNs + (fusion - link))))

/-! ## What the tasks keep -/

/-- Each task has its boot instant, and the monitor stores the last heartbeat against the
    link's. -/
structure Heard (link fusion : Instant) (x : HeartbeatTasks α × Option Instant) : Prop where
  linkBoot : x.1.listener.boot = link
  fusionBoot : x.1.fusion.boot = fusion
  watchdogBoot : x.1.watchdog.boot = fusion
  down : x.1.watchdog.DownUntilSeen
  stores : x.1.listener.monitor.Stores link x.2
  after : ∀ r ∈ x.2, link ≤ r

variable {crate : MavCrate α} {link fusion : Instant} {x : HeartbeatTasks α × Option Instant}
  {i : HeartbeatInput α}

theorem Heard.start {α : Type} [Zero α] [One α] [Neg α] [Add α] [Sub α] [Mul α] [Div α] [NatCast α]
    [OfScientific α] [LT α] [LE α] [DecidableLT α] [DecidableLE α] [BEq α] [Max α] [Min α] [Libm α]
    [FiniteTest α] [Nalgebra α] {fusion : Instant}
    {c : FusionConfig α} {f : Fusion α} (hf : Fusion.Built c fusion f)
    (filter : MavFilter) (remote : SocketAddr) (link : Instant) (stalenessNs : Nat) :
    Heard link fusion (start filter remote link f stalenessNs, none) where
  linkBoot := rfl
  fusionBoot := hf.boot_eq
  watchdogBoot := hf.boot_eq
  down := fun _ => rfl
  stores := rfl
  after := fun _ hr => nomatch hr

theorem Heard.step (h : Heard link fusion x) (hc : i.AfterBoot link fusion) :
    Heard link fusion (ghost (step crate) (lastHeard crate) x i).1 := by
  obtain ⟨s, last⟩ := x
  cases i with
  | listen i =>
    have hstores : (s.listener.step crate i).1.monitor.Stores s.listener.boot
        ((s.listener.hears crate i).or last) := Listener.step_stores (h.linkBoot ▸ h.stores) i
    rw [h.linkBoot] at hstores
    refine ⟨(Listener.step_boot crate s.listener i).trans h.linkBoot, h.fusionBoot,
      h.watchdogBoot, h.down, hstores, ?_⟩
    intro r hr
    rcases Option.or_eq_some_iff.mp hr with hnew | ⟨-, hold⟩
    · cases i with
      | datagram d env =>
        obtain ⟨-, hnow⟩ := Option.ite_none_right_eq_some.mp hnew
        exact Option.some.inj hnow ▸ hc
      | recvError transient => cases hnew
    · exact h.after r hold
  | fuse i =>
    exact ⟨h.linkBoot, (Fusion.step_boot s.fusion _).trans h.fusionBoot, h.watchdogBoot, h.down,
      h.stores, h.after⟩
  | tick now =>
    obtain ⟨_, _, htick, hdown⟩ := s.watchdog.tick_eq s.listener.monitor now h.down
    refine ⟨h.linkBoot, h.fusionBoot, ?_, hdown, h.stores, h.after⟩
    exact (congrArg Watchdog.boot htick).trans h.watchdogBoot

theorem Heard.answers (h : Heard link fusion x) (i : HeartbeatInput α) :
    Answers crate x.1 i := by
  obtain ⟨s, last⟩ := x
  intro q hq
  cases i with
  | listen i => cases hq
  | fuse i =>
    obtain ⟨now, hasks, rfl⟩ := Option.map_eq_some_iff.mp hq
    cases i with
    | gps fix env =>
      -- the query is the same whatever the monitor holds
      have hheard : s.fusion.asksPreflight
          (.gps fix { env with monitor := s.listener.monitor }) = some now := hasks
      exact Fusion.step_heartbeatSeen hheard
    | _ => cases hasks
  | tick now =>
    obtain rfl := Option.some.inj hq
    obtain ⟨_, _, htick, -⟩ := s.watchdog.tick_eq s.listener.monitor now h.down
    exact congrArg Watchdog.lastStateUp htick

/-- Whoever asks, asks with the boot instant of the fusion task. -/
theorem Heard.query_boot {α : Type} [Zero α] [Neg α] [Add α] [Sub α] [Mul α] [OfScientific α] [LE α]
    [DecidableLE α] [Libm α] {link fusion : Instant} {x : HeartbeatTasks α × Option Instant}
    {i : HeartbeatInput α} (h : Heard link fusion x) {q : FreshQuery} (hq : q ∈ x.1.query i) :
    q.boot = fusion := by
  cases i with
  | listen i => cases hq
  | fuse i =>
    obtain ⟨_, -, rfl⟩ := Option.map_eq_some_iff.mp hq
    exact h.fusionBoot
  | tick now =>
    obtain rfl := Option.some.inj hq
    exact h.watchdogBoot

theorem Heard.tellsAge_iff {α : Type} [Zero α] [Neg α] [Add α] [Sub α] [Mul α] [OfScientific α]
    [LE α] [DecidableLE α] [Libm α] {link fusion : Instant} {x : HeartbeatTasks α × Option Instant}
    (h : Heard link fusion x) (hboot : link ≤ fusion)
    (i : HeartbeatInput α) : TellsAge x i ↔ ClearOfGap link fusion x i := by
  refine forall₂_congr fun q hq => ?_
  unfold fresh
  rw [h.query_boot hq]
  exact h.stores.tells_iff hboot h.after

/-! ## Runs -/

/-- **Heartbeat freshness and its two boots.** For a link booted no later than the fusion task,
    and every run of listener, fusion task and watchdog, each query is answered by the heartbeat's
    true age exactly when none of them asks about a heartbeat that is older than the limit by no
    more than the time between the boots. -/
theorem heartbeat_age (crate : MavCrate α) (filter : MavFilter) (remote : SocketAddr)
    {link fusion : Instant} (hboot : link ≤ fusion) {c : FusionConfig α} {f : Fusion α}
    (hf : Fusion.Built c fusion f) (stalenessNs : Nat) (is : List (HeartbeatInput α))
    (hclock : ∀ i ∈ is, i.AfterBoot link fusion) :
    let s := start filter remote link f stalenessNs
    (Along (ghost (HeartbeatTasks.step crate) (lastHeard crate)) TellsAge (s, none) is ↔
      Along (ghost (HeartbeatTasks.step crate) (lastHeard crate)) (ClearOfGap link fusion)
        (s, none) is) ∧
    Along (HeartbeatTasks.step crate) (Answers crate) s is := by
  intro s
  have hstart : Heard link fusion (s, none) := .start hf filter remote link stalenessNs
  have hafter : Along (ghost (HeartbeatTasks.step crate) (lastHeard crate))
      (fun _ i => i.AfterBoot link fusion) (s, none) is := along_of_forall hclock
  have hanswers : Along (ghost (HeartbeatTasks.step crate) (lastHeard crate))
      (fun x i => Answers crate x.1 i) (s, none) is :=
    hafter.strengthen (fun _ _ hc h => h.step hc) (fun _ i h _ => h.answers i) hstart
  refine ⟨?_, (along_ghost (s, none) is).mp hanswers⟩
  exact along_congr_of_guarded (fun _ _ hc h => h.step hc)
    (fun _ i h _ => h.tellsAge_iff hboot i) hstart hafter

/-! The link boots at 0 and the fusion task at 2 s. A heartbeat received at 3 s is a second old
at the poll and the fix of 4 s. At 7 s it is over the limit of three seconds by one, and neither
of them can tell. -/

def heartbeatAt (ns : Nat) : HeartbeatInput ℚ :=
  .listen (.datagram ⟨⟨1, 14550⟩, List.replicate 17 0xFE⟩ ⟨ns, .stored, .stored, true, true, false⟩)

def fixAsked (ns : Nat) : HeartbeatInput ℚ :=
  .fuse (.gps (fixAt 4000 0) { quietEnv with now := ns })

def waitingTasks : HeartbeatTasks ℚ :=
  start ⟨some 1, some 1, false⟩ ⟨1, 14550⟩ 0 ((Fusion.new quickCfg 2000000000).withMavMonitor 3)
    3000000000

theorem heartbeat_age_second_old :
    Along (ghost (HeartbeatTasks.step Listener.heartbeatCrate)
      (lastHeard Listener.heartbeatCrate)) TellsAge (waitingTasks, none)
      [heartbeatAt 3000000000, .tick 4000000000, fixAsked 4000000000] :=
  (heartbeat_age Listener.heartbeatCrate ⟨some 1, some 1, false⟩ ⟨1, 14550⟩ (by decide)
    (.withMavMonitor .new 3) 3000000000
    [heartbeatAt 3000000000, .tick 4000000000, fixAsked 4000000000] (by decide)).1.mpr
    (by decide +kernel)

/-- Four seconds after its last heartbeat the link is up, and preflight has seen one. -/
theorem stale_heartbeat_reads_fresh :
    (∀ i ∈ [heartbeatAt 3000000000, .tick 4000000000, .tick 7000000000, fixAsked 7000000000],
      i.AfterBoot 0 2000000000) ∧
    ¬ Along (ghost (HeartbeatTasks.step Listener.heartbeatCrate)
      (lastHeard Listener.heartbeatCrate)) TellsAge (waitingTasks, none)
      [heartbeatAt 3000000000, .tick 4000000000, .tick 7000000000] ∧
    ¬ Along (ghost (HeartbeatTasks.step Listener.heartbeatCrate)
      (lastHeard Listener.heartbeatCrate)) TellsAge (waitingTasks, none)
      [heartbeatAt 3000000000, fixAsked 7000000000] := by
  decide +kernel

end HeartbeatTasks

end FlyingSquirrel

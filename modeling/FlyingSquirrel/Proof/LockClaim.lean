import FlyingSquirrel.Proof.SourceLock

/-!
# Who claims the source lock

The lock is there so that only a heartbeat or an acknowledgement of the configured peer starts
the flow of data. All four arms of the match call the same function, though, and it does not
only look: **any message that gets as far as an arm, from an acceptable port, claims the lock**
and goes on.

`passed` is the message that gets that far. While there is none, nothing is claimed, recorded or
forwarded, and the first one claims the lock for good.
-/

set_option autoImplicit false

namespace FlyingSquirrel

open Lib

/-- The messages that may claim the lock. -/
def MavMessage.establishes {α : Type} : MavMessage α → Bool
  | .heartbeat _ | .commandAck _ _ => true
  | _ => false

/-- A fix, a sample or a parameter echo. -/
def MavEffect.isData {α : Type} : MavEffect α → Bool
  | .param _ _ _ _ | .gps _ | .imu _ => true
  | _ => false

namespace Listener

variable {α : Type} [Zero α] [Neg α] [Mul α] [NatCast α] [IntCast α] [OfScientific α] [LT α]
  [LE α] [DecidableLT α] [DecidableLE α] [FiniteTest α]

/-- The message of an input, if it is one that passes the checks on address, system and
    port. -/
def passed (crate : MavCrate α) (l : Listener α) : ListenerInput α → Option (MavMessage α)
  | .datagram d _ =>
    if l.running = false then none
    else if d.bytes.length < 8 then none
    else if l.filter.allowedSourceIp.any (· ≠ d.src.ip) then none
    else
      match crate.readVersionedMsg d.bytes (mavlinkVersionOf (d.bytes.headD 0)) with
      | .ok (hdr, msg) =>
        if l.filter.autopilotSysid.any (· ≠ hdr.systemId) then none
        else if l.expectedPort.any (· ≠ d.src.port) then none
        else some msg
      | .error _ => none
  | .recvError _ => none

/-- The run leaves the lock open, and no data comes of it. -/
structure Unclaimed (crate : MavCrate α) (l : Listener α) (is : List (ListenerInput α)) :
    Prop where
  unlocked : (run (step crate) l is).lockedSource = none
  unrecorded : (run (step crate) l is).monitor.paramsByName = l.monitor.paramsByName
  withheld : ∀ e ∈ outputs (step crate) l is, e.isData = false

variable {crate : MavCrate α} {l : Listener α}

/-! ## The look at an open lock -/

theorem fromLocked_refused {α : Type} {l : Listener α}
    (hl : l.lockedSource = none) {src : SocketAddr}
    (hport : l.expectedPort.any (· ≠ src.port) = true)
    (arm : Listener α → Listener α × List (MavEffect α)) :
    (l.fromLocked src arm).1.monitor = l.monitor ∧ (l.fromLocked src arm).2 = [] := by
  have hlook : l.monitor.checkOrLockSource src l.expectedPort = (l.monitor, false) := by
    unfold MavMonitor.checkOrLockSource
    rw [show l.monitor.lockedSource = none from hl]
    cases hp : l.expectedPort with
    | none => simp [hp] at hport
    | some want =>
      have hne : want ≠ src.port := by simpa [hp] using hport
      simp [hne.symm]
  unfold fromLocked
  rw [hlook]
  exact ⟨rfl, rfl⟩

theorem fromLocked_claims {α : Type} [Mul α] [NatCast α] [IntCast α] [OfScientific α]
    {l : Listener α} (hl : l.lockedSource = none) {src : SocketAddr} {now : Instant}
    {msg : MavMessage α} (hport : l.expectedPort.any (· ≠ src.port) = false)
    {arm : Listener α → Listener α × List (MavEffect α)} (harm : ∀ l, Arm now msg l (arm l)) :
    (l.fromLocked src arm).1.lockedSource = some src := by
  have hlook : l.monitor.checkOrLockSource src l.expectedPort =
      ({ l.monitor with lockedSource := some src }, true) := by
    unfold MavMonitor.checkOrLockSource
    rw [show l.monitor.lockedSource = none from hl]
    cases hp : l.expectedPort with
    | none => rfl
    | some want =>
      have heq : want = src.port := by simpa [hp] using hport
      simp [heq]
  unfold fromLocked
  rw [hlook]
  exact (harm _).lock

/-! ## A turn of the loop -/

/-- What a turn does, from an open lock. -/
theorem step_open (crate : MavCrate α) (hl : l.lockedSource = none) (i : ListenerInput α) :
    (l.passed crate i = none ∧ (l.step crate i).1.monitor = l.monitor ∧
        (l.step crate i).2 = []) ∨
      (∃ msg, l.passed crate i = some msg) ∧ ∃ src, (l.step crate i).1.lockedSource = some src := by
  cases i with
  | recvError transient =>
    cases transient <;> exact .inl ⟨rfl, rfl, rfl⟩
  | datagram d env =>
    unfold step passed
    cases hrunning : l.running with
    | false => exact .inl ⟨rfl, rfl, rfl⟩
    | true =>
      unfold onDatagram dropped
      dsimp only
      rw [if_neg (by simp : ¬ true = false), if_pos rfl]
      by_cases hlength : d.bytes.length < 8
      · rw [if_pos hlength, if_pos hlength]
        exact .inl ⟨rfl, rfl, rfl⟩
      rw [if_neg hlength, if_neg hlength]
      by_cases hip : l.filter.allowedSourceIp.any (· ≠ d.src.ip) = true
      · rw [if_pos hip, if_pos hip]
        exact .inl ⟨rfl, rfl, rfl⟩
      rw [if_neg hip, if_neg hip]
      cases crate.readVersionedMsg d.bytes (mavlinkVersionOf (d.bytes.headD 0)) with
      | error e => exact .inl ⟨rfl, rfl, rfl⟩
      | ok read =>
        obtain ⟨hdr, msg⟩ := read
        dsimp only
        by_cases hid : l.filter.autopilotSysid.any (· ≠ hdr.systemId) = true
        · rw [if_pos hid, if_pos hid]
          exact .inl ⟨rfl, rfl, rfl⟩
        rw [if_neg hid, if_neg hid]
        let counted := { l with stats := { l.stats with recvTotal := l.stats.recvTotal + 1 } }
        obtain ⟨arm, harm, heq⟩ := onMessage_arm counted env d.src msg
        rw [heq]
        by_cases hport : l.expectedPort.any (· ≠ d.src.port) = true
        · rw [if_pos hport]
          exact .inl ⟨rfl, fromLocked_refused (l := counted) hl hport arm⟩
        · rw [if_neg hport]
          have hport' : l.expectedPort.any (· ≠ d.src.port) = false := Bool.eq_false_iff.mpr hport
          exact .inr ⟨⟨msg, rfl⟩, d.src, fromLocked_claims (l := counted) hl hport' harm⟩

/-! ## A run -/

theorem step_claims (hl : l.lockedSource = none) {i : ListenerInput α}
    (hpass : l.passed crate i ≠ none) (is : List (ListenerInput α)) :
    (run (step crate) (step crate l i).1 is).lockedSource ≠ none := by
  rcases step_open crate hl i with ⟨hnone, -⟩ | ⟨-, src, hsrc⟩
  · exact absurd hnone hpass
  · have hright : LockedRight l.filter l.remote l :=
      ⟨rfl, rfl, fun _ a ha => absurd (hl.symm.trans ha) (by simp)⟩
    have hkept : (run (step crate) (step crate l i).1 is).lockedSource = some src :=
      run_lock_kept (step_turned hright i).right hsrc is
    intro hopen
    exact absurd (hopen.symm.trans hkept) (by simp)

/-- While nothing passes, nothing is claimed, recorded or put out. -/
theorem run_unpassed (hl : l.lockedSource = none) {is : List (ListenerInput α)}
    (hpass : Along (step crate) (fun l i => l.passed crate i = none) l is) :
    (run (step crate) l is).monitor = l.monitor ∧ outputs (step crate) l is = [] := by
  induction is generalizing l with
  | nil => exact ⟨rfl, rfl⟩
  | cons i is ih =>
    obtain ⟨hnone, hrest⟩ := hpass
    rcases step_open crate hl i with ⟨-, hmonitor, hout⟩ | ⟨⟨msg, hsome⟩, -⟩
    · have hnext : (l.step crate i).1.lockedSource = none :=
        (congrArg MavMonitor.lockedSource hmonitor).trans hl
      obtain ⟨hrun, houts⟩ := ih hnext hrest
      refine ⟨hrun.trans hmonitor, ?_⟩
      rw [outputs, hout, houts]
      rfl
    · exact absurd (hnone.symm.trans hsome) (by simp)

/-- The lock is open at the end of a run exactly if nothing has passed in it. -/
theorem unlocked_iff (hl : l.lockedSource = none) (is : List (ListenerInput α)) :
    (run (step crate) l is).lockedSource = none ↔
      Along (step crate) (fun l i => l.passed crate i = none) l is := by
  constructor
  · intro hopen
    induction is generalizing l with
    | nil => trivial
    | cons i is ih =>
      by_cases hpass : l.passed crate i = none
      · refine ⟨hpass, ih ?_ hopen⟩
        rcases step_open crate hl i with ⟨-, hmonitor, -⟩ | ⟨⟨msg, hsome⟩, -⟩
        · exact (congrArg MavMonitor.lockedSource hmonitor).trans hl
        · exact absurd (hpass.symm.trans hsome) (by simp)
      · exact absurd hopen (step_claims hl hpass is)
  · intro hpass
    exact (congrArg MavMonitor.lockedSource (run_unpassed hl hpass).1).trans hl

/-- **Only a heartbeat or an acknowledgement opens the flow, exactly.** From an open lock, and in
    a run in which neither has passed the checks, the lock stays open and no data is recorded or
    forwarded if and only if no message of another kind has passed them. -/
theorem unclaimed_iff (hl : l.lockedSource = none) {is : List (ListenerInput α)}
    (hquiet : Along (step crate)
      (fun l i => ∀ msg ∈ l.passed crate i, msg.establishes = false) l is) :
    Unclaimed crate l is ↔
      Along (step crate) (fun l i => ∀ msg ∈ l.passed crate i, msg.establishes = true) l is := by
  constructor
  · intro h
    refine ((unlocked_iff hl is).mp h.unlocked).mono fun l i hnone msg hmsg => ?_
    rw [hnone] at hmsg
    cases hmsg
  · intro hown
    have hpass : Along (step crate) (fun l i => l.passed crate i = none) l is := by
      refine (hquiet.and hown).mono fun l i ⟨hno, hyes⟩ => ?_
      cases hp : l.passed crate i with
      | none => rfl
      | some msg => exact absurd ((hno msg hp).symm.trans (hyes msg hp)) (by simp)
    obtain ⟨hmonitor, hout⟩ := run_unpassed hl hpass
    refine ⟨(unlocked_iff hl is).mpr hpass, congrArg _ hmonitor, ?_⟩
    rw [hout]
    simp

/-- A decoder that makes a position message of everything. -/
def gpsCrate : MavCrate ℚ :=
  ⟨fun _ _ => .ok (⟨1, 1, 0⟩, .gpsRawInt ⟨0, 3, 10000000, 20000000, 50000, 0, 0, 100, 12⟩)⟩

def packetFrom (port : Nat) : ListenerInput ℚ :=
  .datagram ⟨⟨1, port⟩, List.replicate 38 0xFE⟩ ⟨0, .stored, .stored, true, true, false⟩

def openListener : Listener ℚ := spawn ⟨some 1, some 1, false⟩ ⟨1, 14550⟩ 0

/-- Position messages from the wrong port claim nothing. -/
theorem unclaimed_wrong_port :
    Unclaimed gpsCrate openListener [packetFrom 9, packetFrom 9] :=
  (unclaimed_iff rfl (by decide +kernel)).mpr (by decide +kernel)

/-- One from the right port claims the lock and goes on as a fix. -/
theorem position_claims_lock :
    openListener.lockedSource = none ∧
      Along (step gpsCrate) (fun l i => ∀ msg ∈ l.passed gpsCrate i, msg.establishes = false)
        openListener [packetFrom 14550] ∧
      ¬ Unclaimed gpsCrate openListener [packetFrom 14550] ∧
      (run (step gpsCrate) openListener [packetFrom 14550]).lockedSource = some ⟨1, 14550⟩ ∧
      (outputs (step gpsCrate) openListener [packetFrom 14550]).any (·.isData) = true := by
  refine ⟨rfl, by decide +kernel, fun h => ?_, by decide +kernel, by decide +kernel⟩
  exact absurd h.unlocked (by decide +kernel)

end Listener

end FlyingSquirrel

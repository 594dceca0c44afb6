import FlyingSquirrel.Lib.Run
import FlyingSquirrel.Mav.Monitor

/-!
# The heartbeat watchdog (`mav/mod.rs`)

A task that polls the monitor, and reports on the broadcast channel when the link goes down or
comes back and when the autopilot's mode has changed. It says nothing before the first
heartbeat. A tick reads the clock once: the events carry the reading the poll is made at.
-/

set_option autoImplicit false

namespace FlyingSquirrel

open Lib

section Events

variable {α : Type} [Zero α]

/-- `emit_link_event`: link events are orthogonal to the detector's state. -/
def emitLinkEvent (now boot : Instant) (up : Bool) (currentMode : Nat) : SpoofingEvent α :=
  .new (.nowMono now) (if up then .linkRestored else .linkDown) .normal 0
    (.obj [("current_custom_mode", .int currentMode)]) boot

def emitModeChangeEvent (now boot : Instant) (newMode : Nat) : SpoofingEvent α :=
  .new (.nowMono now) .pilotModeChange .normal 0 (.obj [("new_custom_mode", .int newMode)]) boot

end Events

structure Watchdog where
  boot : Instant
  stalenessNs : Nat
  lastStateUp : Bool
  haveSeenHeartbeat : Bool
  lastModeChangeNs : Nat
deriving DecidableEq, Repr

namespace Watchdog

variable {α : Type} [Zero α]

/-- The task `spawn_heartbeat_watchdog` starts. -/
def spawn (boot : Instant) (stalenessNs : Nat) : Watchdog where
  boot := boot
  stalenessNs := stalenessNs
  lastStateUp := false
  haveSeenHeartbeat := false
  lastModeChangeNs := 0

/-- Report the link when it is not as it was. -/
def noteLink (w : Watchdog) (m : MavMonitor α) (now : Instant) (up : Bool) :
    Watchdog × List (SpoofingEvent α) :=
  if up ≠ w.lastStateUp then
    ({ w with lastStateUp := up }, [emitLinkEvent now w.boot up m.currentCustomMode])
  else (w, [])

/-- Report a mode change later than the last one reported. -/
def noteMode (w : Watchdog) (m : MavMonitor α) (now : Instant) :
    Watchdog × List (SpoofingEvent α) :=
  if m.modeChangedAtNs > w.lastModeChangeNs then
    ({ w with lastModeChangeNs := m.modeChangedAtNs },
      [emitModeChangeEvent now w.boot m.currentCustomMode])
  else (w, [])

/-- One poll. -/
def tick (w : Watchdog) (m : MavMonitor α) (now : Instant) :
    Watchdog × List (SpoofingEvent α) :=
  let up := m.heartbeatFresh now w.boot w.stalenessNs
  if w.haveSeenHeartbeat = false then
    -- the first heartbeat is reported as a link that is up; until then there is nothing to lose
    if up then
      ({ w with
          haveSeenHeartbeat := true
          lastStateUp := true
          lastModeChangeNs := m.modeChangedAtNs },
        [emitLinkEvent now w.boot true m.currentCustomMode])
    else (w, [])
  else andThen (w.noteLink m now up) fun w => w.noteMode m now

/-! ## What a poll leaves behind -/

section Spec

variable (w : Watchdog) (m : MavMonitor α) (now : Instant)

theorem noteLink_eq (up : Bool) : (w.noteLink m now up).1 = { w with lastStateUp := up } := by
  unfold noteLink
  split
  · rfl
  · rename_i h
    rw [not_not.mp h]

theorem noteMode_eq : ∃ ns, (w.noteMode m now).1 = { w with lastModeChangeNs := ns } := by
  unfold noteMode
  split <;> exact ⟨_, rfl⟩

/-- Before the first heartbeat the link counts as down. -/
def DownUntilSeen (w : Watchdog) : Prop := w.haveSeenHeartbeat = false → w.lastStateUp = false

/-- After a poll the link is up exactly when the heartbeat was fresh. -/
theorem tick_eq (h : w.DownUntilSeen) : ∃ seen ns,
    (w.tick m now).1 = { w with
      lastStateUp := m.heartbeatFresh now w.boot w.stalenessNs
      haveSeenHeartbeat := seen
      lastModeChangeNs := ns } ∧ (w.tick m now).1.DownUntilSeen := by
  unfold tick
  dsimp only
  split
  · rename_i hseen
    have hdown := h hseen
    split
    · rename_i hup
      exact ⟨_, _, by rw [hup], fun hno => nomatch hno⟩
    · rename_i hup
      refine ⟨w.haveSeenHeartbeat, w.lastModeChangeNs, ?_, h⟩
      rw [Bool.not_eq_true] at hup
      rw [hup, ← hdown]
  · rename_i hseen
    rw [andThen_fst, noteLink_eq]
    obtain ⟨ns, hmode⟩ := noteMode_eq
      { w with lastStateUp := m.heartbeatFresh now w.boot w.stalenessNs } m now
    rw [hmode]
    exact ⟨_, ns, rfl, fun hno => absurd hno hseen⟩

end Spec

end Watchdog

end FlyingSquirrel

import FlyingSquirrel.Runtime

/-!
# The supervisor (`bin/flyingsquirrel.rs`, the end of `run`)

The main task waits for the first reason to stop: a signal, the time limit, or the end of a task
that should not end. Then it takes the process down in order. The sources are aborted, and with
their channels closed the fusion loop runs dry; the background tasks are joined, up to a
deadline; the last producers are stopped and the last sender dropped, and the action task hands
on what is left, up to another.

The tasks go on meanwhile, so a step of the supervised process is a step of a task, the end of
one in a panic, or a step of the main task.
-/

set_option autoImplicit false

namespace FlyingSquirrel

open Lib

/-! ## Why it stops -/

/-- The arm of the `select!` that was taken. A handle's result is an error when its task
    panicked. -/
inductive Exit
  | ctrlC
  | sigterm
  | durationElapsed
  | gpsIngest (result : Except String Unit)
  | imuIngest (result : Except String Unit)
  | fusion
  | action
  | mavListener
  | watchdog

def taskDied (name : String) : String :=
  match name with
  | "gps_ingest" => "task_died:gps_ingest"
  | "imu_ingest" => "task_died:imu_ingest"
  | _ => "task_died:unknown"

/-- A synthetic source ends with its scenario, a real one does not end. -/
def classifyIngestExit (name : String) (result : Except String Unit) (synthSource : Bool) :
    String :=
  match result with
  | .ok () => if synthSource then "source_exhausted" else taskDied name
  | .error _ => taskDied name

def Exit.reason (synthSource : Bool) : Exit → String
  | .ctrlC => "ctrl_c"
  | .sigterm => "sigterm"
  | .durationElapsed => "duration_elapsed"
  | .gpsIngest result => classifyIngestExit "gps_ingest" result synthSource
  | .imuIngest result => classifyIngestExit "imu_ingest" result synthSource
  | .fusion => "task_died:fusion"
  | .action => "task_died:action"
  | .mavListener => "task_died:mav_listener"
  | .watchdog => "task_died:watchdog"

/-- The exit code of a reason: `starts_with("task_died:")` is a failure. -/
def exitCode (reason : String) : Nat :=
  if "task_died:".toList.isPrefixOf reason.toList then 2 else 0

/-! ## The main task -/

/-- Where the main task is. A deadline is a point of the monotonic clock. -/
inductive Phase
  | supervising
  /-- `handles.fusion.await`. -/
  | awaitingFusion
  /-- `drain_pending_bg`. -/
  | draining (deadline : Instant)
  /-- The `timeout` around `handles.action`. -/
  | flushing (deadline : Instant)
  | exited
deriving DecidableEq, Repr

/-- A task that ends in a panic. -/
inductive Casualty
  | gpsIngest
  | imuIngest
  | fusion
  | action
  | watchdog
  /-- The background task at this place. -/
  | background (place : Nat)
deriving DecidableEq, Repr

structure Supervisor (α B : Type) where
  runtime : Runtime α B
  watchdogEnded : Bool
  phase : Phase
  /-- The arm taken, once one was. -/
  exit : Option Exit
  /-- What `drain_pending_bg` counts. -/
  completed : Nat
  aborted : Nat
  /-- The action task was aborted at its deadline. -/
  cutShort : Bool
  /-- Which of the long-running tasks have panicked. -/
  panicked : List Casualty

inductive SupervisorInput (α : Type)
  | task (i : RuntimeInput α)
  | panics (c : Casualty)
  | select (e : Exit)
  | main (now : Instant)

namespace Supervisor

/-- `Duration::from_secs(7)`. -/
def drainTimeoutNs : Nat := 7000000000

/-- `Duration::from_secs(2)`. -/
def flushTimeoutNs : Nat := 2000000000

variable {α : Type} [Zero α] [One α] [Neg α] [Add α] [Sub α] [Mul α] [Div α] [NatCast α]
  [OfScientific α] [LT α] [LE α] [DecidableLT α] [DecidableLE α] [BEq α] [Max α] [Min α]
  [Libm α] [FiniteTest α] [Nalgebra α] {B : Type} [Broadcast B (SpoofingEvent α)]

def start (rt : Runtime α B) : Supervisor α B where
  runtime := rt
  watchdogEnded := false
  phase := .supervising
  exit := none
  completed := 0
  aborted := 0
  cutShort := false
  panicked := []

/-- The arm's future is ready. The signals, the clock and the listener are the world's. -/
def ready (sv : Supervisor α B) : Exit → Bool
  | .ctrlC | .sigterm | .durationElapsed | .mavListener => true
  | .gpsIngest result =>
    sv.runtime.gpsIngest.ended && (result.isOk == !(sv.panicked.contains .gpsIngest))
  | .imuIngest result =>
    sv.runtime.imuIngest.ended && (result.isOk == !(sv.panicked.contains .imuIngest))
  | .fusion => sv.runtime.fusionEnded
  | .action => sv.runtime.actionEnded
  | .watchdog => sv.watchdogEnded

/-- A task's own step. Nothing runs once the process has exited. -/
def task (sv : Supervisor α B) (i : RuntimeInput α) : Supervisor α B × List (RuntimeOutput α) :=
  let run : Supervisor α B × List (RuntimeOutput α) :=
    ({ sv with runtime := (sv.runtime.step i).1 }, (sv.runtime.step i).2)
  if sv.phase = .exited then (sv, [])
  else
    match i with
    | .watchdog _ => if sv.watchdogEnded then (sv, []) else run
    | _ => run

/-- `abort` of the two source tasks: each is dropped with what it holds, and with its sender. -/
def abortSources (rt : Runtime α B) : Runtime α B :=
  { rt with
    gpsIngest := { rt.gpsIngest with ended := true }
    imuIngest := { rt.imuIngest with ended := true }
    loop := { rt.loop with gpsRx := rt.loop.gpsRx.close, imuRx := rt.loop.imuRx.close } }

/-- A task ends in a panic. What it owned is dropped. -/
def panics (sv : Supervisor α B) (c : Casualty) : Supervisor α B :=
  let rt := sv.runtime
  let fell (rt : Runtime α B) : Supervisor α B :=
    { sv with runtime := rt, panicked := c :: sv.panicked }
  match c with
  | .gpsIngest =>
    if rt.gpsIngest.ended then sv
    else
      fell { rt with
        gpsIngest := { rt.gpsIngest with ended := true }
        loop := { rt.loop with gpsRx := rt.loop.gpsRx.close } }
  | .imuIngest =>
    if rt.imuIngest.ended then sv
    else
      fell { rt with
        imuIngest := { rt.imuIngest with ended := true }
        loop := { rt.loop with imuRx := rt.loop.imuRx.close } }
  | .fusion =>
    if rt.fusionEnded then sv
    -- it takes no branch again
    else fell { rt with loop := { rt.loop with imuOpen := false, gpsOpen := false } }
  | .action => if rt.actionEnded then sv else fell { rt with actionEnded := true }
  | .watchdog =>
    if sv.watchdogEnded then sv
    else { sv with watchdogEnded := true, panicked := c :: sv.panicked }
  | .background place =>
    -- the set keeps it like one that has returned
    if place < rt.pendingBg.length then
      { sv with runtime := { rt with
          pendingBg := rt.pendingBg.eraseIdx place
          finishedBg := rt.finishedBg + 1 } }
    else sv

/-- The `select!` returns. -/
def select (sv : Supervisor α B) (e : Exit) : Supervisor α B :=
  if sv.phase = .supervising ∧ sv.ready e = true then
    { sv with runtime := abortSources sv.runtime, phase := .awaitingFusion, exit := some e }
  else sv

/-- The producers that are left are stopped, and the last sender dropped. -/
def dropSenders (sv : Supervisor α B) (now : Instant) : Supervisor α B :=
  { sv with
    runtime := { sv.runtime with events := Broadcast.close sv.runtime.events }
    watchdogEnded := true
    phase := .flushing (now + flushTimeoutNs) }

/-- The main task goes on from where it waits. -/
def main (sv : Supervisor α B) (now : Instant) : Supervisor α B :=
  match sv.phase with
  | .supervising | .exited => sv
  | .awaitingFusion =>
    if sv.runtime.fusionEnded then { sv with phase := .draining (now + drainTimeoutNs) } else sv
  | .draining deadline =>
    let left := sv.runtime.pendingBg.length + sv.runtime.finishedBg
    if left = 0 then sv.dropSenders now
    else if deadline ≤ now then
      { sv with
        runtime := { sv.runtime with pendingBg := [], finishedBg := 0 }
        aborted := left }.dropSenders now
    else if 0 < sv.runtime.finishedBg then
      -- `join_next` has one that has ended
      { sv with
        runtime := { sv.runtime with finishedBg := sv.runtime.finishedBg - 1 }
        completed := sv.completed + 1 }
    else sv
  | .flushing deadline =>
    if sv.runtime.actionEnded then { sv with phase := .exited }
    else if deadline ≤ now then
      { sv with
        runtime := { sv.runtime with actionEnded := true }
        cutShort := true
        phase := .exited }
    else sv

def step (sv : Supervisor α B) : SupervisorInput α → Supervisor α B × List (RuntimeOutput α)
  | .task i => sv.task i
  | .panics c => (sv.panics c, [])
  | .select e => (sv.select e, [])
  | .main now => (sv.main now, [])

end Supervisor

end FlyingSquirrel

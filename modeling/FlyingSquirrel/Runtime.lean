import FlyingSquirrel.Fusion.Loop
import FlyingSquirrel.Fusion.Config
import FlyingSquirrel.Lib.Broadcast

/-!
# The tasks and their channels (`runtime.rs`)

`spawn_all` starts the tasks of the process: one for each source, which pulls the source's
stream and passes on what it yields, the fusion loop, and one that hands every event to the
flight controller. Bounded channels lead to the loop, and a broadcast channel away from it. A
task that finds its channel full waits, and pulls nothing meanwhile. The broadcast channel is the
async crate's, and a parameter.

The reset channel has two senders, which the binary holds: the handler of the operator's signal
and the handles `spawn_all` returns. The second lives as long as the process, so the channel
stays open.

A step of the runtime is a step of one task, or something the world does to one; a run is any
interleaving of them.
-/

set_option autoImplicit false

namespace FlyingSquirrel

open Lib

/-! ## A task that passes on -/

/-- A task that pulls a stream and sends what it yields. -/
structure Ingest (μ : Type) where
  /-- What `next` will answer, as far as it is known: an item, an error as its text, or, with
      `none`, the stream's end. -/
  ready : List (Option (Except String μ))
  /-- The item pulled and not yet sent. -/
  inHand : Option μ
  ended : Bool

namespace Ingest

variable {μ : Type}

def spawn : Ingest μ := ⟨[], none, false⟩

/-- What an answer of `next` brings the channel, if anything. -/
def item? : Option (Except String μ) → Option μ
  | some (.ok m) => some m
  | some (.error _) | none => none

/-- Everything on its way to the channel. -/
def held (task : Ingest μ) : List μ := task.inHand.toList ++ task.ready.filterMap item?

def yields (task : Ingest μ) (answer : Option (Except String μ)) : Ingest μ :=
  { task with ready := task.ready ++ [answer] }

/-- One poll, at a channel for `cap` messages. The task ends with its stream, or on a send to a
    receiver that is gone, and its sender is dropped with it. -/
def poll (cap : Nat) (receiverGone : Bool) (task : Ingest μ) (tx : Chan μ) :
    Ingest μ × Chan μ :=
  if task.ended then (task, tx)
  else
    match task.inHand with
    | some m =>
      if receiverGone then ({ task with ended := true }, tx.close)
      else if tx.queue.length < cap then ({ task with inHand := none }, tx.send m)
      else (task, tx)
    | none =>
      match task.ready with
      | some (.ok m) :: ready => ({ task with ready := ready, inHand := some m }, tx)
      -- an error is logged, and the stream goes on
      | some (.error _) :: ready => ({ task with ready := ready }, tx)
      | none :: ready => ({ task with ready := ready, ended := true }, tx.close)
      | [] => (task, tx)

end Ingest

/-! ## The runtime -/

/-- What a run of the fusion task leaves for others: an event to send. -/
def Output.event? {α : Type} : Output α → Option (SpoofingEvent α)
  | .event e => some e
  | .call _ | .spawn _ => none

/-- What a run of the fusion task leaves for others: a task for `pending_bg`. -/
def Output.task? {α : Type} : Output α → Option (BgTask α)
  | .spawn task => some task
  | .event _ | .call _ => none

/-- The task can end this way. -/
def BgTask.endsAs {α : Type} : BgTask α → BgDone → Bool
  | .forensicDump _, .dumpWritten _ _ => true
  | .forensicDump _, .dumpFailed _ => true
  | .verifySever t state, .sever t' state' _ => decide (t = t') && decide (state = state')
  | .verifyRtb t state, .rtb t' state' _ => decide (t = t') && decide (state = state')
  | _, _ => false

/-- The tasks `spawn_all` started, with the channels between them. -/
structure Runtime (α B : Type) where
  gpsIngest : Ingest (GpsFix α)
  imuIngest : Ingest (ImuSample α)
  /-- `spawn_reset_signal_handler`: its stream is the operator's signal. -/
  resetHandler : Ingest Unit
  /-- The fusion task, with the channels it receives from. -/
  loop : Loop α
  /-- The channel of events, as the action task's receiver sees it. -/
  events : B
  actionEnded : Bool
  /-- The background tasks that run. -/
  pendingBg : List (BgTask α)
  /-- How many have ended and have not been joined: the set keeps them until the drain. -/
  finishedBg : Nat

inductive RuntimeInput (α : Type)
  | gpsYields (answer : Option (Except String (GpsFix α)))
  | imuYields (answer : Option (Except String (ImuSample α)))
  /-- The operator's signal. -/
  | hangup
  | pollGps
  | pollImu
  | pollReset
  | pollFusion (env : Env α)
  | background (now : Instant) (done : BgDone)
  /-- The heartbeat watchdog sends on the same channel. -/
  | watchdog (e : SpoofingEvent α)
  | pollAction

def RuntimeInput.watchdog? {α : Type} : RuntimeInput α → Option (SpoofingEvent α)
  | .watchdog e => some e
  | _ => none

inductive RuntimeOutput (α : Type)
  | fusion (o : Output α)
  | watchdog (e : SpoofingEvent α)
  /-- What the action task received: `on_event` of an event, a warning, or its end. -/
  | action (answer : Received (SpoofingEvent α))

def RuntimeOutput.fusion? {α : Type} : RuntimeOutput α → Option (Output α)
  | .fusion o => some o
  | .watchdog _ | .action _ => none

/-- What is sent on the broadcast channel. -/
def RuntimeOutput.sent? {α : Type} : RuntimeOutput α → Option (SpoofingEvent α)
  | .fusion o => o.event?
  | .watchdog e => some e
  | .action _ => none

def RuntimeOutput.watchdog? {α : Type} : RuntimeOutput α → Option (SpoofingEvent α)
  | .watchdog e => some e
  | .fusion _ | .action _ => none

def RuntimeOutput.answer? {α : Type} : RuntimeOutput α → Option (Received (SpoofingEvent α))
  | .action answer => some answer
  | .fusion _ | .watchdog _ => none

/-- The optional forensic-dump configuration. -/
structure ForensicCfg (α : Type) where
  windowS : α

namespace ForensicCfg

variable {α : Type} [Zero α] [OfScientific α] [LT α] [LE α] [DecidableLT α] [DecidableLE α]
  [FiniteTest α]

def checks (fc : ForensicCfg α) : List (Check α) :=
  [⟨isFinite fc.windowS, [.text "forensic.window_s must be finite (got ", .num fc.windowS,
      .text ")"]⟩,
    ⟨!decide (fc.windowS ≤ 0), [.text "forensic.window_s must be > 0 (got ", .num fc.windowS,
      .text ")"]⟩,
    ⟨!decide (fc.windowS > 3600.0), [.text "forensic.window_s must be <= 3600s (got ",
      .num fc.windowS,
      .text ("); larger values are almost certainly a typo and would blow ring buffer " ++
        "memory")]⟩]

def validate (fc : ForensicCfg α) : Except (Message α) Unit := runChecks fc.checks

end ForensicCfg

namespace Runtime

section Start

variable {α : Type} (B : Type) [Broadcast B (SpoofingEvent α)]

/-- The capacity of each channel. -/
def gpsCap : Nat := 64
def imuCap : Nat := 256
def resetCap : Nat := 4
def eventsCap : Nat := 32

/-- The tasks as they are started, with `f` in the fusion task. -/
def start (f : Fusion α) : Runtime α B where
  gpsIngest := .spawn
  imuIngest := .spawn
  resetHandler := .spawn
  loop := .start f
  events := Broadcast.create eventsCap
  actionEnded := false
  pendingBg := []
  finishedBg := 0

end Start

variable {α : Type} [Zero α] [One α] [Neg α] [Add α] [Sub α] [Mul α] [Div α] [NatCast α]
  [OfScientific α] [LT α] [LE α] [DecidableLT α] [DecidableLE α] [BEq α] [Max α] [Min α]
  [Libm α] [FiniteTest α] [Nalgebra α] {B : Type} [Broadcast B (SpoofingEvent α)]

/-- The fusion task `spawn_all` builds, with the monitor and the forensic buffer it is given. -/
def fusionTask (cfg : FusionConfig α) (mavPreflight : Option Nat)
    (forensicCfg : Option (ForensicCfg α)) (boot : Instant) : Fusion α :=
  let fusion := Fusion.new cfg boot
  let fusion := match mavPreflight with
    | some expectedAutopilot => fusion.withMavMonitor expectedAutopilot
    | none => fusion
  match forensicCfg with
  | some fc => fusion.withForensic fc.windowS cfg.maxImuRateHz
  | none => fusion

/-- `spawn_all`: nothing is started on a degenerate configuration. -/
def spawnAll (cfg : FusionConfig α) (mavPreflight : Option Nat)
    (forensicCfg : Option (ForensicCfg α)) (boot : Instant) : Except (Message α) (Runtime α B) :=
  match cfg.validate with
  | .error msg => .error (.text "invalid FusionConfig: " :: msg)
  | .ok () =>
    match forensicCfg.elim (.ok ()) ForensicCfg.validate with
    | .error msg => .error (.text "invalid ForensicCfg: " :: msg)
    | .ok () => .ok (start B (fusionTask cfg mavPreflight forensicCfg boot))

/-- The fusion task has returned, and its receivers are gone. -/
def fusionEnded (rt : Runtime α B) : Bool := !rt.loop.running

/-- What a stretch of the fusion task, or of one of its background tasks, does to the rest. -/
def absorb (rt : Runtime α B) (x : Loop α × List (Output α)) :
    Runtime α B × List (RuntimeOutput α) :=
  ({ rt with
      loop := x.1
      events := Broadcast.sendAll rt.events (x.2.filterMap Output.event?)
      pendingBg := rt.pendingBg ++ x.2.filterMap Output.task? },
    x.2.map .fusion)

/-- The action task: every event goes to the flight controller. -/
def pollAction (rt : Runtime α B) : Runtime α B × List (RuntimeOutput α) :=
  if rt.actionEnded then (rt, [])
  else
    match Broadcast.recv rt.events with
    | none => (rt, [])
    | some (answer, events) =>
      ({ rt with events := events, actionEnded := answer.isClosed }, [.action answer])

def step (rt : Runtime α B) : RuntimeInput α → Runtime α B × List (RuntimeOutput α)
  | .gpsYields answer => ({ rt with gpsIngest := rt.gpsIngest.yields answer }, [])
  | .imuYields answer => ({ rt with imuIngest := rt.imuIngest.yields answer }, [])
  | .hangup => ({ rt with resetHandler := rt.resetHandler.yields (some (.ok ())) }, [])
  | .pollGps =>
    let (task, rx) := rt.gpsIngest.poll gpsCap rt.fusionEnded rt.loop.gpsRx
    ({ rt with gpsIngest := task, loop := { rt.loop with gpsRx := rx } }, [])
  | .pollImu =>
    let (task, rx) := rt.imuIngest.poll imuCap rt.fusionEnded rt.loop.imuRx
    ({ rt with imuIngest := task, loop := { rt.loop with imuRx := rx } }, [])
  | .pollReset =>
    let (task, rx) := rt.resetHandler.poll resetCap rt.fusionEnded rt.loop.resetRx
    -- the handles hold another sender
    ({ rt with resetHandler := task,
               loop := { rt.loop with resetRx := { rx with closed := false } } }, [])
  | .pollFusion env => rt.absorb (rt.loop.step (.iterate env))
  | .background now done =>
    if rt.pendingBg.any (·.endsAs done) then
      { rt with
        pendingBg := rt.pendingBg.eraseP (·.endsAs done)
        finishedBg := rt.finishedBg + 1 }.absorb (rt.loop.step (.background now done))
    else (rt, [])
  | .watchdog e => ({ rt with events := Broadcast.send rt.events e }, [.watchdog e])
  | .pollAction => rt.pollAction

end Runtime

end FlyingSquirrel

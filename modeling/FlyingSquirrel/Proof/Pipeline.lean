import FlyingSquirrel.Lib.Flow
import FlyingSquirrel.Proof.Latch
import FlyingSquirrel.Proof.Reconnect
import FlyingSquirrel.Runtime

/-!
# What reaches the detector, and what leaves it

Sources, channels and tasks interleave freely, and the fusion task sees one sequence of inputs.
**It is the sources' items, each source's in order, none lost and none twice**: what a source
has yielded is what was taken, then what is queued, then what its task holds. And the fusion
state is that of the step machine on what was taken, so that what holds of every run of
`Fusion.step` holds of the process.

A channel's two ends are followed as a `LaneStep`, one case for each thing a step can do to it.
-/

set_option autoImplicit false

namespace FlyingSquirrel

open Lib

/-! ## One channel -/

namespace Ingest

variable {μ : Type} {cap : Nat} {gone : Bool} {task : Ingest μ} {tx : Chan μ}

theorem held_yields (answer : Option (Except String μ)) :
    (task.yields answer).held = task.held ++ (item? answer).toList := by
  unfold held yields
  rw [List.filterMap_append, ← List.append_assoc]
  cases h : item? answer <;> simp [h]

/-- A poll moves an item on, and loses none. -/
theorem poll_held (hopen : task.ended = false → tx.closed = false) :
    (task.poll cap gone tx).2.queue ++ (task.poll cap gone tx).1.held =
      tx.queue ++ task.held := by
  unfold poll
  split
  · rfl
  · rename_i hrun
    split
    · rename_i m hm
      split
      · rfl
      · split
        · show (tx.send m).queue ++ (none.toList ++ _) = _
          unfold Chan.send held
          rw [hopen (Bool.eq_false_iff.mpr hrun), hm]
          simp
        · rfl
    · rename_i hm
      split <;> rename_i hr
      · simp [held, hm, hr, item?]
      · simp [held, hm, hr, List.filterMap_cons, item?]
      · simp [held, hm, hr, List.filterMap_cons, item?, Chan.close]
      · rfl

/-- The channel is open while its sender's task runs. -/
theorem poll_ended (h : tx.closed = task.ended) :
    (task.poll cap gone tx).2.closed = (task.poll cap gone tx).1.ended := by
  unfold poll
  split
  · exact h
  · rename_i hrun
    have hopen : tx.closed = false := h.trans (Bool.eq_false_iff.mpr hrun)
    split
    · split
      · rfl
      · split
        · show (tx.send _).closed = task.ended
          unfold Chan.send
          rw [if_neg (by simp [hopen])]
          exact h
        · exact h
    · split
      · exact h
      · exact h
      · rfl
      · exact h

theorem poll_room (h : tx.queue.length ≤ cap) :
    (task.poll cap gone tx).2.queue.length ≤ cap := by
  unfold poll
  split
  · exact h
  · split
    · split
      · exact h
      · split
        · rename_i hlt
          unfold Chan.send
          split
          · exact h
          · rw [List.length_append, List.length_singleton]
            exact hlt
        · exact h
    · split <;> exact h

end Ingest

/-- The channel is open while a sender is there: the task's, or, if it is `shared`, another. -/
def Attached {μ : Type} (shared : Bool) (task : Ingest μ) (tx : Chan μ) : Prop :=
  tx.closed = (!shared && task.ended)

/-- What a step can do to a channel and the task that sends on it: what arrived at the task, and
    what left the channel. -/
inductive LaneStep {μ : Type} (shared : Bool) (cap : Nat) (task : Ingest μ) (tx : Chan μ) :
    List μ → Option μ → Ingest μ → Chan μ → Prop
  | still : LaneStep shared cap task tx [] none task tx
  | yields (answer : Option (Except String μ)) :
      LaneStep shared cap task tx (Ingest.item? answer).toList none (task.yields answer) tx
  | poll (gone : Bool) :
      LaneStep shared cap task tx [] none (task.poll cap gone tx).1
        { (task.poll cap gone tx).2 with
          closed := !shared && (task.poll cap gone tx).2.closed }
  | take {m : μ} {queue : List μ} (h : tx.queue = m :: queue) :
      LaneStep shared cap task tx [] (some m) task { tx with queue := queue }

namespace LaneStep

variable {μ : Type} {shared : Bool} {cap : Nat} {task task' : Ingest μ} {tx tx' : Chan μ}
  {arrives : List μ} {leaves : Option μ}

/-- **Nothing is lost on the way.** -/
theorem conserves (h : LaneStep shared cap task tx arrives leaves task' tx')
    (hopen : Attached shared task tx) :
    (tx.queue ++ task.held) ++ arrives = leaves.toList ++ (tx'.queue ++ task'.held) := by
  cases h with
  | still => rw [List.append_nil]; rfl
  | yields answer => rw [Ingest.held_yields, List.append_assoc]; rfl
  | poll gone =>
    have hrun : task.ended = false → tx.closed = false := fun h => by
      rw [hopen, h, Bool.and_false]
    rw [List.append_nil]
    exact (Ingest.poll_held hrun).symm
  | take h => rw [List.append_nil, h]; rfl

theorem attached (h : LaneStep shared cap task tx arrives leaves task' tx')
    (hopen : Attached shared task tx) : Attached shared task' tx' := by
  cases h with
  | still => exact hopen
  | yields answer => exact hopen
  | poll gone =>
    unfold Attached at hopen ⊢
    cases shared with
    | true => rfl
    | false => exact Ingest.poll_ended hopen
  | take h => exact hopen

theorem room (h : LaneStep shared cap task tx arrives leaves task' tx')
    (hroom : tx.queue.length ≤ cap) : tx'.queue.length ≤ cap := by
  cases h with
  | still => exact hroom
  | yields answer => exact hroom
  | poll gone => exact Ingest.poll_room hroom
  | take h =>
    rw [h, List.length_cons] at hroom
    exact Nat.le_of_succ_le hroom

/-- A task that has ended sends nothing more. -/
theorem stopped (h : LaneStep shared cap task tx arrives leaves task' tx')
    (hended : task.ended = true) :
    task'.ended = true ∧ tx.queue = leaves.toList ++ tx'.queue := by
  cases h with
  | still => exact ⟨hended, rfl⟩
  | yields answer => exact ⟨hended, rfl⟩
  | poll gone =>
    unfold Ingest.poll
    rw [if_pos hended]
    exact ⟨hended, rfl⟩
  | take h => exact ⟨hended, h⟩

end LaneStep

/-! ## A turn of the loop -/

/-- A receiver that is read while `isOpen` has nothing to answer. -/
def Waiting {μ : Type} (isOpen : Bool) (rx : Chan μ) : Prop :=
  isOpen = false ∨ (rx.queue = [] ∧ rx.closed = false)

theorem recv_cases {μ : Type} (isOpen : Bool) (rx : Chan μ) :
    ((if isOpen then rx.recv else none) = none ∧ Waiting isOpen rx) ∨
      (∃ m queue, (if isOpen then rx.recv else none) = some (some m) ∧ isOpen = true ∧
        rx.queue = m :: queue) ∨
      ((if isOpen then rx.recv else none) = some none ∧ isOpen = true ∧ rx.queue = [] ∧
        rx.closed = true) := by
  cases isOpen with
  | false => exact .inl ⟨rfl, .inl rfl⟩
  | true =>
    unfold Chan.recv
    cases hq : rx.queue with
    | cons m queue => exact .inr (.inl ⟨m, queue, rfl, rfl, rfl⟩)
    | nil =>
      cases hc : rx.closed with
      | true => exact .inr (.inr ⟨rfl, rfl, rfl, rfl⟩)
      | false => exact .inl ⟨rfl, .inr ⟨hq, hc⟩⟩

namespace Loop

variable {α : Type} [Zero α] [One α] [Neg α] [Add α] [Sub α] [Mul α] [Div α] [NatCast α]
  [OfScientific α] [LT α] [LE α] [DecidableLT α] [DecidableLE α] [BEq α] [Max α] [Min α]
  [Libm α] [FiniteTest α] [Nalgebra α]

/-- What an iteration takes from the channels, and what input of the fusion step it makes. -/
inductive Turn (l : Loop α) (env : Env α) : Loop α → Option (Input α) → Prop
  | idle (h : l.running = false ∨ (Waiting l.imuOpen l.imuRx ∧ Waiting l.gpsOpen l.gpsRx)) :
      Turn l env l none
  | imu {f : Fusion α} {m : ImuSample α} {queue : List (ImuSample α)} (hopen : l.imuOpen = true)
      (hq : l.imuRx.queue = m :: queue) :
      Turn l env { l with fusion := f, imuRx := { l.imuRx with queue := queue } } (some (.imu m))
  | imuEnd (hopen : l.imuOpen = true) (hq : l.imuRx.queue = []) (hclosed : l.imuRx.closed = true) :
      Turn l env { l with imuOpen := false } none
  | gps {f : Fusion α} {m : GpsFix α} {queue : List (GpsFix α)}
      (himu : Waiting l.imuOpen l.imuRx) (hopen : l.gpsOpen = true)
      (hq : l.gpsRx.queue = m :: queue) :
      Turn l env { l with fusion := f, gpsRx := { l.gpsRx with queue := queue } }
        (some (.gps m env))
  | gpsEnd (himu : Waiting l.imuOpen l.imuRx) (hopen : l.gpsOpen = true)
      (hq : l.gpsRx.queue = []) (hclosed : l.gpsRx.closed = true) :
      Turn l env { l with gpsOpen := false } none
  | reset {f : Fusion α} {queue : List Unit} (hrun : l.running = true)
      (himu : Waiting l.imuOpen l.imuRx) (hgps : Waiting l.gpsOpen l.gpsRx)
      (hq : l.resetRx.queue = () :: queue) :
      Turn l env { l with fusion := f, resetRx := { l.resetRx with queue := queue } }
        (some (.reset env.now))
  | resetEnd {f : Fusion α} (hrun : l.running = true) (himu : Waiting l.imuOpen l.imuRx)
      (hgps : Waiting l.gpsOpen l.gpsRx) (hclosed : l.resetRx.closed = true) :
      Turn l env { l with fusion := f, resetRx := l.resetRx.rest } (some (.reset env.now))

theorem iterate_turn (l : Loop α) (env : Env α) :
    Turn l env (l.step (.iterate env)).1 (l.fusionInput (.iterate env)) := by
  unfold step iterate fusionInput
  cases hrun : l.running with
  | false => exact .idle (.inl hrun)
  | true =>
    unfold select
    rcases recv_cases l.imuOpen l.imuRx with
      ⟨hr, himu⟩ | ⟨m, queue, hr, hopen, hq⟩ | ⟨hr, hopen, hq, hclosed⟩
    · rw [hr]
      rcases recv_cases l.gpsOpen l.gpsRx with
        ⟨hr, hgps⟩ | ⟨m, queue, hr, hopen, hq⟩ | ⟨hr, hopen, hq, hclosed⟩
      · rw [hr]
        have hreset := recv_cases true l.resetRx
        rw [if_pos rfl] at hreset
        rcases hreset with ⟨hr, -⟩ | ⟨m, queue, hr, -, hq⟩ | ⟨hr, -, -, hclosed⟩
        · rw [hr]
          exact .idle (.inr ⟨himu, hgps⟩)
        · rw [hr]
          have hturn : Turn l env { l with
              fusion := (l.fusion.operatorReset env.now).1
              resetRx := { l.resetRx with queue := queue } } _ := .reset hrun himu hgps hq
          simpa [takeBranch, Chan.rest, hq, Branch.input] using hturn
        · rw [hr]
          exact .resetEnd hrun himu hgps hclosed
      · rw [hr]
        have hturn : Turn l env { l with
            fusion := (l.fusion.onGps env m).1
            gpsRx := { l.gpsRx with queue := queue } } _ := .gps himu hopen hq
        simpa [takeBranch, Chan.rest, hq, Branch.input] using hturn
      · rw [hr]
        exact .gpsEnd himu hopen hq hclosed
    · rw [hr]
      have hturn : Turn l env { l with
          fusion := l.fusion.onImu m
          imuRx := { l.imuRx with queue := queue } } _ := .imu hopen hq
      simpa [takeBranch, Chan.rest, hq, Branch.input] using hturn
    · rw [hr]
      exact .imuEnd hopen hq hclosed

end Loop

/-! ## The runtime's channels -/

/-- What an input of the fusion step came in as. -/
def Input.fix? {α : Type} : Input α → Option (GpsFix α)
  | .gps fix _ => some fix
  | _ => none

def Input.sample? {α : Type} : Input α → Option (ImuSample α)
  | .imu sample => some sample
  | _ => none

def Input.reset? {α : Type} : Input α → Option Unit
  | .reset _ => some ()
  | _ => none

/-- What the world brings to a source's task, or the operator to the signal handler. -/
def RuntimeInput.fix? {α : Type} : RuntimeInput α → Option (GpsFix α)
  | .gpsYields answer => Ingest.item? answer
  | _ => none

def RuntimeInput.sample? {α : Type} : RuntimeInput α → Option (ImuSample α)
  | .imuYields answer => Ingest.item? answer
  | _ => none

def RuntimeInput.hangup? {α : Type} : RuntimeInput α → Option Unit
  | .hangup => some ()
  | _ => none

namespace Runtime

variable {α : Type} [Zero α] [One α] [Neg α] [Add α] [Sub α] [Mul α] [Div α] [NatCast α]
  [OfScientific α] [LT α] [LE α] [DecidableLT α] [DecidableLE α] [BEq α] [Max α] [Min α]
  [Libm α] [FiniteTest α] [Nalgebra α] {B : Type} [Broadcast B (SpoofingEvent α)]

/-- The input of the fusion step that a step of the runtime amounts to, if any. -/
def fusionInput (rt : Runtime α B) : RuntimeInput α → Option (Input α)
  | .pollFusion env => rt.loop.fusionInput (.iterate env)
  | .background now done =>
    if rt.pendingBg.any (·.endsAs done) then some (.background now done) else none
  | _ => none

/-- The inputs of the fusion step that a run amounts to. -/
def taken (rt : Runtime α B) (is : List (RuntimeInput α)) : List (Input α) :=
  notes step fusionInput rt is

theorem absorb_fusion {α : Type} {B : Type} [Broadcast B (SpoofingEvent α)]
    (rt : Runtime α B) (x : Loop α × List (Output α)) :
    (rt.absorb x).2.filterMap RuntimeOutput.fusion? = x.2 := by
  unfold absorb
  rw [List.filterMap_map]
  exact List.filterMap_some

/-- **The process runs the fusion step**, on what was taken. -/
theorem run_fusion (rt : Runtime α B) (is : List (RuntimeInput α)) :
    (run step rt is).loop.fusion = run Fusion.step rt.loop.fusion (rt.taken is) ∧
      (outputs step rt is).filterMap RuntimeOutput.fusion? =
        outputs Fusion.step rt.loop.fusion (rt.taken is) := by
  refine run_within (fun rt => rt.loop.fusion) ?_ ?_ rt is
  · intro rt i j hj
    cases i with
    | pollFusion env =>
      obtain ⟨hf, ho⟩ := Loop.step_fusion_some (l := rt.loop) (i := .iterate env) hj
      exact ⟨hf, (absorb_fusion rt _).trans ho⟩
    | background now done =>
      dsimp only [fusionInput] at hj
      split at hj
      · rename_i hany
        obtain rfl := Option.some.inj hj
        dsimp only [step]
        rw [if_pos hany]
        exact ⟨rfl, absorb_fusion _ _⟩
      · exact absurd hj (by simp)
    | _ => exact absurd hj (by simp [fusionInput])
  · intro rt i hj
    cases i with
    | pollFusion env =>
      obtain ⟨hf, ho⟩ := Loop.step_fusion_none (l := rt.loop) (i := .iterate env) hj
      exact ⟨hf, (absorb_fusion rt _).trans ho⟩
    | background now done =>
      dsimp only [fusionInput] at hj
      split at hj
      · exact absurd hj (by simp)
      · rename_i hany
        dsimp only [step]
        rw [if_neg hany]
        exact ⟨rfl, rfl⟩
    | pollAction =>
      show (rt.pollAction).1.loop.fusion = _ ∧ (rt.pollAction).2.filterMap _ = []
      unfold pollAction
      split
      · exact ⟨rfl, rfl⟩
      · split <;> exact ⟨rfl, rfl⟩
    | _ => exact ⟨rfl, rfl⟩

/-- What a step does to the three channels that lead to the loop. -/
structure Lanes (rt : Runtime α B) (i : RuntimeInput α) (rt' : Runtime α B)
    (j : Option (Input α)) : Prop where
  gps : LaneStep false gpsCap rt.gpsIngest rt.loop.gpsRx i.fix?.toList (j.bind Input.fix?)
    rt'.gpsIngest rt'.loop.gpsRx
  imu : LaneStep false imuCap rt.imuIngest rt.loop.imuRx i.sample?.toList (j.bind Input.sample?)
    rt'.imuIngest rt'.loop.imuRx
  reset : LaneStep true resetCap rt.resetHandler rt.loop.resetRx i.hangup?.toList
    (j.bind Input.reset?) rt'.resetHandler rt'.loop.resetRx

theorem lanes (rt : Runtime α B) (hreset : rt.loop.resetRx.closed = false) (i : RuntimeInput α) :
    Lanes rt i (step rt i).1 (rt.fusionInput i) := by
  cases i with
  | gpsYields answer => exact ⟨.yields answer, .still, .still⟩
  | imuYields answer => exact ⟨.still, .yields answer, .still⟩
  | hangup => exact ⟨.still, .still, .yields (some (.ok ()))⟩
  | pollGps => exact ⟨.poll rt.fusionEnded, .still, .still⟩
  | pollImu => exact ⟨.still, .poll rt.fusionEnded, .still⟩
  | pollReset => exact ⟨.still, .still, .poll rt.fusionEnded⟩
  | watchdog e => exact ⟨.still, .still, .still⟩
  | pollAction =>
    show Lanes rt .pollAction (rt.pollAction).1 none
    unfold pollAction
    split
    · exact ⟨.still, .still, .still⟩
    · split <;> exact ⟨.still, .still, .still⟩
  | background now done =>
    dsimp only [step, fusionInput]
    split <;> exact ⟨.still, .still, .still⟩
  | pollFusion env =>
    have hturn := rt.loop.iterate_turn env
    show Lanes rt (.pollFusion env) (rt.absorb (rt.loop.step (.iterate env))).1
      (rt.loop.fusionInput (.iterate env))
    unfold absorb
    generalize rt.loop.step (.iterate env) = x at hturn ⊢
    generalize rt.loop.fusionInput (.iterate env) = j at hturn ⊢
    obtain ⟨l, out⟩ := x
    cases hturn with
    | idle => exact ⟨.still, .still, .still⟩
    | imu hopen hq => exact ⟨.still, .take hq, .still⟩
    | imuEnd => exact ⟨.still, .still, .still⟩
    | gps himu hopen hq => exact ⟨.take hq, .still, .still⟩
    | gpsEnd => exact ⟨.still, .still, .still⟩
    | reset hrun himu hgps hq => exact ⟨.still, .still, .take hq⟩
    | resetEnd hrun himu hgps hclosed => exact absurd hclosed (by simp [hreset])

/-- The channels are open while their senders are there, and within their capacities. -/
structure Wired (rt : Runtime α B) : Prop where
  gps : Attached false rt.gpsIngest rt.loop.gpsRx
  imu : Attached false rt.imuIngest rt.loop.imuRx
  reset : Attached true rt.resetHandler rt.loop.resetRx
  gpsRoom : rt.loop.gpsRx.queue.length ≤ gpsCap
  imuRoom : rt.loop.imuRx.queue.length ≤ imuCap
  resetRoom : rt.loop.resetRx.queue.length ≤ resetCap

theorem Wired.start {α : Type} {B : Type} [Broadcast B (SpoofingEvent α)]
    (f : Fusion α) : Wired (start B f) where
  gps := rfl
  imu := rfl
  reset := rfl
  gpsRoom := Nat.zero_le _
  imuRoom := Nat.zero_le _
  resetRoom := Nat.zero_le _

theorem Wired.lanes {rt : Runtime α B} (h : Wired rt) (i : RuntimeInput α) :
    Lanes rt i (step rt i).1 (rt.fusionInput i) := rt.lanes h.reset i

theorem Wired.step {rt : Runtime α B} (h : Wired rt) (i : RuntimeInput α) :
    Wired (step rt i).1 where
  gps := (h.lanes i).gps.attached h.gps
  imu := (h.lanes i).imu.attached h.imu
  reset := (h.lanes i).reset.attached h.reset
  gpsRoom := (h.lanes i).gps.room h.gpsRoom
  imuRoom := (h.lanes i).imu.room h.imuRoom
  resetRoom := (h.lanes i).reset.room h.resetRoom

theorem Wired.run {rt : Runtime α B} (h : Wired rt) (is : List (RuntimeInput α)) :
    Wired (Lib.run Runtime.step rt is) := run_invariant (fun _ i hw => hw.step i) h is

/-! ## From the sources to the detector -/

/-- Everything a source has yielded that has not been taken yet. -/
def gpsHeld (rt : Runtime α B) : List (GpsFix α) := rt.loop.gpsRx.queue ++ rt.gpsIngest.held

def imuHeld (rt : Runtime α B) : List (ImuSample α) := rt.loop.imuRx.queue ++ rt.imuIngest.held

def resetHeld (rt : Runtime α B) : List Unit := rt.loop.resetRx.queue ++ rt.resetHandler.held

theorem Wired.fixes {rt : Runtime α B} (h : Wired rt) (is : List (RuntimeInput α)) :
    rt.gpsHeld ++ is.filterMap RuntimeInput.fix? =
      (rt.taken is).filterMap Input.fix? ++ (Lib.run Runtime.step rt is).gpsHeld := by
  unfold taken
  rw [notes_bind]
  exact conserved (fun _ i hw => hw.step i)
    (fun _ i hw => (hw.lanes i).gps.conserves hw.gps) h is

theorem Wired.samples {rt : Runtime α B} (h : Wired rt) (is : List (RuntimeInput α)) :
    rt.imuHeld ++ is.filterMap RuntimeInput.sample? =
      (rt.taken is).filterMap Input.sample? ++ (Lib.run Runtime.step rt is).imuHeld := by
  unfold taken
  rw [notes_bind]
  exact conserved (fun _ i hw => hw.step i)
    (fun _ i hw => (hw.lanes i).imu.conserves hw.imu) h is

theorem Wired.resets {rt : Runtime α B} (h : Wired rt) (is : List (RuntimeInput α)) :
    rt.resetHeld ++ is.filterMap RuntimeInput.hangup? =
      (rt.taken is).filterMap Input.reset? ++ (Lib.run Runtime.step rt is).resetHeld := by
  unfold taken
  rw [notes_bind]
  exact conserved (fun _ i hw => hw.step i)
    (fun _ i hw => (hw.lanes i).reset.conserves hw.reset) h is

theorem fusionTask_built {α : Type} [Zero α] [One α] [Mul α] [OfScientific α] [Libm α]
    (cfg : FusionConfig α) (mavPreflight : Option Nat)
    (forensicCfg : Option (ForensicCfg α)) (boot : Instant) :
    Fusion.Built cfg boot (fusionTask cfg mavPreflight forensicCfg boot) := by
  cases mavPreflight with
  | none =>
    cases forensicCfg with
    | none => exact .new
    | some fc => exact .withForensic .new fc.windowS cfg.maxImuRateHz
  | some expectedAutopilot =>
    cases forensicCfg with
    | none => exact .withMavMonitor .new expectedAutopilot
    | some fc =>
      exact .withForensic (.withMavMonitor .new expectedAutopilot) fc.windowS cfg.maxImuRateHz

/-- What `spawn_all` starts runs a fusion task of a configuration that passed its checks. -/
theorem spawnAll_ok {α : Type} [Zero α] [One α] [Mul α] [OfScientific α] [LT α] [LE α]
    [DecidableLT α] [DecidableLE α] [Libm α] [FiniteTest α] {B : Type}
    [Broadcast B (SpoofingEvent α)] {cfg : FusionConfig α} {mavPreflight : Option Nat}
    {forensicCfg : Option (ForensicCfg α)} {boot : Instant} {rt : Runtime α B}
    (h : spawnAll cfg mavPreflight forensicCfg boot = .ok rt) :
    cfg.validate = .ok () ∧ ∃ f, Fusion.Built cfg boot f ∧ rt = start B f := by
  unfold spawnAll at h
  split at h
  · exact absurd h (by simp)
  · rename_i hvalid
    split at h
    · exact absurd h (by simp)
    · exact ⟨hvalid, _, fusionTask_built cfg mavPreflight forensicCfg boot,
        (Except.ok.inj h).symm⟩

/-- **The detector is given what the sources yielded.** However the tasks interleave, the
    process is a run of the fusion step from a built state, on inputs whose fixes are those the
    receiver yielded, in order, up to those still queued or held by its task; likewise the
    samples; and no channel to the loop holds more than its capacity. -/
theorem delivers_sources {cfg : FusionConfig α} {mavPreflight : Option Nat}
    {forensicCfg : Option (ForensicCfg α)} {boot : Instant} {rt₀ : Runtime α B}
    (h : spawnAll cfg mavPreflight forensicCfg boot = .ok rt₀) (is : List (RuntimeInput α)) :
    let rt := run step rt₀ is
    (∃ f, Fusion.Built cfg boot f ∧ rt.loop.fusion = run Fusion.step f (rt₀.taken is) ∧
      (outputs step rt₀ is).filterMap RuntimeOutput.fusion? =
        outputs Fusion.step f (rt₀.taken is)) ∧
    is.filterMap RuntimeInput.fix? = (rt₀.taken is).filterMap Input.fix? ++ rt.gpsHeld ∧
    is.filterMap RuntimeInput.sample? = (rt₀.taken is).filterMap Input.sample? ++ rt.imuHeld ∧
    rt.loop.gpsRx.queue.length ≤ gpsCap ∧ rt.loop.imuRx.queue.length ≤ imuCap ∧
    rt.loop.resetRx.queue.length ≤ resetCap := by
  obtain ⟨-, f, hf, rfl⟩ := spawnAll_ok h
  have hw := Wired.start (B := B) f
  obtain ⟨hrun, hout⟩ := run_fusion (start B f) is
  exact ⟨⟨f, hf, hrun, hout⟩, hw.fixes is, hw.samples is, (hw.run is).gpsRoom,
    (hw.run is).imuRoom, (hw.run is).resetRoom⟩

/-- The channel of events, in the runs below. -/
abbrev EventRing : Type := RingChannel (SpoofingEvent ℚ)

/-- A receiver that gives one fix, an error and its end, between polls of the tasks. -/
def oneFix : List (RuntimeInput ℚ) :=
  [.gpsYields (some (.ok (fixAt 95 0))), .imuYields (some (.ok (levelSample 0))), .pollGps,
    .pollImu, .gpsYields (some (.error "busy")), .pollGps, .pollFusion quietEnv, .gpsYields none,
    .pollGps, .pollGps]

theorem spawnAll_quick : spawnAll quickCfg none (some ⟨60⟩) 0 =
    .ok (start EventRing (fusionTask quickCfg none (some ⟨60⟩) 0)) := by
  have hcfg : quickCfg.validate = .ok () := runChecks_ok.mpr (by decide +kernel)
  have hfc : ForensicCfg.validate (⟨60⟩ : ForensicCfg ℚ) = .ok () :=
    runChecks_ok.mpr (by decide +kernel)
  unfold spawnAll
  rw [hcfg]
  dsimp only [Option.elim]
  rw [hfc]

theorem delivers_sources_oneFix :
    let rt₀ := start EventRing (fusionTask quickCfg none (some ⟨60⟩) 0)
    oneFix.filterMap RuntimeInput.fix? =
      (rt₀.taken oneFix).filterMap Input.fix? ++ (run step rt₀ oneFix).gpsHeld :=
  (delivers_sources spawnAll_quick oneFix).2.1

/-- **The detector is given what came over the wire.** Where the receiver's task pulls the serial
    source, and the connections of the source have streams within the cap and have ended: the
    fixes the detector has taken, and then those on their way to it, are but for their stamps the
    decoding of every stream, one after another. -/
theorem detector_sees_wire {P : Type} (N : NmeaCrate P α) {cfg : FusionConfig α}
    {mavPreflight : Option Nat} {forensicCfg : Option (ForensicCfg α)} {boot : Instant}
    {rt₀ : Runtime α B} (h : spawnAll cfg mavPreflight forensicCfg boot = .ok rt₀)
    (sessions : List SerialGpsSource.Session) (hcomplete : ∀ s ∈ sessions, s.Complete N)
    (is : List (RuntimeInput α))
    (hsource : is.filterMap RuntimeInput.fix? = SerialGpsSource.yielded
      (outputs (SerialGpsSource.step N) .new (sessions.flatMap SerialGpsSource.Session.inputs))) :
    ((rt₀.taken is).filterMap Input.fix? ++ (run step rt₀ is).gpsHeld).map GpsFix.untimed =
      sessions.flatMap (SerialGpsSource.Session.decoded N) := by
  obtain ⟨-, f, -, rfl⟩ := spawnAll_ok h
  have hfixes := (Wired.start (B := B) f).fixes is
  rw [← hfixes, ← SerialGpsSource.run_sessions N (x := .new) rfl sessions hcomplete, ← hsource]
  rfl

/-- The receiver's task is given what the source yields, and polled. -/
def onWire (fixes : List (GpsFix ℚ)) : List (RuntimeInput ℚ) :=
  fixes.flatMap fun fix => [.gpsYields (some (.ok fix)), .pollGps, .pollGps, .pollFusion quietEnv]

theorem onWire_fixes (fixes : List (GpsFix ℚ)) :
    (onWire fixes).filterMap RuntimeInput.fix? = fixes := by
  induction fixes with
  | nil => rfl
  | cons fix fixes ih => exact congrArg (fix :: ·) ih

theorem detector_sees_wire_brokenOff :
    let rt₀ := start EventRing (fusionTask quickCfg none (some ⟨60⟩) 0)
    let is := onWire (SerialGpsSource.yielded (outputs (SerialGpsSource.step Connection.receiver)
      .new (SerialGpsSource.brokenOff.flatMap SerialGpsSource.Session.inputs)))
    ((rt₀.taken is).filterMap Input.fix? ++ (run step rt₀ is).gpsHeld).map GpsFix.untimed =
      SerialGpsSource.brokenOff.flatMap (SerialGpsSource.Session.decoded Connection.receiver) :=
  detector_sees_wire Connection.receiver spawnAll_quick SerialGpsSource.brokenOff
    SerialGpsSource.brokenOff_complete _ (onWire_fixes _)

/-! ## The latch in the process -/

/-- The step takes the detector out of Spoofed. -/
def unlatches (rt : Runtime α B) (i : RuntimeInput α) : Option Unit :=
  if rt.loop.fusion.fsm.state = .spoofed ∧ (step rt i).1.loop.fusion.fsm.state ≠ .spoofed then
    some ()
  else none

theorem reset_of_unlatches {rt : Runtime α B} {i : RuntimeInput α}
    (h : rt.unlatches i = some ()) : (rt.fusionInput i).bind Input.reset? = some () := by
  unfold unlatches at h
  split at h
  · rename_i hleave
    obtain ⟨hs, hleft⟩ := hleave
    -- the runtime's step is a fusion step, and only one input of it leaves Spoofed
    have hone := (run_fusion rt [i]).1
    unfold taken at hone
    rw [notes, notes, List.append_nil] at hone
    cases hj : rt.fusionInput i with
    | none =>
      rw [hj] at hone
      exact absurd (hone ▸ hs) hleft
    | some j =>
      rw [hj] at hone
      have hleft' : (Fusion.step rt.loop.fusion j).1.fsm.state ≠ .spoofed := fun h =>
        hleft ((congrArg (·.fsm.state) hone).trans h)
      obtain ⟨now, rfl⟩ := (Fusion.step_leaves_spoofed hs j).mp hleft'
      rfl
  · exact absurd h (by simp)

/-- **In the process, only the operator takes the detector out of Spoofed.** However often and
    however late it gets there, it leaves at most once for each signal given, and the signals
    that still wait have not been used up. -/
theorem latch_needs_signal (f : Fusion α) (is : List (RuntimeInput α)) :
    (notes step unlatches (start B f) is).length + (run step (start B f) is).resetHeld.length ≤
      (is.filterMap RuntimeInput.hangup?).length := by
  have hresets := congrArg List.length ((Wired.start (B := B) f).resets is)
  have hle : (notes step unlatches (start B f) is).length ≤
      (notes step (fun rt i => (fusionInput rt i).bind Input.reset?) (start B f) is).length :=
    notes_length_le (fun rt i h => by
      obtain ⟨⟨⟩, hu⟩ := Option.isSome_iff_exists.mp h
      rw [reset_of_unlatches hu]
      rfl) (start B f) is
  unfold taken at hresets
  rw [notes_bind, List.length_append, List.length_append] at hresets
  have hnone : (start B f).resetHeld.length = 0 := rfl
  omega

end Runtime

end FlyingSquirrel

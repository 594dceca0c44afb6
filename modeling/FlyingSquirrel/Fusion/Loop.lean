import FlyingSquirrel.Fusion.Step
import FlyingSquirrel.Lib.Chan

/-!
# The fusion loop (`Fusion::run`)

A `select!` over three channels, biased: the IMU first, then GPS, then operator reset. The
first two branches are switched off once their channel has ended. **The third has no such
switch**, and its pattern is `_`, so it takes whatever `recv` answers.

The other ends of the channels are the environment's. A run of the loop is any
interleaving of sends, closes, loop iterations and background tasks that end, and
`run_fusion` says that what it does to the fusion state is a run of `Fusion.step`.
-/

namespace FlyingSquirrel

open Lib

structure Loop (α : Type) where
  fusion : Fusion α
  imuOpen : Bool
  gpsOpen : Bool
  imuRx : Chan (ImuSample α)
  gpsRx : Chan (GpsFix α)
  resetRx : Chan Unit

/-- A select branch, with what its `recv` answered. -/
inductive Branch (α : Type)
  | imu (maybeImu : Option (ImuSample α))
  | gps (maybeGps : Option (GpsFix α))
  | reset (maybeReset : Option Unit)

/-- The branch was taken for an operator's message. -/
def Branch.resetReceived {α : Type} : Branch α → Bool
  | .reset (some ()) => true
  | _ => false

/-- The branch was taken because the reset channel has ended. -/
def Branch.resetEnded {α : Type} : Branch α → Bool
  | .reset none => true
  | _ => false

/-- What can happen around the loop: the channels' other ends, an iteration, a background
    task that ends. -/
inductive LoopInput (α : Type)
  | sendImu (sample : ImuSample α)
  | closeImu
  | sendGps (fix : GpsFix α)
  | closeGps
  | sendReset
  | closeReset
  | iterate (env : Env α)
  | background (now : Instant) (done : BgDone)

namespace Loop

section Select

variable {α : Type}

def start (f : Fusion α) : Loop α := ⟨f, true, true, .empty, .empty, .empty⟩

def running (l : Loop α) : Bool := l.imuOpen || l.gpsOpen

/-- The branch the biased select takes, if one is ready. -/
def select (l : Loop α) : Option (Branch α) :=
  match (if l.imuOpen then l.imuRx.recv else none) with
  | some maybeImu => some (.imu maybeImu)
  | none =>
    match (if l.gpsOpen then l.gpsRx.recv else none) with
    | some maybeGps => some (.gps maybeGps)
    | none => l.resetRx.recv.map .reset

end Select

variable {α : Type} [Zero α] [One α] [Neg α] [Add α] [Sub α] [Mul α] [Div α] [NatCast α]
  [OfScientific α] [LT α] [LE α] [DecidableLT α] [DecidableLE α] [BEq α] [Max α] [Min α]
  [Libm α] [FiniteTest α] [Nalgebra α]

/-- The body of the loop, for the branch taken. -/
def takeBranch (l : Loop α) (env : Env α) : Branch α → Loop α × List (Output α)
  | .imu (some sample) =>
    ({ l with fusion := l.fusion.onImu sample, imuRx := l.imuRx.rest }, [])
  | .imu none => ({ l with imuOpen := false }, [])
  | .gps (some fix) =>
    let (f, out) := l.fusion.onGps env fix
    ({ l with fusion := f, gpsRx := l.gpsRx.rest }, out)
  | .gps none => ({ l with gpsOpen := false }, [])
  | .reset _ =>
    let (f, out) := l.fusion.operatorReset env.now
    ({ l with fusion := f, resetRx := l.resetRx.rest }, out)

/-- One iteration: nothing once the loop has ended or while every branch waits. -/
def iterate (l : Loop α) (env : Env α) : Loop α × List (Output α) :=
  if l.running = false then (l, [])
  else
    match l.select with
    | some b => l.takeBranch env b
    | none => (l, [])

def step (l : Loop α) : LoopInput α → Loop α × List (Output α)
  | .sendImu sample => ({ l with imuRx := l.imuRx.send sample }, [])
  | .closeImu => ({ l with imuRx := l.imuRx.close }, [])
  | .sendGps fix => ({ l with gpsRx := l.gpsRx.send fix }, [])
  | .closeGps => ({ l with gpsRx := l.gpsRx.close }, [])
  | .sendReset => ({ l with resetRx := l.resetRx.send () }, [])
  | .closeReset => ({ l with resetRx := l.resetRx.close }, [])
  | .iterate env => l.iterate env
  | .background now done =>
    let (f, out) := l.fusion.onBackground now done
    ({ l with fusion := f }, out)

/-! ## The loop runs `Fusion.step` -/

/-- The fusion input of a branch. Both answers of the reset channel are a reset. -/
def Branch.input (env : Env α) : Branch α → Option (Input α)
  | .imu maybeImu => maybeImu.map .imu
  | .gps maybeGps => maybeGps.map (.gps · env)
  | .reset _ => some (.reset env.now)

/-- The fusion input a loop input amounts to, if any. -/
def fusionInput (l : Loop α) : LoopInput α → Option (Input α)
  | .iterate env => if l.running then l.select.bind (Branch.input env) else none
  | .background now done => some (.background now done)
  | _ => none

/-- The fusion inputs of a run of the loop. -/
def fusionInputs : Loop α → List (LoopInput α) → List (Input α)
  | _, [] => []
  | l, i :: is => (l.fusionInput i).toList ++ fusionInputs (l.step i).1 is

/-- **A loop step is at most one fusion step.** -/
theorem step_fusion (l : Loop α) (i : LoopInput α) :
    ((l.step i).1.fusion, (l.step i).2) =
      match l.fusionInput i with
      | some j => Fusion.step l.fusion j
      | none => (l.fusion, []) := by
  cases i with
  | iterate env =>
    unfold step iterate fusionInput
    cases l.running with
    | false => rfl
    | true =>
      cases l.select with
      | none => rfl
      | some b => rcases b with (_ | _) | (_ | _) | _ <;> rfl
  | background now done => rfl
  | _ => rfl

theorem step_fusion_none {l : Loop α} {i : LoopInput α} (h : l.fusionInput i = none) :
    (l.step i).1.fusion = l.fusion ∧ (l.step i).2 = [] := by
  have hs := step_fusion l i
  rw [h] at hs
  exact ⟨congrArg Prod.fst hs, congrArg Prod.snd hs⟩

theorem step_fusion_some {l : Loop α} {i : LoopInput α} {j : Input α}
    (h : l.fusionInput i = some j) :
    (l.step i).1.fusion = (Fusion.step l.fusion j).1 ∧
      (l.step i).2 = (Fusion.step l.fusion j).2 := by
  have hs := step_fusion l i
  rw [h] at hs
  exact ⟨congrArg Prod.fst hs, congrArg Prod.snd hs⟩

/-- **The loop refines the step machine.** Its fusion state and its outputs over any run
    are the machine's over the run's fusion inputs. -/
theorem run_fusion (l : Loop α) (is : List (LoopInput α)) :
    (run Loop.step l is).fusion = run Fusion.step l.fusion (l.fusionInputs is) ∧
      outputs Loop.step l is = outputs Fusion.step l.fusion (l.fusionInputs is) := by
  induction is generalizing l with
  | nil => exact ⟨rfl, rfl⟩
  | cons i is ih =>
    obtain ⟨hrun, hout⟩ := ih (l.step i).1
    rw [run_cons, outputs, hrun, hout, fusionInputs]
    cases hi : l.fusionInput i with
    | none =>
      obtain ⟨hf, ho⟩ := step_fusion_none hi
      rw [hf, ho]
      exact ⟨rfl, rfl⟩
    | some j =>
      obtain ⟨hf, ho⟩ := step_fusion_some hi
      rw [hf, ho]
      exact ⟨rfl, rfl⟩

end Loop

end FlyingSquirrel

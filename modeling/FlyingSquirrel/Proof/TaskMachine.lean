import FlyingSquirrel.Fusion.Calls
import FlyingSquirrel.Proof.Alignment
import FlyingSquirrel.Proof.ClearGate
import FlyingSquirrel.Proof.Episode
import FlyingSquirrel.Proof.PauseNotice

/-!
# The machine in the task

Clears, pauses, refusals and the accounts of an episode are judged call by call, along a
sequence of calls on a new machine. A run of the task makes such a sequence, and the machine
of a task just built is new (`run_fsm`, `Built.fsm`): so what decides each of them there
decides it in the task, **from any built task and over any inputs**.

The gaps a pause absorbs ask for fixes in time order, and in the task that is asked of the
inputs. No step evaluates a fix but its own, and none evaluates it twice.
-/

set_option autoImplicit false

namespace FlyingSquirrel

open Lib

/-- When the fix of an input was taken. -/
def Input.fixAt {α : Type} : Input α → Option Instant
  | .gps fix _ => some fix.t.mono
  | _ => none

namespace StateMachine

variable {α : Type} [Zero α] [One α] [Neg α] [Add α] [Sub α] [Mul α] [Div α] [NatCast α]
  [OfScientific α] [LT α] [LE α] [DecidableLT α] [DecidableLE α] [BEq α] [Max α]
  [FiniteTest α]

theorem ops_times (m : StateMachine α) (call : FusionCall α) :
    (call.ops m).filterMap Op.fixTime = call.time.toList := by
  cases call with
  | fix r t hdop sats veto =>
    unfold FusionCall.ops
    dsimp only
    split
    · cases veto <;> rfl
    · rfl
  | _ => rfl

theorem opsOf_times (m : StateMachine α) (calls : List (FusionCall α)) :
    (m.opsOf calls).filterMap Op.fixTime = calls.filterMap FusionCall.time := by
  induction calls generalizing m with
  | nil => rfl
  | cons call calls ih =>
    rw [opsOf, List.filterMap_append, ih, ops_times, List.filterMap_cons]
    cases call.time <;> rfl

/-- Fixes whose times are in order, all together, are in order one by one. -/
theorem along_inOrder {x : StateMachine α × Option α} {ops : List (Op α)}
    (h : (x.2.toList ++ ops.filterMap Op.fixTime).Pairwise (· ≤ ·)) :
    Along timedStep InOrder x ops := by
  induction ops generalizing x with
  | nil => trivial
  | cons op ops ih =>
    obtain ⟨m, last⟩ := x
    rw [List.filterMap_cons] at h
    refine ⟨fun l hl t ht => ?_, ih ?_⟩
    · rw [show op.fixTime = some t from ht] at h
      exact (List.pairwise_append.mp h).2.2 l (by simpa using hl) t List.mem_cons_self
    · show ((op.fixTime.or last).toList ++ _).Pairwise _
      cases ht : op.fixTime with
      | none => simpa [ht] using h
      | some t =>
        rw [ht] at h
        exact (List.pairwise_append.mp h).2.1

end StateMachine

namespace Fusion

open StateMachine

section Model

variable {α : Type} [Zero α] [One α] [Neg α] [Add α] [Sub α] [Mul α] [Div α] [NatCast α]
  [OfScientific α] [LT α] [LE α] [DecidableLT α] [DecidableLE α] [Libm α]

/-! ## The fixes a run evaluates -/

theorem armedCalls_times (f : Fusion α) (fix : GpsFix α) (gpsNed : NedPos α) :
    ((f.armedCalls fix gpsNed).filterMap FusionCall.time).Sublist [f.tSecs fix.t] := by
  have hgap : (f.gapCalls (f.tSecs fix.t)).filterMap FusionCall.time = [] := by
    unfold gapCalls
    split <;> rfl
  have hnotice : ∀ g : Fusion α, g.noticeCalls.filterMap FusionCall.time = [] := by
    intro g
    unfold noticeCalls
    split <;> rfl
  unfold armedCalls
  dsimp only
  rw [List.filterMap_append, List.filterMap_append, hgap, hnotice, List.nil_append, List.nil_append]
  split
  · exact List.nil_sublist _
  · -- the two calls for the detectors outside the machine carry no time
    unfold evaluateCalls frozenCalls verticalCalls decisionCalls
    dsimp only
    split <;> split <;> exact List.Sublist.refl _

theorem calls_times (f : Fusion α) (i : Input α) : ((f.calls i).filterMap FusionCall.time).Sublist
    (i.fixAt.map fun ns => (asSecs (ns - f.boot) : α)).toList := by
  cases i with
  | imu sample => exact List.nil_sublist _
  | gps fix env =>
    unfold calls
    dsimp only
    split
    · exact List.nil_sublist _
    · split
      · unfold preflightCalls
        split <;> exact List.nil_sublist _
      · exact armedCalls_times ..
  | reset now => exact List.nil_sublist _
  | background now done => exact List.nil_sublist _

variable [BEq α] [Max α] [Min α] [FiniteTest α] [Nalgebra α]

theorem called_times (f : Fusion α) (is : List (Input α)) :
    ((f.called is).filterMap FusionCall.time).Sublist
      ((is.filterMap Input.fixAt).map fun ns => asSecs (ns - f.boot)) := by
  induction is generalizing f with
  | nil => exact List.Sublist.refl _
  | cons i is ih =>
    have hrest := ih (f.step i).1
    rw [step_boot] at hrest
    have happ := (calls_times f i).append hrest
    rw [called, List.filterMap_append, List.filterMap_cons]
    cases h : i.fixAt <;> simpa [h] using happ

/-! ## The budget and the refusals -/

variable {c : FusionConfig α} {boot : Instant} {f : Fusion α}

/-- **The budget in the task.** Where every pause that a run grants fits what is left of it,
    no more than the budget has been charged in the state the run reaches. -/
theorem Built.charge_le (hf : Built c boot f) (hzero : 0 ≤ c.detect.maxDwellPauseS)
    {is : List (Input α)} (hfits : Along opStep FitsBudget f.fsm (f.operations is)) :
    (run step f is).fsm.pausedCumulativeS ≤ c.detect.maxDwellPauseS := by
  have hstart : f.fsm.cfg = c.detect ∧ f.fsm.Clocked ∧ f.fsm.WithinBudget := by
    rw [hf.fsm]
    exact ⟨rfl, fun hs => absurd hs (by simp [StateMachine.new]), hzero⟩
  have hkept := hfits.invariant
    (I := fun m : StateMachine α => m.cfg = c.detect ∧ m.Clocked ∧ m.WithinBudget)
    (fun m op hop h => ⟨(opStep_cfg m op).trans h.1, h.2.1.next op,
      (withinBudget_next (by rw [h.1]; exact hzero) h.2.1 h.2.2 op).mpr hop⟩) hstart
  rw [← run_operations] at hkept
  rw [← hkept.1]
  exact hkept.2.2

/-- **The refusals in the task.** -/
theorem Built.notices_iff (hf : Built c boot f) (is : List (Input α)) :
    Along heardStep ReportsRefusals (f.fsm, ⟨false, false⟩) (f.operations is) ↔
      Along heardStep AtTheCap (f.fsm, ⟨false, false⟩) (f.operations is) := by
  have hstart : WarnedHeard (f.fsm, (⟨false, false⟩ : Heard)) := by
    rw [hf.fsm]
    rfl
  exact along_congr_of_invariant (fun x op hx => hx.next op)
    (fun x op hx => hx.reportsRefusals_iff op) hstart

end Model

/-! ## Clears, gaps and accounts -/

section Field

variable {F : Type} [Field F] [LinearOrder F] [Libm F] [Nalgebra F] {c : FusionConfig F}
  {boot : Instant} {f : Fusion F}

/-- **The clears of the task.** Along every run each of them is made with all six sums below a
    quarter of their lane's threshold, if and only if the magnitude and the velocity-aiding
    lanes have room for the fix. -/
theorem Built.clears_iff (hf : Built c boot f) (is : List (Input F)) :
    Along opStep ClearsQuiet f.fsm (f.operations is) ↔
      Along opStep (fun m op => m.Clears op → m.Room op) f.fsm (f.operations is) := by
  have hstart : StateMachine.Gated c.detect f.fsm := by
    rw [hf.fsm]
    exact .new _
  exact along_congr_of_invariant (fun m op h => h.opStep op) (fun m op h => clearsQuiet_iff h op)
    hstart

variable [IsStrictOrderedRing F]

/-- **The pauses of the task**, on fixes taken in time order. -/
theorem Built.gaps_iff (hf : Built c boot f) {is : List (Input F)}
    (htimes : (is.filterMap Input.fixAt).Pairwise (· ≤ ·)) :
    Along timedStep AbsorbsGap (f.fsm, none) (f.operations is) ↔
      Along timedStep NothingServed (f.fsm, none) (f.operations is) := by
  have hstart : Timed (f.fsm, (none : Option F)) := by
    rw [hf.fsm]
    exact ⟨fun hs => absurd hs (by simp [StateMachine.new]), fun _ => .inl rfl⟩
  have hsecs : ((f.operations is).filterMap Op.fixTime).Pairwise (· ≤ ·) := by
    unfold operations
    rw [opsOf_times]
    refine List.Pairwise.sublist (called_times f is) (List.pairwise_map.mpr ?_)
    exact htimes.imp fun h => ClockAligner.asSecs_mono (Nat.sub_le_sub_right h f.boot)
  exact along_congr_of_guarded (fun x op _ hx => hx.next op)
    (fun x op hx hop => hx.absorbsGap_iff hop) hstart (along_inOrder hsecs)

/-- **The accounts of the task's episode.** After a run without a veto on a fix that was granted
    a pause, the clock of an open episode is its opening time and the paused seconds. -/
theorem Built.accounts (hf : Built c boot f) {is : List (Input F)}
    (hveto : Along episodeStep (fun x call => ¬ VetoesPaused x.1 call) (f.fsm, none)
      (f.called is)) (hs : (run step f is).fsm.state = .suspicious) :
    ∃ t₀ ∈ (run episodeStep (f.fsm, none) (f.called is)).2,
      (run step f is).fsm.suspiciousSince = some (t₀ + (run step f is).fsm.pausedCumulativeS) := by
  have hstart : Accounted (f.fsm, (none : Option F)) := by
    rw [hf.fsm]
    exact .of_ne (by simp [StateMachine.new])
  have hkept := hveto.invariant (fun x call hno h => (h.step call).mpr hno) hstart
  have hmachine : (run episodeStep (f.fsm, none) (f.called is)).1 = (run step f is).fsm :=
    (run_ghost_fst ..).trans (run_fsm f is).symm
  rw [← hmachine] at hs ⊢
  exact hkept hs

end Field

end Fusion

end FlyingSquirrel

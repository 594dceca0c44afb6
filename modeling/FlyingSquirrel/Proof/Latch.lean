import FlyingSquirrel.Fusion.Loop
import FlyingSquirrel.Fusion.Spec

/-!
# The Spoofed latch

Inside the state machine the latch holds: no fix, no IMU sample and no background task
takes the task out of Spoofed, and `step_leaves_spoofed` says that only the operator-reset
input does. **Around it, the loop takes that input from a closed channel.** Its pattern for
the reset branch accepts the `None` of a channel whose senders are gone, where the two
branches beside it tell `Some` from `None`.

So the latch holds along a run exactly when no iteration made in Spoofed gets to the reset
branch after that channel has ended.
-/

set_option autoImplicit false

namespace FlyingSquirrel

open Lib

variable {α : Type} [Zero α] [One α] [Neg α] [Add α] [Sub α] [Mul α] [Div α] [NatCast α]
  [OfScientific α] [LT α] [LE α] [DecidableLT α] [DecidableLE α] [BEq α] [Max α] [Min α] [Libm α]
  [FiniteTest α]

namespace Fusion

theorem assessed_state {α : Type} [Zero α] [One α] [Neg α] [Add α] [Sub α] [Mul α] [Div α]
    [NatCast α] [OfScientific α] [LT α] [LE α] [DecidableLT α] [DecidableLE α] [BEq α] [Max α]
    [FiniteTest α] (f : Fusion α) (fix : GpsFix α) (t : α) (r : Residual α) :
    (f.assessed fix t r).1.state = f.fsm.state :=
  (StateMachine.assess_keeps ..).1.trans (gatedFsm_state f r)

theorem Decision.spoofed {f f' : Fusion α} {env : Env α} {fix : GpsFix α}
    {gpsNed : NedPos α} {t : α} {r : Residual α} {out : List (Output α)}
    (hs : f.fsm.state = .spoofed) (h : Decision f env fix gpsNed t r f' out) :
    f'.fsm.state = .spoofed := by
  have hassess := (assessed_state f fix t r).trans hs
  -- every arm but the latch starts in Normal or Suspicious
  have hno : ∀ {m : StateMachine α} {a b : NavStateKind}, a ≠ .spoofed →
      ¬ f.FixArm fix t r m [.transition a b] := by
    intro m a b hab ha
    exact hab (ha.transitioned.1.symm.trans hassess)
  cases h with
  | latched _ => exact (gatedFsm_state f r).trans hs
  | settled hne _ => exact absurd hs hne
  | opened ha => exact absurd ha (hno (by simp))
  | escalated ha _ => exact absurd ha (hno (by simp))
  | vetoed ha _ => exact absurd ha (hno (by simp))
  | cleared ha _ => exact absurd ha (hno (by simp))

theorem FixPath.spoofed {f f' : Fusion α} {env : Env α} {fix : GpsFix α}
    {out : List (Output α)} (hs : f.fsm.state = .spoofed) (h : FixPath f env fix f' out) :
    f'.fsm.state = .spoofed := by
  cases h with
  | rejected => exact hs
  | first =>
    obtain ⟨_, _, _, h⟩ := refreshPreflight_eq
      { f with
        nav := f.nav.onGpsFix fix
        checklist := { f.checklist with firstFixAccepted := true } } env fix.t
    rw [h]
    exact hs
  | preflight =>
    obtain ⟨_, _, _, h⟩ := refreshPreflight_eq f env fix.t
    obtain ⟨_, _, h'⟩ := preflightAnchor_eq (f.refreshPreflight env fix.t).1 fix
    unfold onPreflightFix
    rw [andThen_fst, h', h]
    exact hs
  | skipped _ _ hg => exact hg.tracked.fsm.state_eq.trans hs
  | evaluated _ _ hg _ _ hd => exact hd.spoofed (hg.tracked.fsm.state_eq.trans hs)

variable [Nalgebra α]

/-- **Only the operator-reset input leaves Spoofed**, and it always does. -/
theorem step_leaves_spoofed {f : Fusion α} (hs : f.fsm.state = .spoofed) (i : Input α) :
    (f.step i).1.fsm.state ≠ .spoofed ↔ ∃ now, i = .reset now := by
  cases i with
  | imu sample => exact ⟨fun h => absurd hs h, fun ⟨_, h⟩ => by simp at h⟩
  | gps fix env =>
    exact ⟨fun h => absurd ((onGps_path f env fix).spoofed hs) h, fun ⟨_, h⟩ => by simp at h⟩
  | reset now => exact ⟨fun _ => ⟨now, rfl⟩, fun _ => by simp [step, operatorReset,
      StateMachine.manualResetToNormal]⟩
  | background now done =>
    refine ⟨fun h => absurd ?_ h, fun ⟨_, h⟩ => by simp at h⟩
    obtain ⟨_, hb⟩ := onBackground_eq f now done
    show (f.onBackground now done).1.fsm.state = .spoofed
    rw [hb]
    exact hs

end Fusion

variable [Nalgebra α]

namespace Loop

/-- The step is an iteration whose reset branch received a message. -/
def receivesReset (l : Loop α) : LoopInput α → Bool
  | .iterate _ => l.running && l.select.any Branch.resetReceived
  | _ => false

/-- The step is an iteration whose reset branch ran because its channel has ended. -/
def takesEndedReset (l : Loop α) : LoopInput α → Bool
  | .iterate _ => l.running && l.select.any Branch.resetEnded
  | _ => false

/-- The latch, at one step: leaving Spoofed takes an operator's message. -/
def Latched (l : Loop α) (i : LoopInput α) : Prop :=
  l.fusion.fsm.state = .spoofed → (l.step i).1.fusion.fsm.state ≠ .spoofed →
    l.receivesReset i = true

instance (l : Loop α) (i : LoopInput α) : Decidable (Latched l i) := by
  unfold Latched; infer_instance

theorem leaves_spoofed_iff {l : Loop α} (hs : l.fusion.fsm.state = .spoofed)
    (i : LoopInput α) : (l.step i).1.fusion.fsm.state ≠ .spoofed ↔
      l.receivesReset i = true ∨ l.takesEndedReset i = true := by
  have hstep : (l.step i).1.fusion.fsm.state ≠ .spoofed ↔
      ∃ now, l.fusionInput i = some (.reset now) := by
    cases hi : l.fusionInput i with
    | none => rw [(step_fusion_none hi).1]; simp [hs]
    | some j => rw [(step_fusion_some hi).1, Fusion.step_leaves_spoofed hs]; simp
  rw [hstep]
  cases i with
  | iterate env =>
    unfold fusionInput receivesReset takesEndedReset
    cases l.running with
    | false => simp
    | true =>
      cases l.select with
      | none => simp
      | some b =>
        rcases b with (_ | _) | (_ | _) | (_ | _) <;>
          simp [Branch.input, Branch.resetReceived, Branch.resetEnded]
  | _ => simp [fusionInput, receivesReset, takesEndedReset]

theorem not_both {α : Type} {l : Loop α} {i : LoopInput α} (h : l.receivesReset i = true) :
    l.takesEndedReset i = false := by
  cases i with
  | iterate env =>
    unfold receivesReset at h
    unfold takesEndedReset
    cases hs : l.select with
    | none => simp
    | some b =>
      rw [hs] at h
      rcases b with (_ | _) | (_ | _) | (_ | _) <;>
        simp_all [Branch.resetReceived, Branch.resetEnded]
  | _ => exact absurd h (by simp [receivesReset])

/-- **The latch along a run.** From any state of the loop and along any interleaving of
    sends, closes, iterations and background tasks, every step out of Spoofed received an
    operator's message if and only if no iteration made in Spoofed took the reset branch of
    a reset channel that had ended. -/
theorem latched_iff_no_ended_reset (l : Loop α) (is : List (LoopInput α)) :
    Along Loop.step Latched l is ↔
      Along Loop.step
        (fun l i => l.fusion.fsm.state = .spoofed → l.takesEndedReset i = false) l is := by
  apply along_congr
  intro l i
  constructor
  · intro hl hs
    cases he : l.takesEndedReset i with
    | false => rfl
    | true =>
      have hr := hl hs ((leaves_spoofed_iff hs i).mpr (.inr he))
      rw [not_both hr] at he
      exact absurd he (by simp)
  · intro hn hs hleave
    rcases (leaves_spoofed_iff hs i).mp hleave with hr | he
    · exact hr
    · rw [hn hs] at he
      exact absurd he (by simp)

end Loop

/-! ## A run that gets to Spoofed

Ten level samples end static initialisation; a fix anchors; one more sample fills the
buffer; a second fix arms the detector. A third fix a degree of latitude away opens a
Suspicious episode, and a fourth, there a tenth of a second later, latches. -/

/-- The default configuration, with a dwell and an initialisation of a tenth of a second. -/
def quickCfg : FusionConfig ℚ :=
  let d : FusionConfig ℚ := .default
  { d with
    nav := { d.nav with staticInitS := 0.1 }
    detect := { d.detect with suspiciousToSpoofedDwellS := 0.1 } }

/-- A level, resting sample at `ms` milliseconds. -/
def levelSample (ms : Nat) : ImuSample ℚ :=
  ⟨⟨ms * 1000000, none⟩, ⟨0, 0, -9.80665⟩, ⟨0, 0, 0⟩⟩

/-- A fix on the equator at `ms` milliseconds, without Doppler. -/
def fixAt (ms : Nat) (latDeg : ℚ) : GpsFix ℚ :=
  ⟨⟨ms * 1000000, none⟩, latDeg, 0, 0, none, none, none, none⟩

/-- A silent monitor, and a controller whose calls succeed. -/
def quietEnv : Env ℚ := ⟨0, .new, .ok (), .ok ()⟩

def sendSamples (times : List Nat) : List (LoopInput ℚ) :=
  times.flatMap fun ms => [.sendImu (levelSample ms), .iterate quietEnv]

def sendFixes (fixes : List (Nat × ℚ)) : List (LoopInput ℚ) :=
  fixes.flatMap fun (ms, lat) => [.sendGps (fixAt ms lat), .iterate quietEnv]

def toSpoofed : List (LoopInput ℚ) :=
  sendSamples [0, 10, 20, 30, 40, 50, 60, 70, 80, 90] ++ sendFixes [(95, 0)] ++
    sendSamples [100] ++ sendFixes [(105, 0), (110, 1), (211, 1)]

/-- The reset channel is closed in Spoofed, and the next iteration leaves Spoofed with
    nobody having asked for it. -/
theorem closed_reset_unlatches :
    ¬ Along Loop.step Loop.Latched (Loop.start (Fusion.new quickCfg 0))
      (toSpoofed ++ [.closeReset, .iterate quietEnv]) := by
  decide +kernel

end FlyingSquirrel

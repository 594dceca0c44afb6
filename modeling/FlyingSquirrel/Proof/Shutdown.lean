import FlyingSquirrel.Proof.EventTrail
import FlyingSquirrel.Supervisor

/-!
# Taking the process down

Once the sources' tasks have ended nothing more is sent to the loop, and the loop has a bounded
number of iterations left: one for each message queued and one for each channel's end. **It
takes every fix and sample that reached it before it ends**, and no operator's reset, since its
select is biased and a channel that has ended is always ready.

The supervisor relies on that order. When it has exited, what it says of the background tasks
and what the flight controller was told add up.
-/

set_option autoImplicit false

namespace FlyingSquirrel

open Lib

def RuntimeInput.isPollFusion {α : Type} : RuntimeInput α → Bool
  | .pollFusion _ => true
  | _ => false

namespace Runtime

variable {α : Type} [Zero α] [One α] [Neg α] [Add α] [Sub α] [Mul α] [Div α] [NatCast α]
  [OfScientific α] [LT α] [LE α] [DecidableLT α] [DecidableLE α] [BEq α] [Max α] [Min α]
  [Libm α] [FiniteTest α] [Nalgebra α] {B : Type} [Broadcast B (SpoofingEvent α)]

/-! ## The loop runs dry -/

/-- How many iterations the loop has left, once nothing more is sent to it. -/
def remaining (rt : Runtime α B) : Nat :=
  (if rt.loop.imuOpen then rt.loop.imuRx.queue.length + 1 else 0) +
    (if rt.loop.gpsOpen then rt.loop.gpsRx.queue.length + 1 else 0)

theorem fusionEnded_iff_remaining {α : Type} {B : Type} (rt : Runtime α B) :
    rt.fusionEnded = true ↔ rt.remaining = 0 := by
  unfold fusionEnded Loop.running remaining
  cases rt.loop.imuOpen <;> cases rt.loop.gpsOpen <;> simp

/-- Both source tasks have ended. -/
structure Sourceless (rt : Runtime α B) : Prop where
  wired : Wired rt
  gps : rt.gpsIngest.ended = true
  imu : rt.imuIngest.ended = true

theorem Sourceless.gps_closed {α : Type} {B : Type} {rt : Runtime α B} (h : Sourceless rt) :
    rt.loop.gpsRx.closed = true := h.wired.gps.trans h.gps

theorem Sourceless.imu_closed {α : Type} {B : Type} {rt : Runtime α B} (h : Sourceless rt) :
    rt.loop.imuRx.closed = true := h.wired.imu.trans h.imu

theorem Sourceless.step {rt : Runtime α B} (h : Sourceless rt) (i : RuntimeInput α) :
    Sourceless (step rt i).1 where
  wired := h.wired.step i
  gps := ((h.wired.lanes i).gps.stopped h.gps).1
  imu := ((h.wired.lanes i).imu.stopped h.imu).1

/-- Only an iteration of the loop changes what it reads from. -/
theorem step_open (rt : Runtime α B) {i : RuntimeInput α} (hi : i.isPollFusion = false) :
    (step rt i).1.loop.imuOpen = rt.loop.imuOpen ∧
      (step rt i).1.loop.gpsOpen = rt.loop.gpsOpen ∧ rt.fusionInput i = none ∨
    (∃ now done, rt.fusionInput i = some (.background now done)) ∧
      (step rt i).1.loop.imuOpen = rt.loop.imuOpen ∧
      (step rt i).1.loop.gpsOpen = rt.loop.gpsOpen := by
  cases i with
  | pollFusion env => exact absurd hi (by simp [RuntimeInput.isPollFusion])
  | background now done =>
    dsimp only [step, fusionInput]
    split
    · exact .inr ⟨⟨now, done, rfl⟩, rfl, rfl⟩
    · exact .inl ⟨rfl, rfl, rfl⟩
  | pollAction =>
    refine .inl ?_
    show (rt.pollAction).1.loop.imuOpen = _ ∧ (rt.pollAction).1.loop.gpsOpen = _ ∧ _
    unfold pollAction
    split
    · exact ⟨rfl, rfl, rfl⟩
    · split <;> exact ⟨rfl, rfl, rfl⟩
  | _ => exact .inl ⟨rfl, rfl, rfl⟩

/-- A receiver that has ended waits for nothing. -/
theorem waiting_closed {μ : Type} {isOpen : Bool} {rx : Chan μ} (hclosed : rx.closed = true)
    (h : Waiting isOpen rx) : isOpen = false :=
  h.elim id fun h => absurd (hclosed.symm.trans h.2) (by simp)

/-- **One iteration less.** -/
theorem Sourceless.remaining_step {rt : Runtime α B} (h : Sourceless rt) (i : RuntimeInput α) :
    (Runtime.step rt i).1.remaining = rt.remaining - (if i.isPollFusion then 1 else 0) ∧
      (rt.fusionInput i).bind Input.reset? = none := by
  cases hi : i.isPollFusion with
  | false =>
    have hgps := ((h.wired.lanes i).gps.stopped h.gps).2
    have himu := ((h.wired.lanes i).imu.stopped h.imu).2
    rcases step_open rt hi with ⟨hio, hgo, hj⟩ | ⟨⟨now, done, hj⟩, hio, hgo⟩ <;>
      rw [hj] at hgps himu ⊢ <;>
      exact ⟨by unfold remaining; rw [hio, hgo, hgps, himu]; rfl, rfl⟩
  | true =>
    cases i with
    | pollFusion env =>
      have hturn := rt.loop.iterate_turn env
      have hgclosed := h.gps_closed
      have hiclosed := h.imu_closed
      show (rt.absorb (rt.loop.step (.iterate env))).1.remaining = _ ∧
        (rt.loop.fusionInput (.iterate env)).bind Input.reset? = none
      unfold absorb remaining
      generalize rt.loop.step (.iterate env) = x at hturn ⊢
      generalize rt.loop.fusionInput (.iterate env) = j at hturn ⊢
      generalize rt.loop = l at *
      obtain ⟨l', out⟩ := x
      cases hturn with
      | idle hidle =>
        refine ⟨?_, rfl⟩
        have hnone : l'.imuOpen = false ∧ l'.gpsOpen = false := by
          rcases hidle with hrun | ⟨himu, hgps⟩
          · simpa [Loop.running] using hrun
          · exact ⟨waiting_closed hiclosed himu, waiting_closed hgclosed hgps⟩
        simp [hnone.1, hnone.2]
      | imu hopen hq =>
        refine ⟨?_, rfl⟩
        simp only [hopen, hq, if_true, List.length_cons]
        omega
      | imuEnd hopen hq =>
        refine ⟨?_, rfl⟩
        simp only [hopen, hq, if_true, List.length_nil, Bool.false_eq_true, if_false]
        omega
      | gps himu hopen hq =>
        refine ⟨?_, rfl⟩
        simp only [hopen, hq, if_true, List.length_cons]
        omega
      | gpsEnd himu hopen hq =>
        refine ⟨?_, rfl⟩
        simp only [hopen, hq, if_true, List.length_nil, Bool.false_eq_true, if_false]
        omega
      | reset hrun himu hgps =>
        have hio := waiting_closed hiclosed himu
        have hgo := waiting_closed hgclosed hgps
        exact absurd hrun (by simp [Loop.running, hio, hgo])
      | resetEnd hrun himu hgps =>
        have hio := waiting_closed hiclosed himu
        have hgo := waiting_closed hgclosed hgps
        exact absurd hrun (by simp [Loop.running, hio, hgo])
    | _ => exact absurd hi (by simp [RuntimeInput.isPollFusion])

/-- A run's polls of the loop are taken off what it has left, and none takes a reset. -/
theorem Sourceless.run {rt : Runtime α B} (h : Sourceless rt) (js : List (RuntimeInput α)) :
    (Lib.run Runtime.step rt js).remaining =
        rt.remaining - js.countP RuntimeInput.isPollFusion ∧
      (rt.taken js).filterMap Input.reset? = [] := by
  unfold taken
  rw [notes_bind]
  induction js generalizing rt with
  | nil => exact ⟨rfl, rfl⟩
  | cons i js ih =>
    obtain ⟨hone, hnone⟩ := h.remaining_step i
    obtain ⟨hrest, hquiet⟩ := ih (h.step i)
    rw [run_cons, hrest, hone, notes, hnone, hquiet, List.countP_cons]
    refine ⟨?_, rfl⟩
    split <;> omega

/-- What has been switched off has been emptied. -/
structure Dry (rt : Runtime α B) : Prop where
  gps : rt.loop.gpsOpen = false → rt.gpsIngest.ended = true ∧ rt.loop.gpsRx.queue = []
  imu : rt.loop.imuOpen = false → rt.imuIngest.ended = true ∧ rt.loop.imuRx.queue = []

theorem Dry.start {α : Type} {B : Type} [Broadcast B (SpoofingEvent α)]
    (f : Fusion α) : Dry (start B f) :=
  ⟨fun h => absurd h (by simp [Runtime.start, Loop.start]),
    fun h => absurd h (by simp [Runtime.start, Loop.start])⟩

/-- A branch is switched off at the end of its channel. -/
theorem switched_off {rt : Runtime α B} (hw : Wired rt) (i : RuntimeInput α) :
    ((step rt i).1.loop.gpsOpen = false → rt.loop.gpsOpen = false ∨
      (rt.gpsIngest.ended = true ∧ rt.loop.gpsRx.queue = [])) ∧
    ((step rt i).1.loop.imuOpen = false → rt.loop.imuOpen = false ∨
      (rt.imuIngest.ended = true ∧ rt.loop.imuRx.queue = [])) := by
  cases hi : i.isPollFusion with
  | false =>
    have hopen : (step rt i).1.loop.imuOpen = rt.loop.imuOpen ∧
        (step rt i).1.loop.gpsOpen = rt.loop.gpsOpen :=
      (step_open rt hi).elim (fun h => ⟨h.1, h.2.1⟩) (fun h => h.2)
    exact ⟨fun h => .inl (hopen.2.symm.trans h), fun h => .inl (hopen.1.symm.trans h)⟩
  | true =>
    cases i with
    | pollFusion env =>
      have hturn := rt.loop.iterate_turn env
      have hgps := hw.gps
      have himu := hw.imu
      unfold Attached at hgps himu
      show ((rt.absorb (rt.loop.step (.iterate env))).1.loop.gpsOpen = false → _) ∧
        ((rt.absorb (rt.loop.step (.iterate env))).1.loop.imuOpen = false → _)
      unfold absorb
      generalize rt.loop.step (.iterate env) = x at hturn ⊢
      generalize rt.loop.fusionInput (.iterate env) = j at hturn
      generalize rt.loop = l at *
      obtain ⟨l', out⟩ := x
      cases hturn with
      | imuEnd hopen hq hclosed => exact ⟨.inl, fun _ => .inr ⟨himu.symm.trans hclosed, hq⟩⟩
      | gpsEnd _ hopen hq hclosed => exact ⟨fun _ => .inr ⟨hgps.symm.trans hclosed, hq⟩, .inl⟩
      | _ => exact ⟨.inl, .inl⟩
    | _ => exact absurd hi (by simp [RuntimeInput.isPollFusion])

theorem Dry.step {rt : Runtime α B} (h : Dry rt) (hw : Wired rt) (i : RuntimeInput α) :
    Dry (step rt i).1 where
  gps hoff := by
    obtain ⟨hended, hnil⟩ := ((switched_off hw i).1 hoff).elim h.gps id
    obtain ⟨hstill, hqueue⟩ := (hw.lanes i).gps.stopped hended
    exact ⟨hstill, (List.append_eq_nil_iff.mp (hqueue.symm.trans hnil)).2⟩
  imu hoff := by
    obtain ⟨hended, hnil⟩ := ((switched_off hw i).2 hoff).elim h.imu id
    obtain ⟨hstill, hqueue⟩ := (hw.lanes i).imu.stopped hended
    exact ⟨hstill, (List.append_eq_nil_iff.mp (hqueue.symm.trans hnil)).2⟩

theorem Dry.ended {α : Type} {B : Type}
    {rt : Runtime α B} (h : Dry rt) (hended : rt.fusionEnded = true) :
    rt.loop.imuRx.queue = [] ∧ rt.loop.gpsRx.queue = [] := by
  have hoff : rt.loop.imuOpen = false ∧ rt.loop.gpsOpen = false := by
    simpa [fusionEnded, Loop.running] using hended
  exact ⟨(h.imu hoff.1).2, (h.gps hoff.2).2⟩

theorem dry_run (f : Fusion α) (is : List (RuntimeInput α)) :
    Wired (Lib.run Runtime.step (start B f) is) ∧ Dry (Lib.run Runtime.step (start B f) is) :=
  run_invariant (I := fun rt => Wired rt ∧ Dry rt)
    (fun _ i h => ⟨h.1.step i, h.2.step h.1 i⟩) ⟨.start f, .start f⟩ is

/-- **The loop ends when it has taken everything.** From when both source tasks have ended, and
    whatever else goes on: the loop ends with the poll that takes the last of what it has left,
    neither before nor after, which is at most the channels' capacities and one more each; then
    no fix and no sample is left in a channel; and it takes no reset meanwhile. -/
theorem ends_after_sources (f : Fusion α) (is : List (RuntimeInput α))
    (hgps : (run step (start B f) is).gpsIngest.ended = true)
    (himu : (run step (start B f) is).imuIngest.ended = true) (js : List (RuntimeInput α)) :
    let rt := run step (start B f) is
    let rt' := run step rt js
    (rt'.fusionEnded = true ↔ rt.remaining ≤ js.countP RuntimeInput.isPollFusion) ∧
    rt.remaining ≤ imuCap + gpsCap + 2 ∧
    (rt'.fusionEnded = true → rt'.loop.imuRx.queue = [] ∧ rt'.loop.gpsRx.queue = []) ∧
    (rt.taken js).filterMap Input.reset? = [] := by
  intro rt rt'
  obtain ⟨hw, hdry⟩ := dry_run (B := B) f is
  have hnone : Sourceless rt := ⟨hw, hgps, himu⟩
  obtain ⟨hleft, hquiet⟩ := hnone.run js
  refine ⟨?_, ?_, ?_, hquiet⟩
  · rw [fusionEnded_iff_remaining, hleft]
    omega
  · have hgroom := hw.gpsRoom
    have hiroom := hw.imuRoom
    show remaining (Lib.run Runtime.step (start B f) is) ≤ _
    unfold remaining
    split <;> split <;> omega
  · have hrun : Wired rt' ∧ Dry rt' := run_invariant (I := fun rt => Wired rt ∧ Dry rt)
      (fun _ i h => ⟨h.1.step i, h.2.step h.1 i⟩) ⟨hw, hdry⟩ js
    exact hrun.2.ended

/-- The sources yield a fix and a sample, and end. -/
def lastItems : List (RuntimeInput ℚ) :=
  [.gpsYields (some (.ok (fixAt 95 0))), .pollGps, .pollGps, .gpsYields none, .pollGps,
    .imuYields (some (.ok (levelSample 0))), .pollImu, .pollImu, .imuYields none, .pollImu]

theorem ends_after_sources_lastItems :
    let rt := run step (start EventRing (Fusion.new quickCfg 0)) lastItems
    (run step rt (List.replicate 4 (.pollFusion quietEnv))).fusionEnded = true ↔
      rt.remaining ≤ (List.replicate 4 (.pollFusion quietEnv)).countP RuntimeInput.isPollFusion :=
  (ends_after_sources (Fusion.new quickCfg 0) lastItems (by decide +kernel) (by decide +kernel)
    (List.replicate 4 (.pollFusion quietEnv))).1

end Runtime

end FlyingSquirrel

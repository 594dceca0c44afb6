import FlyingSquirrel.Proof.Shutdown

/-!
# An orderly exit

The main task can stop the tasks at any point, and any of them can panic before or after.
`Sound` says what holds all the way: the last sender is dropped only once nothing can be sent,
and the background tasks that run, wait to be joined, were joined or were aborted are all that
were ever started. **So at the exit every event has been handed on or counted as
missed**, unless the action task panicked or was cut short.
-/

set_option autoImplicit false

namespace FlyingSquirrel

open Lib

/-- The arms that are no failure: a stop somebody asked for, or the end of a synthetic source. -/
def Exit.orderly (synthSource : Bool) : Exit → Bool
  | .ctrlC | .sigterm | .durationElapsed => true
  | .gpsIngest result | .imuIngest result => result.isOk && synthSource
  | .fusion | .action | .mavListener | .watchdog => false

/-- The codes of the texts a reason can be. -/
theorem exitCode_texts :
    (∀ s ∈ ["ctrl_c", "sigterm", "duration_elapsed", "source_exhausted"], exitCode s = 0) ∧
      ∀ s ∈ ["task_died:gps_ingest", "task_died:imu_ingest", "task_died:fusion",
        "task_died:action", "task_died:mav_listener", "task_died:watchdog"], exitCode s = 2 := by
  decide +kernel

/-- A failure exits with a code of its own. -/
theorem exitCode_reason (synthSource : Bool) (e : Exit) :
    exitCode (e.reason synthSource) = if e.orderly synthSource then 0 else 2 := by
  obtain ⟨hzero, htwo⟩ := exitCode_texts
  cases e with
  | gpsIngest result =>
    have hdied : taskDied "gps_ingest" = "task_died:gps_ingest" := by simp [taskDied]
    cases result <;> cases synthSource <;>
      simp [Exit.reason, classifyIngestExit, Exit.orderly, hdied, hzero, htwo, Except.isOk,
        Except.toBool]
  | imuIngest result =>
    have hdied : taskDied "imu_ingest" = "task_died:imu_ingest" := by simp [taskDied]
    cases result <;> cases synthSource <;>
      simp [Exit.reason, classifyIngestExit, Exit.orderly, hdied, hzero, htwo, Except.isOk,
        Except.toBool]
  | _ => simp [Exit.reason, Exit.orderly, hzero, htwo]

namespace Phase

/-- The main task has found the fusion task ended. -/
def pastFusion : Phase → Bool
  | .draining _ | .flushing _ | .exited => true
  | .supervising | .awaitingFusion => false

/-- The main task has dropped the last sender. -/
def pastDrain : Phase → Bool
  | .flushing _ | .exited => true
  | .supervising | .awaitingFusion | .draining _ => false

end Phase

namespace Runtime

variable {α : Type} [Zero α] [One α] [Neg α] [Add α] [Sub α] [Mul α] [Div α] [NatCast α]
  [OfScientific α] [LT α] [LE α] [DecidableLT α] [DecidableLE α] [BEq α] [Max α] [Min α]
  [Libm α] [FiniteTest α] [Nalgebra α] {B : Type} [Broadcast B (SpoofingEvent α)]

/-! ## What a task's step keeps -/

theorem pollFusion_ended {rt : Runtime α B} (h : rt.fusionEnded = true) (env : Env α) :
    step rt (.pollFusion env) = rt.absorb (rt.loop, []) := by
  have hrun : rt.loop.running = false := by simpa [fusionEnded] using h
  have hidle : rt.loop.step (.iterate env) = (rt.loop, []) := by
    show rt.loop.iterate env = _
    unfold Loop.iterate
    rw [if_pos hrun]
  dsimp only [step]
  rw [hidle]

theorem fusionEnded_step {rt : Runtime α B} (h : rt.fusionEnded = true) (i : RuntimeInput α) :
    (step rt i).1.fusionEnded = true := by
  cases hi : i.isPollFusion with
  | true =>
    cases i with
    | pollFusion env =>
      rw [pollFusion_ended h]
      exact h
    | _ => exact absurd hi (by simp [RuntimeInput.isPollFusion])
  | false =>
    have hopen : (step rt i).1.loop.imuOpen = rt.loop.imuOpen ∧
        (step rt i).1.loop.gpsOpen = rt.loop.gpsOpen :=
      (step_open rt hi).elim (fun h => ⟨h.1, h.2.1⟩) (fun h => h.2)
    unfold fusionEnded Loop.running at h ⊢
    rw [hopen.1, hopen.2]
    exact h

/-- Every background task is running or waits to be joined. -/
theorem step_counted (rt : Runtime α B) (i : RuntimeInput α) :
    (step rt i).1.pendingBg.length + (step rt i).1.finishedBg =
      rt.pendingBg.length + rt.finishedBg + (tasksIn (step rt i).2).length := by
  cases i with
  | pollFusion env =>
    dsimp only [step, absorb]
    rw [tasksIn_fusion, List.length_append]
    omega
  | background now done =>
    dsimp only [step]
    split
    · rename_i hany
      obtain ⟨task, hmem, hends⟩ := List.any_eq_true.mp hany
      have hpos := List.length_pos_of_mem hmem
      dsimp only [absorb]
      rw [tasksIn_fusion, List.length_append, List.length_eraseP_of_mem hmem hends]
      omega
    · rfl
  | pollAction =>
    show (rt.pollAction).1.pendingBg.length + (rt.pollAction).1.finishedBg =
      _ + (tasksIn (rt.pollAction).2).length
    unfold pollAction
    split
    · rfl
    · split <;> rfl
  | _ => rfl

/-- With the fusion task ended and no background task left, only the watchdog sends. -/
theorem step_silent {rt : Runtime α B} (hended : rt.fusionEnded = true) (hbg : rt.pendingBg = [])
    {i : RuntimeInput α} (hi : ∀ e, i ≠ .watchdog e) :
    sentIn (step rt i).2 = [] ∧ (step rt i).1.pendingBg = [] ∧
      (step rt i).1.finishedBg = rt.finishedBg := by
  cases i with
  | pollFusion env =>
    rw [pollFusion_ended hended]
    exact ⟨rfl, by simp [absorb, hbg], rfl⟩
  | background now done =>
    dsimp only [step]
    rw [if_neg (by simp [hbg])]
    exact ⟨rfl, hbg, rfl⟩
  | watchdog e => exact absurd rfl (hi e)
  | pollAction =>
    show sentIn (rt.pollAction).2 = [] ∧ (rt.pollAction).1.pendingBg = [] ∧
      (rt.pollAction).1.finishedBg = _
    unfold pollAction
    split
    · exact ⟨rfl, hbg, rfl⟩
    · split <;> exact ⟨rfl, hbg, rfl⟩
  | _ => exact ⟨rfl, hbg, rfl⟩

/-- A task that has ended is answered nothing. -/
theorem answers_ended {rt : Runtime α B} (h : rt.actionEnded = true) (i : RuntimeInput α) :
    answersIn (step rt i).2 = [] := by
  cases i with
  | pollFusion env => exact answersIn_fusion _
  | background now done =>
    dsimp only [step]
    split
    · exact answersIn_fusion _
    · rfl
  | pollAction =>
    show answersIn (rt.pollAction).2 = []
    unfold pollAction
    rw [if_pos h]
    rfl
  | _ => rfl

/-- The action task ends where the channel does. -/
theorem action_ends {Trails : B → Trail (SpoofingEvent α) → Prop}
    (hdoc : Broadcast.Documented Trails) {rt : Runtime α B} {closed : Bool}
    {out : List (RuntimeOutput α)} (h : Told Trails rt.events closed out) (i : RuntimeInput α)
    (hbefore : rt.actionEnded = false) (hended : (step rt i).1.actionEnded = true) :
    closed = true ∧
      Broadcast.accounted (answersIn (out ++ (step rt i).2)) = (sentIn out).length := by
  cases i with
  | pollAction =>
    revert hended
    show (rt.pollAction).1.actionEnded = true →
      _ ∧ Broadcast.accounted (answersIn (out ++ (rt.pollAction).2)) = _
    unfold pollAction
    rw [if_neg (by simp [hbefore])]
    split
    · exact fun hended => absurd (hbefore.symm.trans hended) (by simp)
    · rename_i answer events hrecv
      intro hclosed
      cases answer with
      | value m => exact absurd hclosed (by simp [Received.isClosed])
      | lagged n => exact absurd hclosed (by simp [Received.isClosed])
      | closed =>
        obtain ⟨hend, hall, -⟩ := hdoc.ended h.trail hrecv
        refine ⟨hend, ?_⟩
        rw [answersIn_append]
        exact (Broadcast.accounted_snoc _ _).trans hall
  | background now done =>
    revert hended
    dsimp only [step]
    split <;> exact fun hended => absurd (hbefore.symm.trans hended) (by simp)
  | _ => exact absurd (hbefore.symm.trans hended) (by simp)

end Runtime

namespace Supervisor

variable {α : Type} [Zero α] [One α] [Neg α] [Add α] [Sub α] [Mul α] [Div α] [NatCast α]
  [OfScientific α] [LT α] [LE α] [DecidableLT α] [DecidableLE α] [BEq α] [Max α] [Min α]
  [Libm α] [FiniteTest α] [Nalgebra α] {B : Type} [Broadcast B (SpoofingEvent α)]

open FlyingSquirrel.Runtime

/-- What holds of the supervised process at every point, given what was put out before it. -/
structure Sound (sv : Supervisor α B) (out : List (RuntimeOutput α)) : Prop where
  told : ∀ {Trails : B → Trail (SpoofingEvent α) → Prop}, Broadcast.Documented Trails →
    Told Trails sv.runtime.events sv.phase.pastDrain out
  wired : Wired sv.runtime
  dry : .fusion ∉ sv.panicked → Dry sv.runtime
  counted : sv.runtime.pendingBg.length + sv.runtime.finishedBg + sv.completed + sv.aborted =
    (tasksIn out).length
  kept : sv.phase.pastDrain = false → sv.aborted = 0
  fusionDown : sv.phase.pastFusion = true → sv.runtime.fusionEnded = true
  /-- The last sender is dropped once nothing can be sent. -/
  silenced : sv.phase.pastDrain = true → sv.runtime.fusionEnded = true ∧
    sv.runtime.pendingBg = [] ∧ sv.runtime.finishedBg = 0 ∧ sv.watchdogEnded = true
  handed : sv.runtime.actionEnded = true → .action ∈ sv.panicked ∨ sv.cutShort = true ∨
    ∀ {Trails : B → Trail (SpoofingEvent α) → Prop}, Broadcast.Documented Trails →
      sv.phase.pastDrain = true ∧ Broadcast.accounted (answersIn out) = (sentIn out).length
  exited : sv.phase = .exited → sv.runtime.actionEnded = true
  reason : sv.phase ≠ .supervising → ∃ e, sv.exit = some e

theorem Sound.start {α : Type} {B : Type} [Broadcast B (SpoofingEvent α)]
    (f : Fusion α) : Sound (start (Runtime.start B f)) [] where
  told hdoc := .start hdoc
  wired := .start f
  dry _ := .start f
  counted := rfl
  kept _ := rfl
  fusionDown h := absurd h (by simp [Supervisor.start, Phase.pastFusion])
  silenced h := absurd h (by simp [Supervisor.start, Phase.pastDrain])
  handed h := absurd h (by simp [Supervisor.start, Runtime.start])
  exited h := absurd h (by simp [Supervisor.start])
  reason h := absurd rfl h

/-! ## A task's step -/

theorem Sound.runs {sv : Supervisor α B} {out : List (RuntimeOutput α)} (h : Sound sv out)
    (i : RuntimeInput α) (hwatch : ∀ e, i = .watchdog e → sv.watchdogEnded = false)
    (hphase : sv.phase ≠ .exited) :
    Sound { sv with runtime := (Runtime.step sv.runtime i).1 }
      (out ++ (Runtime.step sv.runtime i).2) where
  told hdoc := (h.told hdoc).step hdoc i
  wired := h.wired.step i
  dry hno := (h.dry hno).step h.wired i
  counted := by
    have hone := step_counted sv.runtime i
    have hsum := h.counted
    rw [tasksIn_append, List.length_append]
    show (Runtime.step sv.runtime i).1.pendingBg.length +
      (Runtime.step sv.runtime i).1.finishedBg + sv.completed + sv.aborted = _
    omega
  kept := h.kept
  fusionDown hpast := fusionEnded_step (h.fusionDown hpast) i
  silenced hpast := by
    obtain ⟨hended, hbg, hfin, hw⟩ := h.silenced hpast
    have hi : ∀ e, i ≠ .watchdog e := fun e he => by
      rw [hwatch e he] at hw
      exact absurd hw (by simp)
    obtain ⟨-, hbg', hfin'⟩ := step_silent hended hbg hi
    exact ⟨fusionEnded_step hended i, hbg', hfin'.trans hfin, hw⟩
  handed hended := by
    -- once the last sender is gone nothing is sent, so the end of the channel stays where it was
    have hsame : sv.phase.pastDrain = true →
        sentIn (out ++ (Runtime.step sv.runtime i).2) = sentIn out := fun hpast => by
      obtain ⟨hfe, hbg, -, hw⟩ := h.silenced hpast
      have hi : ∀ e, i ≠ .watchdog e := fun e he => by
        rw [hwatch e he] at hw
        exact absurd hw (by simp)
      rw [sentIn_append, (step_silent hfe hbg hi).1, List.append_nil]
    cases hbefore : sv.runtime.actionEnded with
    | true =>
      refine (h.handed hbefore).imp_right (Or.imp_right fun hall {Trails} hdoc => ?_)
      obtain ⟨hpast, hcount⟩ := hall hdoc
      rw [hsame hpast, answersIn_append, answers_ended hbefore, List.append_nil]
      exact ⟨hpast, hcount⟩
    | false =>
      refine .inr (.inr fun {Trails} hdoc => ?_)
      obtain ⟨hpast, hcount⟩ := action_ends hdoc (h.told hdoc) i hbefore hended
      rw [hsame hpast]
      exact ⟨hpast, hcount⟩
  exited he := absurd he hphase
  reason := h.reason

theorem Sound.task {sv : Supervisor α B} {out : List (RuntimeOutput α)} (h : Sound sv out)
    (i : RuntimeInput α) : Sound (sv.task i).1 (out ++ (sv.task i).2) := by
  have hquiet : Sound sv (out ++ []) := by rwa [List.append_nil]
  unfold Supervisor.task
  dsimp only
  split
  · exact hquiet
  · rename_i hphase
    cases i with
    | watchdog e =>
      dsimp only
      split
      · exact hquiet
      · rename_i hw
        exact h.runs (.watchdog e) (fun _ _ => by simpa using hw) hphase
    | _ => exact h.runs _ (fun e he => absurd he (by simp)) hphase

/-! ## The main task's step, and a panic -/

theorem Sound.select {α : Type} {B : Type} [Broadcast B (SpoofingEvent α)]
    {sv : Supervisor α B} {out : List (RuntimeOutput α)} (h : Sound sv out)
    (e : Exit) : Sound (sv.select e) out := by
  unfold Supervisor.select
  split
  · rename_i hready
    exact { h with
      wired := { h.wired with gps := rfl, imu := rfl }
      dry := fun hno =>
        ⟨fun hoff => ⟨rfl, ((h.dry hno).gps hoff).2⟩, fun hoff => ⟨rfl, ((h.dry hno).imu hoff).2⟩⟩
      kept := fun _ => h.kept (by rw [hready.1]; rfl)
      fusionDown := fun hpast => absurd hpast (by simp [Phase.pastFusion])
      told := fun hdoc => by
        have htold := h.told hdoc
        rwa [hready.1] at htold
      silenced := fun hpast => absurd hpast (by simp [Phase.pastDrain])
      handed := fun hended => by
        have hhanded := h.handed hended
        rwa [hready.1] at hhanded
      exited := fun he => absurd he (by simp)
      reason := fun _ => ⟨e, rfl⟩ }
  · exact h

theorem Sound.panics {α : Type} {B : Type} [Broadcast B (SpoofingEvent α)]
    {sv : Supervisor α B} {out : List (RuntimeOutput α)} (h : Sound sv out)
    (c : Casualty) : Sound (sv.panics c) out := by
  unfold Supervisor.panics
  dsimp only
  cases c with
  | gpsIngest =>
    dsimp only
    split
    · exact h
    · exact { h with
        wired := { h.wired with gps := rfl }
        dry := fun hno => { h.dry fun hin => hno (List.mem_cons_of_mem _ hin) with
          gps := fun hoff =>
            ⟨rfl, ((h.dry fun hin => hno (List.mem_cons_of_mem _ hin)).gps hoff).2⟩ }
        handed := fun hended => (h.handed hended).imp_left (List.mem_cons_of_mem _) }
  | imuIngest =>
    dsimp only
    split
    · exact h
    · exact { h with
        wired := { h.wired with imu := rfl }
        dry := fun hno => { h.dry fun hin => hno (List.mem_cons_of_mem _ hin) with
          imu := fun hoff =>
            ⟨rfl, ((h.dry fun hin => hno (List.mem_cons_of_mem _ hin)).imu hoff).2⟩ }
        handed := fun hended => (h.handed hended).imp_left (List.mem_cons_of_mem _) }
  | fusion =>
    dsimp only
    split
    · exact h
    · exact { h with
        wired := { h.wired with }
        dry := fun hno => absurd List.mem_cons_self hno
        fusionDown := fun _ => rfl
        silenced := fun hpast => ⟨rfl, (h.silenced hpast).2⟩
        handed := fun hended => (h.handed hended).imp_left (List.mem_cons_of_mem _) }
  | action =>
    dsimp only
    split
    · exact h
    · exact { h with
        wired := { h.wired with }
        dry := fun hno => { h.dry fun hin => hno (List.mem_cons_of_mem _ hin) with }
        handed := fun _ => .inl List.mem_cons_self
        exited := fun _ => rfl }
  | watchdog =>
    dsimp only
    split
    · exact h
    · exact { h with
        dry := fun hno => h.dry fun hin => hno (List.mem_cons_of_mem _ hin)
        silenced := fun hpast =>
          ⟨(h.silenced hpast).1, (h.silenced hpast).2.1, (h.silenced hpast).2.2.1, rfl⟩
        handed := fun hended => (h.handed hended).imp_left (List.mem_cons_of_mem _) }
  | background place =>
    dsimp only
    split
    · rename_i hlt
      exact { h with
        wired := { h.wired with }
        dry := fun hno => { h.dry hno with }
        counted := by
          have hsum := h.counted
          show (sv.runtime.pendingBg.eraseIdx place).length + (sv.runtime.finishedBg + 1) +
            sv.completed + sv.aborted = _
          rw [List.length_eraseIdx_of_lt hlt]
          omega
        silenced := fun hpast => by
          rw [(h.silenced hpast).2.1] at hlt
          exact absurd hlt (Nat.not_lt_zero place) }
    · exact h

/-- The last sender is dropped once the fusion task is down, and what has not been joined by
    then is counted as aborted. -/
theorem Sound.dropSenders {α : Type} {B : Type} [Broadcast B (SpoofingEvent α)]
    {sv : Supervisor α B} {out : List (RuntimeOutput α)} (h : Sound sv out)
    (hdown : sv.runtime.fusionEnded = true) (hkept : sv.aborted = 0)
    (hexit : ∃ e, sv.exit = some e) (now : Instant) :
    Sound ({ sv with
      runtime := { sv.runtime with pendingBg := [], finishedBg := 0 }
      aborted := sv.runtime.pendingBg.length + sv.runtime.finishedBg }.dropSenders now) out where
  told hdoc := ⟨hdoc.close (h.told hdoc).trail, (h.told hdoc).accounts, (h.told hdoc).le⟩
  wired := { h.wired with }
  dry hno := { h.dry hno with }
  counted := by
    have hsum := h.counted
    show 0 + 0 + sv.completed + (sv.runtime.pendingBg.length + sv.runtime.finishedBg) = _
    omega
  kept hpast := absurd hpast (by simp [Supervisor.dropSenders, Phase.pastDrain])
  fusionDown _ := hdown
  silenced _ := ⟨hdown, rfl, rfl, rfl⟩
  handed hended :=
    (h.handed hended).imp_right (Or.imp_right fun hall {Trails} hdoc => ⟨rfl, (hall hdoc).2⟩)
  exited he := absurd he (by simp [Supervisor.dropSenders])
  reason _ := hexit

theorem nothing_left {α : Type} {B : Type} {sv : Supervisor α B} (hbg : sv.runtime.pendingBg = [])
    (hfin : sv.runtime.finishedBg = 0) (hkept : sv.aborted = 0) :
    { sv with runtime := { sv.runtime with pendingBg := [], finishedBg := 0 }, aborted := 0 } =
      sv := by
  obtain ⟨⟨_, _, _, _, _, _, _, _⟩, _, _, _, _, _, _, _⟩ := sv
  dsimp only at hbg hfin hkept
  subst hbg hfin hkept
  rfl

/-- The main task goes on to a phase on the same side of the drain. -/
theorem Sound.moves {α : Type} {B : Type} [Broadcast B (SpoofingEvent α)]
    {sv : Supervisor α B} {out : List (RuntimeOutput α)} (h : Sound sv out)
    {phase : Phase} (hside : phase.pastDrain = sv.phase.pastDrain)
    (hdown : phase.pastFusion = true → sv.runtime.fusionEnded = true)
    (hexited : phase = .exited → sv.runtime.actionEnded = true)
    (hexit : ∃ e, sv.exit = some e) : Sound { sv with phase := phase } out where
  told hdoc := hside ▸ h.told hdoc
  wired := h.wired
  dry := h.dry
  counted := h.counted
  kept hpast := h.kept (hside ▸ hpast)
  fusionDown := hdown
  silenced hpast := h.silenced (hside ▸ hpast)
  handed hended := hside ▸ h.handed hended
  exited := hexited
  reason _ := hexit

theorem Sound.main {α : Type} {B : Type} [Broadcast B (SpoofingEvent α)]
    {sv : Supervisor α B} {out : List (RuntimeOutput α)} (h : Sound sv out)
    (now : Instant) : Sound (sv.main now) out := by
  unfold Supervisor.main
  cases hp : sv.phase with
  | supervising => exact h
  | exited => exact h
  | awaitingFusion =>
    dsimp only
    split
    · rename_i hended
      exact h.moves (by rw [hp]; rfl) (fun _ => hended) (fun he => absurd he (by simp))
        (h.reason (by simp [hp]))
    · exact h
  | draining deadline =>
    have hdown := h.fusionDown (by rw [hp]; rfl)
    have hkept := h.kept (by rw [hp]; rfl)
    have hexit := h.reason (by simp [hp])
    have hcut := h.dropSenders hdown hkept hexit now
    dsimp only
    split
    · rename_i hleft
      have hbg : sv.runtime.pendingBg = [] := List.eq_nil_of_length_eq_zero (by omega)
      have hfin : sv.runtime.finishedBg = 0 := by omega
      rwa [hleft, nothing_left hbg hfin hkept] at hcut
    · split
      · exact hcut
      · split
        · rename_i hfin
          have hjoined : Sound { sv with
              runtime := { sv.runtime with finishedBg := sv.runtime.finishedBg - 1 }
              completed := sv.completed + 1 } out := { h with
            wired := { h.wired with }
            dry := fun hno => { h.dry hno with }
            counted := by
              have hsum := h.counted
              show sv.runtime.pendingBg.length + (sv.runtime.finishedBg - 1) +
                (sv.completed + 1) + sv.aborted = _
              omega
            silenced := fun hpast => by
              rw [(h.silenced hpast).2.2.1] at hfin
              exact absurd hfin (Nat.lt_irrefl 0) }
          rwa [hp] at hjoined
        · exact h
  | flushing deadline =>
    have hdown := h.fusionDown (by rw [hp]; rfl)
    have hexit := h.reason (by simp [hp])
    dsimp only
    split
    · rename_i hended
      exact h.moves (by rw [hp]; rfl) (fun _ => hdown) (fun _ => hended) hexit
    · split
      · have hcut : Sound { sv with
            runtime := { sv.runtime with actionEnded := true }
            cutShort := true } out := { h with
          wired := { h.wired with }
          dry := fun hno => { h.dry hno with }
          handed := fun _ => .inr (.inl rfl)
          exited := fun _ => rfl }
        exact hcut.moves (by rw [hp]; rfl) (fun _ => hdown) (fun _ => rfl) hexit
      · exact h

/-- **The step lemma.** -/
theorem Sound.step {sv : Supervisor α B} {out : List (RuntimeOutput α)} (h : Sound sv out)
    (i : SupervisorInput α) : Sound (sv.step i).1 (out ++ (sv.step i).2) := by
  cases i with
  | task i => exact h.task i
  | panics c => exact (List.append_nil out).symm ▸ h.panics c
  | select e => exact (List.append_nil out).symm ▸ h.select e
  | main now => exact (List.append_nil out).symm ▸ h.main now

/-- **What an exit leaves behind.** However the tasks interleave, panic and are stopped, once the
    process has exited: an arm was taken, and the code is 0 exactly if it was an orderly one; the
    fusion task has ended, and unless it panicked it had taken every fix and sample that reached
    it; the background tasks joined and aborted are all that were started; and unless the action
    task panicked or was cut short, on a channel of the documented kind every event that was sent
    was handed to the flight controller, in order, or counted as missed. -/
theorem exit_accounted (f : Fusion α) (is : List (SupervisorInput α)) (synthSource : Bool)
    (hexit : (run step (start (.start B f)) is).phase = .exited) :
    let sv := run step (start (.start B f)) is
    let out := outputs step (start (.start B f)) is
    (∃ e, sv.exit = some e ∧
      exitCode (e.reason synthSource) = if e.orderly synthSource then 0 else 2) ∧
    sv.runtime.fusionEnded = true ∧
    (.fusion ∉ sv.panicked →
      sv.runtime.loop.imuRx.queue = [] ∧ sv.runtime.loop.gpsRx.queue = []) ∧
    sv.completed + sv.aborted = (tasksIn out).length ∧
    (.action ∉ sv.panicked → sv.cutShort = false →
      ∀ {Trails : B → Trail (SpoofingEvent α) → Prop}, Broadcast.Documented Trails →
        Broadcast.Accounts (answersIn out) (sentIn out)) := by
  intro sv out
  have hsound : Sound sv out := run_told (fun _ i _ h => h.step i) (Sound.start f) is
  obtain ⟨hended, hbg, hfin, -⟩ := hsound.silenced (by rw [hexit]; rfl)
  obtain ⟨e, he⟩ := hsound.reason (by rw [hexit]; simp)
  refine ⟨⟨e, he, exitCode_reason synthSource e⟩, hended, fun hno => (hsound.dry hno).ended hended,
    ?_, fun hno hcut {Trails} hdoc => ?_⟩
  · have hsum := hsound.counted
    rw [hbg, hfin] at hsum
    simpa using hsum
  · rcases hsound.handed (hsound.exited hexit) with hp | hc | hall
    · exact absurd hp hno
    · exact absurd (hc.symm.trans hcut) (by simp)
    · have hacc := (hsound.told hdoc).accounts
      rw [(hall hdoc).2, List.take_length] at hacc
      exact hacc

/-- A fix is on its way, and the process is stopped. -/
def stopped : List (SupervisorInput ℚ) :=
  [.task (.gpsYields (some (.ok (fixAt 95 0)))), .task .pollGps, .task .pollGps,
    .task (.pollFusion quietEnv), .select .sigterm, .task (.pollFusion quietEnv),
    .task (.pollFusion quietEnv), .main 0, .main 0, .task .pollAction, .task .pollAction,
    .task .pollAction, .main 1]

theorem exit_accounted_stopped :
    Broadcast.Accounts
      (answersIn (outputs step (start (.start EventRing (Fusion.new quickCfg 0))) stopped))
      (sentIn (outputs step (start (.start EventRing (Fusion.new quickCfg 0))) stopped)) :=
  (exit_accounted (Fusion.new quickCfg 0) stopped false (by decide +kernel)).2.2.2.2
    (by decide +kernel) (by decide +kernel) RingChannel.documented

end Supervisor

end FlyingSquirrel

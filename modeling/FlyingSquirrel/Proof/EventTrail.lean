import FlyingSquirrel.Mav.Watchdog
import FlyingSquirrel.Proof.Pipeline

/-!
# The trail of events

The flight controller hears of the detector's events from the action task, which reads a
broadcast channel at its own pace. **Every event sent is handed on in its place, or counted in a
warning, or still waits in the channel.** Nothing is skipped in silence, and nothing at all while
the task keeps within the channel's capacity. Of the channel only what is documented is assumed.
-/

set_option autoImplicit false

namespace FlyingSquirrel

open Lib

namespace Runtime

section Told

variable {α : Type}

/-- The events sent, in order. -/
def sentIn (out : List (RuntimeOutput α)) : List (SpoofingEvent α) :=
  out.filterMap RuntimeOutput.sent?

/-- What the action task was answered. -/
def answersIn (out : List (RuntimeOutput α)) : List (Received (SpoofingEvent α)) :=
  out.filterMap RuntimeOutput.answer?

/-- The background tasks started. -/
def tasksIn (out : List (RuntimeOutput α)) : List (BgTask α) :=
  (out.filterMap RuntimeOutput.fusion?).filterMap Output.task?

theorem sentIn_append (out out' : List (RuntimeOutput α)) :
    sentIn (out ++ out') = sentIn out ++ sentIn out' := List.filterMap_append

theorem answersIn_append (out out' : List (RuntimeOutput α)) :
    answersIn (out ++ out') = answersIn out ++ answersIn out' := List.filterMap_append

theorem tasksIn_append (out out' : List (RuntimeOutput α)) :
    tasksIn (out ++ out') = tasksIn out ++ tasksIn out' := by
  unfold tasksIn
  rw [List.filterMap_append, List.filterMap_append]

theorem sentIn_fusion (out : List (Output α)) :
    sentIn (out.map RuntimeOutput.fusion) = out.filterMap Output.event? := List.filterMap_map ..

theorem answersIn_fusion (out : List (Output α)) :
    answersIn (out.map RuntimeOutput.fusion) = [] := by
  unfold answersIn
  rw [List.filterMap_map]
  exact List.filterMap_eq_nil_iff.mpr fun _ _ => rfl

theorem tasksIn_fusion (out : List (Output α)) :
    tasksIn (out.map RuntimeOutput.fusion) = out.filterMap Output.task? := by
  unfold tasksIn
  rw [List.filterMap_map]
  exact congrArg _ List.filterMap_some

/-- The events the watchdog sent. -/
def warningsIn (out : List (RuntimeOutput α)) : List (SpoofingEvent α) :=
  out.filterMap RuntimeOutput.watchdog?

theorem warningsIn_fusion (out : List (Output α)) :
    warningsIn (out.map RuntimeOutput.fusion) = [] := by
  unfold warningsIn
  rw [List.filterMap_map]
  exact List.filterMap_eq_nil_iff.mpr fun _ _ => rfl

/-- What is sent is what the fusion task sends and what the watchdog does. -/
theorem sentIn_perm (out : List (RuntimeOutput α)) :
    (sentIn out).Perm
      ((out.filterMap RuntimeOutput.fusion?).filterMap Output.event? ++ warningsIn out) := by
  induction out with
  | nil => exact .refl _
  | cons o out ih =>
    cases o with
    | fusion o =>
      cases o with
      | event e => exact ih.cons e
      | call c => exact ih
      | spawn task => exact ih
    | watchdog e => exact (ih.cons e).trans List.perm_middle.symm
    | action answer => exact ih

/-- What the fusion task sends is among what is sent, in order. -/
theorem fusion_sublist (out : List (RuntimeOutput α)) :
    ((out.filterMap RuntimeOutput.fusion?).filterMap Output.event?).Sublist (sentIn out) := by
  induction out with
  | nil => exact List.Sublist.refl _
  | cons o out ih =>
    cases o with
    | fusion o =>
      cases o with
      | event e => exact ih.cons_cons e
      | call c => exact ih
      | spawn task => exact ih
    | watchdog e => exact ih.cons e
    | action answer => exact ih

/-- The channel is as what was put out says: what was sent on it, and what its reader was answered
    for. -/
structure Told {B : Type} (Trails : B → Trail (SpoofingEvent α) → Prop) (events : B)
    (closed : Bool) (out : List (RuntimeOutput α)) : Prop where
  trail : Trails events ⟨eventsCap, sentIn out, Broadcast.accounted (answersIn out), closed⟩
  accounts : Broadcast.Accounts (answersIn out)
    ((sentIn out).take (Broadcast.accounted (answersIn out)))
  le : Broadcast.accounted (answersIn out) ≤ (sentIn out).length

/-- How many events the action task has yet to be answered for. -/
def behind (out : List (RuntimeOutput α)) : Nat :=
  (sentIn out).length - Broadcast.accounted (answersIn out)

section Channel

variable {B : Type} [Broadcast B (SpoofingEvent α)] {Trails : B → Trail (SpoofingEvent α) → Prop}
  (hdoc : Broadcast.Documented Trails) {events : B} {closed : Bool}
  {out : List (RuntimeOutput α)}
include hdoc

/-- More is sent, and the action task stays where it is. -/
theorem Told.sends (h : Told Trails events closed out) (more : List (RuntimeOutput α))
    (hnone : answersIn more = []) :
    Told Trails (Broadcast.sendAll events (sentIn more)) closed (out ++ more) := by
  have hanswers : answersIn (out ++ more) = answersIn out := by
    rw [answersIn_append, hnone, List.append_nil]
  refine ⟨?_, ?_, ?_⟩
  · rw [hanswers, sentIn_append]
    exact hdoc.sendAll h.trail _
  · rw [hanswers, sentIn_append, List.take_append_of_le_length h.le]
    exact h.accounts
  · rw [hanswers, sentIn_append, List.length_append]
    exact Nat.le_add_right_of_le h.le

theorem Told.still (h : Told Trails events closed out) :
    Told Trails events closed (out ++ []) := h.sends hdoc [] rfl

/-- The action task reads on. -/
theorem Told.answered (h : Told Trails events closed out) {answer : Received (SpoofingEvent α)}
    {events' : B} (hrecv : Broadcast.recv events = some (answer, events')) :
    Told Trails events' closed (out ++ [.action answer]) := by
  have hsent : sentIn (out ++ [.action answer]) = sentIn out := by
    rw [sentIn_append]
    exact List.append_nil _
  have hanswers : answersIn (out ++ [.action answer]) = answersIn out ++ [answer] :=
    answersIn_append ..
  obtain ⟨htrail, hacc, hle⟩ := hdoc.recv h.trail h.accounts h.le hrecv
  refine ⟨?_, ?_, ?_⟩ <;> rw [hanswers, Broadcast.accounted_snoc, hsent]
  · exact htrail
  · exact hacc
  · exact hle

theorem Told.start : Told Trails (Broadcast.create eventsCap) false [] :=
  ⟨hdoc.create eventsCap, .nil, Nat.le_refl 0⟩

end Channel

end Told

variable {α : Type} [Zero α] [One α] [Neg α] [Add α] [Sub α] [Mul α] [Div α] [NatCast α]
  [OfScientific α] [LT α] [LE α] [DecidableLT α] [DecidableLE α] [BEq α] [Max α] [Min α]
  [Libm α] [FiniteTest α] [Nalgebra α] {B : Type} [Broadcast B (SpoofingEvent α)]

/-- Only the watchdog's task sends as the watchdog. -/
theorem step_warnings (rt : Runtime α B) (i : RuntimeInput α) :
    warningsIn (step rt i).2 = i.watchdog?.toList := by
  cases i with
  | pollFusion env => exact warningsIn_fusion _
  | background now done =>
    dsimp only [step]
    split
    · exact warningsIn_fusion _
    · rfl
  | pollAction =>
    show warningsIn (rt.pollAction).2 = []
    unfold pollAction
    split
    · rfl
    · split <;> rfl
  | _ => rfl

theorem outputs_warnings (rt : Runtime α B) (is : List (RuntimeInput α)) :
    warningsIn (outputs step rt is) = is.filterMap RuntimeInput.watchdog? := by
  induction is generalizing rt with
  | nil => rfl
  | cons i is ih =>
    show warningsIn ((step rt i).2 ++ outputs step (step rt i).1 is) = _
    unfold warningsIn at ih ⊢
    rw [List.filterMap_append, ih, show (step rt i).2.filterMap RuntimeOutput.watchdog? = _ from
      step_warnings rt i]
    cases h : i.watchdog? <;> simp [h]

section Documented

variable {Trails : B → Trail (SpoofingEvent α) → Prop} (hdoc : Broadcast.Documented Trails)
  {rt : Runtime α B} {closed : Bool} {out : List (RuntimeOutput α)}
include hdoc

section

omit [Zero α] [One α] [Neg α] [Add α] [Sub α] [Mul α] [Div α] [NatCast α] [OfScientific α] [LT α]
  [LE α] [DecidableLT α] [DecidableLE α] [BEq α] [Max α] [Min α] [Libm α] [FiniteTest α]
  [Nalgebra α]

theorem Told.absorb (h : Told Trails rt.events closed out) (x : Loop α × List (Output α)) :
    Told Trails (rt.absorb x).1.events closed (out ++ (rt.absorb x).2) := by
  have hmore := h.sends hdoc (x.2.map .fusion) (answersIn_fusion x.2)
  rw [sentIn_fusion] at hmore
  exact hmore

theorem Told.pollAction (h : Told Trails rt.events closed out) :
    Told Trails rt.pollAction.1.events closed (out ++ rt.pollAction.2) := by
  unfold Runtime.pollAction
  split
  · exact h.still hdoc
  · split
    · exact h.still hdoc
    · rename_i answer events hrecv
      exact h.answered hdoc hrecv

end

/-- **The step lemma.** -/
theorem Told.step (h : Told Trails rt.events closed out) (i : RuntimeInput α) :
    Told Trails (step rt i).1.events closed (out ++ (step rt i).2) := by
  cases i with
  | pollFusion env => exact h.absorb hdoc _
  | background now done =>
    dsimp only [Runtime.step]
    split
    · have hdone : Told Trails (Runtime.events { rt with
          pendingBg := rt.pendingBg.eraseP (·.endsAs done)
          finishedBg := rt.finishedBg + 1 }) closed out := h
      exact hdone.absorb hdoc _
    · exact h.still hdoc
  | watchdog e => exact h.sends hdoc [.watchdog e] rfl
  | pollAction => exact h.pollAction hdoc
  | _ => exact h.still hdoc

/-- An answer within the capacity reports nothing missed. -/
theorem Told.missed_step (h : Told Trails rt.events closed out) (hwithin : behind out ≤ eventsCap)
    (hnone : Broadcast.missed (answersIn out) = 0) (i : RuntimeInput α) :
    Broadcast.missed (answersIn (out ++ (Runtime.step rt i).2)) = 0 := by
  have hquiet : ∀ {more : List (RuntimeOutput α)}, answersIn more = [] →
      Broadcast.missed (answersIn (out ++ more)) = 0 := by
    intro more hmore
    rwa [answersIn_append, hmore, List.append_nil]
  cases i with
  | pollAction =>
    show Broadcast.missed (answersIn (out ++ rt.pollAction.2)) = 0
    unfold Runtime.pollAction
    split
    · exact hquiet rfl
    · split
      · exact hquiet rfl
      · rename_i answer events hrecv
        have hle := h.le
        unfold behind at hwithin
        have hzero := hdoc.recv_within h.trail (by dsimp only; omega) hrecv
        rw [answersIn_append]
        show Broadcast.missed (answersIn out ++ [answer]) = 0
        rw [Broadcast.missed_snoc, hnone, hzero]
  | pollFusion env => exact hquiet (answersIn_fusion _)
  | background now done =>
    dsimp only [Runtime.step]
    split
    · exact hquiet (answersIn_fusion _)
    · exact hquiet rfl
  | _ => exact hquiet rfl

/-- **The run lemma.** -/
theorem told_outputs (f : Fusion α) (is : List (RuntimeInput α)) :
    Told Trails (run Runtime.step (start B f) is).events false
      (outputs Runtime.step (start B f) is) :=
  run_told (R := fun (rt : Runtime α B) out => Told Trails rt.events false out)
    (fun _ i _ h => h.step hdoc i) (Told.start hdoc) is

/-- A task that keeps within the capacity is told of nothing missed. -/
theorem missed_outputs {f : Fusion α} {is : List (RuntimeInput α)}
    (hwithin : ∀ is₁, is₁ <+: is → behind (outputs Runtime.step (start B f) is₁) ≤ eventsCap) :
    Broadcast.missed (answersIn (outputs Runtime.step (start B f) is)) = 0 := by
  induction is using List.reverseRecOn with
  | nil => rfl
  | append_singleton is i ih =>
    have hbefore := ih fun is₁ his₁ => hwithin is₁ (his₁.trans (List.prefix_append is [i]))
    rw [outputs_snoc]
    exact (told_outputs hdoc f is).missed_step hdoc (hwithin is (List.prefix_append is [i]))
      hbefore i

omit hdoc in
/-- Where no more is sent than the channel has room for, the task keeps within the capacity. -/
theorem behind_le_sent {f : Fusion α} {is is₁ : List (RuntimeInput α)} (h : is₁ <+: is) :
    behind (outputs Runtime.step (start B f) is₁) ≤
      (sentIn (outputs Runtime.step (start B f) is)).length := by
  obtain ⟨is₂, rfl⟩ := h
  rw [outputs_append, sentIn_append, List.length_append]
  unfold behind
  omega

/-- A task that keeps within the capacity, and now waits, was handed everything. -/
theorem handed_outputs {f : Fusion α} {is : List (RuntimeInput α)}
    (hwithin : ∀ is₁, is₁ <+: is → behind (outputs Runtime.step (start B f) is₁) ≤ eventsCap)
    (hwaits : Broadcast.recv (run Runtime.step (start B f) is).events = none) :
    Broadcast.values (answersIn (outputs Runtime.step (start B f) is)) =
      sentIn (outputs Runtime.step (start B f) is) := by
  have htold := told_outputs hdoc f is
  have hall := (hdoc.waits htold.trail hwaits).2
  dsimp only at hall
  rw [htold.accounts.exact (missed_outputs hdoc hwithin), hall, List.take_length]

end Documented

/-- **Every event is accounted for.** However the tasks interleave, and whatever channel of the
    documented kind it is that they send on: what is sent are the detector's own events, in the
    order it put them out, and the watchdog's; the action task hands on what it is given in the
    order it was sent, each event once; what it is given and what it is told that it missed
    are the events sent up to its place in the channel, and where it waits, all of them; and a task
    that is never more than the channel's capacity behind has handed on every one. -/
theorem events_accounted {Trails : B → Trail (SpoofingEvent α) → Prop}
    (hdoc : Broadcast.Documented Trails) (f : Fusion α) (is : List (RuntimeInput α)) :
    let rt := run step (start B f) is
    let out := outputs step (start B f) is
    let own := (outputs Fusion.step f ((start B f).taken is)).filterMap Output.event?
    let handed := Broadcast.values (answersIn out)
    let passed := handed.length + Broadcast.missed (answersIn out)
    own.Sublist (sentIn out) ∧
    (sentIn out).Perm (own ++ is.filterMap RuntimeInput.watchdog?) ∧
    handed.Sublist (sentIn out) ∧
    passed ≤ (sentIn out).length ∧
    Broadcast.Accounts (answersIn out) ((sentIn out).take passed) ∧
    (Broadcast.recv rt.events = none → passed = (sentIn out).length) ∧
    ((∀ is₁, is₁ <+: is → behind (outputs step (start B f) is₁) ≤ eventsCap) →
      handed = (sentIn out).take passed) := by
  intro rt out own handed passed
  have htold := told_outputs hdoc f is
  have hown : (out.filterMap RuntimeOutput.fusion?).filterMap Output.event? = own :=
    congrArg _ (run_fusion (start B f) is).2
  refine ⟨?_, ?_, htold.accounts.sublist.trans (List.take_sublist _ _), htold.le, htold.accounts,
    fun hwaits => (hdoc.waits htold.trail hwaits).2,
    fun hwithin => htold.accounts.exact (missed_outputs hdoc hwithin)⟩
  · rw [← hown]
    exact fusion_sublist out
  · rw [← hown, ← outputs_warnings (start B f) is]
    exact sentIn_perm out

/-- The detector reports, and the link goes up and down forty times before the action task is
    polled. -/
def lagging : List (RuntimeInput ℚ) :=
  [.gpsYields (some (.ok (fixAt 95 0))), .pollGps, .pollGps, .pollFusion quietEnv] ++
    (List.range 40).map (fun k => .watchdog (emitLinkEvent k 0 (decide (k % 2 = 0)) 4)) ++
    List.replicate 33 .pollAction

/-- It misses the oldest nine, and is handed the rest. -/
theorem events_accounted_lagging :
    let out := outputs step (start EventRing (Fusion.new quickCfg 0)) lagging
    Broadcast.missed (answersIn out) = 9 ∧
    (Broadcast.values (answersIn out)).length + 9 = (sentIn out).length := by
  have haccounted : ∀ is : List (RuntimeInput ℚ),
      Broadcast.recv (run step (start EventRing (Fusion.new quickCfg 0)) is).events = none →
      (Broadcast.values (answersIn (outputs step (start EventRing (Fusion.new quickCfg 0))
          is))).length + Broadcast.missed (answersIn (outputs step (start EventRing
          (Fusion.new quickCfg 0)) is)) =
        (sentIn (outputs step (start EventRing (Fusion.new quickCfg 0)) is)).length :=
    fun is => (events_accounted RingChannel.documented (Fusion.new quickCfg 0) is).2.2.2.2.2.1
  have hmissed : Broadcast.missed (answersIn (outputs step (start EventRing
      (Fusion.new quickCfg 0)) lagging)) = 9 := by decide +kernel
  have hall := haccounted lagging (Option.isNone_iff_eq_none.mp (by decide +kernel))
  rw [hmissed] at hall
  exact ⟨hmissed, hall⟩

end Runtime

end FlyingSquirrel

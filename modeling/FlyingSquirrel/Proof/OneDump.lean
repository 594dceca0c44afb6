import FlyingSquirrel.Proof.Actions

/-!
# One forensic dump

The loop starts a dump on a transition into Spoofed and goes on; the write ends later, at any
point of the run, and a failed one gives the claim back. Beside the run two things are counted:
the writes in flight, and the writes that have succeeded. The flag then says all there is to know
about them:

    claimed  ↔  in flight + written = 1,    in flight + written ≤ 1.

`DumpStep` lists what a step can do to the flag, and the invariant is a case analysis on it.
-/

set_option autoImplicit false

namespace FlyingSquirrel

open Lib

section Outputs

variable {α : Type} {out out' : List (Output α)}

def Output.isDump : Output α → Bool
  | .spawn (.forensicDump _) => true
  | _ => false

/-- The dump writes started among the outputs. -/
def dumpsStarted (out : List (Output α)) : Nat := out.countP (·.isDump)

/-- A dump is reported as suppressed. -/
def Suppressed (out : List (Output α)) : Prop :=
  ∃ e, .event e ∈ out ∧ e.kind = .forensicDumpSuppressed

@[simp] theorem dumpsStarted_append :
    dumpsStarted (out ++ out') = dumpsStarted out + dumpsStarted out' := List.countP_append

theorem EventsOnly.dumpsStarted (h : EventsOnly out) : dumpsStarted out = 0 := by
  apply List.countP_eq_zero.mpr
  intro o ho
  obtain ⟨e, rfl⟩ := h o ho
  simp [Output.isDump]

theorem Suppressed.left (h : Suppressed out) : Suppressed (out ++ out') :=
  let ⟨e, hm, hk⟩ := h
  ⟨e, List.mem_append_left _ hm, hk⟩

theorem Suppressed.right (h : Suppressed out') : Suppressed (out ++ out') :=
  let ⟨e, hm, hk⟩ := h
  ⟨e, List.mem_append_right _ hm, hk⟩

end Outputs

/-- A dump write ends, and whether it succeeded. -/
def Input.dumpEnd {α : Type} : Input α → Option Bool
  | .background _ (.dumpWritten _ _) => some true
  | .background _ (.dumpFailed _) => some false
  | _ => none

namespace Fusion

variable {α : Type} [Zero α] [One α] [Neg α] [Add α] [Sub α] [Mul α] [Div α] [NatCast α]
  [OfScientific α] [LT α] [LE α] [DecidableLT α] [DecidableLE α] [BEq α] [Max α] [Min α] [Libm α]
  [FiniteTest α]

/-- The one-shot flag, where dumps are configured. -/
def dumpClaimed (f : Fusion α) : Option Bool := f.forensic.map (·.dumpFired)

/-- A step that enters Spoofed. -/
def Spoofs (f f' : Fusion α) : Prop := f.fsm.state ≠ .spoofed ∧ f'.fsm.state = .spoofed

/-! ## What a step does to the flag -/

/-- What one step does about dumps: outside a transition into Spoofed only a failed write
    touches the flag; a transition starts a write, or reports that it does not, or dumps are
    not configured. -/
inductive DumpStep (f f' : Fusion α) (i : Input α) (out : List (Output α)) : Prop
  | idle (hs : ¬ Spoofs f f') (hd : dumpsStarted out = 0)
      (hc : f'.dumpClaimed =
        if i.dumpEnd = some false then f.dumpClaimed.map fun _ => false else f.dumpClaimed)
  | started (hi : i.dumpEnd = none) (hs : Spoofs f f') (hd : dumpsStarted out = 1)
      (hc : f.dumpClaimed = some false) (hc' : f'.dumpClaimed = some true)
  | suppressed (hi : i.dumpEnd = none) (hs : Spoofs f f') (hd : dumpsStarted out = 0)
      (ho : Suppressed out) (hc : f.dumpClaimed = some true) (hc' : f'.dumpClaimed = some true)
  | unconfigured (hi : i.dumpEnd = none) (hs : Spoofs f f') (hd : dumpsStarted out = 0)
      (hc : f.dumpClaimed = none) (hc' : f'.dumpClaimed = none)

/-! ### The stages that leave it alone -/

theorem armedTrackers_forensic {α : Type} [Zero α] [Neg α] [Add α] [Sub α] [Mul α] [OfScientific α]
    [LT α] [DecidableLT α] [Libm α] (f : Fusion α) (fix : GpsFix α) (t : α) :
    (((f.noteGap t).drainDwellNotice fix).1.trackFrozen fix).forensic = f.forensic := by
  unfold trackFrozen drainDwellNotice noteGap
  dsimp only
  split <;> split <;> split <;> rfl

theorem throughDetectors_dumpClaimed {α : Type} [Zero α] [Neg α] [Add α] [Sub α] [Mul α] [Div α]
    [OfScientific α] [LT α] [LE α] [DecidableLT α] [DecidableLE α] [Libm α]
    (f : Fusion α) (fix : GpsFix α) (t dropoutS : α)
    (candidate : Bool) (vImu : NedVel α) (r : Residual α) :
    (f.throughDetectors fix t dropoutS candidate vImu r).1.dumpClaimed = f.dumpClaimed := by
  have hcapture : (f.captureForensic fix t r).dumpClaimed = f.dumpClaimed := by
    unfold captureForensic dumpClaimed
    cases f.forensic <;> rfl
  have hfrozen : ∀ g : Fusion α,
      (g.checkFrozen fix dropoutS candidate vImu r).1.dumpClaimed = g.dumpClaimed := by
    intro g
    unfold checkFrozen
    split
    · dsimp only
      split <;> rfl
    · rfl
  have hvertical : ∀ g : Fusion α, (g.checkVerticalRate fix t r).1.dumpClaimed = g.dumpClaimed := by
    intro g
    unfold checkVerticalRate
    split <;> rfl
  have hdoppler : ∀ g : Fusion α, (g.checkDoppler fix r).1.dumpClaimed = g.dumpClaimed := by
    intro g
    unfold checkDoppler
    split
    · rfl
    · dsimp only
      split <;> rfl
  exact (hdoppler _).trans ((hvertical _).trans ((hfrozen _).trans hcapture))

theorem atDecision_dumpClaimed {α : Type} [Zero α] [One α] [Neg α] [Add α] [Sub α] [Mul α] [Div α]
    [NatCast α] [OfScientific α] [LT α] [LE α] [DecidableLT α] [DecidableLE α] [Libm α]
    {f g : Fusion α} {fix : GpsFix α} {gpsNed : NedPos α}
    {r : Residual α} (h : f.atDecision fix = some (g, gpsNed, r)) :
    g.dumpClaimed = f.dumpClaimed := by
  unfold atDecision at h
  split at h
  · dsimp only at h
    cases h
    rw [throughDetectors_dumpClaimed]
    exact congrArg (Option.map _) (armedTrackers_forensic f fix _)
  · cases h

theorem refreshPreflight_forensic {α : Type} [Zero α] [Sub α] [Div α] [NatCast α] [OfScientific α]
    [LE α] [DecidableLE α] (f : Fusion α) (env : Env α) (t : Timestamp) :
    (f.refreshPreflight env t).1.forensic = f.forensic := by
  obtain ⟨_, _, _, h⟩ := refreshPreflight_eq f env t
  rw [h]

/-- A fix that is not evaluated. -/
theorem onGps_forensic (f : Fusion α) (env : Env α) (fix : GpsFix α)
    (h : f.nav.origin = none ∨ f.preflight ≠ .ready ∨
      (f.buffer.interpolate (f.tSecs fix.t)).toBool = false) :
    (f.onGps env fix).1.forensic = f.forensic := by
  unfold onGps
  cases hn : f.nav.gpsInNed fix with
  | none =>
    unfold onFirstFix
    dsimp only
    split
    · rfl
    · exact refreshPreflight_forensic _ env fix.t
  | some gpsNed =>
    have ho : f.nav.origin ≠ none := fun ho => by
      rw [gpsInNed_eq_none.mpr ho] at hn
      cases hn
    dsimp only
    by_cases hr : f.preflight = .ready
    · have hi := (h.resolve_left ho).resolve_left (not_not_intro hr)
      rw [if_neg (not_not_intro hr)]
      unfold onArmedFix
      dsimp only [Lib.andThen]
      rw [(armedTrackers f fix (f.tSecs fix.t)).1.tracked.buffer]
      split
      · exact armedTrackers_forensic f fix _
      · rename_i hok
        rw [hok] at hi
        cases hi
    · rw [if_pos hr]
      obtain ⟨_, _, ha⟩ := preflightAnchor_eq (f.refreshPreflight env fix.t).1 fix
      unfold onPreflightFix
      rw [andThen_fst, ha]
      exact refreshPreflight_forensic f env fix.t

/-! ### The transition -/

theorem finalBlend_dumpClaimed {α : Type} [Zero α] [One α] [Neg α] [Add α] [Sub α] [Mul α] [Div α]
    [NatCast α] [OfScientific α] [LT α] [LE α] [DecidableLT α] [DecidableLE α] [Max α] [Min α]
    [Libm α] [FiniteTest α] (f : Fusion α) (fix : GpsFix α) :
    (f.finalBlend fix).dumpClaimed = f.dumpClaimed := by
  obtain ⟨_, h⟩ := finalBlend_eq f fix
  rw [h]
  rfl

theorem tryAction_dumps {α : Type} [Zero α]
    (f : Fusion α) (which : Call) (result : Except String Unit)
    (fix : GpsFix α) : dumpsStarted (f.tryAction which result fix) = 0 := by
  cases result <;> rfl

/-- On a transition the claim decides: the winner starts a write, the loser reports it. -/
theorem onSpoofed_dump {α : Type} [Zero α]
    (f : Fusion α) (env : Env α) (fix : GpsFix α) (r : Residual α)
    (source : NavStateKind) :
    (f.dumpClaimed = none ∧ (f.onSpoofed env fix r source).1.dumpClaimed = none ∧
      dumpsStarted (f.onSpoofed env fix r source).2 = 0) ∨
    (f.dumpClaimed = some false ∧ (f.onSpoofed env fix r source).1.dumpClaimed = some true ∧
      dumpsStarted (f.onSpoofed env fix r source).2 = 1) ∨
    (f.dumpClaimed = some true ∧ (f.onSpoofed env fix r source).1.dumpClaimed = some true ∧
      dumpsStarted (f.onSpoofed env fix r source).2 = 0 ∧
      Suppressed (f.onSpoofed env fix r source).2) := by
  -- nothing after the claim starts a dump
  have hrest : dumpsStarted (f.onSpoofed env fix r source).2 =
      dumpsStarted (f.maybeTriggerForensicDump env.now source r).2 := by
    unfold onSpoofed
    rw [andThen_snd, dumpsStarted_append]
    dsimp only
    rw [dumpsStarted_append, dumpsStarted_append, dumpsStarted_append, tryAction_dumps,
      tryAction_dumps]
    cases env.severGps <;> rfl
  have hstate : (f.onSpoofed env fix r source).1 =
      (f.maybeTriggerForensicDump env.now source r).1 := rfl
  rw [hrest, hstate]
  unfold dumpClaimed maybeTriggerForensicDump
  cases hf : f.forensic with
  | none =>
    refine .inl ⟨rfl, ?_, rfl⟩
    simp [hf]
  | some fb =>
    dsimp only
    cases hd : fb.dumpFired with
    | false =>
      rw [if_neg (by simp [ForensicBuffer.tryClaimDump, hd])]
      exact .inr (.inl ⟨by simp [hd], rfl, rfl⟩)
    | true =>
      have hlost : fb.tryClaimDump.2 = false := by simp [ForensicBuffer.tryClaimDump, hd]
      refine .inr (.inr ⟨by simp [hd], ?_, ?_, ?_⟩)
      · rw [if_pos hlost]
        simp [hf, hd]
      · rw [if_pos hlost]
        rfl
      · apply Suppressed.left
        unfold maybeTriggerForensicDump
        rw [hf]
        dsimp only
        rw [if_pos hlost]
        exact ⟨_, List.mem_singleton_self _, rfl⟩

/-- The decision on an armed fix, from a task `g` that has come through the trackers. -/
theorem Decision.dump {f g f' : Fusion α} {env : Env α} {fix : GpsFix α} {gpsNed : NedPos α}
    {t : α} {r : Residual α} {before out : List (Output α)}
    (h : Decision g env fix gpsNed t r f' out) (hg : g.dumpClaimed = f.dumpClaimed)
    (hs : g.fsm.state = f.fsm.state) (hb : EventsOnly before) :
    DumpStep f f' (.gps fix env) (before ++ out) := by
  have hrep : ∀ m, dumpsStarted (g.reports fix t r m) = 0 := fun m =>
    (reports_events g fix t r m).dumpsStarted
  have hpre := assessed_state g fix t r
  -- outside the escalating arm: no dump, the flag kept, and Spoofed not entered
  have hidle : dumpsStarted out = 0 → f'.dumpClaimed = g.dumpClaimed →
      (g.fsm.state = .spoofed ∨ f'.fsm.state ≠ .spoofed) →
      DumpStep f f' (.gps fix env) (before ++ out) := by
    intro hd hc hno
    refine .idle ?_ ?_ (by simpa [Input.dumpEnd] using hc.trans hg)
    · rintro ⟨hne, hin⟩
      rw [← hs] at hne
      exact hno.elim hne fun h => h hin
    · rw [dumpsStarted_append, hb.dumpsStarted, hd]
  cases h with
  | latched hl => exact hidle rfl rfl (.inl hl)
  | @settled m hl ha =>
    refine hidle (hrep m) (finalBlend_dumpClaimed _ fix) (.inr ?_)
    rw [finalBlend_fsm]
    show m.state ≠ .spoofed
    rw [ha.silent, hpre]
    exact hl
  | @opened m ha =>
    refine hidle (by rw [dumpsStarted_append, hrep m]; rfl) rfl (.inr ?_)
    show m.state ≠ .spoofed
    rw [ha.transitioned.2]
    simp
  | @vetoed m distance ha _ =>
    refine hidle (by rw [dumpsStarted_append, hrep m]; rfl) rfl (.inr ?_)
    show (m.forceBackToSuspicious t g.fsm.suspiciousSince).state ≠ .spoofed
    rw [StateMachine.forceBackToSuspicious_eq ha.transitioned.2]
    simp
  | @cleared m ha _ =>
    refine hidle (by rw [dumpsStarted_append, hrep m]; rfl) (finalBlend_dumpClaimed _ fix)
      (.inr ?_)
    rw [finalBlend_fsm]
    show m.state ≠ .spoofed
    rw [ha.transitioned.2]
    simp
  | @escalated m k ha hk =>
    obtain ⟨hsusp, hm⟩ := ha.transitioned
    obtain ⟨_, ho⟩ := onSpoofed_state k env fix r .suspicious
    have hspoofs : Spoofs f (k.onSpoofed env fix r .suspicious).1 := by
      refine ⟨?_, ?_⟩
      · rw [← hs, ← hpre, hsusp]
        simp
      · rw [ho, hk]
        exact hm
    have hclaim : k.dumpClaimed = f.dumpClaimed := by
      rw [hk]
      exact hg
    have hcount : dumpsStarted (before ++ (g.reports fix t r m ++
        [emit { g with fsm := m } (.transition .suspicious .spoofed) fix r] ++
        (k.onSpoofed env fix r .suspicious).2)) =
        dumpsStarted (k.onSpoofed env fix r .suspicious).2 := by
      rw [dumpsStarted_append, dumpsStarted_append, dumpsStarted_append, hb.dumpsStarted, hrep m]
      simp [dumpsStarted, emit, report, Output.isDump]
    rcases onSpoofed_dump k env fix r .suspicious with ⟨hc, hc', hd⟩ | ⟨hc, hc', hd⟩ |
      ⟨hc, hc', hd, hsup⟩
    · exact .unconfigured rfl hspoofs (hcount.trans hd) (hclaim ▸ hc) hc'
    · exact .started rfl hspoofs (hcount.trans hd) (hclaim ▸ hc) hc'
    · exact .suppressed rfl hspoofs (hcount.trans hd) hsup.right.right (hclaim ▸ hc) hc'

theorem not_spoofs {α : Type} {f f' : Fusion α} (h : f'.fsm.state = f.fsm.state) : ¬ Spoofs f f' :=
  fun hs => hs.1 (h.symm.trans hs.2)

/-- The end of a task starts no dump; of a failed write it gives the claim back. -/
theorem onBackground_dump {α : Type} [Zero α] (f : Fusion α) (now : Instant) (done : BgDone) :
    DumpStep f (f.onBackground now done).1 (.background now done) (f.onBackground now done).2 := by
  have hnone := (onBackground_events f now done).dumpsStarted
  obtain ⟨_, hdone⟩ := onBackground_eq f now done
  refine .idle (not_spoofs (by rw [hdone])) hnone ?_
  cases done with
  | dumpWritten path bytes => rfl
  | dumpFailed e =>
    show (f.forensic.map (·.releaseDumpClaim)).map (·.dumpFired) = (f.forensic.map _).map _
    cases f.forensic <;> rfl
  | sever t state result =>
    rcases result with e | b
    · rfl
    · cases b <;> rfl
  | rtb t state result =>
    rcases result with e | b
    · rfl
    · cases b <;> rfl

theorem onGps_dump (f : Fusion α) (env : Env α) (fix : GpsFix α) :
    DumpStep f (f.onGps env fix).1 (.gps fix env) (f.onGps env fix).2 := by
  have hkept := onGps_forensic f env fix
  have hpath := onGps_path f env fix
  generalize (f.onGps env fix).1 = f' at hpath hkept ⊢
  generalize (f.onGps env fix).2 = out at hpath ⊢
  have hclaim : f'.forensic = f.forensic → f'.dumpClaimed = f.dumpClaimed :=
    congrArg (Option.map _)
  cases hpath with
  | rejected ho _ hout => exact .idle (not_spoofs rfl) hout.dumpsStarted rfl
  | first ho =>
    obtain ⟨_, _, _, h⟩ := refreshPreflight_eq
      { f with
        nav := f.nav.onGpsFix fix
        checklist := { f.checklist with firstFixAccepted := true } } env fix.t
    refine .idle (not_spoofs (by rw [h])) ?_ (hclaim (hkept (.inl ho)))
    exact EventsOnly.dumpsStarted (refreshPreflight_events _ env fix.t)
  | preflight ho hr =>
    obtain ⟨_, _, _, h⟩ := refreshPreflight_eq f env fix.t
    obtain ⟨_, _, h'⟩ := preflightAnchor_eq (f.refreshPreflight env fix.t).1 fix
    refine .idle (not_spoofs ?_) ?_ (hclaim (hkept (.inr (.inl hr))))
    · unfold onPreflightFix
      rw [andThen_fst, h', h]
    · unfold onPreflightFix
      rw [andThen_snd, List.append_nil]
      exact (refreshPreflight_events f env fix.t).dumpsStarted
  | @skipped g out e _ _ hg _ hi =>
    refine .idle (not_spoofs hg.tracked.fsm.state_eq) ?_
      (hclaim (hkept (.inr (.inr (by rw [hi]; rfl)))))
    rw [dumpsStarted_append, hg.events.dumpsStarted]
    rfl
  | @evaluated g out gpsNed r f' out' ho hr hg _ hat hd =>
    exact hd.dump (atDecision_dumpClaimed hat) hg.tracked.fsm.state_eq hg.events

variable [Nalgebra α]

theorem step_dump (f : Fusion α) (i : Input α) : DumpStep f (f.step i).1 i (f.step i).2 := by
  cases i with
  | imu sample =>
    refine .idle (not_spoofs rfl) rfl ?_
    show (f.forensic.map (·.pushImu (f.tSecs sample.t) sample)).map (·.dumpFired) =
      f.forensic.map (·.dumpFired)
    cases f.forensic <;> rfl
  | reset now =>
    refine .idle (fun hs => ?_) rfl rfl
    exact absurd hs.2 (by simp [step, operatorReset, StateMachine.manualResetToNormal])
  | background now done => exact onBackground_dump f now done
  | gps fix env => exact onGps_dump f env fix

/-! ## Writes in flight -/

/-- The dump writes of a run so far: those not ended, and those that succeeded. -/
structure DumpLog where
  inFlight : Nat
  written : Nat
deriving DecidableEq, Repr

def trackDumps (log : DumpLog) (f : Fusion α) (i : Input α) (_ : Fusion α) : DumpLog where
  inFlight := log.inFlight + dumpsStarted (f.step i).2 - if i.dumpEnd.isSome then 1 else 0
  written := log.written + if i.dumpEnd = some true then 1 else 0

def dumpStep : Fusion α × DumpLog → Input α → (Fusion α × DumpLog) × List (Output α) :=
  ghost step trackDumps

/-- Only a write in flight can end. -/
def EndsInFlight (x : Fusion α × DumpLog) (i : Input α) : Prop :=
  i.dumpEnd.isSome = true → 0 < x.2.inFlight

instance (x : Fusion α × DumpLog) (i : Input α) : Decidable (EndsInFlight x i) :=
  inferInstanceAs (Decidable (_ → _))

/-- The flag is up exactly while a write is in flight or after one has succeeded, and there is
    never more than one. -/
structure OneDump (x : Fusion α × DumpLog) : Prop where
  claimed : x.1.dumpClaimed = some (decide (x.2.inFlight + x.2.written = 1))
  atMost : x.2.inFlight + x.2.written ≤ 1

theorem OneDump.next {x : Fusion α × DumpLog} (h : OneDump x) {i : Input α}
    (hi : EndsInFlight x i) : OneDump (dumpStep x i).1 := by
  obtain ⟨f, log⟩ := x
  obtain ⟨hc, hle⟩ := h
  dsimp only at hc hle
  have hstep := step_dump f i
  suffices h : (f.step i).1.dumpClaimed =
        some (decide ((trackDumps log f i (f.step i).1).inFlight +
          (trackDumps log f i (f.step i).1).written = 1)) ∧
      (trackDumps log f i (f.step i).1).inFlight +
        (trackDumps log f i (f.step i).1).written ≤ 1 from ⟨h.1, h.2⟩
  unfold EndsInFlight at hi
  dsimp only at hi
  unfold trackDumps
  dsimp only
  cases hstep with
  | idle hs hd hk =>
    rw [hk, hd, hc]
    cases hend : i.dumpEnd with
    | none => simp [hle]
    | some written =>
      -- the one write there is ends: it succeeds and keeps the flag, or fails and gives it back
      have hpos := hi (by rw [hend]; rfl)
      have hone : log.inFlight = 1 ∧ log.written = 0 := by omega
      cases written <;> simp [hone]
  | started hend hs hd hk hk' =>
    rw [hc] at hk
    have hnone : log.inFlight + log.written = 0 := by
      have hne := of_decide_eq_false (Option.some.inj hk)
      omega
    rw [hk', hd, hend]
    simp
    omega
  | suppressed hend hs hd ho hk hk' =>
    rw [hc] at hk
    have hone := of_decide_eq_true (Option.some.inj hk)
    rw [hk', hd, hend]
    simp [hone]
  | unconfigured hend hs hd hk hk' =>
    rw [hc] at hk
    cases hk

theorem Built.dumpClaimed {α : Type} [Zero α] [One α] [Mul α] [OfScientific α] [Libm α]
    {cfg : FusionConfig α} {boot : Instant} {f : Fusion α}
    (h : Built cfg boot f) : f.dumpClaimed = none ∨ f.dumpClaimed = some false := by
  induction h with
  | new => exact .inl rfl
  | withMavMonitor h _ ih => exact ih
  | withForensic h _ _ ih => exact .inr rfl

/-- A transition into Spoofed starts a write or reports that it is suppressed. -/
def StartsOrReports (f : Fusion α) (i : Input α) : Prop :=
  Spoofs f (f.step i).1 → dumpsStarted (f.step i).2 = 1 ∨ Suppressed (f.step i).2

/-- With no write in flight and none written, a transition starts one. -/
theorem OneDump.starts {x : Fusion α × DumpLog} (h : OneDump x) {i : Input α}
    (h0 : x.2.inFlight + x.2.written = 0) (hs : Spoofs x.1 (x.1.step i).1) :
    dumpsStarted (x.1.step i).2 = 1 := by
  have hc := h.claimed
  rw [h0] at hc
  cases step_dump x.1 i with
  | idle hno => exact absurd hs hno
  | started _ _ hd => exact hd
  | suppressed _ _ _ _ hk =>
    rw [hc] at hk
    cases hk
  | unconfigured _ _ _ hk =>
    rw [hc] at hk
    cases hk

/-- Away from transitions nothing is started, so with no write in flight none can end. -/
theorem OneDump.rests {x : Fusion α × DumpLog} (h0 : x.2.inFlight + x.2.written = 0)
    {i : Input α} (hi : EndsInFlight x i) (hs : ¬ Spoofs x.1 (x.1.step i).1) :
    (dumpStep x i).1.2.inFlight + (dumpStep x i).1.2.written = 0 := by
  have hd : dumpsStarted (x.1.step i).2 = 0 := by
    cases step_dump x.1 i with
    | idle _ hd => exact hd
    | started _ hs' => exact absurd hs' hs
    | suppressed _ hs' => exact absurd hs' hs
    | unconfigured _ hs' => exact absurd hs' hs
  have hend : i.dumpEnd = none := by
    by_contra hne
    have hpos := hi (Option.isSome_iff_ne_none.mpr hne)
    omega
  show (trackDumps x.2 x.1 i (x.1.step i).1).inFlight +
    (trackDumps x.2 x.1 i (x.1.step i).1).written = 0
  unfold trackDumps
  rw [hd, hend]
  simpa using h0

/-- The first transition after a failed write starts a new one. -/
def RestartsAfterFailure (f : Fusion α) (is : List (Input α)) : Prop :=
  ∀ pre now e between i post,
    is = pre ++ .background now (.dumpFailed e) :: (between ++ i :: post) →
    Along step (fun f j => ¬ Spoofs f (f.step j).1)
      (run step f (pre ++ [.background now (.dumpFailed e)])) between →
    Spoofs (run step f (pre ++ .background now (.dumpFailed e) :: between))
      ((run step f (pre ++ .background now (.dumpFailed e) :: between)).step i).1 →
    dumpsStarted
      ((run step f (pre ++ .background now (.dumpFailed e) :: between)).step i).2 = 1

theorem OneDump.failed {x : Fusion α × DumpLog} (h : OneDump x) {now : Instant} {e : String}
    (hi : EndsInFlight x (.background now (.dumpFailed e))) :
    (dumpStep x (.background now (.dumpFailed e))).1.2.inFlight +
      (dumpStep x (.background now (.dumpFailed e))).1.2.written = 0 := by
  have hpos := hi rfl
  have hle := h.atMost
  show x.2.inFlight + 0 - 1 + (x.2.written + 0) = 0
  omega

theorem OneDump.restarts {x : Fusion α × DumpLog} (h : OneDump x) {is : List (Input α)}
    (hadm : Along dumpStep EndsInFlight x is) : RestartsAfterFailure x.1 is := by
  rintro pre now e between i post rfl hquiet hspoofs
  rw [along_append] at hadm
  obtain ⟨hpre, hfail, hrest⟩ := hadm
  obtain ⟨hbetween, -⟩ := (along_append _ between (i :: post)).mp hrest
  have hone := hpre.invariant (fun x i hi hx => hx.next hi) h
  -- from the failure on, nothing is in flight until the next transition
  have hclear : ∀ (y : Fusion α × DumpLog) (js : List (Input α)), OneDump y →
      y.2.inFlight + y.2.written = 0 → Along dumpStep EndsInFlight y js →
      Along step (fun f j => ¬ Spoofs f (f.step j).1) y.1 js →
      OneDump (run dumpStep y js) ∧
        (run dumpStep y js).2.inFlight + (run dumpStep y js).2.written = 0 := by
    intro y js
    induction js generalizing y with
    | nil => exact fun hy h0 _ _ => ⟨hy, h0⟩
    | cons j js ih =>
      rintro hy h0 ⟨hj, hjs⟩ ⟨hq, hqs⟩
      exact ih _ (hy.next hj) (OneDump.rests h0 hj hq) hjs hqs
  rw [run_append] at hquiet hspoofs ⊢
  have hfst : (run dumpStep x pre).1 = run step x.1 pre := run_ghost_fst x pre
  rw [← hfst] at hquiet hspoofs ⊢
  obtain ⟨hlast, h0⟩ := hclear _ between (hone.next hfail) (hone.failed hfail) hbetween hquiet
  have hrun : (run dumpStep (dumpStep (run dumpStep x pre) (.background now (.dumpFailed e))).1
      between).1 = run step (run dumpStep x pre).1 (.background now (.dumpFailed e) :: between) :=
    run_ghost_fst _ between
  have hstart := hlast.starts (i := i) h0
  rw [hrun] at hstart
  exact hstart hspoofs

/-- **One forensic dump at a time, one per process.** In a task with dumps configured, however
    transitions, resets and the ends of dump writes interleave: at most one write is in flight
    at any time and at most one ever succeeds, every transition that starts no write reports
    that it is suppressed, and the first transition after a failed write starts a new one. -/
theorem one_dump {c : FusionConfig α} {boot : Instant} {f : Fusion α} (hf : Built c boot f)
    (hconf : f.forensic.isSome = true) (is : List (Input α))
    (hadm : Along dumpStep EndsInFlight (f, ⟨0, 0⟩) is) :
    (∀ pre post, is = pre ++ post →
      (run dumpStep (f, ⟨0, 0⟩) pre).2.inFlight ≤ 1 ∧
      (run dumpStep (f, ⟨0, 0⟩) pre).2.written ≤ 1) ∧
    Along step StartsOrReports f is ∧ RestartsAfterFailure f is := by
  have hstart : OneDump (f, ⟨0, 0⟩) := by
    refine ⟨?_, Nat.zero_le _⟩
    rcases hf.dumpClaimed with hn | hn
    · unfold dumpClaimed at hn
      rw [Option.map_eq_none_iff] at hn
      rw [hn] at hconf
      cases hconf
    · exact hn
  refine ⟨?_, ?_, hstart.restarts hadm⟩
  · rintro pre post rfl
    have hpre := ((along_append _ pre post).mp hadm).1
    have hle := (hpre.invariant (fun x i hi hx => hx.next hi) hstart).atMost
    omega
  · have hall : Along (ghost step trackDumps) (fun x i => StartsOrReports x.1 i)
        (f, ⟨0, 0⟩) is := by
      refine hadm.strengthen (fun x i hi hx => hx.next hi) (fun x i hx _ hs => ?_) hstart
      cases step_dump x.1 i with
      | idle hno => exact absurd hs hno
      | started _ _ hd => exact .inl hd
      | suppressed _ _ _ ho => exact .inr ho
      | unconfigured _ _ _ hk =>
        have hc := hx.claimed
        rw [hk] at hc
        cases hc
    exact (along_ghost (f, (⟨0, 0⟩ : DumpLog)) is).mp hall

/-- Two fixes a degree away, a dwell apart, at `ms` and a tenth of a second later. -/
def attackAt (ms : Nat) : List (Input ℚ) :=
  samples [ms - 10] ++ fixes quietEnv [(ms, 1)] ++ samples [ms + 90] ++
    fixes quietEnv [(ms + 100, 1)]

/-- Three transitions: the first starts a write, the second comes while it is in flight, and the
    third after it has failed. -/
def threeTransitions : List (Input ℚ) :=
  arming ++ attackAt 110 ++ [.reset 0] ++ attackAt 310 ++
    [.background 0 (.dumpFailed "disk full"), .reset 0] ++ attackAt 510

theorem one_dump_three_transitions :
    let f := (Fusion.new quickCfg 0).withForensic 30 100
    (run dumpStep (f, ⟨0, 0⟩) threeTransitions).2.inFlight ≤ 1 ∧
      Along step StartsOrReports f threeTransitions ∧
      dumpsStarted (outputs step f threeTransitions) = 2 := by
  have h := one_dump (.withForensic (.new : Built quickCfg 0 _) 30 100) rfl threeTransitions
    (by decide +kernel)
  exact ⟨(h.1 threeTransitions [] (List.append_nil _).symm).1, h.2.1, by decide +kernel⟩

end Fusion
end FlyingSquirrel

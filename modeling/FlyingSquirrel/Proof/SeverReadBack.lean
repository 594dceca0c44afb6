import FlyingSquirrel.Mav.Controller

/-!
# What a confirmed sever proves

The monitor keeps of each parameter its **latest** echo and **how many** there were. The
read-back checks the first and counts with the second, so nothing checks the echoes it
counts, except the last one. One echo that says "GPS still on" and one forged zero are two
echoes, the last of them a zero.

So a confirmation proves one genuine echo, and it proves two unless the only genuine one
comes after others that were counted.
-/

set_option autoImplicit false

namespace FlyingSquirrel

open Lib

structure Echo (α : Type) where
  ns : Nat
  value : α
  paramType : Nat
deriving DecidableEq, Repr

/-- The echo of a parameter that an input records, if it records one. -/
def MavInput.echoOf {α : Type} (name : ParamName) : MavInput α → Option (Echo α)
  | .paramValue _ ns paramId value paramType =>
    if MavMonitor.trimName paramId = name then some ⟨ns, value, paramType⟩ else none
  | _ => none

/-- The echoes of a parameter in a history. -/
def echoes {α : Type} (name : ParamName) (hist : List (MavInput α)) : List (Echo α) :=
  hist.filterMap (MavInput.echoOf name)

theorem severGpsParam_ne_nil (profile : VehicleProfile) : (severGpsParam profile).1 ≠ [] := by
  cases profile <;> simp [severGpsParam]

namespace MavSystem

variable {α : Type} [Zero α] [Neg α] [OfScientific α] [LT α] [DecidableLT α]

/-- A genuine confirmation of a sever sent at `sentAt`: later, of the type set, and zero. -/
def genuine (profile : VehicleProfile) (sentAt : Nat) (e : Echo α) : Bool :=
  decide (sentAt < e.ns) &&
    (decide (fabs e.value < MavFlightController.severConfirmedEps) &&
      e.paramType == (severGpsParam profile).2)

def genuineCount (profile : VehicleProfile) (sentAt : Nat) (hist : List (MavInput α)) : Nat :=
  (echoes (severGpsParam profile).1 hist).countP (genuine profile sentAt)

/-- What the history of a link explains of its state: the profile, the latest echo, and the
    sends that the controller and a running read-back go by. -/
structure SeverTold (profile : VehicleProfile) (x : MavSystem α × List (MavInput α)) :
    Prop where
  vehicle : x.1.controller.profile = profile
  echo : ∀ name p, name ≠ [] → x.1.monitor.lastParamValue name = some p →
    latest (MavInput.echoOf name) x.2 = some ⟨p.recvNs, p.value, p.paramType⟩
  stamped : x.1.controller.severSentAtNs ≠ 0 →
    .severStamp x.1.controller.severSentAtNs ∈ x.2
  polling : ∀ v, x.1.sever = .polling v → .severStamp v.sentAt ∈ x.2

theorem SeverTold.start {α : Type} (profile : VehicleProfile) :
    SeverTold profile (MavSystem.start profile, ([] : List (MavInput α))) where
  vehicle := rfl
  echo := fun name p _ h => by
    exact absurd h (by simp [MavSystem.start, MavMonitor.lastParamValue, MavMonitor.new])
  stamped := fun h => absurd rfl h
  polling := fun v h => absurd h (by simp [MavSystem.start])

theorem lastParamValue_hear {α : Type} {m : MavMonitor α} {i : MavInput α} {name : ParamName}
    {p : ParamEcho α} (hne : name ≠ []) (h : (hear m i).lastParamValue name = some p) :
    i.echoOf name = some ⟨p.recvNs, p.value, p.paramType⟩ ∨
      (i.echoOf name = none ∧ m.lastParamValue name = some p) := by
  cases i with
  | paramValue o ns paramId value paramType =>
    change (m.recordParamValue o ns paramId value paramType).lastParamValue name = some p at h
    unfold MavMonitor.recordParamValue at h
    dsimp only at h
    by_cases hname : MavMonitor.trimName paramId = name
    · rw [hname, if_neg hne] at h
      obtain rfl := lookup_recordLatest_self h
      exact .inl (if_pos hname)
    · refine .inr ⟨if_neg hname, ?_⟩
      split at h
      · exact h
      · exact lookup_recordLatest_of_ne (Ne.symm hname) h
  | _ => exact .inr ⟨rfl, h⟩

theorem SeverTold.step {profile : VehicleProfile} {x : MavSystem α × List (MavInput α)}
    (h : SeverTold profile x) (i : MavInput α) :
    SeverTold profile (ghost MavSystem.step record x i).1 := by
  obtain ⟨s, hist⟩ := x
  obtain ⟨hprof, hecho, hstamp, hpoll⟩ := h
  obtain ⟨hp, hsent, -⟩ := step_controller s i
  have hmem : ∀ j : MavInput α, j ∈ hist → j ∈ hist ++ [i] := fun j hj =>
    List.mem_append_left _ hj
  refine ⟨hp.trans hprof, fun name p hne hl => ?_, fun h => ?_, fun v h => ?_⟩
  · rw [ghost_fst, step_monitor] at hl
    rcases lastParamValue_hear hne hl with hi | ⟨hi, hold⟩
    · exact latest_snoc_some hi
    · exact (latest_snoc_none hi).trans (hecho name p hne hold)
  · rw [ghost_fst] at h ⊢
    rcases hsent with h0 | hsame | hi
    · exact absurd h0 h
    · rw [hsame] at h ⊢
      exact hmem _ (hstamp h)
    · exact List.mem_append_right _ (List.mem_singleton.mpr hi.symm)
  · rcases step_sever h with hold | ⟨hv, hne⟩
    · exact hmem _ (hpoll v hold)
    · rw [hv]
      exact hmem _ (hstamp hne)

/-! ## Soundness of a confirmation, exactly -/

/-- What a poll that confirms should have behind it: a send, and two genuine echoes. -/
def SeverSound (profile : VehicleProfile) (x : MavSystem α × List (MavInput α))
    (i : MavInput α) : Prop :=
  Verdict.sever true ∈ (x.1.step i).2 → ∃ v, x.1.sever = .polling v ∧
    .severStamp v.sentAt ∈ x.2 ∧
    severVerifyDwellEchoes ≤ genuineCount profile v.sentAt x.2

/-- Where a read-back is about to poll, and the latest echo is the first genuine one, no
    other echo has been counted since the baseline. -/
def FirstGenuineAlone (profile : VehicleProfile) (x : MavSystem α × List (MavInput α))
    (i : MavInput α) : Prop :=
  ∀ expired v e, i = .pollSever expired → x.1.sever = .polling v →
    latest (MavInput.echoOf (severGpsParam profile).1) x.2 = some e →
    genuine profile v.sentAt e = true → genuineCount profile v.sentAt x.2 = 1 →
    x.1.controller.echoCount x.1.monitor - v.baseline < severVerifyDwellEchoes

theorem pollSever_confirms {c : MavFlightController} {m : MavMonitor α} {v : SeverVerify}
    {expired : Bool} : c.pollSever m v expired = .returned true ↔
      ∃ p, m.lastParamValue (severGpsParam c.profile).1 = some p ∧
        genuine c.profile v.sentAt ⟨p.recvNs, p.value, p.paramType⟩ = true ∧
        severVerifyDwellEchoes ≤ c.echoCount m - v.baseline := by
  unfold MavFlightController.pollSever MavFlightController.echoCount
  dsimp only
  cases hl : m.lastParamValue (severGpsParam c.profile).1 with
  | none => cases expired <;> simp
  | some p =>
    have hiff : MavFlightController.severEchoConfirms p v.sentAt v.baseline
        (severGpsParam c.profile).2 = true ↔
        genuine c.profile v.sentAt ⟨p.recvNs, p.value, p.paramType⟩ = true ∧
        severVerifyDwellEchoes ≤ p.recvCount - v.baseline := by
      unfold MavFlightController.severEchoConfirms genuine
      simp only [Bool.and_eq_true, decide_eq_true_eq, gt_iff_lt, ge_iff_le]
    dsimp only [Option.map_some, Option.getD_some]
    constructor
    · intro h
      refine ⟨p, rfl, hiff.mp ?_⟩
      by_contra hno
      rw [if_neg hno] at h
      cases expired <;> exact absurd h (by simp)
    · rintro ⟨q, hq, hg⟩
      obtain rfl := Option.some.inj hq
      rw [if_pos (hiff.mpr hg)]

theorem step_confirms {s : MavSystem α} {i : MavInput α} :
    Verdict.sever true ∈ (s.step i).2 ↔ ∃ expired v, i = .pollSever expired ∧
      s.sever = .polling v ∧
      s.controller.pollSever s.monitor v expired = .returned true := by
  constructor
  · intro h
    rcases step_says h with ⟨b, hb, hsever⟩ | ⟨b, hb, -⟩
    · obtain rfl := Verdict.sever.inj hb
      rcases hsever with ⟨-, hno⟩ | hpoll
      · exact absurd hno (by simp)
      · exact hpoll
    · exact absurd hb (by simp)
  · rintro ⟨expired, v, rfl, hv, hc⟩
    unfold MavSystem.step
    rw [hv]
    dsimp only
    rw [hc]
    exact List.mem_singleton_self _

theorem genuineCount_pos {profile : VehicleProfile} {sentAt : Nat}
    {hist : List (MavInput α)} {e : Echo α}
    (hl : latest (MavInput.echoOf (severGpsParam profile).1) hist = some e)
    (hg : genuine profile sentAt e = true) : 0 < genuineCount profile sentAt hist :=
  List.countP_pos_iff.mpr ⟨e, List.mem_of_getLast? hl, hg⟩

theorem severSound_step {profile : VehicleProfile} {x : MavSystem α × List (MavInput α)}
    (h : SeverTold profile x) (i : MavInput α) :
    SeverSound profile x i ↔ FirstGenuineAlone profile x i := by
  obtain ⟨s, hist⟩ := x
  obtain ⟨hprof, hecho, -, hpoll⟩ := h
  constructor
  · rintro hsound expired v e rfl hv hl hg hone
    by_contra hcount
    -- the latest echo need not be on record, but then nothing is counted
    cases hp : s.monitor.lastParamValue (severGpsParam profile).1 with
    | none =>
      refine hcount ?_
      show s.controller.echoCount s.monitor - v.baseline < _
      unfold MavFlightController.echoCount
      rw [show s.controller.profile = profile from hprof, hp]
      simp [severVerifyDwellEchoes]
    | some p =>
      have hpe := hecho _ p (severGpsParam_ne_nil profile) hp
      obtain rfl := Option.some.inj (hl.symm.trans hpe)
      have hconf : s.controller.pollSever s.monitor v expired = .returned true := by
        refine pollSever_confirms.mpr ⟨p, ?_, ?_, not_lt.mp hcount⟩
        · rw [show s.controller.profile = profile from hprof]; exact hp
        · rw [show s.controller.profile = profile from hprof]; exact hg
      obtain ⟨v', hv', -, htwo⟩ := hsound (step_confirms.mpr ⟨expired, v, rfl, hv, hconf⟩)
      obtain rfl := Verify.polling.inj (hv.symm.trans hv')
      rw [hone] at htwo
      exact absurd htwo (by decide)
  · intro halone hverdict
    obtain ⟨expired, v, rfl, hv, hconf⟩ := step_confirms.mp hverdict
    obtain ⟨p, hp, hg, hcount⟩ := pollSever_confirms.mp hconf
    rw [show s.controller.profile = profile from hprof] at hp hg
    have hl := hecho _ p (severGpsParam_ne_nil profile) hp
    refine ⟨v, hv, hpoll v hv, ?_⟩
    have hpos := genuineCount_pos hl hg
    by_contra htwo
    have hone : genuineCount profile v.sentAt hist = 1 :=
      le_antisymm (Nat.lt_succ_iff.mp (not_le.mp htwo)) hpos
    exact absurd (halone expired v _ rfl hv hl hg hone) (not_lt.mpr hcount)

/-- **What a confirmed sever proves.** Along every interleaving of echoes, sends and polls,
    each confirmation has two genuine echoes behind it if and only if no poll comes upon a
    first genuine echo after others that were counted. -/
theorem severSound_iff (profile : VehicleProfile) (is : List (MavInput α)) :
    Along (ghost MavSystem.step record) (SeverSound profile) (MavSystem.start profile, []) is ↔
      Along (ghost MavSystem.step record) (FirstGenuineAlone profile)
        (MavSystem.start profile, []) is :=
  along_congr_of_invariant (I := SeverTold profile) (fun _ i h => h.step i)
    (fun _ i h => severSound_step h i) (SeverTold.start profile)

/-- One echo that says the GPS is on, and one forged zero. -/
def oneForgedZero : List (MavInput ℚ) :=
  [.severSnapshot, .severStamp 10,
    .paramValue .stored 20 (severGpsParam .arduCopter).1 1 mavParamTypeInt8,
    .paramValue .stored 30 (severGpsParam .arduCopter).1 0 mavParamTypeInt8,
    .beginVerifySever]

/-- The read-back confirms, on one genuine echo. -/
theorem one_forged_zero_confirms :
    ¬ Along (ghost MavSystem.step record) (SeverSound .arduCopter)
      (MavSystem.start .arduCopter, []) (oneForgedZero ++ [.pollSever false]) := by
  intro h
  obtain ⟨v, hv, -, htwo⟩ :=
    ((along_append _ oneForgedZero _).mp h).2.1 (by decide +kernel)
  have hbegun : (run (ghost MavSystem.step record) (MavSystem.start .arduCopter, [])
      oneForgedZero).1.sever = .polling ⟨10, 0⟩ := by decide +kernel
  obtain rfl := Verify.polling.inj (hbegun.symm.trans hv)
  exact absurd htwo (by decide +kernel)

end MavSystem

end FlyingSquirrel

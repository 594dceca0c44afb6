import FlyingSquirrel.Proof.AckCache
import FlyingSquirrel.Proof.SeverReadBack

/-!
# The echo counts

`recv_count` is meant to run over the monitor's lifetime, but it lives in the entry of a
bounded map. A parameter that is dropped from the map loses its count, and its next echo is
counted as the first. The baseline of a sever was taken from the lost count, so the echoes
that should confirm it are then short of the dwell.

So everything holds up to one event, the echo of a parameter that 64 others have displaced.
-/

set_option autoImplicit false

namespace FlyingSquirrel

open Lib

/-- The parameter whose echo an input records, and when. -/
def MavInput.echoWrite {α : Type} : MavInput α → Option (ParamName × Nat)
  | .paramValue _ ns paramId _ _ =>
    if MavMonitor.trimName paramId = [] then none
    else some (MavMonitor.trimName paramId, ns)
  | _ => none

def echoWrites {α : Type} (hist : List (MavInput α)) : List (ParamName × Nat) :=
  hist.filterMap MavInput.echoWrite

/-- The parameters echoed, in order. -/
def echoNames {α : Type} (hist : List (MavInput α)) : List ParamName :=
  (echoWrites hist).map Prod.fst

/-- Each echo is received after the one before it. -/
def EchoTimesIncrease {α : Type} (hist : List (MavInput α)) : Prop :=
  (echoWrites hist).Pairwise (fun a b => a.2 < b.2)

instance {α : Type} (hist : List (MavInput α)) : Decidable (EchoTimesIncrease hist) :=
  inferInstanceAs (Decidable (List.Pairwise _ _))

def u64Max : Nat := 18446744073709551615

/-- A number as a saturating `u64` counts up to it. -/
def countedU64 (n : Nat) : Nat := min n u64Max

theorem succU64_countedU64 (n : Nat) : succU64 (countedU64 n) = countedU64 (n + 1) := by
  unfold succU64 countedU64 u64Max
  omega

theorem countedU64_mono {m n : Nat} (h : m ≤ n) : countedU64 m ≤ countedU64 n := by
  unfold countedU64
  omega

/-- 64 or more other parameters have been echoed since `name` was. -/
def Displaced {α : Type} (name : ParamName) (hist : List (MavInput α)) : Prop :=
  name ∈ echoNames hist ∧ MavMonitor.mapCap ≤ (othersSince name (echoNames hist)).length

instance {α : Type} (name : ParamName) (hist : List (MavInput α)) :
    Decidable (Displaced name hist) :=
  inferInstanceAs (Decidable (_ ∧ _))

/-- No parameter is echoed again once it is displaced. -/
def NoneReturns {α : Type} (is : List (MavInput α)) : Prop :=
  ∀ pre i post, is = pre ++ i :: post → ∀ w, i.echoWrite = some w → ¬ Displaced w.1 pre

namespace MavSystem

variable {α : Type} [Zero α] [Neg α] [OfScientific α] [LT α] [DecidableLT α]

section History

variable {profile : VehicleProfile} {is : List (MavInput α)} {i : MavInput α}
  {name : ParamName} {p : ParamEcho α}

theorem echoWrites_snoc {α : Type} (is : List (MavInput α)) (i : MavInput α) :
    echoWrites (is ++ [i]) = echoWrites is ++ i.echoWrite.toList := by
  unfold echoWrites
  rw [List.filterMap_append]
  cases h : i.echoWrite <;> simp [h]

theorem echoTimes_of_append {α : Type} {pre post : List (MavInput α)}
    (h : EchoTimesIncrease (pre ++ post)) : EchoTimesIncrease pre := by
  unfold EchoTimesIncrease echoWrites at h ⊢
  rw [List.filterMap_append] at h
  exact (List.pairwise_append.mp h).1

theorem noneReturns_of_append {α : Type}
    {pre post : List (MavInput α)} (h : NoneReturns (pre ++ post)) :
    NoneReturns pre := by
  rintro pre' i post' rfl
  exact h pre' i (post' ++ post) (by simp)

theorem echoWrite_paramValue {α : Type} {o : IterOrder ParamName (ParamEcho α)} {ns : Nat}
    {paramId : ParamName} {value : α} {paramType : Nat}
    (h : MavMonitor.trimName paramId ≠ []) :
    (MavInput.paramValue o ns paramId value paramType).echoWrite =
      some (MavMonitor.trimName paramId, ns) :=
  if_neg h

theorem hear_paramsByName {α : Type} {i : MavInput α} {m : MavMonitor α} (hi : i.echoWrite = none) :
    (hear m i).paramsByName = m.paramsByName := by
  cases i with
  | paramValue o ns paramId value paramType =>
    unfold hear MavMonitor.recordParamValue
    dsimp only
    split
    · rfl
    · rename_i hne
      exact absurd (hi.symm.trans (echoWrite_paramValue hne)) (by simp)
  | _ => rfl

/-- What one echo writes: the entry counted up from the one on record. -/
theorem hear_echo {α : Type} {i : MavInput α} {name : ParamName}
    {m : MavMonitor α} {ns : Nat} (hi : i.echoWrite = some (name, ns)) :
    ∃ o p, p.recvNs = ns ∧
      p.recvCount = succU64 (((m.lastParamValue name).map (·.recvCount)).getD 0) ∧
      (hear m i).paramsByName =
        recordLatest o (·.recvNs) MavMonitor.mapCap name p m.paramsByName := by
  cases i with
  | paramValue o ns' paramId value paramType =>
    by_cases hne : MavMonitor.trimName paramId = []
    · exact absurd (hi.symm.trans (if_pos hne)) (by simp)
    · rw [echoWrite_paramValue hne] at hi
      obtain ⟨rfl, rfl⟩ := Prod.mk.inj (Option.some.inj hi)
      refine ⟨o, ⟨value, paramType, ns', _⟩, rfl, rfl, ?_⟩
      unfold hear MavMonitor.recordParamValue
      dsimp only
      rw [if_neg hne]
      rfl
  | _ => exact absurd hi (by simp [MavInput.echoWrite])

/-! ## What is on record -/

theorem params_kept (profile : VehicleProfile) (htimes : EchoTimesIncrease is) :
    Kept ParamEcho.recvNs MavMonitor.mapCap (monitorAfter profile is).paramsByName
      (echoWrites is) := by
  refine Kept.run MavSystem.step (fun s => s.monitor.paramsByName) MavInput.echoWrite
    (s := MavSystem.start profile) (fun s i hi => ?_) (fun s i k t hi => ?_) rfl htimes
  · rw [step_monitor, hear_paramsByName hi]
  · obtain ⟨o, p, hns, -, hparams⟩ := hear_echo (m := s.monitor) hi
    exact ⟨o, p, hns, by rw [step_monitor, hparams]; rfl⟩

/-- A parameter is on record from its first echo until it is displaced. -/
theorem isSome_lastParamValue (profile : VehicleProfile) (name : ParamName)
    (htimes : EchoTimesIncrease is) :
    ((monitorAfter profile is).lastParamValue name).isSome ↔
      name ∈ echoNames is ∧ ¬ Displaced name is := by
  have hin : name ∈ (monitorAfter profile is).paramsByName ↔ name ∈ echoNames is ∧
      (othersSince name (echoNames is)).length < MavMonitor.mapCap :=
    (params_kept profile htimes).mem_iff
  unfold MavMonitor.lastParamValue Displaced
  rw [AList.lookup_isSome, hin, not_and, not_le]
  exact ⟨fun h => ⟨h.1, fun _ => h.2⟩, fun h => ⟨h.1, h.2 h.1⟩⟩

theorem lastParamValue_start (profile : VehicleProfile) (name : ParamName) :
    (monitorAfter profile ([] : List (MavInput α))).lastParamValue name = none :=
  AList.lookup_empty _

theorem lastParamValue_latest (hne : name ≠ [])
    (h : (monitorAfter profile is).lastParamValue name = some p) :
    latest (MavInput.echoOf name) is = some ⟨p.recvNs, p.value, p.paramType⟩ := by
  induction is using List.reverseRecOn with
  | nil => exact absurd ((lastParamValue_start profile name).symm.trans h) (by simp)
  | append_singleton is i ih =>
    rw [monitorAfter_snoc] at h
    rcases lastParamValue_hear hne h with hi | ⟨hi, hold⟩
    · exact latest_snoc_some hi
    · exact (latest_snoc_none hi).trans (ih hold)

/-! ## Echoes and writes -/

theorem echoes_snoc {α : Type} (name : ParamName) (is : List (MavInput α)) (i : MavInput α) :
    echoes name (is ++ [i]) = echoes name is ++ (i.echoOf name).toList := by
  unfold echoes
  rw [List.filterMap_append]
  cases h : i.echoOf name <;> simp [h]

theorem echoes_snoc_none {α : Type} {i : MavInput α} {name : ParamName}
    (hi : i.echoOf name = none) (is : List (MavInput α)) :
    echoes name (is ++ [i]) = echoes name is := by
  rw [echoes_snoc, hi, Option.toList_none, List.append_nil]

/-- An input echoes a parameter exactly if it writes its entry. -/
theorem echoOf_isSome_iff {α : Type} {i : MavInput α} {name : ParamName} (hne : name ≠ []) :
    (i.echoOf name).isSome ↔ ∃ ns, i.echoWrite = some (name, ns) := by
  cases i with
  | paramValue o ns paramId value paramType =>
    unfold MavInput.echoOf MavInput.echoWrite
    by_cases hname : MavMonitor.trimName paramId = name
    · subst hname
      simp [hne]
    · simp [hname]
  | _ => simp [MavInput.echoOf, MavInput.echoWrite]

theorem mem_echoNames_iff {α : Type} {is : List (MavInput α)} {name : ParamName}
    (hne : name ≠ []) : name ∈ echoNames is ↔ echoes name is ≠ [] := by
  unfold echoNames echoWrites echoes
  rw [List.map_filterMap, List.mem_filterMap, Ne, List.filterMap_eq_nil_iff]
  push Not
  refine exists_congr fun i => and_congr_right fun _ => ?_
  rw [← Option.isSome_iff_ne_none, echoOf_isSome_iff hne, Option.map_eq_some_iff]
  constructor
  · rintro ⟨⟨name', ns⟩, hw, rfl⟩
    exact ⟨ns, hw⟩
  · rintro ⟨ns, hw⟩
    exact ⟨_, hw, rfl⟩

theorem echoNames_dedup_le {α : Type} (pre post : List (MavInput α)) :
    (echoNames pre).dedup.length ≤ (echoNames (pre ++ post)).dedup.length := by
  refine dedup_length_le ?_
  unfold echoNames echoWrites
  rw [List.filterMap_append, List.map_append]
  exact List.subset_append_left _ _

theorem nil_notMem_echoNames {α : Type} (is : List (MavInput α)) : [] ∉ echoNames is := by
  unfold echoNames echoWrites
  rw [List.map_filterMap, List.mem_filterMap]
  rintro ⟨i, -, hi⟩
  obtain ⟨w, hw, hnil⟩ := Option.map_eq_some_iff.mp hi
  cases i with
  | paramValue o ns paramId value paramType =>
    by_cases hne : MavMonitor.trimName paramId = []
    · exact absurd (hw.symm.trans (if_pos hne)) (by simp)
    · rw [echoWrite_paramValue hne] at hw
      obtain rfl := Option.some.inj hw
      exact hne hnil
  | _ => exact absurd hw (by simp [MavInput.echoWrite])

/-! ## The count on record -/

/-- What is counted of a parameter on record is how often it was echoed. -/
def CountsExact (m : MavMonitor α) (hist : List (MavInput α)) : Prop :=
  ∀ name p, m.lastParamValue name = some p →
    p.recvCount = countedU64 (echoes name hist).length

/-- What a look-up counts of a parameter, as the sever's baseline reads it. -/
def readCount (m : MavMonitor α) (name : ParamName) : Nat :=
  ((m.lastParamValue name).map (·.recvCount)).getD 0

theorem echoOf_eq_none_of_write {α : Type} {i : MavInput α} {name : ParamName}
    {name' : ParamName} {ns : Nat} (hne : name' ≠ [])
    (hi : i.echoWrite = some (name, ns)) (hname : name' ≠ name) : i.echoOf name' = none := by
  rw [← Option.not_isSome_iff_eq_none, echoOf_isSome_iff hne]
  rintro ⟨ns', hns'⟩
  exact hname (Prod.mk.inj (Option.some.inj (hns'.symm.trans hi))).1

theorem ne_nil_of_onRecord (htimes : EchoTimesIncrease is)
    (h : (monitorAfter profile is).lastParamValue name = some p) : name ≠ [] := by
  rintro rfl
  have hmem := (isSome_lastParamValue profile _ htimes).mp (Option.isSome_iff_exists.mpr ⟨p, h⟩)
  exact nil_notMem_echoNames is hmem.1

theorem echoes_length_snoc {α : Type} {is : List (MavInput α)} {i : MavInput α} {name : ParamName}
    (hne : name ≠ []) {ns : Nat} (hi : i.echoWrite = some (name, ns)) :
    (echoes name (is ++ [i])).length = (echoes name is).length + 1 := by
  obtain ⟨e, he⟩ := Option.isSome_iff_exists.mp ((echoOf_isSome_iff hne).mpr ⟨ns, hi⟩)
  rw [echoes_snoc, he, Option.toList_some, List.length_append, List.length_singleton]

/-- A parameter that is neither on record nor displaced has not been echoed. -/
theorem echoes_eq_nil (htimes : EchoTimesIncrease is) (hne : name ≠ [])
    (hl : (monitorAfter profile is).lastParamValue name = none) (hkept : ¬ Displaced name is) :
    echoes name is = [] := by
  by_contra hsome
  have hrec := (isSome_lastParamValue profile name htimes).mpr
    ⟨(mem_echoNames_iff hne).mpr hsome, hkept⟩
  rw [hl] at hrec
  exact absurd hrec (by simp)

/-- What is on record after an echo is its entry, and what was there of the others. -/
theorem onRecord_after_echo {α : Type} {name : ParamName} {p : ParamEcho α}
    {o : IterOrder ParamName (ParamEcho α)} {name' : ParamName}
    {p' : ParamEcho α} {m m' : MavMonitor α}
    (hparams : m'.paramsByName =
      recordLatest o (·.recvNs) MavMonitor.mapCap name p m.paramsByName)
    (h : m'.lastParamValue name' = some p') :
    (name' = name ∧ p' = p) ∨ (name' ≠ name ∧ m.lastParamValue name' = some p') := by
  unfold MavMonitor.lastParamValue at h
  rw [hparams] at h
  by_cases hname : name' = name
  · subst hname
    exact .inl ⟨rfl, lookup_recordLatest_self h⟩
  · exact .inr ⟨hname, lookup_recordLatest_of_ne hname h⟩

/-- Where the counts were exact, the next one is unless a displaced parameter returns. -/
theorem readCount_echo (htimes : EchoTimesIncrease is)
    (hexact : CountsExact (monitorAfter profile is) is) (hne : name ≠ []) :
    succU64 (readCount (monitorAfter profile is) name) =
      countedU64 ((echoes name is).length + 1) ↔ ¬ Displaced name is := by
  unfold readCount
  cases hl : (monitorAfter profile is).lastParamValue name with
  | some p =>
    have hrec := (isSome_lastParamValue profile name htimes).mp (by rw [hl]; rfl)
    rw [Option.map_some, Option.getD_some, hexact name p hl, succU64_countedU64]
    exact ⟨fun _ => hrec.2, fun _ => rfl⟩
  | none =>
    rw [Option.map_none, Option.getD_none]
    constructor
    · intro hone hdisplaced
      have hpos := List.length_pos_iff.mpr ((mem_echoNames_iff hne).mp hdisplaced.1)
      unfold succU64 countedU64 u64Max at hone
      omega
    · intro hkept
      rw [echoes_eq_nil htimes hne hl hkept]
      rfl

/-- **The step lemma.** An input keeps the counts exact unless it is the echo of a
    displaced parameter. -/
theorem countsExact_snoc (htimes : EchoTimesIncrease (is ++ [i]))
    (hexact : CountsExact (monitorAfter profile is) is) :
    CountsExact (monitorAfter profile (is ++ [i])) (is ++ [i]) ↔
      ∀ w, i.echoWrite = some w → ¬ Displaced w.1 is := by
  have hbefore := echoTimes_of_append htimes
  cases hi : i.echoWrite with
  | none =>
    refine ⟨fun _ w hw => absurd hw (by simp), fun _ name p hp => ?_⟩
    have hne := ne_nil_of_onRecord htimes hp
    have hnone : i.echoOf name = none := by
      rw [← Option.not_isSome_iff_eq_none, echoOf_isSome_iff hne, hi]
      simp
    rw [monitorAfter_snoc] at hp
    unfold MavMonitor.lastParamValue at hp
    rw [hear_paramsByName hi] at hp
    rw [echoes_snoc_none hnone]
    exact hexact name p hp
  | some w =>
    obtain ⟨name, ns⟩ := w
    obtain ⟨o, p, -, hcount, hparams⟩ := hear_echo (m := monitorAfter profile is) hi
    have hrec : ((monitorAfter profile (is ++ [i])).lastParamValue name).isSome := by
      refine (isSome_lastParamValue profile _ htimes).mpr ?_
      unfold Displaced echoNames
      rw [echoWrites_snoc, hi, List.map_append]
      simp [MavMonitor.mapCap]
    obtain ⟨q, hq⟩ := Option.isSome_iff_exists.mp hrec
    have hne := ne_nil_of_onRecord htimes hq
    rw [← monitorAfter_snoc] at hparams
    have hstep := readCount_echo hbefore hexact hne
    rw [← echoes_length_snoc hne hi] at hstep
    constructor
    · rintro hafter w hw
      obtain rfl := Option.some.inj hw
      refine hstep.mp ?_
      rcases onRecord_after_echo hparams hq with ⟨-, rfl⟩ | ⟨habs, -⟩
      · rw [← hafter name q hq, hcount]
        rfl
      · exact absurd rfl habs
    · intro hkept name' p' hp'
      rcases onRecord_after_echo hparams hp' with ⟨rfl, rfl⟩ | ⟨hname, hold⟩
      · rw [hcount]
        exact hstep.mpr (hkept _ rfl)
      · have hnone := echoOf_eq_none_of_write (ne_nil_of_onRecord htimes hp') hi hname
        rw [echoes_snoc_none hnone]
        exact hexact name' p' hold

/-- **The run lemma.** -/
theorem countsExact_of_noneReturns (profile : VehicleProfile) (htimes : EchoTimesIncrease is)
    (h : NoneReturns is) : CountsExact (monitorAfter profile is) is := by
  induction is using List.reverseRecOn with
  | nil =>
    intro name p hp
    exact absurd ((lastParamValue_start profile name).symm.trans hp) (by simp)
  | append_singleton is i ih =>
    have hbefore := ih (echoTimes_of_append htimes) (noneReturns_of_append h)
    exact (countsExact_snoc htimes hbefore).mpr (h is i [] rfl)

theorem countsExact_iff (profile : VehicleProfile) (htimes : EchoTimesIncrease is) :
    (∀ pre post, is = pre ++ post → CountsExact (monitorAfter profile pre) pre) ↔
      NoneReturns is := by
  constructor
  · rintro h pre i post rfl
    have hwhole : EchoTimesIncrease ((pre ++ [i]) ++ post) := by simpa using htimes
    have htimes' := echoTimes_of_append hwhole
    exact (countsExact_snoc htimes' (h pre (i :: post) rfl)).mp
      (h (pre ++ [i]) post (by simp))
  · rintro h pre post rfl
    exact countsExact_of_noneReturns profile (echoTimes_of_append htimes) (noneReturns_of_append h)

/-! ## Read with none for a parameter that is not on record -/

theorem displaced_length {α : Type} {is : List (MavInput α)} {name : ParamName}
    (h : Displaced name is) :
    MavMonitor.mapCap < (echoNames is).dedup.length :=
  lt_of_le_of_lt h.2 (othersSince_length_lt h.1)

/-- A parameter echoed is on record if it is counted, and no more than 64 are on record. -/
theorem few_of_readCount (htimes : EchoTimesIncrease is)
    (h : ∀ name ≠ [],
      readCount (monitorAfter profile is) name = countedU64 (echoes name is).length) :
    (echoNames is).dedup.length ≤ MavMonitor.mapCap := by
  have hsub : (echoNames is).dedup ⊆ (monitorAfter profile is).paramsByName.keys := by
    intro name hmem
    rw [List.mem_dedup] at hmem
    have hne : name ≠ [] := fun hnil => nil_notMem_echoNames is (hnil ▸ hmem)
    have hcount := h name hne
    have hpos := List.length_pos_iff.mpr ((mem_echoNames_iff hne).mp hmem)
    rw [← AList.mem_keys, ← AList.lookup_isSome, ← Option.not_isNone, Bool.not_eq_true',
      ← Bool.not_eq_true, Option.isNone_iff_eq_none]
    intro hnone
    unfold readCount MavMonitor.lastParamValue at hcount
    rw [hnone, Option.map_none, Option.getD_none] at hcount
    unfold countedU64 u64Max at hcount
    omega
  have hkeys := (params_kept profile htimes).keys_perm.length_eq
  have hle := (List.subperm_of_subset (List.nodup_dedup _) hsub).length_le
  rw [hkeys] at hle
  exact le_trans hle (List.length_take_le _ _)

theorem noneReturns_of_few {α : Type} {is : List (MavInput α)}
    (h : (echoNames is).dedup.length ≤ MavMonitor.mapCap) :
    NoneReturns is := by
  rintro pre i post rfl w - hdisplaced
  have hmore := displaced_length hdisplaced
  have hle := echoNames_dedup_le pre (i :: post)
  omega

theorem readCount_exact (profile : VehicleProfile) (htimes : EchoTimesIncrease is)
    (hfew : (echoNames is).dedup.length ≤ MavMonitor.mapCap) (hne : name ≠ []) :
    readCount (monitorAfter profile is) name = countedU64 (echoes name is).length := by
  have hkept : ¬ Displaced name is := fun h => absurd hfew (not_le.mpr (displaced_length h))
  unfold readCount
  cases hl : (monitorAfter profile is).lastParamValue name with
  | some p => exact countsExact_of_noneReturns profile htimes (noneReturns_of_few hfew) name p hl
  | none =>
    rw [echoes_eq_nil htimes hne hl hkept]
    rfl

theorem readCount_exact_iff (profile : VehicleProfile) (htimes : EchoTimesIncrease is) :
    (∀ pre post, is = pre ++ post → ∀ name ≠ [],
      readCount (monitorAfter profile pre) name = countedU64 (echoes name pre).length) ↔
      (echoNames is).dedup.length ≤ MavMonitor.mapCap := by
  constructor
  · intro h
    exact few_of_readCount htimes (h is [] (by simp))
  · rintro hfew pre post rfl name hne
    exact readCount_exact profile (echoTimes_of_append htimes)
      (le_trans (echoNames_dedup_le pre post) hfew) hne

/-- On record, the count of a parameter never goes down. -/
def NeverDecreases (profile : VehicleProfile) (is : List (MavInput α)) : Prop :=
  ∀ pre mid post, is = pre ++ mid ++ post → ∀ name p p',
    (monitorAfter profile pre).lastParamValue name = some p →
    (monitorAfter profile (pre ++ mid)).lastParamValue name = some p' →
    p.recvCount ≤ p'.recvCount

theorem neverDecreases_of_exact
    (h : ∀ pre post, is = pre ++ post → CountsExact (monitorAfter profile pre) pre) :
    NeverDecreases profile is := by
  rintro pre mid post rfl name p p' hp hp'
  rw [h pre (mid ++ post) (by simp) name p hp, h (pre ++ mid) post rfl name p' hp']
  refine countedU64_mono ?_
  unfold echoes
  rw [List.filterMap_append, List.length_append]
  exact Nat.le_add_right _ _

/-- Whatever is displaced, no more is counted than was echoed. -/
theorem readCount_le (profile : VehicleProfile) (hne : name ≠ []) (is : List (MavInput α)) :
    readCount (monitorAfter profile is) name ≤ (echoes name is).length := by
  induction is using List.reverseRecOn with
  | nil =>
    unfold readCount
    rw [lastParamValue_start]
    exact Nat.zero_le _
  | append_singleton is i ih =>
    cases hl : (monitorAfter profile (is ++ [i])).lastParamValue name with
    | none =>
      unfold readCount
      rw [hl]
      exact Nat.zero_le _
    | some p =>
      unfold readCount at ih ⊢
      rw [hl, Option.map_some, Option.getD_some]
      rw [monitorAfter_snoc] at hl
      rcases lastParamValue_hear hne hl with hi | ⟨hi, hold⟩
      · obtain ⟨ns, hw⟩ := (echoOf_isSome_iff hne).mp (Option.isSome_iff_exists.mpr ⟨_, hi⟩)
        obtain ⟨o, q, -, hcount, hparams⟩ := hear_echo (m := monitorAfter profile is) hw
        unfold MavMonitor.lastParamValue at hl
        rw [hparams] at hl
        obtain rfl := lookup_recordLatest_self hl
        rw [hcount, echoes_length_snoc hne hw]
        unfold succU64
        omega
      · rw [hold, Option.map_some, Option.getD_some] at ih
        rw [echoes_snoc_none hi]
        exact ih

end History

/-! ## What the read-back can count on -/

/-- A history with the number of echoes of the sever parameter at two moments of it. -/
structure SendGhost (α : Type) where
  hist : List (MavInput α)
  /-- At the last snapshot. -/
  atSnapshot : Nat
  /-- At the snapshot of the send that the running read-back is about. -/
  atSend : Nat

def followSends (profile : VehicleProfile) (g : SendGhost α) (_ : MavSystem α)
    (i : MavInput α) (_ : MavSystem α) : SendGhost α where
  hist := g.hist ++ [i]
  atSnapshot :=
    match i with
    | .severSnapshot => (echoes (severGpsParam profile).1 g.hist).length
    | _ => g.atSnapshot
  atSend :=
    match i with
    | .beginVerifySever => g.atSnapshot
    | _ => g.atSend

/-- A poll confirms, if two genuine echoes came since the send, the last echo is one, and the
    parameter has not been displaced since. -/
def Confirms (profile : VehicleProfile) (x : MavSystem α × SendGhost α) (i : MavInput α) :
    Prop :=
  ∀ expired v e, i = .pollSever expired → x.1.sever = .polling v →
    2 ≤ ((echoes (severGpsParam profile).1 x.2.hist).drop x.2.atSend).countP
      (genuine profile v.sentAt) →
    latest (MavInput.echoOf (severGpsParam profile).1) x.2.hist = some e →
    genuine profile v.sentAt e = true →
    ¬ Displaced (severGpsParam profile).1 x.2.hist →
    (echoes (severGpsParam profile).1 x.2.hist).length ≤ u64Max →
    Verdict.sever true ∈ (x.1.step i).2

/-- No baseline is above the number of echoes at its snapshot. -/
structure SendsTold (profile : VehicleProfile) (x : MavSystem α × SendGhost α) : Prop where
  vehicle : x.1.controller.profile = profile
  heard : x.1.monitor = monitorAfter profile x.2.hist
  snapshot : x.1.controller.severEchoBaseline ≤ x.2.atSnapshot
  polling : ∀ v, x.1.sever = .polling v → v.baseline ≤ x.2.atSend

theorem SendsTold.start (profile : VehicleProfile) :
    SendsTold profile (MavSystem.start profile, (⟨[], 0, 0⟩ : SendGhost α)) where
  vehicle := rfl
  heard := rfl
  snapshot := le_refl _
  polling := fun v h => absurd h (by simp [MavSystem.start])

theorem SendsTold.step {profile : VehicleProfile} {x : MavSystem α × SendGhost α}
    (h : SendsTold profile x) (i : MavInput α) :
    SendsTold profile (ghost MavSystem.step (followSends profile) x i).1 := by
  obtain ⟨s, g⟩ := x
  obtain ⟨hprof, hheard, hsnap, hpoll⟩ := h
  dsimp only at hprof hheard hsnap hpoll
  refine ⟨(step_controller s i).1.trans hprof, ?_, ?_, fun v hv => ?_⟩
  · rw [ghost_fst, step_monitor, hheard]
    exact (monitorAfter_snoc profile g.hist i).symm
  · rw [ghost_fst, ghost_snd]
    rcases step_severEchoBaseline s i with ⟨rfl, hcount⟩ | ⟨hi, hle⟩
    · rw [hcount]
      unfold MavFlightController.echoCount
      rw [hprof, hheard]
      exact readCount_le profile (severGpsParam_ne_nil profile) g.hist
    · cases i with
      | severSnapshot => exact absurd rfl hi
      | _ => exact le_trans hle hsnap
  · rw [ghost_snd]
    rcases step_polling hv with ⟨hi, hold⟩ | ⟨rfl, -, rfl⟩
    · cases i with
      | beginVerifySever => exact absurd rfl hi
      | _ => exact hpoll v hold
    · exact hsnap

theorem run_hist (profile : VehicleProfile) (x : MavSystem α × SendGhost α)
    (is : List (MavInput α)) :
    (run (ghost MavSystem.step (followSends profile)) x is).2.hist = x.2.hist ++ is := by
  induction is generalizing x with
  | nil => exact (List.append_nil _).symm
  | cons i is ih =>
    rw [run_cons, ih, ghost_snd, List.append_cons]
    rfl

/-- Where the counts are exact, a poll confirms as it should. -/
theorem confirms_of_exact {profile : VehicleProfile} {x : MavSystem α × SendGhost α}
    (h : SendsTold profile x) (htimes : EchoTimesIncrease x.2.hist)
    (hexact : CountsExact (monitorAfter profile x.2.hist) x.2.hist) (i : MavInput α) :
    Confirms profile x i := by
  rintro expired v e rfl hv htwo hl hg hkept hmax
  have hne := severGpsParam_ne_nil profile
  have hechoed : (severGpsParam profile).1 ∈ echoNames x.2.hist := by
    rw [mem_echoNames_iff hne]
    intro hnil
    unfold latest at hl
    unfold echoes at hnil
    rw [hnil] at hl
    exact absurd hl (by simp)
  obtain ⟨p, hp⟩ := Option.isSome_iff_exists.mp
    ((isSome_lastParamValue profile _ htimes).mpr ⟨hechoed, hkept⟩)
  obtain rfl := Option.some.inj (hl.symm.trans (lastParamValue_latest hne hp))
  refine step_confirms.mpr ⟨expired, v, rfl, hv, pollSever_confirms.mpr ⟨p, ?_, ?_, ?_⟩⟩
  · rw [h.vehicle, h.heard]
    exact hp
  · rw [h.vehicle]
    exact hg
  · -- what is counted since the baseline is no less than what came since the send
    have hcount : x.1.controller.echoCount x.1.monitor =
        (echoes (severGpsParam profile).1 x.2.hist).length := by
      unfold MavFlightController.echoCount
      rw [h.vehicle, h.heard, hp, Option.map_some, Option.getD_some, hexact _ p hp]
      exact min_eq_left hmax
    have hsince := le_trans htwo List.countP_le_length
    rw [List.length_drop] at hsince
    have hbase := h.polling v hv
    rw [hcount]
    unfold severVerifyDwellEchoes
    omega

/-- **The echo counts, exactly.** In a run whose echoes are received one after another: what
    is counted of the parameters on record is exact in every state, no such count goes down,
    and every read-back confirms that should, if and only if no parameter is echoed again
    after it was displaced. Read with none for a parameter that is not on record, as the
    baseline of a sever is, the counts are exact as long as there are no more than 64
    parameters. -/
theorem echoCounts_iff (profile : VehicleProfile) (is : List (MavInput α))
    (htimes : EchoTimesIncrease is) :
    (((∀ pre post, is = pre ++ post → CountsExact (monitorAfter profile pre) pre) ∧
        NeverDecreases profile is ∧
        Along (ghost MavSystem.step (followSends profile)) (Confirms profile)
          (MavSystem.start profile, ⟨[], 0, 0⟩) is) ↔
      NoneReturns is) ∧
    ((∀ pre post, is = pre ++ post → ∀ name ≠ [],
        readCount (monitorAfter profile pre) name = countedU64 (echoes name pre).length) ↔
      (echoNames is).dedup.length ≤ 64) := by
  refine ⟨⟨fun h => (countsExact_iff profile htimes).mp h.1, fun h => ?_⟩,
    readCount_exact_iff profile htimes⟩
  have hexact := (countsExact_iff profile htimes).mpr h
  refine ⟨hexact, neverDecreases_of_exact hexact, ?_⟩
  rw [along_iff_forall_split]
  rintro pre i post rfl
  have htold : SendsTold profile (run (ghost MavSystem.step (followSends profile))
      (MavSystem.start profile, (⟨[], 0, 0⟩ : SendGhost α)) pre) :=
    run_invariant (fun _ i h => h.step i) (SendsTold.start profile) pre
  have hhist := run_hist profile (MavSystem.start profile, (⟨[], 0, 0⟩ : SendGhost α)) pre
  rw [List.nil_append] at hhist
  refine confirms_of_exact htold ?_ ?_ i
  · rw [hhist]
    exact echoTimes_of_append htimes
  · rw [hhist]
    exact hexact pre (i :: post) rfl

/-- An echo of the parameter a sever sets. -/
def severEcho (ns : Nat) (value : ℚ) : MavInput ℚ :=
  .paramValue .stored ns (severGpsParam .arduCopter).1 value mavParamTypeInt8

theorem echoCounts_iff_two :
    readCount (monitorAfter .arduCopter [severEcho 1 1, severEcho 2 1])
      (severGpsParam .arduCopter).1 = 2 :=
  (echoCounts_iff .arduCopter [severEcho 1 1, severEcho 2 1] (by decide)).2.mpr (by decide)
    _ [] rfl _ (by decide)

/-- Two echoes, a send, 64 other parameters, and the two zeroes that answer it. -/
def answerAfterDownload : List (MavInput ℚ) :=
  [severEcho 1 1, severEcho 2 1, .severSnapshot, .severStamp 3] ++
    ((List.range 64).map fun k => .paramValue .stored (4 + k) [80, k + 1] 0 mavParamTypeInt8) ++
    [severEcho 70 0, severEcho 71 0, .beginVerifySever]

/-- Four echoes are counted as two, and the read-back does not confirm. -/
theorem answerAfterDownload_unconfirmed :
    EchoTimesIncrease answerAfterDownload ∧
    ¬ CountsExact (monitorAfter .arduCopter answerAfterDownload) answerAfterDownload ∧
    ¬ Along (ghost MavSystem.step (followSends .arduCopter)) (Confirms .arduCopter)
      (MavSystem.start .arduCopter, ⟨[], 0, 0⟩) (answerAfterDownload ++ [.pollSever false]) := by
  refine ⟨by decide +kernel, fun h => ?_, fun h => ?_⟩
  · have hrec : ((monitorAfter .arduCopter answerAfterDownload).lastParamValue
        (severGpsParam .arduCopter).1).map (·.recvCount) = some 2 := by decide +kernel
    obtain ⟨p, hp, hcount⟩ := Option.map_eq_some_iff.mp hrec
    have hfour := h _ p hp
    rw [hcount] at hfour
    exact absurd hfour (by decide +kernel)
  · have hpoll := ((along_append _ answerAfterDownload _).mp h).2.1 false ⟨3, 2⟩ ⟨71, 0, 2⟩ rfl
      (by decide +kernel) (by decide +kernel) (by decide +kernel) (by decide +kernel)
      (by decide +kernel) (by decide +kernel)
    exact absurd hpoll (by decide +kernel)

end MavSystem

end FlyingSquirrel

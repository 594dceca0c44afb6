import FlyingSquirrel.Hw.I2cImu
import FlyingSquirrel.Lib.Real
import FlyingSquirrel.Proof.AxisMap

/-!
# What the driver of the IMU does on the bus

The identity of the chip is the gate: nothing is written to a chip before it has answered with
the right one, and no sample comes from a handle on which it has not. Behind the gate the driver
is the read health, with the transactions around it: it decodes exactly the frames that are
fresh, and it ends when the ladder does.
-/

set_option autoImplicit false

namespace FlyingSquirrel

open Lib

/-- What an initialisation that succeeds has done on its handle. -/
def initOps (handle : Nat) : List BusOp :=
  [.whoAmI handle (.ok whoAmIMpu6050), .write handle regPwrMgmt1 0x00 (.ok ()),
    .write handle regAccelConfig 0x00 (.ok ()), .write handle regGyroConfig 0x00 (.ok ())]

/-- Each write comes after the right identity on its handle. -/
def Gated (ops : List BusOp) : Prop :=
  ∀ a b h reg v r, ops = a ++ .write h reg v r :: b → .whoAmI h (.ok whoAmIMpu6050) ∈ a

theorem Gated.nil : Gated [] := fun a b h reg v r hsplit => absurd hsplit (by simp)

theorem Gated.append {ops ops' : List BusOp} (h : Gated ops) (h' : Gated ops') :
    Gated (ops ++ ops') := by
  intro a b hd reg v r hsplit
  rcases List.append_eq_append_iff.mp hsplit with ⟨a', rfl, hrest⟩ | ⟨a', rfl, hrest⟩
  · exact List.mem_append_right _ (h' a' b hd reg v r hrest)
  · cases a' with
    | nil => exact absurd (h' [] b hd reg v r hrest.symm) (by simp)
    | cons op a' =>
      obtain ⟨rfl, -⟩ := List.cons_eq_cons.mp hrest
      exact h a a' hd reg v r rfl

/-- What follows the right identity on one handle is gated. -/
theorem Gated.behind {h : Nat} {ops : List BusOp}
    (hops : ∀ op ∈ ops, ∃ reg v r, op = .write h reg v r) :
    Gated (.whoAmI h (.ok whoAmIMpu6050) :: ops) := by
  intro a b hd reg v r hsplit
  cases a with
  | nil => cases hsplit
  | cons op a =>
    obtain ⟨rfl, hrest⟩ := List.cons_eq_cons.mp hsplit
    obtain ⟨reg', v', r', heq⟩ := hops (.write hd reg v r) (by rw [hrest]; simp)
    cases heq
    exact List.mem_cons_self

/-- **An initialisation** is gated, and if it succeeds it has done all it should. -/
theorem openAndInit_cases (bus : String) (handle : Nat) (r : InitReplies) :
    Gated (openAndInit bus handle r).2 ∧
      (∀ op ∈ (openAndInit bus handle r).2, ∀ h reply, op ≠ .burst h reply) ∧
      ((openAndInit bus handle r).1 = .ok () → (openAndInit bus handle r).2 = initOps handle) := by
  have hsingle : ∀ reply, Gated [.whoAmI handle reply] := fun reply a b h reg v r' hsplit => by
    cases a with
    | nil => cases hsplit
    | cons op a => exact absurd (List.cons_eq_cons.mp hsplit).2 (by simp)
  obtain ⟨opened, whoAmI, wake, accelConfig, gyroConfig⟩ := r
  cases opened with
  | error e => exact ⟨.nil, by simp [openAndInit], fun h => by cases h⟩
  | ok _ =>
    cases whoAmI with
    | error e => exact ⟨hsingle _, by simp [openAndInit], fun h => by cases h⟩
    | ok chip =>
      by_cases hchip : chip = whoAmIMpu6050
      · subst hchip
        cases wake with
        | error e => exact ⟨.behind (by simp), by simp [openAndInit, checkWhoAmI], fun h => by
            cases h⟩
        | ok _ =>
          cases accelConfig with
          | error e => exact ⟨.behind (by simp), by simp [openAndInit, checkWhoAmI], fun h => by
              cases h⟩
          | ok _ =>
            cases gyroConfig with
            | error e => exact ⟨.behind (by simp), by simp [openAndInit, checkWhoAmI], fun h => by
                cases h⟩
            | ok _ => exact ⟨.behind (by simp), by simp [openAndInit, checkWhoAmI], fun _ => rfl⟩
      · have hbad : ∃ m, checkWhoAmI chip = .error m := by
          unfold checkWhoAmI
          rw [if_neg hchip]
          exact ⟨_, rfl⟩
        obtain ⟨m, hm⟩ := hbad
        have hops : openAndInit bus handle ⟨.ok (), .ok chip, wake, accelConfig, gyroConfig⟩ =
            (.error m, [.whoAmI handle (.ok chip)]) := by
          simp [openAndInit, hm]
        rw [hops]
        exact ⟨hsingle _, by simp, fun h => by cases h⟩

namespace DriverOutput

variable {α : Type}

def op? : DriverOutput α → Option BusOp
  | .bus op => some op
  | _ => none

def sample? : DriverOutput α → Option (ImuSample α)
  | .sample s => some s
  | _ => none

/-- A line of the log, or a transaction: nothing that the stream yields or drops. -/
def isPlain : DriverOutput α → Bool
  | .sample _ | .error _ | .droppedSample => false
  | _ => true

end DriverOutput

namespace BusOp

def burst? : BusOp → Option ImuRead
  | .burst _ reply => some reply
  | _ => none

end BusOp

namespace I2cImu

variable {α : Type}

/-- The transactions, in order. -/
def opsOf (out : List (DriverOutput α)) : List BusOp := out.filterMap DriverOutput.op?

def samplesOf (out : List (DriverOutput α)) : List (ImuSample α) :=
  out.filterMap DriverOutput.sample?

/-- What the reads brought. -/
def readsOf (out : List (DriverOutput α)) : List ImuRead := (opsOf out).filterMap BusOp.burst?

theorem opsOf_append (out out' : List (DriverOutput α)) :
    opsOf (out ++ out') = opsOf out ++ opsOf out' := List.filterMap_append

theorem readsOf_append (out out' : List (DriverOutput α)) :
    readsOf (out ++ out') = readsOf out ++ readsOf out' := by
  unfold readsOf
  rw [opsOf_append, List.filterMap_append]

theorem samplesOf_append (out out' : List (DriverOutput α)) :
    samplesOf (out ++ out') = samplesOf out ++ samplesOf out' := List.filterMap_append

theorem opsOf_bus (ops : List BusOp) : opsOf (ops.map (DriverOutput.bus (α := α))) = ops := by
  unfold opsOf
  rw [List.filterMap_map]
  exact List.filterMap_some

theorem logTrouble_plain (t : Trouble) :
    opsOf (logTrouble (α := α) t) = [] ∧ ∀ o ∈ logTrouble (α := α) t, o.isPlain = true := by
  unfold logTrouble
  cases t.warnDegraded <;> cases t.endStream <;> simp [opsOf, DriverOutput.op?,
    DriverOutput.isPlain]

theorem samplesOf_plain {out : List (DriverOutput α)} (h : ∀ o ∈ out, o.isPlain = true) :
    samplesOf out = [] := by
  refine List.filterMap_eq_nil_iff.mpr fun o ho => ?_
  have := h o ho
  cases o <;> simp_all [DriverOutput.isPlain, DriverOutput.sample?]

/-- **What is done about a bad read.** The stream ends if the ladder says so. The handle is
    kept, or it is a new one on which an initialisation has succeeded. -/
structure Tried (d d' : I2cImu α) (t : Trouble) (out : List (DriverOutput α)) : Prop where
  cfg : d'.cfg = d.cfg
  health : d'.health = d.health
  ended : d'.ended = (d.ended || t.endStream)
  handle : d'.handle = d.handle ∨ ∃ h, d'.handle = some h ∧ opsOf out = initOps h
  gated : Gated (opsOf out)
  reads : readsOf out = []
  plain : ∀ o ∈ out, o.isPlain = true

theorem onTrouble_tried (d : I2cImu α) (t : Trouble) (replies : InitReplies) :
    Tried d (d.onTrouble t replies).1 t (d.onTrouble t replies).2 := by
  obtain ⟨hlogops, hlogplain⟩ := logTrouble_plain (α := α) t
  unfold onTrouble
  by_cases hend : t.endStream = true
  · rw [if_pos hend]
    exact ⟨rfl, rfl, by simp [hend], .inl rfl, by rw [hlogops]; exact .nil,
      by rw [readsOf, hlogops]; rfl, hlogplain⟩
  · rw [if_neg hend]
    have hgo : (d.ended || t.endStream) = d.ended := by simp [hend]
    by_cases hre : t.reinit = true
    · rw [if_pos hre]
      obtain ⟨hgated, hnoburst, hok⟩ := openAndInit_cases d.cfg.bus d.attempts replies
      generalize openAndInit d.cfg.bus d.attempts replies = init at hgated hnoburst hok
      obtain ⟨result, ops⟩ := init
      have hops : ∀ o : DriverOutput α, o.op? = none →
          opsOf (logTrouble t ++ ops.map .bus ++ [o]) = ops := by
        intro o ho
        rw [opsOf_append, opsOf_append, hlogops, opsOf_bus, List.nil_append]
        simp [opsOf, ho]
      have hreads : ∀ o : DriverOutput α, o.op? = none →
          readsOf (logTrouble t ++ ops.map .bus ++ [o]) = [] := by
        intro o ho
        rw [readsOf, hops o ho]
        refine List.filterMap_eq_nil_iff.mpr fun op hop => ?_
        cases op with
        | burst h reply => exact absurd rfl (hnoburst _ hop h reply)
        | _ => rfl
      have hplain : ∀ o : DriverOutput α, o.isPlain = true →
          ∀ o' ∈ logTrouble t ++ ops.map .bus ++ [o], o'.isPlain = true := by
        intro o ho o' ho'
        rw [List.mem_append, List.mem_append, List.mem_map, List.mem_singleton] at ho'
        rcases ho' with (h | ⟨op, -, rfl⟩) | rfl
        · exact hlogplain o' h
        · rfl
        · exact ho
      cases result with
      | ok _ =>
        refine ⟨rfl, rfl, hgo.symm, .inr ⟨d.attempts, rfl, ?_⟩, ?_, hreads _ rfl, hplain _ rfl⟩
        · exact (hops _ rfl).trans (hok rfl)
        · dsimp only
          rw [hops _ rfl]
          exact hgated
      | error e =>
        refine ⟨rfl, rfl, hgo.symm, .inl rfl, ?_, hreads _ rfl, hplain _ rfl⟩
        dsimp only
        rw [hops _ rfl]
        exact hgated
    · rw [if_neg hre]
      exact ⟨rfl, rfl, hgo.symm, .inl rfl, by rw [hlogops]; exact .nil,
        by rw [readsOf, hlogops]; rfl, hlogplain⟩

/-- A sample without its time. -/
def untimedSample (s : ImuSample α) : ImuSample α := { s with t := .nowMono 0 }

variable [Zero α] [Neg α] [Mul α] [Div α] [IntCast α] [OfScientific α] [LT α] [DecidableLT α]
  [Libm α] [FiniteTest α]

/-- What the stream does with a frame that passes. -/
def yieldOf (s : ImuSample α) : DriverOutput α :=
  if imuSampleIsPlausible s then .sample s else .droppedSample

theorem samplesOf_yieldOf (raw : RawFrame) (m : AxisMap α) (now : Instant) :
    (samplesOf [yieldOf (sampleFromRaw raw m now)]).map untimedSample =
      [sampleFromRaw raw m 0].filter imuSampleIsPlausible := by
  have hstamp : imuSampleIsPlausible (sampleFromRaw raw m now) =
      imuSampleIsPlausible (sampleFromRaw raw m 0) := rfl
  unfold yieldOf
  rw [hstamp, List.filter_cons, List.filter_nil]
  split <;> rfl

/-- **What a turn of the loop does.** It reads, on its handle, and asks the read health. A fresh
    frame is decoded and passed on; about a bad read something is done. -/
theorem onTick_cases (d : I2cImu α) (h : Nat) (now : Instant) (read : ImuRead)
    (replies : InitReplies) :
    (∃ raw recoveredAfter, read = .ok raw ∧
      (d.health.answer read).2 = .verdict (.fresh recoveredAfter) ∧
      d.onTick h now read replies = ({ d with health := (d.health.answer read).1 },
        .bus (.burst h read) :: (recoveredAfter.toList.map .recovered ++
          [yieldOf (sampleFromRaw raw d.cfg.axisMap now)]))) ∨
    (∃ t, (d.health.answer read).2.trouble? = some t ∧
      d.onTick h now read replies =
        andThen ({ d with health := (d.health.answer read).1 }, [.bus (.burst h read)])
          fun d => d.onTrouble t replies) := by
  cases read with
  | err => exact .inr ⟨d.health.onReadErr.2, rfl, rfl⟩
  | ok raw =>
    have hanswer : d.health.answer (.ok raw) =
        ((d.health.onReadOk raw).1, .verdict (d.health.onReadOk raw).2) := rfl
    rw [hanswer]
    unfold onTick
    dsimp only
    rcases d.health.onReadOk raw with ⟨health, recoveredAfter | t⟩
    · exact .inl ⟨raw, recoveredAfter, rfl, rfl, rfl⟩
    · exact .inr ⟨t, rfl, rfl⟩

/-! ## Runs -/

/-- The read health, putting out the frames that pass. -/
def freshStep (h : ReadHealth) (r : ImuRead) : ReadHealth × List RawFrame :=
  ((h.answer r).1, if (h.answer r).2.isFresh then r.frame?.toList else [])

/-- The frames that pass, of what the reads bring. -/
def freshFrames (reads : List ImuRead) : List RawFrame := outputs freshStep .new reads

/-- The read health after these reads. -/
def healthAfter (reads : List ImuRead) : ReadHealth := run ReadHealth.step .new reads

theorem freshFrames_snoc (reads : List ImuRead) (r : ImuRead) :
    freshFrames (reads ++ [r]) = freshFrames reads ++
      if ((healthAfter reads).answer r).2.isFresh then r.frame?.toList else [] := by
  have hrun : run freshStep .new reads = healthAfter reads := by
    induction reads using List.reverseRecOn with
    | nil => rfl
    | append_singleton reads r ih =>
      rw [run_snoc, ih, healthAfter, healthAfter, run_snoc]
      rfl
  unfold freshFrames
  rw [outputs_snoc, hrun]
  rfl

/-- What is true of the driver, `out` being what it has put out. -/
structure Sound (cfg : I2cImuConfig α) (d : I2cImu α) (out : List (DriverOutput α)) : Prop where
  config : d.cfg = cfg
  health : d.health = healthAfter (readsOf out)
  ready : ∀ h, d.handle = some h → ∀ op ∈ initOps h, op ∈ opsOf out
  gated : Gated (opsOf out)
  samples : (samplesOf out).map untimedSample =
    ((freshFrames (readsOf out)).map fun raw => sampleFromRaw raw cfg.axisMap 0).filter
      imuSampleIsPlausible
  ended : d.ended = true ↔ (∃ m, .error m ∈ out) ∨
    ∃ a ∈ outputs ReadHealth.step .new (readsOf out), a.endsStream = true

theorem Sound.start (cfg : I2cImuConfig α) : Sound cfg (new cfg) [] where
  config := rfl
  health := rfl
  ready := fun h hh => absurd hh (by simp [new])
  gated := .nil
  samples := rfl
  ended := by simp [new, readsOf, opsOf, outputs]

/-- A read, with what it brings: the part of a turn that the read health decides. -/
theorem Sound.burst {cfg : I2cImuConfig α} {d d' : I2cImu α} {out tail : List (DriverOutput α)}
    (hs : Sound cfg d out) (hend : d.ended = false) {h : Nat}
    {read : ImuRead} (hcfg : d'.cfg = d.cfg)
    (hhealth : d'.health = (d.health.answer read).1) (hops : opsOf tail = [])
    (hsamples : (samplesOf tail).map untimedSample =
      ((if (d.health.answer read).2.isFresh then read.frame?.toList else []).map
        fun raw => sampleFromRaw raw cfg.axisMap 0).filter imuSampleIsPlausible)
    (herror : ∀ m, .error m ∉ tail)
    (hended : d'.ended = (d.health.answer read).2.endsStream)
    (hhandle : d'.handle = d.handle) :
    Sound cfg d' (out ++ .bus (.burst h read) :: tail) := by
  have hallops : opsOf (out ++ .bus (.burst h read) :: tail) = opsOf out ++ [.burst h read] := by
    rw [opsOf_append]
    exact congrArg (opsOf out ++ BusOp.burst h read :: ·) hops
  have hreads : readsOf (out ++ .bus (.burst h read) :: tail) = readsOf out ++ [read] := by
    unfold readsOf
    rw [hallops, List.filterMap_append]
    rfl
  have hanswer : (healthAfter (readsOf out)).answer read = d.health.answer read := by
    rw [hs.health]
  constructor
  · exact hcfg.trans hs.config
  · rw [hreads, hhealth, healthAfter, run_snoc, ← hanswer]
    rfl
  · intro h' hh' op hop
    rw [hallops]
    exact List.mem_append_left _ (hs.ready h' (hhandle.symm.trans hh') op hop)
  · rw [hallops]
    refine hs.gated.append fun a b hd reg v r hsplit => ?_
    cases a with
    | nil => cases hsplit
    | cons op a => exact absurd (List.cons_eq_cons.mp hsplit).2 (by simp)
  · rw [samplesOf_append, List.map_append, hs.samples, hreads, freshFrames_snoc, hanswer,
      List.map_append, List.filter_append]
    exact congrArg _ hsamples
  · rw [hended, hreads, outputs_snoc]
    have hno : ¬ ((∃ m, .error m ∈ out) ∨
        ∃ a ∈ outputs ReadHealth.step .new (readsOf out), a.endsStream = true) := fun habs =>
      absurd (hs.ended.mpr habs) (by simp [hend])
    have hlast : (ReadHealth.step (run ReadHealth.step .new (readsOf out)) read).2 =
        [(d.health.answer read).2] := by
      rw [← hanswer]
      rfl
    rw [hlast]
    constructor
    · exact fun ha => .inr ⟨_, List.mem_append_right _ (List.mem_singleton.mpr rfl), ha⟩
    · rintro (⟨m, hm⟩ | ⟨a, ha, htrue⟩)
      · rcases List.mem_append.mp hm with hm | hm
        · exact absurd (.inl ⟨m, hm⟩) hno
        · rcases List.mem_cons.mp hm with hm | hm
          · cases hm
          · exact absurd hm (herror m)
      · rcases List.mem_append.mp ha with ha | ha
        · exact absurd (.inr ⟨a, ha, htrue⟩) hno
        · rwa [List.mem_singleton.mp ha] at htrue

/-- What is done about a bad read, after the read. -/
theorem Sound.tried {cfg : I2cImuConfig α} {d d' : I2cImu α} {out more : List (DriverOutput α)}
    {t : Trouble} (hs : Sound cfg d out) (ht : Tried d d' t more)
    (hended : d'.ended = d.ended) : Sound cfg d' (out ++ more) := by
  have hreads : readsOf (out ++ more) = readsOf out := by
    rw [readsOf_append, ht.reads, List.append_nil]
  constructor
  · exact ht.cfg.trans hs.config
  · rw [ht.health, hreads]
    exact hs.health
  · intro h hh op hop
    rw [opsOf_append]
    rcases ht.handle with hsame | ⟨h', hnew, hops⟩
    · exact List.mem_append_left _ (hs.ready h (hsame.symm.trans hh) op hop)
    · obtain rfl := Option.some.inj (hnew.symm.trans hh)
      exact List.mem_append_right _ (hops ▸ hop)
  · rw [opsOf_append]
    exact hs.gated.append ht.gated
  · rw [samplesOf_append, samplesOf_plain ht.plain, List.append_nil, hreads]
    exact hs.samples
  · rw [hended, hs.ended, hreads]
    refine or_congr ⟨fun ⟨m, hm⟩ => ⟨m, List.mem_append_left _ hm⟩, fun ⟨m, hm⟩ => ⟨m, ?_⟩⟩ Iff.rfl
    rcases List.mem_append.mp hm with hm | hm
    · exact hm
    · exact absurd (ht.plain _ hm) (by simp [DriverOutput.isPlain])

/-- The first initialisation. -/
theorem Sound.init {cfg : I2cImuConfig α} {d d' : I2cImu α} {out : List (DriverOutput α)}
    {ops : List BusOp} {errors : List String} (hs : Sound cfg d out) (hend : d.ended = false)
    (hcfg : d'.cfg = d.cfg) (hhealth : d'.health = d.health)
    (hhandle : ∀ h, d'.handle = some h → ops = initOps h) (hgated : Gated ops)
    (hnoburst : ∀ op ∈ ops, ∀ h reply, op ≠ .burst h reply)
    (hended : d'.ended = true ↔ errors ≠ []) :
    Sound cfg d' (out ++ (ops.map .bus ++ errors.map .error)) := by
  have hops : opsOf (ops.map .bus ++ errors.map (DriverOutput.error (α := α))) = ops := by
    have herrors : opsOf (errors.map (DriverOutput.error (α := α))) = [] :=
      List.filterMap_eq_nil_iff.mpr fun o ho => by
        obtain ⟨m, -, rfl⟩ := List.mem_map.mp ho
        rfl
    rw [opsOf_append, opsOf_bus, herrors, List.append_nil]
  have hreads : readsOf (out ++ (ops.map .bus ++ errors.map .error)) = readsOf out := by
    rw [readsOf_append, readsOf, readsOf, hops]
    refine (congrArg _ (List.filterMap_eq_nil_iff.mpr fun op hop => ?_)).trans (List.append_nil _)
    cases op with
    | burst h reply => exact absurd rfl (hnoburst _ hop h reply)
    | _ => rfl
  have hsamples : samplesOf (ops.map .bus ++ errors.map (DriverOutput.error (α := α))) = [] := by
    refine List.filterMap_eq_nil_iff.mpr fun o ho => ?_
    rcases List.mem_append.mp ho with ho | ho
    · obtain ⟨op, -, rfl⟩ := List.mem_map.mp ho
      rfl
    · obtain ⟨m, -, rfl⟩ := List.mem_map.mp ho
      rfl
  constructor
  · exact hcfg.trans hs.config
  · rw [hhealth, hreads]
    exact hs.health
  · intro h hh op hop
    rw [opsOf_append, hops, hhandle h hh]
    exact List.mem_append_right _ hop
  · rw [opsOf_append, hops]
    exact hs.gated.append hgated
  · rw [samplesOf_append, hsamples, List.append_nil, hreads]
    exact hs.samples
  · have hno : ¬ ((∃ m, .error m ∈ out) ∨
        ∃ a ∈ outputs ReadHealth.step .new (readsOf out), a.endsStream = true) := fun habs =>
      absurd (hs.ended.mpr habs) (by simp [hend])
    rw [hended, hreads]
    constructor
    · intro hne
      obtain ⟨m, hm⟩ := List.exists_mem_of_ne_nil _ hne
      exact .inl ⟨m, by simp [hm]⟩
    · rintro (⟨m, hm⟩ | ha)
      · rcases List.mem_append.mp hm with hm | hm
        · exact absurd (.inl ⟨m, hm⟩) hno
        · rintro rfl
          simp at hm
      · exact absurd (.inr ha) hno

/-- **The step lemma.** -/
theorem Sound.step {cfg : I2cImuConfig α} {d : I2cImu α} {out : List (DriverOutput α)}
    (hs : Sound cfg d out) (i : DriverInput) :
    Sound cfg (I2cImu.step d i).1 (out ++ (I2cImu.step d i).2) := by
  have hquiet : I2cImu.step d i = (d, []) →
      Sound cfg (I2cImu.step d i).1 (out ++ (I2cImu.step d i).2) := fun h => by
    rw [h, List.append_nil]
    exact hs
  cases hend : d.ended with
  | true => exact hquiet (by simp [I2cImu.step, hend])
  | false =>
    cases hh : d.handle with
    | none =>
      cases i with
      | tick now read replies => exact hquiet (by simp [I2cImu.step, hend, hh])
      | start replies =>
        obtain ⟨hgated, hnoburst, hok⟩ := openAndInit_cases d.cfg.bus d.attempts replies
        cases hresult : (openAndInit d.cfg.bus d.attempts replies).1 with
        | ok _ =>
          have hstep : I2cImu.step d (.start replies) =
              ({ d with handle := some d.attempts, attempts := d.attempts + 1 },
                (openAndInit d.cfg.bus d.attempts replies).2.map .bus) := by
            simp only [I2cImu.step, hend, hh, hresult]
            rfl
          rw [hstep]
          have hsound : Sound cfg { d with handle := some d.attempts, attempts := d.attempts + 1 }
              (out ++ ((openAndInit d.cfg.bus d.attempts replies).2.map .bus ++
                ([] : List String).map .error)) :=
            hs.init hend rfl rfl (fun h hnew => by rw [hok hresult, Option.some.inj hnew]) hgated
              hnoburst (by simp [hend])
          rw [List.map_nil, List.append_nil] at hsound
          exact hsound
        | error e =>
          have hstep : I2cImu.step d (.start replies) =
              ({ d with attempts := d.attempts + 1, ended := true },
                (openAndInit d.cfg.bus d.attempts replies).2.map .bus ++ [.error e]) := by
            simp only [I2cImu.step, hend, hh, hresult]
            rfl
          rw [hstep]
          have hsound : Sound cfg { d with attempts := d.attempts + 1, ended := true }
              (out ++ ((openAndInit d.cfg.bus d.attempts replies).2.map .bus ++
                [e].map .error)) :=
            hs.init hend rfl rfl (fun h hnew => absurd (hh.symm.trans hnew) (by simp)) hgated
              hnoburst (by simp)
          exact hsound
    | some h =>
      cases i with
      | start replies => exact hquiet (by simp [I2cImu.step, hend, hh])
      | tick now read replies =>
        have hstep : I2cImu.step d (.tick now read replies) = d.onTick h now read replies := by
          simp [I2cImu.step, hend, hh]
        rw [hstep]
        rcases onTick_cases d h now read replies with
          ⟨raw, recoveredAfter, hread, hfresh, htick⟩ | ⟨t, ht, htick⟩
        · rw [htick]
          have hlogs : ∀ o ∈ recoveredAfter.toList.map (DriverOutput.recovered (α := α)),
              o.isPlain = true := fun o ho => by
            obtain ⟨n, -, rfl⟩ := List.mem_map.mp ho
            rfl
          have hlogops : opsOf (recoveredAfter.toList.map (DriverOutput.recovered (α := α))) = [] :=
            List.filterMap_eq_nil_iff.mpr fun o ho => by
              obtain ⟨n, -, rfl⟩ := List.mem_map.mp ho
              rfl
          refine hs.burst hend rfl rfl ?_ ?_ ?_ ?_ rfl
          · rw [opsOf_append, hlogops]
            unfold yieldOf
            split <;> rfl
          · rw [samplesOf_append, samplesOf_plain hlogs, List.nil_append, hfresh, hread, hs.config]
            exact samplesOf_yieldOf raw cfg.axisMap now
          · intro m hm
            rcases List.mem_append.mp hm with hm | hm
            · exact absurd (hlogs _ hm) (by simp [DriverOutput.isPlain])
            · unfold yieldOf at hm
              split at hm <;> simp at hm
          · rw [hfresh]
            exact hend
        · rw [htick, andThen_fst, andThen_snd, ← List.append_assoc]
          -- the state right after the read, with the ladder's word already taken
          have hmid : Sound cfg { d with health := (d.health.answer read).1, ended := t.endStream }
              (out ++ [.bus (.burst h read)]) := by
            refine hs.burst hend rfl rfl rfl ?_ (by simp) ?_ rfl
            · have hbad : (d.health.answer read).2.isFresh = false := by
                unfold ReadAnswer.trouble? at ht
                split at ht
                · cases ht
                · rename_i hv
                  rw [hv]
                  rfl
                · rename_i hv
                  rw [hv]
                  rfl
              rw [hbad]
              rfl
            · unfold ReadAnswer.endsStream
              rw [ht]
              rfl
          have htried := onTrouble_tried { d with health := (d.health.answer read).1 } t replies
          refine hmid.tried (t := t) ⟨htried.cfg, htried.health, ?_, htried.handle, htried.gated,
            htried.reads, htried.plain⟩ ?_
          · rw [htried.ended, hend]
            simp
          · rw [htried.ended, hend]
            simp

theorem sound_run (cfg : I2cImuConfig α) (is : List DriverInput) :
    Sound cfg (run step (new cfg) is) (outputs step (new cfg) is) := by
  induction is using List.reverseRecOn with
  | nil => exact .start cfg
  | append_singleton is i ih =>
    rw [run_snoc, outputs_snoc]
    exact ih.step i

/-- What a step puts out: the log and the bus, the error of the first initialisation, and what
    becomes of a frame that passes. -/
theorem mem_step {d : I2cImu α} {i : DriverInput} {o : DriverOutput α} (h : o ∈ (step d i).2) :
    o.isPlain = true ∨ (∃ m, o = .error m) ∨
      ∃ raw now, o = yieldOf (sampleFromRaw raw d.cfg.axisMap now) := by
  unfold step at h
  split at h
  · cases h
  · split at h
    · dsimp only at h
      split at h
      · obtain ⟨op, -, rfl⟩ := List.mem_map.mp h
        exact .inl rfl
      · rcases List.mem_append.mp h with h | h
        · obtain ⟨op, -, rfl⟩ := List.mem_map.mp h
          exact .inl rfl
        · exact .inr (.inl ⟨_, List.mem_singleton.mp h⟩)
    · rename_i now read replies hd _
      rcases onTick_cases d hd now read replies with ⟨raw, recoveredAfter, -, -, htick⟩ |
        ⟨t, -, htick⟩
      · rw [htick] at h
        rcases List.mem_cons.mp h with rfl | h
        · exact .inl rfl
        · rcases List.mem_append.mp h with h | h
          · obtain ⟨n, -, rfl⟩ := List.mem_map.mp h
            exact .inl rfl
          · exact .inr (.inr ⟨raw, now, List.mem_singleton.mp h⟩)
      · rw [htick, andThen_snd] at h
        rcases List.mem_append.mp h with h | h
        · rw [List.mem_singleton.mp h]
          exact .inl rfl
        · exact .inl ((onTrouble_tried _ t replies).plain o h)
    · cases h

/-- A sample is put out right after the read that brings it. -/
theorem step_sample {d : I2cImu α} {i : DriverInput} {a b : List (DriverOutput α)}
    {s : ImuSample α} (h : (step d i).2 = a ++ .sample s :: b) :
    ∃ hd raw now, d.handle = some hd ∧ opsOf a = [.burst hd (.ok raw)] ∧
      s = sampleFromRaw raw d.cfg.axisMap now := by
  have hmem : DriverOutput.sample s ∈ (step d i).2 := by rw [h]; simp
  unfold step at h hmem
  cases hend : d.ended with
  | true => simp [hend] at hmem
  | false =>
    rw [if_neg (by simp [hend])] at h hmem
    cases hh : d.handle with
    | none =>
      rw [hh] at hmem
      cases i with
      | tick now read replies => simp at hmem
      | start replies =>
        dsimp only at hmem
        split at hmem <;> simp at hmem
    | some hd =>
      rw [hh] at h hmem
      cases i with
      | start replies => simp at hmem
      | tick now read replies =>
        dsimp only at h hmem
        rcases onTick_cases d hd now read replies with
          ⟨raw, recoveredAfter, rfl, -, htick⟩ | ⟨t, -, htick⟩
        · rw [htick] at h
          refine ⟨hd, raw, now, rfl, ?_⟩
          have hsplit : DriverOutput.bus (.burst hd (.ok raw)) ::
              recoveredAfter.toList.map (DriverOutput.recovered (α := α)) ++
                [yieldOf (sampleFromRaw raw d.cfg.axisMap now)] = a ++ .sample s :: b := h
          have hno : DriverOutput.sample s ∉ DriverOutput.bus (.burst hd (.ok raw)) ::
              recoveredAfter.toList.map (DriverOutput.recovered (α := α)) := by simp
          rcases List.append_eq_append_iff.mp hsplit with ⟨a', rfl, hrest⟩ | ⟨a', hpre, hrest⟩
          · cases a' with
            | nil =>
              rw [List.append_nil]
              refine ⟨by cases recoveredAfter <;> rfl, ?_⟩
              have hlast := (List.cons_eq_cons.mp hrest).1
              unfold yieldOf at hlast
              split at hlast
              · exact (DriverOutput.sample.inj hlast).symm
              · cases hlast
            | cons o a' =>
              have hlen := congrArg List.length hrest
              simp at hlen
          · cases a' with
            | nil =>
              rw [List.append_nil] at hpre
              rw [← hpre]
              refine ⟨by cases recoveredAfter <;> rfl, ?_⟩
              have hlast := (List.cons_eq_cons.mp hrest).1
              unfold yieldOf at hlast
              split at hlast
              · exact DriverOutput.sample.inj hlast
              · cases hlast
            | cons o a' =>
              obtain ⟨rfl, -⟩ := List.cons_eq_cons.mp hrest
              exact absurd (by rw [hpre]; simp) hno
        · have htried := onTrouble_tried { d with health := (d.health.answer read).1 } t replies
          rw [htick, andThen_snd] at hmem
          rcases List.mem_append.mp hmem with hmem | hmem
          · simp at hmem
          · exact absurd (htried.plain _ hmem) (by simp [DriverOutput.isPlain])

/-- **The identity gate.** In every run, whatever the bus and the chip answer: nothing is written
    on a handle before the chip has answered on it with the identity of an MPU-6050; and every
    sample yielded is the decoding of the frame that was read last before it, on a handle on
    which the chip had been identified, woken, and set to the ranges the decoding assumes. -/
theorem identity_gate (cfg : I2cImuConfig α) (is : List DriverInput) :
    Gated (opsOf (outputs step (new cfg) is)) ∧
    ∀ pre post s, outputs step (new cfg) is = pre ++ .sample s :: post →
      ∃ ops hd raw now, opsOf pre = ops ++ [.burst hd (.ok raw)] ∧
        (∀ op ∈ initOps hd, op ∈ ops) ∧ s = sampleFromRaw raw cfg.axisMap now := by
  refine ⟨(sound_run cfg is).gated, fun pre post s hout => ?_⟩
  obtain ⟨is₀, i, is₁, a, b, rfl, hstep, rfl, -⟩ := outputs_eq_split hout
  have hsound := sound_run cfg is₀
  obtain ⟨hd, raw, now, hhandle, hops, hs⟩ := step_sample hstep
  refine ⟨opsOf (outputs step (new cfg) is₀), hd, raw, now, ?_, hsound.ready hd hhandle, ?_⟩
  · rw [opsOf_append, hops]
  · rw [hs, hsound.config]

end I2cImu

/-! ## Nothing is dropped -/

/-- A component that is remapped stays within its bound. -/
theorem vecWithin_apply {m : AxisMap ℝ} (hx : AxisMap.Signed m.x) (hy : AxisMap.Signed m.y)
    (hz : AxisMap.Signed m.z) {v : Vec3 ℝ} {limit : ℝ} (h : ∀ i, |v.get i| ≤ limit) :
    vecWithin (m.apply v) limit = true := by
  have hrow : ∀ row : Nat × ℝ, AxisMap.Signed row → |row.2 * v.get row.1| ≤ limit := by
    intro row hrow
    rcases hrow.2 with hs | hs <;> rw [hs]
    · simpa using h row.1
    · simpa using h row.1
  unfold vecWithin AxisMap.apply
  simp [-abs_mul, fabs_eq_abs, hrow m.x hx, hrow m.y hy, hrow m.z hz]

/-- The words of a frame are in the range of the chip, and the range is a plausible one. -/
theorem isPlausible_sampleFromRaw {text : String} {m : AxisMap ℝ}
    (hm : AxisMap.parse text = .ok m) (raw : RawFrame) (now : Instant) :
    imuSampleIsPlausible (sampleFromRaw raw m now) = true := by
  obtain ⟨hx, hy, hz, -⟩ := AxisMap.parse_ok hm
  have hword : ∀ i, |((raw.word i : Int) : ℝ)| ≤ 32768 := by
    intro i
    obtain ⟨hlo, hhi⟩ := i16FromBe_bounds (raw[i]?.getD 0) (raw[i + 1]?.getD 0)
    rw [abs_le]
    constructor
    · exact_mod_cast hlo
    · exact_mod_cast le_trans hhi (by norm_num)
  have haccel : ∀ i, |((raw.word i : Int) : ℝ) * gPerLsb * gToMps2| ≤ 200.0 := by
    intro i
    unfold gPerLsb gToMps2
    rw [abs_mul, abs_mul, abs_of_pos (show (0 : ℝ) < 1.0 / 16384.0 by norm_num),
      abs_of_pos (show (0 : ℝ) < 9.80665 by norm_num)]
    nlinarith [hword i, abs_nonneg ((raw.word i : Int) : ℝ)]
  have hgyro : ∀ i, |Libm.toRadians (((raw.word i : Int) : ℝ) * degSPerLsb)| ≤ 35.0 := by
    intro i
    unfold degSPerLsb
    change |_ * _ * (Real.pi / 180)| ≤ _
    rw [abs_mul, abs_mul, abs_of_pos (show (0 : ℝ) < 1.0 / 131.0 by norm_num),
      abs_of_pos (div_pos Real.pi_pos (by norm_num : (0 : ℝ) < 180))]
    have hpi : Real.pi ≤ 4 := Real.pi_le_four
    have hrate : |((raw.word i : Int) : ℝ)| * (1.0 / 131.0) ≤ 251 := by
      nlinarith [hword i]
    calc |((raw.word i : Int) : ℝ)| * (1.0 / 131.0) * (Real.pi / 180)
        ≤ 251 * (4 / 180) := by gcongr
      _ ≤ 35.0 := by norm_num
  unfold imuSampleIsPlausible sampleFromRaw
  rw [Bool.and_eq_true]
  constructor
  · refine vecWithin_apply hx hy hz fun i => ?_
    match i with
    | 0 => exact haccel 0
    | 1 => exact haccel 2
    | _ + 2 => exact haccel 4
  · refine vecWithin_apply hx hy hz fun i => ?_
    match i with
    | 0 => exact hgyro 8
    | 1 => exact hgyro 10
    | _ + 2 => exact hgyro 12

namespace I2cImu

/-- **The driver is the read health on a bus.** With a mounting that the axis map accepts, in
    every run: what is yielded is, but for the stamps, the decoding of exactly the frames that
    the read health takes for fresh, in order, and none is dropped as implausible; and the
    stream has ended exactly if its first initialisation failed or the ladder ended it. -/
theorem yields_fresh_frames (cfg : I2cImuConfig ℝ) (text : String)
    (hmap : AxisMap.parse text = .ok cfg.axisMap) (is : List DriverInput) :
    let out := outputs step (new cfg) is
    (samplesOf out).map untimedSample =
        (freshFrames (readsOf out)).map (fun raw => sampleFromRaw raw cfg.axisMap 0) ∧
      .droppedSample ∉ out ∧
      ((run step (new cfg) is).ended = true ↔ (∃ m, .error m ∈ out) ∨
        ∃ a ∈ outputs ReadHealth.step .new (readsOf out), a.endsStream = true) := by
  intro out
  have hsound := sound_run cfg is
  have haccept := isPlausible_sampleFromRaw hmap
  refine ⟨?_, ?_, hsound.ended⟩
  · refine hsound.samples.trans (List.filter_eq_self.mpr fun s hs => ?_)
    obtain ⟨raw, -, rfl⟩ := List.mem_map.mp hs
    exact haccept raw 0
  · intro hmem
    obtain ⟨pre, post, hout⟩ := List.append_of_mem hmem
    obtain ⟨is₀, i, is₁, a, b, -, hstep, -, -⟩ := outputs_eq_split hout
    have hdropped : DriverOutput.droppedSample ∈ (step (run step (new cfg) is₀) i).2 := by
      rw [hstep]
      simp
    rcases mem_step hdropped with h | ⟨m, h⟩ | ⟨raw, now, h⟩
    · cases h
    · cases h
    · rw [(sound_run cfg is₀).config, yieldOf, if_pos (haccept raw now)] at h
      cases h

/-- A chip mounted as the vehicle is. -/
noncomputable def levelCfg (rateHz : ℝ) : I2cImuConfig ℝ :=
  ⟨"/dev/i2c-1", mpu6050DefaultAddr, rateHz, .identity⟩

theorem levelCfg_parses (rateHz : ℝ) :
    let plain : AxisMap.Spelling := ⟨[], [], false, false, by simp, by simp⟩
    AxisMap.parse (AxisMap.spell ⟨0, false⟩ ⟨1, false⟩ ⟨2, false⟩ plain plain plain) =
      .ok (levelCfg rateHz).axisMap := by
  refine (AxisMap.parse_spell_iff _ _ _ _ _ _).mpr fun v w => ?_
  simp [AxisMap.apply, AxisMap.SignedAxis.row, Vec3.get, Vec3.cross, Vec3.dot]

/-- The chip is initialised, read three times, and the last time it fails. -/
theorem yields_fresh_frames_level :
    let is : List DriverInput :=
      [.start ⟨.ok (), .ok 0x68, .ok (), .ok (), .ok ()⟩,
        .tick 1 (.ok (Vector.replicate 14 1)) ⟨.ok (), .ok 0x68, .ok (), .ok (), .ok ()⟩,
        .tick 2 (.ok (Vector.replicate 14 127)) ⟨.ok (), .ok 0x68, .ok (), .ok (), .ok ()⟩,
        .tick 3 .err ⟨.ok (), .ok 0x68, .ok (), .ok (), .ok ()⟩]
    .droppedSample ∉ outputs step (new (levelCfg Real.pi)) is :=
  (yields_fresh_frames (levelCfg Real.pi) _ (levelCfg_parses _) _).2.1

end I2cImu

end FlyingSquirrel

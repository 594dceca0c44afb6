import FlyingSquirrel.Ingest.Nmea
import FlyingSquirrel.Proof.Actions
import Mathlib.Tactic.Linarith
import Mathlib.Tactic.NormNum

/-!
# The vertical-rate alarm behind a serial receiver

The alarm divides the change of altitude by the time since the previous **fix**. The
decoder makes a fix of every position sentence, and an altitude is new in one of two
sentences only. So the change of a whole epoch is divided by the few milliseconds between
an epoch's RMC and its GGA, and an honest climb trips the alarm.

`Gentle` is the exact condition: a sentence's altitude is within the bound of the preceding
one's over the time since the **preceding sentence**, of whichever type. An RMC always is.
-/

set_option autoImplicit false

namespace FlyingSquirrel

open Lib

def Json.reason {α : Type} : Json α → Option String
  | .obj ((_, .str reason) :: _) => some reason
  | _ => none

def VerticalRateReport {α : Type} (o : Output α) : Prop :=
  match o with
  | .event e => e.kind = .jump ∧ e.detail.reason = some "VerticalRate"
  | _ => False

instance {α : Type} : DecidablePred (VerticalRateReport (α := α)) := fun o => by
  unfold VerticalRateReport
  split <;> infer_instance

/-- No output is the report of the vertical-rate alarm. -/
def NoVerticalRate {α : Type} (out : List (Output α)) : Prop :=
  ∀ o ∈ out, ¬ VerticalRateReport o

instance {α : Type} (out : List (Output α)) : Decidable (NoVerticalRate out) :=
  inferInstanceAs (Decidable (∀ o ∈ out, ¬ VerticalRateReport o))

section NoVerticalRate

variable {α : Type} {out out' : List (Output α)}

theorem NoVerticalRate.nil : NoVerticalRate ([] : List (Output α)) := by simp [NoVerticalRate]

theorem NoVerticalRate.append (h : NoVerticalRate out) (h' : NoVerticalRate out') :
    NoVerticalRate (out ++ out') := fun o ho =>
  (List.mem_append.mp ho).elim (h o) (h' o)

theorem NoVerticalRate.event {e : SpoofingEvent α} (h : e.kind ≠ .jump) :
    NoVerticalRate [.event e] := by
  intro o ho hreport
  obtain rfl := List.mem_singleton.mp ho
  exact h hreport.1

theorem noVerticalRate_append : NoVerticalRate (out ++ out') ↔
    NoVerticalRate out ∧ NoVerticalRate out' := by
  simp only [NoVerticalRate, List.mem_append, or_imp, forall_and]

end NoVerticalRate

namespace Fusion

variable {α : Type} [Zero α] [One α] [Neg α] [Add α] [Sub α] [Mul α] [Div α] [NatCast α]
  [OfScientific α] [LT α] [LE α] [DecidableLT α] [DecidableLE α] [BEq α] [Max α] [Min α] [Libm α]
  [FiniteTest α]

/-- The same altitude memory, bounds and time base. -/
structure SameAltitude (f f' : Fusion α) : Prop where
  lastGpsAlt : f'.lastGpsAlt = f.lastGpsAlt
  maxVerticalRateMps : f'.maxVerticalRateMps = f.maxVerticalRateMps
  gpsDropoutFreezeS : f'.gpsDropoutFreezeS = f.gpsDropoutFreezeS
  boot : f'.boot = f.boot

theorem SameAltitude.refl {α : Type} (f : Fusion α) : SameAltitude f f := ⟨rfl, rfl, rfl, rfl⟩

theorem SameAltitude.trans {α : Type} {f f' f'' : Fusion α} (h : SameAltitude f f')
    (h' : SameAltitude f' f'') : SameAltitude f f'' :=
  ⟨h'.1.trans h.1, h'.2.trans h.2, h'.3.trans h.3, h'.4.trans h.4⟩

theorem SameAltitude.verticalAlarm {α : Type} [Zero α] [Neg α] [Sub α] [Div α] [OfScientific α]
    [LT α] [LE α] [DecidableLT α] [DecidableLE α]
    {f f' : Fusion α} (h : SameAltitude f f') (altM t : α) :
    f'.verticalAlarm altM t = f.verticalAlarm altM t := by
  unfold Fusion.verticalAlarm verticalRate
  rw [h.lastGpsAlt, h.maxVerticalRateMps, h.gpsDropoutFreezeS]

/-! ## The stages beside the check -/

theorem trackFrozen_altitude {α : Type} [Zero α] [Neg α] [Add α] [Sub α] [Mul α] [OfScientific α]
    [LT α] [DecidableLT α] [Libm α] (f : Fusion α) (fix : GpsFix α) :
    SameAltitude f (f.trackFrozen fix) := by
  unfold trackFrozen
  split
  · exact .refl f
  · exact ⟨rfl, rfl, rfl, rfl⟩

theorem trackers_altitude {α : Type} [Zero α] [Neg α] [Add α] [Sub α] [Mul α] [OfScientific α]
    [LT α] [DecidableLT α] [Libm α] (f : Fusion α) (fix : GpsFix α) (t : α) :
    SameAltitude f (((f.noteGap t).drainDwellNotice fix).1.trackFrozen fix) := by
  obtain ⟨_, h⟩ := trackers_eq f fix t
  have htracked := trackFrozen_altitude f fix
  rw [h]
  exact ⟨htracked.1, htracked.2, htracked.3, htracked.4⟩

theorem accrued_altitude {α : Type} [Zero α] [Add α] [Mul α] [OfScientific α] [LT α] [DecidableLT α]
    (f : Fusion α) (dropoutS : α) (candidate : Bool) (vH : α) :
    SameAltitude f (f.accrued candidate dropoutS vH) := by
  cases candidate with
  | false => exact .refl f
  | true => exact ⟨rfl, rfl, rfl, rfl⟩

theorem drainDwellNotice_noVerticalRate {α : Type} [Zero α] (f : Fusion α) (fix : GpsFix α) :
    NoVerticalRate (f.drainDwellNotice fix).2 := by
  unfold drainDwellNotice
  split
  · exact .event (by simp)
  · exact .nil

theorem checkFrozen_noVerticalRate {α : Type} [Zero α] [Add α] [Mul α] [OfScientific α] [LT α]
    [LE α] [DecidableLT α] [DecidableLE α] [Libm α] (f : Fusion α) (fix : GpsFix α) (r : Residual α)
    (dropoutS : α) (candidate : Bool) (vImu : NedVel α) :
    NoVerticalRate (f.checkFrozen fix dropoutS candidate vImu r).2 := by
  unfold checkFrozen
  split
  · dsimp only
    split
    · exact .event (by simp)
    · exact .nil
  · exact .nil

theorem checkDoppler_noVerticalRate {α : Type} (f : Fusion α) (fix : GpsFix α) (r : Residual α) :
    NoVerticalRate (f.checkDoppler fix r).2 := by
  unfold checkDoppler
  split
  · exact .nil
  · dsimp only
    split
    · exact .event (by simp)
    · exact .nil

theorem reports_noVerticalRate {α : Type} [Zero α] [One α] [Neg α] [Add α] [Sub α] [Mul α] [Div α]
    [NatCast α] [OfScientific α] [LT α] [LE α] [DecidableLT α] [DecidableLE α] [BEq α] [Max α]
    [FiniteTest α] (f : Fusion α) (fix : GpsFix α) (t : α) (r : Residual α)
    (m : StateMachine α) : NoVerticalRate (f.reports fix t r m) := by
  intro o ho
  obtain ⟨ev, hev, rfl⟩ := List.mem_map.mp ho
  intro hreport
  cases ev with
  | jump j =>
    have hd := hreport.2
    cases j <;> exact absurd hd (by simp [Json.reason, SpoofingEvent.new, JumpReason.debug])
  | drift d => exact absurd hreport.1 (by simp)
  | transition source target => exact absurd hreport.1 (by simp)

theorem onSpoofed_noVerticalRate {α : Type} [Zero α] (f : Fusion α) (fix : GpsFix α)
    (r : Residual α) (env : Env α) (source : NavStateKind) :
    NoVerticalRate (f.onSpoofed env fix r source).2 := by
  have hcall : ∀ c, NoVerticalRate [Output.call (α := α) c] := by
    intro c o ho hreport
    obtain rfl := List.mem_singleton.mp ho
    exact hreport
  have hspawn : ∀ task, NoVerticalRate [Output.spawn (α := α) task] := by
    intro task o ho hreport
    obtain rfl := List.mem_singleton.mp ho
    exact hreport
  have hdump : NoVerticalRate (f.maybeTriggerForensicDump env.now source r).2 := by
    unfold maybeTriggerForensicDump
    split
    · exact .nil
    · dsimp only
      split
      · exact .event (by simp)
      · exact hspawn _
  have htry : ∀ (g : Fusion α) which result, NoVerticalRate (g.tryAction which result fix) := by
    intro g which result
    cases result with
    | ok u => exact hcall which
    | error e => exact (hcall which).append (.event (by simp))
  unfold onSpoofed
  rw [andThen_snd]
  refine hdump.append (((htry _ _ _).append ?_ |>.append (htry _ _ _)).append
    ((hspawn _).append (hspawn _)))
  cases env.severGps with
  | ok u => exact .nil
  | error e => exact .event (by simp)

theorem Decision.noVerticalRate {f f' : Fusion α} {env : Env α} {fix : GpsFix α}
    {gpsNed : NedPos α} {t : α} {r : Residual α} {out : List (Output α)}
    (h : Decision f env fix gpsNed t r f' out) : NoVerticalRate out := by
  have htransition : ∀ (g : Fusion α) a b,
      NoVerticalRate [g.emit (.transition a b) fix r] := fun g a b => .event (by simp)
  cases h with
  | latched _ => exact .nil
  | @settled m _ _ => exact reports_noVerticalRate f fix t r m
  | @opened m _ => exact (reports_noVerticalRate f fix t r m).append (htransition _ _ _)
  | @escalated m g _ hg =>
    exact ((reports_noVerticalRate f fix t r m).append (htransition _ _ _)).append
      (onSpoofed_noVerticalRate g fix r env .suspicious)
  | @vetoed m distance _ _ =>
    exact (reports_noVerticalRate f fix t r m).append (.event (by simp))
  | @cleared m _ _ => exact (reports_noVerticalRate f fix t r m).append (htransition _ _ _)

theorem checkVerticalRate_reports {α : Type} [Zero α] [Neg α] [Sub α] [Div α] [OfScientific α]
    [LT α] [LE α] [DecidableLT α] [DecidableLE α]
    (f : Fusion α) (fix : GpsFix α) (t : α) (r : Residual α) :
    NoVerticalRate (f.checkVerticalRate fix t r).2 ↔ f.verticalAlarm fix.altM t = false := by
  unfold checkVerticalRate
  split
  · rename_i h
    refine iff_of_false (fun hno => ?_) (by rw [h]; simp)
    exact hno _ (List.mem_singleton_self _) ⟨rfl, rfl⟩
  · rename_i h
    exact iff_of_true .nil (Bool.not_eq_true _ ▸ h)

/-- Of the stages before the decision, only the check reports. -/
theorem throughDetectors_reports {α : Type} [Zero α] [Neg α] [Add α] [Sub α] [Mul α] [Div α]
    [OfScientific α] [LT α] [LE α] [DecidableLT α] [DecidableLE α] [Libm α]
    (f : Fusion α) (fix : GpsFix α) (t dropoutS : α)
    (candidate : Bool) (vImu : NedVel α) (r : Residual α) :
    NoVerticalRate (f.throughDetectors fix t dropoutS candidate vImu r).2 ↔
      f.verticalAlarm fix.altM t = false := by
  have hsame : SameAltitude f
      ((f.captureForensic fix t r).checkFrozen fix dropoutS candidate vImu r).1 := by
    have haccrued :=
      accrued_altitude (f.captureForensic fix t r) dropoutS candidate vImu.horizontalNorm
    rw [checkFrozen_eq]
    exact ⟨haccrued.1, haccrued.2, haccrued.3, haccrued.4⟩
  unfold throughDetectors
  rw [andThen_snd, andThen_snd, noVerticalRate_append, noVerticalRate_append,
    checkVerticalRate_reports, hsame.verticalAlarm]
  have hfrozen := checkFrozen_noVerticalRate (f.captureForensic fix t r) fix r dropoutS candidate
    vImu
  exact ⟨fun h => h.1.2, fun h => ⟨⟨hfrozen, h⟩, checkDoppler_noVerticalRate _ fix r⟩⟩

/-- **An evaluated fix reports the vertical rate exactly on the alarm**, and is remembered. -/
theorem onGps_altitude (f : Fusion α) (env : Env α) (fix : GpsFix α)
    (ho : f.nav.origin ≠ none) (hr : f.preflight = .ready)
    (hi : (f.buffer.interpolate (f.tSecs fix.t)).toBool = true) :
    (NoVerticalRate (f.onGps env fix).2 ↔
      f.verticalAlarm fix.altM (f.tSecs fix.t) = false) ∧
    SameAltitude { f with lastGpsAlt := some (fix.altM, f.tSecs fix.t) }
      (f.onGps env fix).1 := by
  cases hp : f.buffer.interpolate (f.tSecs fix.t) with
  | error e => rw [hp] at hi; exact absurd hi (by simp [Except.toBool])
  | ok p =>
    obtain ⟨pImu, vImu⟩ := p
    constructor
    · obtain ⟨gpsNed, hn⟩ := gpsInNed_of_origin fix ho
      have hbuffer := (armedTrackers f fix (f.tSecs fix.t)).1.tracked.buffer
      have hsame := trackers_altitude f fix (f.tSecs fix.t)
      unfold onGps onArmedFix
      rw [hn]
      dsimp only
      rw [if_neg fun hne => hne hr]
      dsimp only [Lib.andThen] at hbuffer ⊢
      rw [hbuffer, hp]
      dsimp only
      rw [evaluateFix_eq, andThen_snd, noVerticalRate_append, noVerticalRate_append,
        throughDetectors_reports, hsame.verticalAlarm]
      have hdrained := drainDwellNotice_noVerticalRate (f.noteGap (f.tSecs fix.t)) fix
      exact ⟨fun h => h.2.1, fun h => ⟨hdrained, h, (decideFix_decision ..).noVerticalRate⟩⟩
    · obtain ⟨_, _, _, _, _, _, _, -, hf'⟩ := onGps_served env ho hr hp
      have hsame := (trackFrozen_altitude f fix).trans (accrued_altitude _
        (f.dropoutSeconds (f.tSecs fix.t)) (f.frozenCandidate fix) vImu.horizontalNorm)
      rw [hf']
      exact ⟨rfl, hsame.2, hsame.3, hsame.4⟩

theorem onBackground_altitude {α : Type} [Zero α] (f : Fusion α) (now : Instant) (done : BgDone) :
    SameAltitude f (f.onBackground now done).1 ∧
      NoVerticalRate (f.onBackground now done).2 := by
  unfold onBackground
  dsimp only
  split
  · exact ⟨⟨rfl, rfl, rfl, rfl⟩, .event (by simp)⟩
  · exact ⟨⟨rfl, rfl, rfl, rfl⟩, .event (by simp)⟩
  · exact ⟨.refl _, .nil⟩
  · exact ⟨.refl _, .event (by simp)⟩
  · exact ⟨.refl _, .event (by simp)⟩
  · exact ⟨.refl _, .event (by simp)⟩
  · exact ⟨.refl _, .event (by simp)⟩

end Fusion

/-! ## A stream of sentences -/

namespace SerialGps

variable {P F : Type} [Field F] [LinearOrder F] [IsStrictOrderedRing F] [Libm F]
  [FiniteTest F] [Nalgebra F]

/-- What a stream of sentences has said: the altitude of the last GGA (before one, what the
    parser started with), and the altitude and the time of the last sentence. -/
structure Heard (F : Type) where
  altM : F
  last : Option (F × F)

/-- `said` gives a GGA's altitude, and nothing for an RMC. -/
def hear (said : String → Option F) (g : Heard F) (s : SerialGps P F) (i : SerialInput F)
    (_ : SerialGps P F) : Heard F :=
  match i with
  | .line now text _ =>
    let altM := (said text).getD g.altM
    ⟨altM, some (altM, s.fusion.tSecs (.nowMono now))⟩
  | _ => g

/-- `altM` at `t` is within the bound of the last altitude, over the time since, where the
    rate is assessed on that time. -/
def Within (f : Fusion F) (last : Option (F × F)) (altM t : F) : Prop :=
  match last with
  | some (prevAlt, prevT) =>
    1e-3 < t - prevT ∧ t - prevT ≤ f.gpsDropoutFreezeS →
      fabs (altM - prevAlt) ≤ f.maxVerticalRateMps * (t - prevT)
  | none => True

instance (f : Fusion F) (last : Option (F × F)) (altM t : F) :
    Decidable (Within f last altM t) := by
  unfold Within
  split <;> infer_instance

/-- A sentence whose altitude, its own or the one an RMC stands at, is within the bound of
    the last sentence's. -/
def Gentle (said : String → Option F) (x : SerialGps P F × Heard F) :
    SerialInput F → Prop
  | .line now text _ =>
    Within x.1.fusion x.2.last ((said text).getD x.2.altM) (x.1.fusion.tSecs (.nowMono now))
  | _ => True

instance (said : String → Option F) (x : SerialGps P F × Heard F) (i : SerialInput F) :
    Decidable (Gentle said x i) := by
  unfold Gentle
  split <;> infer_instance

/-- The task is armed and evaluates the sentence: there is an origin, and the buffer serves
    the sentence's time. -/
def Served (s : SerialGps P F) : SerialInput F → Prop
  | .line now _ _ => s.fusion.preflight = .ready ∧ s.fusion.nav.origin.isSome = true ∧
    (s.fusion.buffer.interpolate (s.fusion.tSecs (.nowMono now))).toBool = true
  | _ => True

instance (s : SerialGps P F) (i : SerialInput F) : Decidable (Served s i) := by
  unfold Served
  split <;> infer_instance

/-- The parser and the task remember what was heard. -/
structure Remembers (N : NmeaCrate P F) (x : SerialGps P F × Heard F) : Prop where
  parser : (N.altitude x.1.parser).getD 0 = x.2.altM
  fusion : x.1.fusion.lastGpsAlt = x.2.last

theorem verticalAlarm_eq_false {F : Type} [Field F] [LinearOrder F] [IsStrictOrderedRing F]
    {f : Fusion F} {altM t : F} :
    f.verticalAlarm altM t = false ↔ Within f f.lastGpsAlt altM t := by
  unfold Fusion.verticalAlarm Fusion.verticalRate Within
  cases f.lastGpsAlt with
  | none => simp
  | some prev =>
    dsimp only
    by_cases hw : t - prev.2 > 1e-3 ∧ t - prev.2 ≤ f.gpsDropoutFreezeS
    · have hpos : 0 < t - prev.2 := lt_trans (by norm_num) hw.1
      rw [if_pos hw]
      simp only [gt_iff_lt, decide_eq_false_iff_not, not_lt]
      rw [div_le_iff₀ hpos]
      exact ⟨fun h _ => h, fun h => h hw⟩
    · rw [if_neg hw]
      exact iff_of_true rfl fun h => absurd h hw

section

omit [IsStrictOrderedRing F]

theorem step_line {N : NmeaCrate P F} {said : String → Option F} {s : SerialGps P F}
    {now : Instant} {text : String} {env : Env F} (hdoc : N.Documented (said text) text)
    (hserved : Served s (.line now text env)) :
    ((N.altitude (s.step N (.line now text env)).1.parser).getD 0 =
      (said text).getD ((N.altitude s.parser).getD 0)) ∧
    (NoVerticalRate (s.step N (.line now text env)).2 ↔
      s.fusion.verticalAlarm ((said text).getD ((N.altitude s.parser).getD 0))
        (s.fusion.tSecs (.nowMono now)) = false) ∧
    Fusion.SameAltitude
      { s.fusion with
        lastGpsAlt := some ((said text).getD ((N.altitude s.parser).getD 0),
          s.fusion.tSecs (.nowMono now)) }
      (s.step N (.line now text env)).1.fusion := by
  obtain ⟨hr, ho, hi⟩ := hserved
  obtain ⟨p, fix, hparse, ht, halt, hheld⟩ :=
    NmeaCrate.parseSentence_documented hdoc s.parser now
  rw [hheld] at halt
  have hstep : s.step N (.line now text env) =
      (⟨p, (s.fusion.onGps env fix).1⟩, (s.fusion.onGps env fix).2) := by
    unfold SerialGps.step
    dsimp only
    rw [hparse]
    rfl
  obtain ⟨hiff, hsame⟩ := s.fusion.onGps_altitude env fix
    (Option.isSome_iff_ne_none.mp ho) hr (by rw [ht]; exact hi)
  rw [halt, ht] at hiff hsame
  rw [hstep]
  exact ⟨hheld, hiff, hsame⟩

theorem step_other {N : NmeaCrate P F} (s : SerialGps P F) {i : SerialInput F}
    (hi : ∀ now text env, i ≠ .line now text env) :
    (s.step N i).1.parser = s.parser ∧ NoVerticalRate (s.step N i).2 ∧
      Fusion.SameAltitude s.fusion (s.step N i).1.fusion := by
  cases i with
  | line now text env => exact absurd rfl (hi now text env)
  | imu sample => exact ⟨rfl, .nil, ⟨rfl, rfl, rfl, rfl⟩⟩
  | background now done =>
    obtain ⟨hs, hno⟩ := s.fusion.onBackground_altitude now done
    exact ⟨rfl, hno, hs⟩

end

/-- What a run of sentences is made of: each is what the crate documents, and evaluated. -/
def Admitted (N : NmeaCrate P F) (said : String → Option F) (x : SerialGps P F × Heard F)
    (i : SerialInput F) : Prop :=
  (∀ now text env, i = .line now text env → N.Documented (said text) text) ∧ Served x.1 i

theorem Remembers.step {P F : Type} [Field F] [LinearOrder F] [Libm F] [FiniteTest F] [Nalgebra F]
    {N : NmeaCrate P F} {said : String → Option F}
    {x : SerialGps P F × Heard F} {i : SerialInput F} (ha : Admitted N said x i)
    (h : Remembers N x) : Remembers N (ghost (SerialGps.step N) (hear said) x i).1 := by
  obtain ⟨hparser, hfusion⟩ := h
  by_cases hi : ∃ now text env, i = .line now text env
  · obtain ⟨now, text, env, rfl⟩ := hi
    obtain ⟨hp, -, hs⟩ := step_line (ha.1 now text env rfl) ha.2
    rw [hparser] at hp hs
    exact ⟨hp, hs.lastGpsAlt⟩
  · have hi' : ∀ now text env, i ≠ .line now text env := fun now text env h =>
      hi ⟨now, text, env, h⟩
    obtain ⟨hp, -, hs⟩ := step_other (N := N) x.1 hi'
    have hsame : hear said x.2 x.1 i (x.1.step N i).1 = x.2 := by
      cases i with
      | line now text env => exact absurd rfl (hi' now text env)
      | _ => rfl
    refine ⟨?_, ?_⟩
    · rw [ghost_fst, ghost_snd, hsame, hp]; exact hparser
    · rw [ghost_fst, ghost_snd, hsame, hs.lastGpsAlt]; exact hfusion

def Silent (N : NmeaCrate P F) (s : SerialGps P F) (i : SerialInput F) : Prop :=
  NoVerticalRate (s.step N i).2

instance (N : NmeaCrate P F) (s : SerialGps P F) (i : SerialInput F) :
    Decidable (Silent N s i) :=
  inferInstanceAs (Decidable (NoVerticalRate _))

theorem silent_iff {N : NmeaCrate P F} {said : String → Option F}
    {x : SerialGps P F × Heard F} {i : SerialInput F} (h : Remembers N x)
    (ha : Admitted N said x i) : Silent N x.1 i ↔ Gentle said x i := by
  unfold Silent
  by_cases hi : ∃ now text env, i = .line now text env
  · obtain ⟨now, text, env, rfl⟩ := hi
    obtain ⟨-, hiff, -⟩ := step_line (ha.1 now text env rfl) ha.2
    rw [hiff, h.parser]
    rw [verticalAlarm_eq_false, h.fusion]
    exact Iff.rfl
  · have hi' : ∀ now text env, i ≠ .line now text env := fun now text env h =>
      hi ⟨now, text, env, h⟩
    refine iff_of_true (step_other (N := N) x.1 hi').2.1 ?_
    cases i with
    | line now text env => exact absurd rfl (hi' now text env)
    | _ => trivial

/-- **When a stream of sentences stays silent.** Over every stream of RMC and GGA sentences
    into an armed task, with samples and background work in between, no vertical-rate alarm
    is raised if and only if each sentence is gentle. -/
theorem no_vertical_alarm_iff {N : NmeaCrate P F} {said : String → Option F}
    {s : SerialGps P F} {is : List (SerialInput F)}
    (hdoc : ∀ now text env, .line now text env ∈ is → N.Documented (said text) text)
    (hserved : Along (SerialGps.step N) Served s is) :
    Along (SerialGps.step N) (Silent N) s is ↔
      Along (ghost (SerialGps.step N) (hear said)) (Gentle said)
        (s, ⟨(N.altitude s.parser).getD 0, s.fusion.lastGpsAlt⟩) is := by
  have hlift : Along (ghost (SerialGps.step N) (hear said)) (fun x i => Silent N x.1 i)
      (s, ⟨(N.altitude s.parser).getD 0, s.fusion.lastGpsAlt⟩) is ↔
      Along (SerialGps.step N) (Silent N) s is := along_ghost _ is
  have hdoc' : Along (ghost (SerialGps.step N) (hear said))
      (fun _ i => ∀ now text env, i = .line now text env → N.Documented (said text) text)
      (s, ⟨(N.altitude s.parser).getD 0, s.fusion.lastGpsAlt⟩) is :=
    along_of_forall fun i hi now text env h => hdoc now text env (h ▸ hi)
  have hserved' : Along (ghost (SerialGps.step N) (hear said)) (fun x i => Served x.1 i)
      (s, ⟨(N.altitude s.parser).getD 0, s.fusion.lastGpsAlt⟩) is :=
    (along_ghost _ is).mpr hserved
  have hstart : Remembers N
      (s, (⟨(N.altitude s.parser).getD 0, s.fusion.lastGpsAlt⟩ : Heard F)) := ⟨rfl, rfl⟩
  exact hlift.symm.trans (along_congr_of_guarded (I := Remembers N)
    (fun _ _ ha h => h.step ha) (fun _ _ h ha => silent_iff h ha) hstart
    (hdoc'.and hserved'))

/-! ## An honest climb -/

/-- An epoch of a receiver: when it is, the altitude then, and when its sentences come. -/
structure Epoch (F : Type) where
  time : Instant
  altM : F
  rmcAt : Instant
  ggaAt : Instant

/-- Both sentences come after the epoch, and not together. -/
def Epoch.InOrder (e : Epoch F) : Prop :=
  e.time ≤ e.rmcAt ∧ e.time ≤ e.ggaAt ∧ e.rmcAt ≠ e.ggaAt

/-- `e'` is the epoch after `e` on a track within the bound: after its sentences, and not a
    dropout later. -/
def Epoch.Follows (f : Fusion F) (e e' : Epoch F) : Prop :=
  let dt := f.tSecs (.nowMono e'.time) - f.tSecs (.nowMono e.time)
  e.rmcAt < e'.time ∧ e.ggaAt < e'.time ∧ dt ≤ f.gpsDropoutFreezeS ∧
    fabs (e'.altM - e.altM) ≤ f.maxVerticalRateMps * dt

def Honest (f : Fusion F) : List (Epoch F) → Prop
  | [] => True
  | [e] => e.InOrder
  | e :: e' :: es => e.InOrder ∧ e.Follows f e' ∧ Honest f (e' :: es)

instance (e : Epoch F) : Decidable e.InOrder := inferInstanceAs (Decidable (_ ∧ _))

instance (f : Fusion F) (e e' : Epoch F) : Decidable (e.Follows f e') :=
  inferInstanceAs (Decidable (_ ∧ _))

instance decidableHonest (f : Fusion F) : (es : List (Epoch F)) → Decidable (Honest f es)
  | [] => inferInstanceAs (Decidable True)
  | [e] => inferInstanceAs (Decidable e.InOrder)
  | _ :: e' :: es =>
    have := decidableHonest f (e' :: es)
    inferInstanceAs (Decidable (_ ∧ _ ∧ _))

/-- The sentences of an epoch, in the order they come. -/
def Epoch.lines (env : Env F) (rmc gga : String) (e : Epoch F) : List (SerialInput F) :=
  if e.rmcAt < e.ggaAt then [.line e.rmcAt rmc env, .line e.ggaAt gga env]
  else [.line e.ggaAt gga env, .line e.rmcAt rmc env]

/-- What the sentences below leave in the parser. -/
structure Held where
  fixed : Bool
  altM : Option ℚ
  hdop : Option ℚ
  sats : Option Nat
  knots : Option ℚ
  course : Option ℚ

/-- Two epochs over one point of the equator, 100 ms and 2 m apart. -/
def rmc₁ : String := "$GPRMC,120000.10,A,0000.000,N,00000.000,E,000.0,000.0,010120,,*33"
def gga₁ : String := "$GPGGA,120000.10,0000.000,N,00000.000,E,1,08,0.9,0.0,M,0.0,M,,*5F"
def rmc₂ : String := "$GPRMC,120000.20,A,0000.000,N,00000.000,E,000.0,000.0,010120,,*30"
def gga₂ : String := "$GPGGA,120000.20,0000.000,N,00000.000,E,1,08,0.9,2.0,M,0.0,M,,*5E"

def sentences : List (String × Option ℚ) :=
  [(rmc₁, none), (gga₁, some 0), (rmc₂, none), (gga₂, some 2)]

def said (text : String) : Option ℚ := (sentences.lookup text).join

def crate : NmeaCrate Held ℚ where
  default := ⟨false, none, none, none, none, none⟩
  parse p line :=
    match sentences.lookup line with
    | some (some altM) =>
      ({ p with fixed := true, altM := some altM, hdop := some 0.9, sats := some 8 }, .ok .gga)
    | some none => ({ p with fixed := true, knots := some 0, course := some 0 }, .ok .rmc)
    | none => (p, .error "ParsingError")
  fixType p := if p.fixed then some .gps else none
  latitude p := if p.fixed then some 0 else none
  longitude p := if p.fixed then some 0 else none
  altitude p := p.altM
  hdop p := p.hdop
  fixSatellites p := p.sats
  speedOverGround p := p.knots
  trueCourse p := p.course

theorem crate_documented {text : String} (h : (sentences.lookup text).isSome = true) :
    crate.Documented (said text) text := by
  obtain ⟨brings, h⟩ := Option.isSome_iff_exists.mp h
  unfold said
  rw [h]
  cases brings with
  | none =>
    intro p
    simp [crate, h, NmeaCrate.HoldsPosition, NmeaCrate.validFixType]
  | some altM =>
    intro p
    simp [crate, h, NmeaCrate.HoldsPosition, NmeaCrate.validFixType]

/-- An armed task with a new parser: its last snapshot is at 100 ms. -/
def armed : SerialGps Held ℚ :=
  ⟨crate.default, run Fusion.step (Fusion.new quickCfg 0) Fusion.arming⟩

/-- The two epochs, the sentences of each 10 and 15 ms after it. -/
def climb (rmcFirst : Bool) : List (Epoch ℚ) :=
  let epoch (ms : Nat) (altM : ℚ) : Epoch ℚ :=
    ⟨ms * 1000000, altM, (ms + if rmcFirst then 10 else 15) * 1000000,
      (ms + if rmcFirst then 15 else 10) * 1000000⟩
  [epoch 100 0, epoch 200 2]

def climbLines (rmcFirst : Bool) : List (SerialInput ℚ) :=
  ((climb rmcFirst).zip [(rmc₁, gga₁), (rmc₂, gga₂)]).flatMap fun (e, rmc, gga) =>
    e.lines quietEnv rmc gga

/-- The input is one of the sentences, if it is a line. -/
def Told : SerialInput ℚ → Prop
  | .line _ text _ => (sentences.lookup text).isSome = true
  | _ => True

instance : DecidablePred Told := fun i => by
  unfold Told
  split <;> infer_instance

theorem climbLines_documented (rmcFirst : Bool) (now : Instant) (text : String) (env : Env ℚ)
    (h : .line now text env ∈ climbLines rmcFirst) : crate.Documented (said text) text := by
  have htold : ∀ i ∈ climbLines rmcFirst, Told i := by
    cases rmcFirst with
    | true => decide +kernel
    | false => decide +kernel
  exact crate_documented (htold _ h)

/-- A climb at 20 m/s, of an allowed 30, with the RMC first in each epoch: its second GGA
    is taken to climb 2 m in the 5 ms since the RMC, and the alarm is raised. -/
theorem honest_climb_raises_alarm :
    Honest armed.fusion (climb true) ∧ Along (SerialGps.step crate) Served armed (climbLines true) ∧
    (∀ now text env, .line now text env ∈ climbLines true →
      crate.Documented (said text) text) ∧
    ¬ Along (SerialGps.step crate) (Silent crate) armed (climbLines true) :=
  ⟨by decide +kernel, by decide +kernel, climbLines_documented true, by decide +kernel⟩

/-- The same climb with the GGA first stays silent. -/
theorem no_vertical_alarm_gga_first :
    Along (SerialGps.step crate) (Silent crate) armed (climbLines false) :=
  (no_vertical_alarm_iff (climbLines_documented false) (by decide +kernel)).mpr
    (by decide +kernel)

end SerialGps

end FlyingSquirrel

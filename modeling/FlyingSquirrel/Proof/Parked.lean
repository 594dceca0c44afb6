import FlyingSquirrel.Proof.AltitudeTeleport
import FlyingSquirrel.Proof.Excess
import FlyingSquirrel.Proof.FrozenRate
import FlyingSquirrel.Proof.Rest

/-!
# A parked vehicle

The whole of the program between its two sensors and its actions, on the ground: a vehicle that
sits level, turning or not, and a receiver that reports it standing, at positions that scatter
by less than the references. **It is never acted on**, and it never leaves Normal. Nothing is
assumed about when samples and fixes come, which of them the buffer can serve, when the operator
resets, or when the anchor locks.

The three parts are each other's premises. The dead-reckoner stays in place because the fixes do
not move it, so the snapshots in the buffer are all at its origin, so the residual is the
distance of two received positions, so its excess is zero.
-/

set_option autoImplicit false

namespace FlyingSquirrel

open Lib

/-! ## The task drives its dead-reckoner -/

/-- What a fix can put the dead-reckoner through. -/
inductive FixOp {α : Type} (fix : GpsFix α) : NavOp α → Prop
  | blend : FixOp fix (.onGpsFix fix)
  | follow (state : NavStateKind) : FixOp fix (.setState state)
  | reAnchor : FixOp fix (.reAnchorAfterClearing fix)

namespace Fusion

section Nav

variable {α : Type} [Zero α] [One α] [Neg α] [Add α] [Sub α] [Mul α] [Div α] [NatCast α]
  [OfScientific α] [LT α] [LE α] [DecidableLT α] [DecidableLE α] [Max α] [Min α] [Libm α]
  [FiniteTest α] [Nalgebra α]

/-- `m'` is what the operations of a fix make of `m`. -/
def NavDriven (fix : GpsFix α) (m m' : DeadReckoner α) : Prop :=
  ∃ ops, (∀ op ∈ ops, FixOp fix op) ∧ m' = run DeadReckoner.opStep m ops

theorem NavDriven.refl (fix : GpsFix α) (m : DeadReckoner α) : NavDriven fix m m :=
  ⟨[], fun _ hop => absurd hop List.not_mem_nil, rfl⟩

theorem NavDriven.one {fix : GpsFix α} {op : NavOp α} (hop : FixOp fix op) (m : DeadReckoner α) :
    NavDriven fix m (m.opStep op).1 :=
  ⟨[op], fun _ h => List.mem_singleton.mp h ▸ hop, rfl⟩

theorem NavDriven.trans {fix : GpsFix α} {m m' m'' : DeadReckoner α} (h : NavDriven fix m m')
    (h' : NavDriven fix m' m'') : NavDriven fix m m'' := by
  obtain ⟨ops, hops, rfl⟩ := h
  obtain ⟨ops', hops', rfl⟩ := h'
  refine ⟨ops ++ ops', fun op hop => ?_, (run_append m ops ops').symm⟩
  exact (List.mem_append.mp hop).elim (hops op) (hops' op)

/-- What the operations keep, a fix keeps. -/
theorem NavDriven.keeps {fix : GpsFix α} {m m' : DeadReckoner α} (h : NavDriven fix m m')
    {I : DeadReckoner α → Prop} (hI : ∀ m op, FixOp fix op → I m → I (m.opStep op).1) (hm : I m) :
    I m' := by
  obtain ⟨ops, hops, rfl⟩ := h
  have hall : Along DeadReckoner.opStep (fun _ op => FixOp fix op) m ops := along_of_forall hops
  exact hall.invariant hI hm

theorem finalBlend_nav (f : Fusion α) (fix : GpsFix α) :
    NavDriven fix f.nav (f.finalBlend fix).nav ∧ (f.finalBlend fix).buffer = f.buffer := by
  unfold finalBlend
  split
  · exact ⟨.one .blend f.nav, rfl⟩
  · exact ⟨.refl fix f.nav, rfl⟩

variable [BEq α]

theorem Decision.nav {f f' : Fusion α} {env : Env α} {fix : GpsFix α} {gpsNed : NedPos α} {t : α}
    {r : Residual α} {out : List (Output α)} (h : Decision f env fix gpsNed t r f' out) :
    NavDriven fix f.nav f'.nav ∧ (f'.buffer = f.buffer ∨ f'.buffer = f.buffer.clear) := by
  cases h with
  | latched _ => exact ⟨.refl fix f.nav, .inl rfl⟩
  | @settled m _ _ =>
    obtain ⟨hnav, hbuffer⟩ := finalBlend_nav { f with fsm := m } fix
    exact ⟨hnav, .inl hbuffer⟩
  | opened _ => exact ⟨.one (.follow .suspicious) f.nav, .inl rfl⟩
  | escalated _ hg =>
    obtain ⟨_, hacted⟩ := onSpoofed_state _ env fix r .suspicious
    rw [hacted, hg]
    exact ⟨.one (.follow .spoofed) f.nav, .inl rfl⟩
  | vetoed _ _ => exact ⟨.refl fix f.nav, .inl rfl⟩
  | @cleared m _ _ =>
    obtain ⟨hnav, hbuffer⟩ :=
      finalBlend_nav (commitClear { f with fsm := m, nav := f.nav.setState .normal } fix) fix
    have hfollow : NavDriven fix f.nav (f.nav.setState .normal) := .one (.follow .normal) f.nav
    have hmoved := hfollow.trans (.one .reAnchor (f.nav.setState .normal))
    exact ⟨hmoved.trans hnav, .inr hbuffer⟩

/-- **What a fix does to the dead-reckoner is a run of operations with that fix.** The snapshots
    stay, or go all at once. -/
theorem onGps_nav (f : Fusion α) (env : Env α) (fix : GpsFix α) :
    NavDriven fix f.nav (f.onGps env fix).1.nav ∧
      ((f.onGps env fix).1.buffer = f.buffer ∨ (f.onGps env fix).1.buffer = f.buffer.clear) := by
  have hpath := onGps_path f env fix
  generalize (f.onGps env fix).1 = f' at hpath ⊢
  generalize (f.onGps env fix).2 = out at hpath
  cases hpath with
  | rejected => exact ⟨.refl fix f.nav, .inl rfl⟩
  | first =>
    obtain ⟨_, _, _, hrefresh⟩ := refreshPreflight_eq
      { f with
        nav := f.nav.onGpsFix fix
        checklist := { f.checklist with firstFixAccepted := true } } env fix.t
    rw [hrefresh]
    exact ⟨.one .blend f.nav, .inl rfl⟩
  | preflight =>
    obtain ⟨_, _, _, hrefresh⟩ := refreshPreflight_eq f env fix.t
    unfold onPreflightFix
    rw [andThen_fst, hrefresh]
    unfold preflightAnchor
    split
    · exact ⟨.one .blend f.nav, .inl rfl⟩
    · exact ⟨.refl fix f.nav, .inl rfl⟩
  | skipped _ _ hg =>
    refine ⟨?_, .inl hg.tracked.buffer⟩
    rw [← hg.tracked.nav]
    exact .one .blend _
  | evaluated _ _ hg _ _ hd =>
    rw [← hg.tracked.nav, ← hg.tracked.buffer]
    exact hd.nav

end Nav

section Altitude

variable {F : Type} [Field F] [LinearOrder F] [Libm F]

/-- The fix is evaluated, and climbs faster than is allowed. -/
def Climbs (f : Fusion F) : Input F → Prop
  | .gps fix _ =>
    (f.evaluatedOn fix).isSome = true ∧ f.verticalAlarm fix.altM (f.tSecs fix.t) = true
  | _ => False

/-- The altitude the task remembers, if any, is `h`. -/
structure Remembers (h : F) (f : Fusion F) : Prop where
  altitude : ∀ p ∈ f.lastGpsAlt, p.1 = h
  bound : 0 ≤ f.maxVerticalRateMps

theorem Remembers.same {F : Type} [Field F] [LinearOrder F]
    {h : F} {f f' : Fusion F} (hf : Remembers h f) (hs : SameAltitude f f') :
    Remembers h f' where
  altitude p hp := hf.altitude p (hs.lastGpsAlt ▸ hp)
  bound := hs.maxVerticalRateMps ▸ hf.bound

theorem Built.remembers {c : FusionConfig F} (hc : 0 ≤ c.detect.maxVerticalRateMps) {boot : Instant}
    {f : Fusion F} (hf : Built c boot f) (h : F) : Remembers h f := by
  induction hf with
  | new => exact ⟨fun p hp => absurd hp (by simp [Fusion.new]), hc⟩
  | withMavMonitor _ _ ih => exact ⟨ih.altitude, ih.bound⟩
  | withForensic _ _ _ ih => exact ⟨ih.altitude, ih.bound⟩

/-- The input's altitude, where it has one, is `h`. -/
def AtAltitude (h : F) : Input F → Prop
  | .gps fix _ => fix.altM = h
  | _ => True

variable [Nalgebra F]

/-- **The step lemma.** -/
theorem Remembers.step {h : F} {f : Fusion F} (hf : Remembers h f) {i : Input F}
    (hi : AtAltitude h i) : Remembers h (f.step i).1 := by
  cases i with
  | imu sample => exact ⟨hf.altitude, hf.bound⟩
  | reset now => exact ⟨fun p hp => absurd hp (by simp [Fusion.step, operatorReset]), hf.bound⟩
  | background now done => exact hf.same (f.onBackground_altitude now done).1
  | gps fix env =>
    by_cases he : f.Evaluates fix
    · obtain ⟨ho, hr, hserved⟩ := he
      obtain ⟨-, hsame⟩ := f.onGps_altitude env fix (Option.isSome_iff_ne_none.mp ho) hr hserved
      refine Remembers.same (f := { f with lastGpsAlt := some (fix.altM, f.tSecs fix.t) }) ?_ hsame
      exact ⟨fun p hp => Option.some.inj hp ▸ hi, hf.bound⟩
    · exact hf.same (onGps_unevaluated f env fix he)

variable [IsStrictOrderedRing F]

/-- Fixes that are all at one altitude do not climb. -/
theorem Built.never_climbs {c : FusionConfig F} (hc : 0 ≤ c.detect.maxVerticalRateMps)
    {boot : Instant} {f : Fusion F} (hf : Built c boot f) {h : F} {is : List (Input F)}
    (hlevel : ∀ i ∈ is, AtAltitude h i) : Along step (fun f i => ¬ f.Climbs i) f is := by
  have hall : Along step (fun _ i => AtAltitude h i) f is := along_of_forall hlevel
  refine hall.strengthen (fun f i hi hm => hm.step hi) ?_ (hf.remembers hc h)
  intro f i hm hi hclimbs
  cases i with
  | gps fix env =>
    have hquiet := verticalAlarm_of_level (t := f.tSecs fix.t) hm.bound (hi ▸ hm.altitude)
    exact absurd (hquiet ▸ hclimbs.2) (by simp)
  | _ => exact hclimbs

end Altitude

end Fusion

/-! ## Snapshots of a vehicle in place -/

/-- The snapshot is at the origin, in the horizontal plane, and does not move in it. -/
structure NavStateSnapshot.Still (s : NavStateSnapshot ℝ) : Prop where
  posN : s.pos.n = 0
  posE : s.pos.e = 0
  velN : s.vel.n = 0
  velE : s.vel.e = 0

namespace ResidualBuffer

theorem bracket_mem (t : ℝ) (prev : NavStateSnapshot ℝ) (rest : List (NavStateSnapshot ℝ)) :
    (bracket t prev rest).1 ∈ prev :: rest ∧ (bracket t prev rest).2 ∈ prev :: rest := by
  induction rest generalizing prev with
  | nil => exact ⟨List.mem_cons_self, List.mem_cons_self⟩
  | cons s rest ih =>
    unfold bracket
    split
    · exact ⟨List.mem_cons_self, List.mem_cons_of_mem _ List.mem_cons_self⟩
    · obtain ⟨hlo, hhi⟩ := ih s
      exact ⟨List.mem_cons_of_mem _ hlo, List.mem_cons_of_mem _ hhi⟩

theorem extrapolate_still {s : NavStateSnapshot ℝ} (hs : s.Still) (dt t : ℝ) :
    NavStateSnapshot.Still ⟨t, (extrapolate s dt).1, (extrapolate s dt).2⟩ where
  posN := by
    show s.pos.n + s.vel.n * dt = 0
    rw [hs.posN, hs.velN, zero_mul, add_zero]
  posE := by
    show s.pos.e + s.vel.e * dt = 0
    rw [hs.posE, hs.velE, zero_mul, add_zero]
  velN := hs.velN
  velE := hs.velE

theorem lerp_still {a b : NavStateSnapshot ℝ} (ha : a.Still) (hb : b.Still) (k t : ℝ) :
    NavStateSnapshot.Still ⟨t, (lerp a b k).1, (lerp a b k).2⟩ := by
  have hmix : ∀ {x y : ℝ}, x = 0 → y = 0 → x + k * (y - x) = 0 := by
    intro x y hx hy
    rw [hx, hy, sub_zero, mul_zero, add_zero]
  exact ⟨hmix ha.posN hb.posN, hmix ha.posE hb.posE, hmix ha.velN hb.velN, hmix ha.velE hb.velE⟩

/-- **What is read between still snapshots is still.** -/
theorem interpolate_still {b : ResidualBuffer ℝ} (hstill : ∀ s ∈ b.buf, s.Still) {t : ℝ}
    {p : NedPos ℝ} {v : NedVel ℝ} (h : b.interpolate t = .ok (p, v)) :
    NavStateSnapshot.Still ⟨t, p, v⟩ := by
  unfold interpolate at h
  split at h
  · rename_i front back hfront hback
    have hf := hstill front (List.mem_of_mem_head? hfront)
    have hb := hstill back (List.mem_of_getLast? hback)
    dsimp only at h
    split at h
    · exact absurd h (by simp)
    · split at h
      · -- past the newest
        obtain ⟨rfl, rfl⟩ := Prod.mk.inj (Except.ok.inj h)
        exact extrapolate_still hb _ t
      · split at h
        · obtain ⟨rfl, rfl⟩ := Prod.mk.inj (Except.ok.inj h)
          exact ⟨hf.posN, hf.posE, hf.velN, hf.velE⟩
        · have hmem : ∀ s ∈ front :: b.buf, s.Still := by
            intro s hs
            rcases List.mem_cons.mp hs with rfl | hs
            · exact hf
            · exact hstill s hs
          have hlo := hmem _ (bracket_mem t front b.buf).1
          have hhi := hmem _ (bracket_mem t front b.buf).2
          generalize (bracket t front b.buf).1 = lo at h hlo
          generalize (bracket t front b.buf).2 = hi at h hhi
          split at h
          · obtain ⟨rfl, rfl⟩ := Prod.mk.inj (Except.ok.inj h)
            exact ⟨hlo.posN, hlo.posE, hlo.velN, hlo.velE⟩
          · obtain ⟨rfl, rfl⟩ := Prod.mk.inj (Except.ok.inj h)
            exact lerp_still hlo hhi _ t
  · exact absurd h (by simp)

theorem push_still {b : ResidualBuffer ℝ} (hstill : ∀ s ∈ b.buf, s.Still)
    {s : NavStateSnapshot ℝ} (hs : s.Still) : ∀ s' ∈ (b.push s).buf, s'.Still := by
  intro s' hs'
  have hmem := (List.dropWhile_sublist _).subset (List.mem_of_mem_drop hs')
  rcases List.mem_append.mp hmem with hold | hnew
  · exact hstill s' hold
  · rw [List.mem_singleton.mp hnew]
    exact hs

end ResidualBuffer

/-! ## A parked task -/

/-- The two received positions are within `ρ` of each other, each seen from the other. -/
def Near (ρ : ℝ) (p q : ℝ × ℝ) : Prop :=
  (llaToNed p.1 p.2 0 q.1 q.2).horizontalNorm ≤ ρ

/-- The input of a parked vehicle: a level sample, or a fix from one of the positions `S` with no
    speed in it, or whatever the operator and the background do. -/
def Input.Parked (S : Set (ℝ × ℝ)) : Input ℝ → Prop
  | .imu sample => LevelSample sample
  | .gps fix _ => (fix.latDeg, fix.lonDeg) ∈ S ∧ ∀ speed ∈ fix.speedMps, speed = 0
  | .reset _ | .background _ _ => True

namespace Fusion

/-- The dead-reckoner is level and in place, the buffer holds nothing else, and the origin is one
    of the positions. -/
structure Parked (S : Set (ℝ × ℝ)) (f : Fusion ℝ) : Prop where
  level : f.nav.Level
  snapshots : ∀ s ∈ f.buffer.buf, s.Still
  origin : ∀ o ∈ f.nav.origin, (o.1, o.2.1) ∈ S

theorem Built.parked {c : FusionConfig ℝ} {boot : Instant} {f : Fusion ℝ} (h : Built c boot f)
    (S : Set (ℝ × ℝ)) : f.Parked S := by
  induction h with
  | new =>
    refine ⟨DeadReckoner.Level.new c.nav boot, fun s hs => ?_, fun o ho => ?_⟩
    · exact absurd hs List.not_mem_nil
    · exact absurd ho (by simp [Fusion.new, DeadReckoner.new])
  | withMavMonitor _ _ ih => exact ⟨ih.level, ih.snapshots, ih.origin⟩
  | withForensic _ _ _ ih => exact ⟨ih.level, ih.snapshots, ih.origin⟩

theorem onGpsFix_origin {S : Set (ℝ × ℝ)} {m : DeadReckoner ℝ} {fix : GpsFix ℝ}
    (hfix : (fix.latDeg, fix.lonDeg) ∈ S) (hm : ∀ o ∈ m.origin, (o.1, o.2.1) ∈ S) :
    ∀ o ∈ (m.onGpsFix fix).origin, (o.1, o.2.1) ∈ S := by
  intro o ho
  cases hlocked : m.anchorLocked with
  | false =>
    rw [(DeadReckoner.onGpsFix_unlocked hlocked fix).1] at ho
    rw [← Option.some.inj ho]
    exact hfix
  | true =>
    rw [(DeadReckoner.onGpsFix_locked hlocked fix).1.origin] at ho
    exact hm o ho

section Steps

variable [Nalgebra ℝ] [Nalgebra.Rotates] {S : Set (ℝ × ℝ)} {f : Fusion ℝ}

theorem Parked.onGps (h : f.Parked S) (env : Env ℝ) {fix : GpsFix ℝ}
    (hfix : (fix.latDeg, fix.lonDeg) ∈ S) (hrest : ∀ speed ∈ fix.speedMps, speed = 0) :
    (f.onGps env fix).1.Parked S := by
  obtain ⟨hnav, hbuffer⟩ := f.onGps_nav env fix
  have hkept := hnav.keeps (I := fun m => m.Level ∧ ∀ o ∈ m.origin, (o.1, o.2.1) ∈ S) ?_
    ⟨h.level, h.origin⟩
  · refine ⟨hkept.1, ?_, hkept.2⟩
    rcases hbuffer with hsame | hgone
    · rw [hsame]
      exact h.snapshots
    · rw [hgone]
      exact fun s hs => absurd hs List.not_mem_nil
  · rintro m op hop ⟨hlevel, horigin⟩
    cases hop with
    | blend => exact ⟨hlevel.onGpsFix hrest, onGpsFix_origin hfix horigin⟩
    | follow state => exact ⟨{ hlevel with }, horigin⟩
    | reAnchor =>
      have hback : (m.opStep (.reAnchorAfterClearing fix)).1.Level := hlevel.opStep trivial
      refine ⟨hback, fun o ho => ?_⟩
      rw [← Option.some.inj ho]
      exact hfix

theorem Parked.onImu (h : f.Parked S) {sample : ImuSample ℝ} (hs : LevelSample sample) :
    (f.onImu sample).Parked S := by
  have hlevel := h.level.step hs
  have hstepped := f.nav.step_stepped sample
  have hsame := f.nav.step_sameAnchor sample
  refine ⟨hlevel, ?_, fun o ho => h.origin o (hsame.origin ▸ ho)⟩
  unfold Fusion.onImu
  dsimp only
  generalize (f.nav.step sample).1 = m at hlevel hstepped
  generalize (f.nav.step sample).2 = answer at hstepped
  cases hstepped with
  | skipped _ _ _ _ _ hno =>
    split
    · rename_i snap
      exact absurd rfl (hno snap)
    · exact h.snapshots
  | integrated =>
    exact ResidualBuffer.push_still h.snapshots
      ⟨hlevel.posN, hlevel.posE, hlevel.velN, hlevel.velE⟩

/-- **The step lemma.** -/
theorem Parked.step (h : f.Parked S) {i : Input ℝ} (hi : i.Parked S) : (f.step i).1.Parked S := by
  cases i with
  | imu sample => exact h.onImu hi
  | gps fix env => exact h.onGps env hi.1 hi.2
  | reset now => exact ⟨{ h.level with }, h.snapshots, h.origin⟩
  | background now done =>
    obtain ⟨_, hdone⟩ := onBackground_eq f now done
    show (f.onBackground now done).1.Parked S
    rw [hdone]
    exact ⟨h.level, h.snapshots, h.origin⟩

end Steps

/-! ### What its fixes are evaluated on -/

section Evaluated

variable {S : Set (ℝ × ℝ)} {f : Fusion ℝ}

theorem horizontalNorm_zero {v : NedVel ℝ} (hn : v.n = 0) (he : v.e = 0) :
    v.horizontalNorm = 0 := by
  show Real.sqrt (v.n * v.n + v.e * v.e) = 0
  rw [hn, he, mul_zero, add_zero, Real.sqrt_zero]

theorem abs_le_horizontalNorm (p : NedPos ℝ) : |p.n| ≤ p.horizontalNorm ∧
    |p.e| ≤ p.horizontalNorm := by
  have hsqrt : ∀ {x y : ℝ}, |x| ≤ Real.sqrt (x * x + y * y) := by
    intro x y
    apply Real.abs_le_sqrt
    nlinarith [mul_self_nonneg y]
  constructor
  · exact hsqrt
  · show |p.e| ≤ Real.sqrt (p.n * p.n + p.e * p.e)
    rw [add_comm]
    exact hsqrt

/-- The residual of a vehicle in place is the distance of the fix from the origin, and its
    velocities are zero. -/
theorem Parked.residual (h : f.Parked S) {fix : GpsFix ℝ}
    (hrest : ∀ speed ∈ fix.speedMps, speed = 0) (gpsNed : NedPos ℝ) {p : NedPos ℝ}
    {v : NedVel ℝ} {t : ℝ} (hstill : NavStateSnapshot.Still ⟨t, p, v⟩) :
    let r := f.residual fix gpsNed p v
    r.dpos.n = gpsNed.n ∧ r.dpos.e = gpsNed.e ∧ r.magPos = gpsNed.horizontalNorm ∧
    r.magVel = 0 ∧ r.magVelFree = 0 := by
  obtain ⟨hpn, hpe, hvn, hve⟩ := hstill
  change p.n = 0 at hpn
  change p.e = 0 at hpe
  change v.n = 0 at hvn
  change v.e = 0 at hve
  have hn : gpsNed.n - p.n = gpsNed.n := by rw [hpn, sub_zero]
  have he : gpsNed.e - p.e = gpsNed.e := by rw [hpe, sub_zero]
  have hmag : NedPos.horizontalNorm ⟨gpsNed.n - p.n, gpsNed.e - p.e, gpsNed.d - p.d⟩ =
      gpsNed.horizontalNorm := by
    show Real.sqrt (_ * _ + _ * _) = Real.sqrt _
    rw [hn, he]
  intro r
  have hr : r = f.residual fix gpsNed p v := rfl
  unfold Fusion.residual at hr
  cases hvel : gpsVelocity fix with
  | none =>
    rw [hvel] at hr
    rw [hr]
    exact ⟨hn, he, hmag, rfl, rfl⟩
  | some vGps =>
    rw [hvel] at hr
    obtain ⟨hgn, hge⟩ := DeadReckoner.gpsVelocity_rest hrest hvel
    have hdn : vGps.n - v.n = 0 := by rw [hgn, hvn, sub_zero]
    have hde : vGps.e - v.e = 0 := by rw [hge, hve, sub_zero]
    rw [hr]
    refine ⟨hn, he, hmag, horizontalNorm_zero hdn hde, horizontalNorm_zero ?_ ?_⟩
    · show vGps.n - v.n + f.nav.aidingN = 0
      rw [hdn, h.level.aidingN, add_zero]
    · show vGps.e - v.e + f.nav.aidingE = 0
      rw [hde, h.level.aidingE, add_zero]

/-- The residual that a fix of a parked vehicle is evaluated on is the distance of two of its
    positions. -/
theorem Parked.evaluatedOn (h : f.Parked S) {fix : GpsFix ℝ}
    (hfix : (fix.latDeg, fix.lonDeg) ∈ S) (hrest : ∀ speed ∈ fix.speedMps, speed = 0)
    {ρ : ℝ} (hnear : ∀ p ∈ S, ∀ q ∈ S, Near ρ p q) {r : Residual ℝ}
    (hr : f.evaluatedOn fix = some r) :
    |r.dpos.n| ≤ ρ ∧ |r.dpos.e| ≤ ρ ∧ r.magPos ≤ ρ ∧ r.magVel = 0 ∧ r.magVelFree = 0 := by
  unfold Fusion.evaluatedOn atDecision at hr
  split at hr
  · cases hn : f.nav.gpsInNed fix with
    | none =>
      rw [hn] at hr
      exact absurd hr (by simp)
    | some gpsNed =>
      cases hi : f.buffer.interpolate (f.tSecs fix.t) with
      | error e =>
        rw [hn, hi] at hr
        exact absurd hr (by simp)
      | ok served =>
        obtain ⟨p, v⟩ := served
        rw [hn, hi] at hr
        have hstill := ResidualBuffer.interpolate_still h.snapshots hi
        have htracked := (armedTrackers f fix (f.tSecs fix.t)).1.tracked
        have hr := Option.some.inj hr
        dsimp only at hr htracked
        generalize ((f.noteGap (f.tSecs fix.t)).drainDwellNotice fix).1.trackFrozen fix = g
          at hr htracked
        have hg : g.Parked S :=
          ⟨htracked.nav ▸ h.level, htracked.buffer ▸ h.snapshots, htracked.nav ▸ h.origin⟩
        obtain ⟨hdn, hde, hmag, hvel, hfree⟩ := hg.residual hrest gpsNed hstill
        rw [hr] at hdn hde hmag hvel hfree
        -- the fix, seen from the origin
        obtain ⟨⟨lat0, lon0, alt0⟩, ho, hned⟩ := Option.map_eq_some_iff.mp hn
        have hdist : gpsNed.horizontalNorm ≤ ρ := by
          rw [← hned]
          exact hnear _ hfix _ (h.origin _ ho)
        obtain ⟨habsn, habse⟩ := abs_le_horizontalNorm gpsNed
        exact ⟨hdn ▸ habsn.trans hdist, hde ▸ habse.trans hdist, hmag ▸ hdist, hvel, hfree⟩
  · exact absurd hr (by simp)

/-- What the buffer serves of a vehicle in place does not move. -/
theorem Parked.slow (h : f.Parked S) {t : ℝ} {served : NedPos ℝ × NedVel ℝ}
    (hserved : served ∈ (f.buffer.interpolate t).toOption) :
    served.2.horizontalNorm ≤ frozenFixMinImuVelMps := by
  cases hin : f.buffer.interpolate t with
  | error e =>
    rw [hin] at hserved
    exact absurd hserved (by simp [Except.toOption])
  | ok found =>
    rw [hin] at hserved
    obtain rfl : found = served := Option.some.inj hserved
    have hstill := ResidualBuffer.interpolate_still h.snapshots hin
    rw [horizontalNorm_zero hstill.velN hstill.velE]
    unfold frozenFixMinImuVelMps
    norm_num

theorem excess_zero_of_near {c : DetectConfig ℝ} {r : Residual ℝ} {ρ : ℝ} (hk : ρ ≤ c.cusumKM)
    (hkMag : ρ ≤ c.magCusumKM) (hfree : 0 ≤ c.velAidingCusumKMps) (hn : |r.dpos.n| ≤ ρ)
    (he : |r.dpos.e| ≤ ρ) (hmag : r.magPos ≤ ρ) (hvel : r.magVelFree = 0) (l : Lane) :
    r.excess c l = 0 := by
  apply Residual.excess_eq_zero
  cases l with
  | posN => exact (le_of_abs_le hn).trans hk
  | negN => exact (neg_le_abs _).trans (hn.trans hk)
  | posE => exact (le_of_abs_le he).trans hk
  | negE => exact (neg_le_abs _).trans (he.trans hk)
  | mag => exact hmag.trans hkMag
  | velAiding =>
    show r.magVelFree ≤ c.velAidingCusumKMps
    rw [hvel]
    exact hfree

/-- A fix of a parked vehicle is plausible, and exceeds no reference. -/
theorem Parked.tame (h : f.Parked S) {c : DetectConfig ℝ} {ρ : ℝ}
    (hnear : ∀ p ∈ S, ∀ q ∈ S, Near ρ p q)
    (hρ : ρ ≤ c.cusumKM ∧ ρ ≤ c.magCusumKM ∧ ρ ≤ c.maxJumpM)
    (hmismatch : 0 ≤ c.maxVelocityMismatchMps) (hfree : 0 ≤ c.velAidingCusumKMps)
    {i : Input ℝ} (hi : i.Parked S) (hclimb : ¬ f.Climbs i) :
    Tame c f i ∧ ∀ l, excessOf c f i l = 0 := by
  cases i with
  | gps fix env =>
    obtain ⟨hfix, hrest⟩ := hi
    have hon := fun r (hr : f.evaluatedOn fix = some r) => h.evaluatedOn hfix hrest hnear hr
    refine ⟨fun r hr => ⟨?_, ?_, ?_, fun _ _ => h.slow⟩, fun l => ?_⟩
    · exact (hon r hr).2.2.1.trans hρ.2.2
    · rw [(hon r hr).2.2.2.1]
      exact hmismatch
    · rw [← Bool.not_eq_true]
      exact fun halarm => hclimb ⟨Option.isSome_of_mem hr, halarm⟩
    · cases hr : f.evaluatedOn fix with
      | none =>
        show ((f.evaluatedOn fix).map (·.excess c l)).getD 0 = 0
        rw [hr]
        rfl
      | some r =>
        rw [excessOf_evaluated hr]
        obtain ⟨hn, he, hmag, -, hvel⟩ := hon r hr
        exact excess_zero_of_near hρ.1 hρ.2.1 hfree hn he hmag hvel l
  | _ => exact ⟨trivial, fun _ => rfl⟩

end Evaluated

/-- **A parked vehicle is never acted on.** Over any run of level samples, of fixes without speed
    whose positions are within `ρ` of each other, of resets and of background tasks that end, the
    machine stays in Normal, no detector reports, no flight action is taken, and the
    dead-reckoned position is the origin throughout. -/
theorem parked_never_alarms [Nalgebra ℝ] [Nalgebra.Rotates] {c : FusionConfig ℝ}
    (hc : c.validate = .ok ()) (hfree : 0 ≤ c.detect.velAidingCusumKMps)
    (hfires : 0 < c.detect.velAidingCusumH) {S : Set (ℝ × ℝ)} {ρ : ℝ}
    (hnear : ∀ p ∈ S, ∀ q ∈ S, Near ρ p q)
    (hρ : ρ ≤ c.detect.cusumKM ∧ ρ ≤ c.detect.magCusumKM ∧ ρ ≤ c.detect.maxJumpM)
    {boot : Instant} {f : Fusion ℝ} (hf : Built c boot f) {is : List (Input ℝ)}
    (hparked : ∀ i ∈ is, i.Parked S) (hclimb : Along step (fun f i => ¬ f.Climbs i) f is) :
    (run step f is).fsm.state = .normal ∧ AllQuiet (outputs step f is) ∧
    (run step f is).nav.drPos.n = 0 ∧ (run step f is).nav.drPos.e = 0 := by
  have hinputs : Along step (fun _ i => Input.Parked S i) f is := along_of_forall hparked
  have hend : (run step f is).Parked S :=
    hinputs.invariant (fun f i hi h => h.step hi) (hf.parked S)
  have hall : Along step
      (fun f i => Tame c.detect f i ∧ ∀ l, excessOf c.detect f i l = 0) f is :=
    (hinputs.and hclimb).strengthen (fun f i hi h => h.step hi.1)
      (fun f i h hi => h.tame hnear hρ (maxVelocityMismatch_nonneg hc) hfree hi.1 hi.2)
      (hf.parked S)
  have htame : Along step (Tame c.detect) f is := hall.mono fun f i hi => hi.1
  have hroom : ∀ l, totalCost step (excessOf c.detect) l f is < c.detect.laneH l := by
    intro l
    rw [totalCost_eq_zero (hall.mono fun f i hi => hi.2 l)]
    have hpos := FusionConfig.cusum_pos hc
    have hmag := FusionConfig.magCusum_pos hc
    cases l with
    | velAiding => exact hfires
    | mag => exact hmag.2
    | posN | negN | posE | negE => exact hpos.2
  obtain ⟨hcalm, hquiet⟩ := hf.stays_calm hc htame hroom
  exact ⟨hcalm.fsm.state, hquiet.mem_outputs, hend.level.posN, hend.level.posE⟩

theorem default_validate : (FusionConfig.default : FusionConfig ℝ).validate = .ok () := by
  apply runChecks_ok.mpr
  intro ch hch
  simp only [FusionConfig.checks, List.mem_cons, List.not_mem_nil, or_false] at hch
  rcases hch with rfl | rfl | rfl | rfl | rfl | rfl | rfl | rfl | rfl | rfl | rfl | rfl | rfl |
    rfl | rfl | rfl | rfl | rfl | rfl
  all_goals
    simp [FusionConfig.residualWindowCheck, FusionConfig.maxImuRateCheck,
      FusionConfig.maxJumpCheck, FusionConfig.maxVelocityMismatchCheck,
      FusionConfig.jumpPersistCheck, FusionConfig.cusumPositiveCheck,
      FusionConfig.cusumOrderedCheck, FusionConfig.magCusumPositiveCheck,
      FusionConfig.magCusumOrderedCheck, FusionConfig.dwellCheck, FusionConfig.reAnchorCheck,
      FusionConfig.maxVerticalRateCheck, FusionConfig.maxDwellPauseCheck,
      FusionConfig.madgwickBetaCheck, FusionConfig.blendTauCheck, FusionConfig.biasEmaAlphaCheck,
      FusionConfig.staticInitCheck, FusionConfig.maxHomeDistanceCheck,
      FusionConfig.maxHomeDistanceCapCheck, FusionConfig.positiveFinite,
      FusionConfig.bothPositive, FusionConfig.ordered, FusionConfig.default,
      DetectConfig.default, NavConfig.default]
  all_goals norm_num

/-- Where a parked receiver says it is: on one meridian, within two millionths of a degree. -/
def parkedAt : Set (ℝ × ℝ) := {p | |p.1 - 47.0| ≤ 2e-6 ∧ p.2 = 8.0}

/-- That is half a metre at most. -/
theorem parkedAt_near : ∀ p ∈ parkedAt, ∀ q ∈ parkedAt, Near 1 p q := by
  rintro ⟨lat, lon⟩ ⟨hlat, rfl⟩ ⟨lat', lon'⟩ ⟨hlat', rfl⟩
  change |lat - 47.0| ≤ 2e-6 at hlat
  change |lat' - 47.0| ≤ 2e-6 at hlat'
  have hapart : |lat - lat'| ≤ 4e-6 := by
    have hsum := abs_sub_le lat 47.0 lat'
    rw [abs_sub_comm 47.0 lat'] at hsum
    linarith
  have heast : (Libm.toRadians (8.0 - 8.0) : ℝ) = 0 := by
    show (8.0 - 8.0 : ℝ) * _ = 0
    rw [sub_self, zero_mul]
  unfold Near llaToNed
  dsimp only
  rw [heast, zero_mul, zero_mul]
  show Real.sqrt (_ * _ + 0 * 0) ≤ 1
  rw [mul_zero, add_zero, Real.sqrt_mul_self_eq_abs]
  show |(lat - lat') * (Real.pi / 180) * 6378137.0| ≤ 1
  rw [abs_mul, abs_mul, abs_of_pos (show (0 : ℝ) < 6378137.0 by norm_num),
    abs_of_pos (by positivity : 0 < Real.pi / 180)]
  calc |lat - lat'| * (Real.pi / 180) * 6378137.0
      ≤ 4e-6 * (4 / 180) * 6378137.0 := by gcongr; exact Real.pi_le_four
    _ ≤ 1 := by norm_num

/-- Five seconds on the spot, turning, sampled every ten milliseconds. The first two fixes find the
    origin and arm the task, the five after them are evaluated. -/
noncomputable def parkedFlight : List (Input ℝ) :=
  let samples (first n : Nat) : List (Input ℝ) := (List.range n).map fun k =>
    .imu ⟨⟨(first + k) * 10000000, none⟩, ⟨0, 0, -9.80665⟩, ⟨0, 0, 0.5⟩⟩
  let fix (ms : Nat) (lat : ℝ) : Input ℝ :=
    .gps ⟨⟨ms * 1000000, none⟩, lat, 8.0, 450.0, some 0, some 90.0, none, none⟩
      ⟨0, .new, .ok (), .ok ()⟩
  samples 0 300 ++ fix 3000 47.0 :: samples 301 100 ++ fix 4015 47.0 ::
    (List.range 5).flatMap fun k =>
      samples (402 + 20 * k) 19 ++ [fix (4215 + 200 * k) (47.0 + k * 5e-7)]

theorem parkedFlight_parked : ∀ i ∈ parkedFlight, i.Parked parkedAt ∧ AtAltitude 450.0 i := by
  have hsamples : ∀ first n : Nat, ∀ i ∈ (List.range n).map fun k =>
      Input.imu (α := ℝ) ⟨⟨(first + k) * 10000000, none⟩, ⟨0, 0, -9.80665⟩, ⟨0, 0, 0.5⟩⟩,
      i.Parked parkedAt ∧ AtAltitude 450.0 i := by
    intro first n i hi
    obtain ⟨k, -, rfl⟩ := List.mem_map.mp hi
    exact ⟨⟨⟨rfl, rfl⟩, by norm_num, ⟨rfl, rfl⟩⟩, trivial⟩
  have hfix : ∀ (t : Timestamp) (k : Nat) (env : Env ℝ), k < 5 →
      (Input.gps ⟨t, 47.0 + (k : ℝ) * 5e-7, 8.0, 450.0, some 0, some 90.0, none, none⟩ env).Parked
        parkedAt := by
    intro t k env hk
    refine ⟨⟨?_, rfl⟩, fun speed hspeed => (Option.some.inj hspeed).symm⟩
    have hk : (k : ℝ) ≤ 4 := by exact_mod_cast Nat.le_of_lt_succ hk
    show |47.0 + (k : ℝ) * 5e-7 - 47.0| ≤ 2e-6
    rw [add_sub_cancel_left, abs_of_nonneg (by positivity)]
    linarith
  have hhome : ∀ (t : Timestamp) (env : Env ℝ),
      (Input.gps ⟨t, 47.0, 8.0, 450.0, some 0, some 90.0, none, none⟩ env).Parked parkedAt := by
    intro t env
    have hzero := hfix t 0 env (by norm_num)
    rwa [Nat.cast_zero, zero_mul, add_zero] at hzero
  intro i hi
  rcases List.mem_append.mp hi with hi | hi
  · rcases List.mem_append.mp hi with hi | hi
    · exact hsamples _ _ i hi
    · rcases List.mem_cons.mp hi with rfl | hi
      · exact ⟨hhome _ _, rfl⟩
      · exact hsamples _ _ i hi
  · rcases List.mem_cons.mp hi with rfl | hi
    · exact ⟨hhome _ _, rfl⟩
    · obtain ⟨k, hk, hi⟩ := List.mem_flatMap.mp hi
      rcases List.mem_append.mp hi with hi | hi
      · exact hsamples _ _ i hi
      · rw [List.mem_singleton.mp hi]
        exact ⟨hfix _ k _ (List.mem_range.mp hk), rfl⟩

/-- In the shipped configuration. -/
theorem parked_never_alarms_default :
    letI := quaternionCrate
    let f := Fusion.new (FusionConfig.default : FusionConfig ℝ) 0
    (run step f parkedFlight).fsm.state = .normal ∧ AllQuiet (outputs step f parkedFlight) ∧
    (run step f parkedFlight).nav.drPos.n = 0 ∧ (run step f parkedFlight).nav.drPos.e = 0 := by
  have hnever : ∀ is : List (Input ℝ), (∀ i ∈ is, i.Parked parkedAt ∧ AtAltitude 450.0 i) →
      letI := quaternionCrate
      (run step (Fusion.new FusionConfig.default 0) is).fsm.state = .normal ∧
      AllQuiet (outputs step (Fusion.new FusionConfig.default 0) is) ∧
      (run step (Fusion.new FusionConfig.default 0) is).nav.drPos.n = 0 ∧
      (run step (Fusion.new FusionConfig.default 0) is).nav.drPos.e = 0 := by
    intro is his
    have hparked := fun i hi => (his i hi).1
    have hlevel := fun i hi => (his i hi).2
    let crate := quaternionCrate
    have hcrate := quaternionCrate_rotates
    refine parked_never_alarms default_validate ?_ ?_ parkedAt_near ⟨?_, ?_, ?_⟩ .new hparked
      (Built.never_climbs ?_ .new hlevel)
    all_goals norm_num [FusionConfig.default, DetectConfig.default]
  exact hnever parkedFlight parkedFlight_parked

end Fusion

end FlyingSquirrel

import FlyingSquirrel.Mav.Controller

/-!
# What a confirmed return-to-base proves

Three of the four gates read cells that hold the latest of something: the latest
acknowledgement of the command, the time of the latest mode change, the latest heartbeat.
The fourth is a counter over polls. It counts an RTL observation only when the heartbeat
time has moved since the previous poll, so **each count has a heartbeat of its own**,
recorded between two polls, and a poll that observes another mode starts it over.

What the polls have observed is not in any cell, so it is a ghost: `observed` lists the
heartbeats and the polls since the verification began.
-/

set_option autoImplicit false

namespace FlyingSquirrel

open Lib MavMonitor

/-- A heartbeat recorded, or a poll made, while a verification runs, with the mode in it. -/
inductive Observation
  | heartbeat (mode : Nat)
  | poll (mode : Nat)
deriving DecidableEq, Repr

/-- The history of a link, and what was observed since the verification began. -/
structure RtbGhost (α : Type) where
  hist : List (MavInput α)
  observed : List Observation

/-- The heartbeat that an input records, if it records one. -/
def MavInput.heartbeat? {α : Type} : MavInput α → Option (Nat × Heartbeat)
  | .heartbeat ns hb => some (ns, hb)
  | _ => none

/-- The acknowledgement of a command that an input records, if it records one. -/
def MavInput.ackOf {α : Type} (command : Nat) : MavInput α → Option (Nat × Nat)
  | .ack _ ns command' result => if command' = command then some (result, ns) else none
  | _ => none

def modeAfter {α : Type} (hist : List (MavInput α)) : Nat :=
  ((latest MavInput.heartbeat? hist).map (·.2.customMode)).getD 0

/-- The mode last changed at `ns`: a heartbeat then brought another mode than there was,
    and every later one has brought the same. -/
def ModeLastChanged {α : Type} (hist : List (MavInput α)) (ns : Nat) : Prop :=
  ∃ pre hb post, hist = pre ++ .heartbeat ns hb :: post ∧ modeAfter pre ≠ hb.customMode ∧
    ∀ ns' hb', .heartbeat ns' hb' ∈ post → hb'.customMode = hb.customMode

section ModeLastChanged

variable {α : Type}

theorem heartbeat?_heartbeat (ns : Nat) (hb : Heartbeat) :
    (MavInput.heartbeat ns hb : MavInput α).heartbeat? = some (ns, hb) := rfl

theorem ModeLastChanged.mode_eq {pre post : List (MavInput α)} {ns : Nat} {hb : Heartbeat}
    (hpost : ∀ ns' hb', .heartbeat ns' hb' ∈ post → hb'.customMode = hb.customMode) :
    modeAfter (pre ++ .heartbeat ns hb :: post) = hb.customMode := by
  unfold modeAfter latest
  rw [List.filterMap_append, List.filterMap_cons_some (heartbeat?_heartbeat ns hb),
    List.getLast?_append, List.getLast?_cons]
  dsimp only [Option.some_or, Option.map_some, Option.getD_some]
  cases hl : (post.filterMap MavInput.heartbeat?).getLast? with
  | none => rfl
  | some last =>
    obtain ⟨i, hi, hlast⟩ := List.mem_filterMap.mp (List.mem_of_getLast? hl)
    cases i with
    | heartbeat ns' hb' =>
      obtain rfl := Option.some.inj hlast
      exact hpost ns' hb' hi
    | _ => exact absurd hlast (by simp [MavInput.heartbeat?])

theorem ModeLastChanged.snoc {hist : List (MavInput α)} {ns : Nat}
    (h : ModeLastChanged hist ns) {i : MavInput α}
    (hi : ∀ ns' hb', i = .heartbeat ns' hb' → hb'.customMode = modeAfter hist) :
    ModeLastChanged (hist ++ [i]) ns := by
  obtain ⟨pre, hb, post, rfl, hne, hpost⟩ := h
  refine ⟨pre, hb, post ++ [i], by simp, hne, fun ns' hb' hm => ?_⟩
  rcases List.mem_append.mp hm with hm | hm
  · exact hpost ns' hb' hm
  · rw [hi ns' hb' (List.mem_singleton.mp hm).symm, ModeLastChanged.mode_eq hpost]

end ModeLastChanged

def rtlHeartbeat (profile : VehicleProfile) : Observation → Bool
  | .heartbeat mode => isRtlMode profile mode
  | .poll _ => false

/-- At least `n` RTL heartbeats, with no poll among or after them that observed another
    mode. -/
def Held (profile : VehicleProfile) (n : Nat) (observed : List Observation) : Prop :=
  ∃ pre seg, observed = pre ++ seg ∧
    (∀ mode, .poll mode ∈ seg → isRtlMode profile mode = true) ∧
    n ≤ seg.countP (rtlHeartbeat profile)

section Held

variable {profile : VehicleProfile} {n : Nat} {seen : List Observation}

theorem Held.zero (seen : List Observation) : Held profile 0 seen :=
  ⟨seen, [], (List.append_nil _).symm, by simp, Nat.zero_le _⟩

theorem Held.mono {n' : Nat} (h : Held profile n' seen) (hn : n ≤ n') :
    Held profile n seen := by
  obtain ⟨pre, seg, he, hp, hc⟩ := h
  exact ⟨pre, seg, he, hp, le_trans hn hc⟩

theorem Held.append (h : Held profile n seen) {more : List Observation}
    (hmore : ∀ mode, .poll mode ∈ more → isRtlMode profile mode = true) :
    Held profile (n + more.countP (rtlHeartbeat profile)) (seen ++ more) := by
  obtain ⟨pre, seg, rfl, hp, hc⟩ := h
  refine ⟨pre, seg ++ more, List.append_assoc .., fun mode hm => ?_, ?_⟩
  · exact (List.mem_append.mp hm).elim (hp mode) (hmore mode)
  · rw [List.countP_append]
    omega

theorem Held.le_countP (h : Held profile n seen) :
    n ≤ seen.countP (rtlHeartbeat profile) := by
  obtain ⟨pre, seg, rfl, -, hc⟩ := h
  rw [List.countP_append]
  omega

end Held

namespace MavSystem

variable {α : Type} [Zero α] [Neg α] [OfScientific α] [LT α] [DecidableLT α]

def follow (g : RtbGhost α) (s : MavSystem α) (i : MavInput α) (_ : MavSystem α) :
    RtbGhost α where
  hist := g.hist ++ [i]
  observed :=
    match i with
    | .beginVerifyRtb => []
    | .heartbeat _ hb => g.observed ++ [.heartbeat hb.customMode]
    | .pollRtb _ => g.observed ++ [.poll s.monitor.currentCustomMode]
    | _ => g.observed

/-! ## The cells and the history -/

/-- Each cell the gates read holds what the history says it holds. -/
structure CellsTold (x : MavSystem α × RtbGhost α) : Prop where
  mode : x.1.monitor.currentCustomMode = modeAfter x.2.hist
  armed : x.1.monitor.currentBaseMode =
    ((latest MavInput.heartbeat? x.2.hist).map (·.2.baseMode)).getD 0
  changed : x.1.monitor.modeChangedAtNs ≠ 0 →
    ModeLastChanged x.2.hist x.1.monitor.modeChangedAtNs
  ack : ∀ command a, x.1.monitor.lastAckForCmd command = some a →
    latest (MavInput.ackOf command) x.2.hist = some a
  sent : x.1.controller.rtbSentAtNs ≠ 0 → .engageRtb x.1.controller.rtbSentAtNs ∈ x.2.hist

theorem CellsTold.start {α : Type} (profile : VehicleProfile) :
    CellsTold (MavSystem.start profile, (⟨[], []⟩ : RtbGhost α)) where
  mode := rfl
  armed := rfl
  changed := fun h => absurd rfl h
  ack := fun command a h => by
    exact absurd h (by simp [MavSystem.start, MavMonitor.lastAckForCmd, MavMonitor.new])
  sent := fun h => absurd rfl h

theorem lastAckForCmd_hear {α : Type} {m : MavMonitor α} {i : MavInput α} {command : Nat}
    {a : Nat × Nat} (h : (hear m i).lastAckForCmd command = some a) :
    i.ackOf command = some a ∨
      (i.ackOf command = none ∧ m.lastAckForCmd command = some a) := by
  cases i with
  | ack o ns command' result =>
    by_cases hc : command' = command
    · subst hc
      obtain rfl := lookup_recordLatest_self h
      exact .inl (if_pos rfl)
    · exact .inr ⟨if_neg hc, lookup_recordLatest_of_ne (Ne.symm hc) h⟩
  | paramValue o ns paramId value paramType =>
    refine .inr ⟨rfl, ?_⟩
    change (m.recordParamValue o ns paramId value paramType).lastAckForCmd command = some a at h
    unfold MavMonitor.recordParamValue at h
    dsimp only at h
    split at h <;> exact h
  | _ => exact .inr ⟨rfl, h⟩

theorem hear_of_not_heartbeat {α : Type} {i : MavInput α} (hi : i.heartbeat? = none)
    (m : MavMonitor α) :
    (hear m i).currentCustomMode = m.currentCustomMode ∧
    (hear m i).currentBaseMode = m.currentBaseMode ∧
    (hear m i).modeChangedAtNs = m.modeChangedAtNs ∧
    (hear m i).lastHeartbeatNs = m.lastHeartbeatNs := by
  cases i with
  | heartbeat ns hb => exact absurd hi (by simp [MavInput.heartbeat?])
  | paramValue o ns paramId value paramType =>
    unfold hear MavMonitor.recordParamValue
    dsimp only
    split <;> exact ⟨rfl, rfl, rfl, rfl⟩
  | _ => exact ⟨rfl, rfl, rfl, rfl⟩

section CellsTold

variable {s : MavSystem α} {g : RtbGhost α}

theorem CellsTold.ack_step {α : Type} {s : MavSystem α} {g : RtbGhost α}
    (h : CellsTold (s, g)) (i : MavInput α) (command : Nat)
    (a : Nat × Nat) (hl : (hear s.monitor i).lastAckForCmd command = some a) :
    latest (MavInput.ackOf command) (g.hist ++ [i]) = some a := by
  rcases lastAckForCmd_hear hl with hi | ⟨hi, hold⟩
  · exact latest_snoc_some hi
  · exact (latest_snoc_none hi).trans (h.ack command a hold)

theorem CellsTold.sent_step (h : CellsTold (s, g)) (i : MavInput α)
    (hne : (s.step i).1.controller.rtbSentAtNs ≠ 0) :
    .engageRtb (s.step i).1.controller.rtbSentAtNs ∈ g.hist ++ [i] := by
  rcases (step_controller s i).2.2 with h0 | hsame | hi
  · exact absurd h0 hne
  · rw [hsame] at hne ⊢
    exact List.mem_append_left _ (h.sent hne)
  · exact List.mem_append_right _ (List.mem_singleton.mpr hi.symm)

/-- A heartbeat of another mode is the last change; one of the same mode leaves it where it
    was. -/
theorem CellsTold.changed_heartbeat {α : Type} {s : MavSystem α} {g : RtbGhost α}
    (h : CellsTold (s, g)) (ns : Nat) (hb : Heartbeat)
    (hns : (s.monitor.recordHeartbeat ns hb).modeChangedAtNs ≠ 0) :
    ModeLastChanged (g.hist ++ [.heartbeat ns hb])
      (s.monitor.recordHeartbeat ns hb).modeChangedAtNs := by
  unfold MavMonitor.recordHeartbeat at hns ⊢
  dsimp only at hns ⊢
  split
  · rename_i hne
    refine ⟨g.hist, hb, [], rfl, ?_, by simp⟩
    rw [← h.mode]
    exact hne
  · rename_i hsame
    rw [if_neg hsame] at hns
    apply (h.changed hns).snoc
    intro ns' hb' heq
    obtain ⟨-, rfl⟩ := MavInput.heartbeat.inj heq
    rw [← h.mode]
    exact (not_not.mp hsame).symm

end CellsTold

theorem CellsTold.step {x : MavSystem α × RtbGhost α} (h : CellsTold x) (i : MavInput α) :
    CellsTold (ghost MavSystem.step follow x i).1 := by
  obtain ⟨s, g⟩ := x
  cases hi : i.heartbeat? with
  | none =>
    obtain ⟨h₁, h₂, h₃, -⟩ := hear_of_not_heartbeat hi s.monitor
    have hno : ∀ ns' hb', i = .heartbeat ns' hb' →
        hb'.customMode = modeAfter g.hist := by
      rintro ns' hb' rfl
      exact absurd hi (by simp [MavInput.heartbeat?])
    refine ⟨?_, ?_, ?_, ?_, h.sent_step i⟩
    · rw [ghost_fst, step_monitor, h₁]
      unfold modeAfter
      rw [ghost_snd, show (follow g s i _).hist = g.hist ++ [i] from rfl, latest_snoc_none hi]
      exact h.mode
    · rw [ghost_fst, step_monitor, h₂]
      rw [ghost_snd, show (follow g s i _).hist = g.hist ++ [i] from rfl, latest_snoc_none hi]
      exact h.armed
    · rw [ghost_fst, step_monitor, h₃]
      exact fun hne => (h.changed hne).snoc hno
    · rw [ghost_fst, step_monitor]
      exact h.ack_step i
  | some p =>
    cases i with
    | heartbeat ns hb =>
      refine ⟨?_, ?_, h.changed_heartbeat ns hb, h.ack_step (.heartbeat ns hb),
        h.sent_step (.heartbeat ns hb)⟩
      · show hb.customMode = modeAfter (g.hist ++ [_])
        unfold modeAfter
        rw [latest_snoc_some (heartbeat?_heartbeat ns hb)]
        rfl
      · show hb.baseMode = _
        rw [ghost_snd, show (follow g s _ _).hist = g.hist ++ [_] from rfl,
          latest_snoc_some (heartbeat?_heartbeat ns hb)]
        rfl
    | _ => exact absurd hi (by simp [MavInput.heartbeat?])

/-! ## The dwell -/

/-- While a verification polls: it began after a send; what its counter says is held, up to
    its last poll; and since then there have been heartbeats only, of which the monitor has
    the last. -/
def Dwelling (profile : VehicleProfile) (x : MavSystem α × RtbGhost α) : Prop :=
  ∀ v, x.1.rtb = .polling v →
    .engageRtb v.sentAt ∈ x.2.hist ∧
    ∃ counted recent, x.2.observed = counted ++ recent ∧
      Held profile v.consecutiveRtl counted ∧
      (∀ o ∈ recent, ∃ mode, o = .heartbeat mode) ∧
      (recent = [] → x.1.monitor.lastHeartbeatNs = v.lastHbSeen) ∧
      ∀ mode, recent.getLast? = some (.heartbeat mode) →
        x.1.monitor.currentCustomMode = mode

/-- **What one poll counts is held**, whether or not it confirms. -/
theorem held_dwellCount {α : Type} {c : MavFlightController} {m : MavMonitor α} {v : RtbVerify}
    {counted recent : List Observation} (hheld : Held c.profile v.consecutiveRtl counted)
    (honly : ∀ o ∈ recent, ∃ mode, o = .heartbeat mode)
    (hstale : recent = [] → m.lastHeartbeatNs = v.lastHbSeen)
    (hlast : ∀ mode, recent.getLast? = some (.heartbeat mode) → m.currentCustomMode = mode) :
    Held c.profile (c.dwellCount m v) (counted ++ recent) := by
  have hpolls : ∀ mode, .poll mode ∈ recent → isRtlMode c.profile mode = true := by
    intro mode hm
    obtain ⟨_, h⟩ := honly _ hm
    exact absurd h (by simp)
  have hmore := hheld.append hpolls
  unfold MavFlightController.dwellCount
  dsimp only
  split
  · -- a new heartbeat in an RTL mode: it is the last of the recent ones
    rename_i hfresh
    simp only [Bool.and_eq_true, decide_eq_true_eq] at hfresh
    obtain ⟨hrtl, hnew⟩ := hfresh
    have hne : recent ≠ [] := fun h => absurd (hstale h) (by omega)
    obtain ⟨mode, hmode⟩ := honly _ (List.getLast_mem hne)
    have hl : recent.getLast? = some (.heartbeat mode) := by
      rw [List.getLast?_eq_some_getLast hne, hmode]
    have hone : 0 < recent.countP (rtlHeartbeat c.profile) := by
      refine List.countP_pos_iff.mpr ⟨.heartbeat mode, List.mem_of_getLast? hl, ?_⟩
      show isRtlMode c.profile mode = true
      rw [← hlast mode hl]
      exact hrtl
    refine hmore.mono ?_
    unfold succU8
    omega
  · split
    · exact .zero _
    · exact hmore.mono (Nat.le_add_right _ _)

theorem step_rtb {s : MavSystem α} {i : MavInput α} (hb : i ≠ .beginVerifyRtb)
    (hp : ∀ expired, i ≠ .pollRtb expired) : (s.step i).1.rtb = s.rtb := by
  cases i with
  | beginVerifyRtb => exact absurd rfl hb
  | pollRtb expired => exact absurd rfl (hp expired)
  | pollSever expired =>
    rcases step_pollSever s expired with h | ⟨v, -, h⟩ <;> rw [h]
  | _ => rfl

theorem pollRtb_polling {α : Type} {c : MavFlightController} {m : MavMonitor α} {v v' : RtbVerify}
    {expired : Bool} (h : c.pollRtb m v expired = .polling v') :
    v' = { v with consecutiveRtl := c.dwellCount m v, lastHbSeen := m.lastHeartbeatNs } := by
  unfold MavFlightController.pollRtb at h
  dsimp only at h
  split at h
  · exact absurd h (by simp)
  · split at h
    · exact absurd h (by simp)
    · exact (Verify.polling.inj h).symm

section Dwelling

variable {profile : VehicleProfile} {s : MavSystem α} {g : RtbGhost α}

/-- A verification that begins has counted nothing, and has seen the heartbeat on record. -/
theorem CellsTold.dwelling_begun (h : CellsTold (s, g)) (profile : VehicleProfile) :
    Dwelling profile (ghost MavSystem.step follow (s, g) .beginVerifyRtb).1 := by
  intro v hv
  rw [ghost_fst] at hv
  change s.controller.beginVerifyRtb s.monitor = .polling v at hv
  unfold MavFlightController.beginVerifyRtb at hv
  split at hv
  · exact absurd hv (by simp)
  · rename_i hsent
    obtain rfl := Verify.polling.inj hv
    exact ⟨List.mem_append_left _ (h.sent hsent), [], [], rfl, .zero _, by simp,
      fun _ => rfl, by simp⟩

/-- What a poll that is not the last one counts is held. -/
theorem Dwelling.polled (h : Dwelling s.controller.profile (s, g)) (expired : Bool) :
    Dwelling s.controller.profile
      (ghost MavSystem.step follow (s, g) (.pollRtb expired)).1 := by
  intro v hv
  rw [ghost_fst] at hv
  rcases step_pollRtb s expired with ⟨hno, hs⟩ | ⟨v₀, hv₀, hs⟩
  · rw [hs] at hv
    exact absurd hv (hno v)
  · rw [hs] at hv
    obtain rfl := pollRtb_polling hv
    obtain ⟨hmem, counted, recent, hobs, hheld, honly, hstale, hlast⟩ := h v₀ hv₀
    have hcount := held_dwellCount hheld honly hstale hlast
    refine ⟨List.mem_append_left _ hmem,
      counted ++ recent ++ [.poll s.monitor.currentCustomMode], [], ?_, ?_, by simp, ?_,
      by simp⟩
    · show g.observed ++ [_] = _
      rw [show g.observed = counted ++ recent from hobs, List.append_nil]
    · cases hrtl : s.controller.modeIsRtl s.monitor with
      | true =>
        have hpolls : ∀ mode, .poll mode ∈ [Observation.poll s.monitor.currentCustomMode] →
            isRtlMode s.controller.profile mode = true := by
          intro mode hm
          obtain rfl := Observation.poll.inj (List.mem_singleton.mp hm)
          exact hrtl
        exact (hcount.append hpolls).mono (Nat.le_add_right _ _)
      | false =>
        have hzero : s.controller.dwellCount s.monitor v₀ = 0 := by
          unfold MavFlightController.dwellCount
          rw [hrtl]
          rfl
        show Held _ (s.controller.dwellCount s.monitor v₀) _
        rw [hzero]
        exact .zero _
    · intro _
      rw [ghost_fst, hs]

/-- Between polls a heartbeat is one more recent one, and nothing else is observed. -/
theorem Dwelling.waited (h : Dwelling profile (s, g)) {i : MavInput α}
    (hbegin : i ≠ .beginVerifyRtb) (hpoll : ∀ expired, i ≠ .pollRtb expired) :
    Dwelling profile (ghost MavSystem.step follow (s, g) i).1 := by
  intro v hv
  rw [ghost_fst, step_rtb hbegin hpoll] at hv
  obtain ⟨hmem, counted, recent, hobs, hheld, honly, hstale, hlast⟩ := h v hv
  refine ⟨List.mem_append_left _ hmem, ?_⟩
  cases hi : i.heartbeat? with
  | some p =>
    cases i with
    | heartbeat ns hb =>
      refine ⟨counted, recent ++ [.heartbeat hb.customMode], ?_, hheld, ?_, by simp, ?_⟩
      · show g.observed ++ [_] = _
        rw [show g.observed = counted ++ recent from hobs, List.append_assoc]
      · intro o ho
        rcases List.mem_append.mp ho with ho | ho
        · exact honly o ho
        · exact ⟨_, List.mem_singleton.mp ho⟩
      · intro mode hm
        rw [List.getLast?_concat] at hm
        exact Observation.heartbeat.inj (Option.some.inj hm)
    | _ => exact absurd hi (by simp [MavInput.heartbeat?])
  | none =>
    obtain ⟨hmode, -, -, hns⟩ := hear_of_not_heartbeat hi s.monitor
    have hsame : (follow g s i (s.step i).1).observed = g.observed := by
      cases i with
      | heartbeat ns hb => exact absurd hi (by simp [MavInput.heartbeat?])
      | beginVerifyRtb => exact absurd rfl hbegin
      | pollRtb expired => exact absurd rfl (hpoll expired)
      | _ => rfl
    refine ⟨counted, recent, ?_, hheld, honly, fun h => ?_, fun mode h => ?_⟩
    · rw [ghost_snd, hsame]; exact hobs
    · rw [ghost_fst, step_monitor, hns]; exact hstale h
    · rw [ghost_fst, step_monitor, hmode]; exact hlast mode h

end Dwelling

/-- The profile, the cells and the dwell: what holds between steps. -/
structure RtbTold (profile : VehicleProfile) (x : MavSystem α × RtbGhost α) : Prop where
  vehicle : x.1.controller.profile = profile
  cells : CellsTold x
  dwell : Dwelling profile x

theorem RtbTold.start {α : Type} (profile : VehicleProfile) :
    RtbTold profile (MavSystem.start profile, (⟨[], []⟩ : RtbGhost α)) :=
  ⟨rfl, .start profile, fun v h => absurd h (by simp [MavSystem.start])⟩

theorem RtbTold.step {profile : VehicleProfile} {x : MavSystem α × RtbGhost α}
    (h : RtbTold profile x) (i : MavInput α) :
    RtbTold profile (ghost MavSystem.step follow x i).1 := by
  obtain ⟨s, g⟩ := x
  obtain ⟨rfl, hcells, hdwell⟩ := h
  refine ⟨(step_controller s i).1, hcells.step i, ?_⟩
  cases i with
  | beginVerifyRtb => exact hcells.dwelling_begun _
  | pollRtb expired => exact hdwell.polled expired
  | _ => exact hdwell.waited nofun nofun

/-! ## Soundness of a confirmation -/

/-- What a confirmation has behind it, for a verification of a send at `sentAt`. -/
structure RtbConfirmed (profile : VehicleProfile) (sentAt : Nat) (g : RtbGhost α) :
    Prop where
  sent : .engageRtb sentAt ∈ g.hist
  held : Held profile rtbVerifyDwellPolls g.observed
  acked : ∃ ns, latest (MavInput.ackOf (expectedAckCmd profile)) g.hist =
    some (mavResultAccepted, ns) ∧ sentAt < ns
  changed : ∃ ns, ModeLastChanged g.hist ns ∧ sentAt < ns
  heartbeat : ∃ ns hb, latest MavInput.heartbeat? g.hist = some (ns, hb) ∧
    isRtlMode profile hb.customMode = true ∧
    hb.baseMode &&& mavModeFlagSafetyArmed ≠ 0

theorem pollRtb_confirms {α : Type} {c : MavFlightController} {m : MavMonitor α} {v : RtbVerify}
    {expired : Bool} (h : c.pollRtb m v expired = .returned true) :
    c.ackOk m v.sentAt = true ∧ c.causalMode m v.sentAt = true ∧
      rtbVerifyDwellPolls ≤ c.dwellCount m v := by
  unfold MavFlightController.pollRtb at h
  dsimp only at h
  split at h
  · rename_i hall
    simp only [Bool.and_eq_true, decide_eq_true_eq, ge_iff_le] at hall
    exact ⟨hall.1.1, hall.1.2, hall.2⟩
  · split at h <;> exact absurd h (by simp)

theorem step_confirmsRtb {s : MavSystem α} {i : MavInput α}
    (h : Verdict.rtb true ∈ (s.step i).2) : ∃ expired v, i = .pollRtb expired ∧
      s.rtb = .polling v ∧ s.controller.pollRtb s.monitor v expired = .returned true := by
  rcases step_says h with ⟨b, hb, -⟩ | ⟨b, hb, hrtb⟩
  · exact absurd hb (by simp)
  · obtain rfl := Verdict.rtb.inj hb
    rcases hrtb with ⟨-, hno⟩ | hpoll
    · exact absurd hno (by simp)
    · exact hpoll

/-- What is right at one step: a confirmation has all of it behind it, and there is none
    while at most two RTL heartbeats have come since the verification began. -/
def RtbSound (profile : VehicleProfile) (x : MavSystem α × RtbGhost α) (i : MavInput α) :
    Prop :=
  (Verdict.rtb true ∈ (x.1.step i).2 →
    ∃ v, x.1.rtb = .polling v ∧ RtbConfirmed profile v.sentAt x.2) ∧
  (x.2.observed.countP (rtlHeartbeat profile) ≤ 2 → Verdict.rtb true ∉ (x.1.step i).2)

theorem RtbTold.confirmed {α : Type} {profile : VehicleProfile} {s : MavSystem α} {g : RtbGhost α}
    (h : RtbTold profile (s, g)) {v : RtbVerify} {expired : Bool} (hv : s.rtb = .polling v)
    (hconf : s.controller.pollRtb s.monitor v expired = .returned true) :
    RtbConfirmed profile v.sentAt g := by
  obtain ⟨hprof, ⟨hmode, harmed, hchanged, hack, -⟩, hdwell⟩ := h
  change s.controller.profile = profile at hprof
  subst hprof
  obtain ⟨hgate₁, hgate₂, hdwellOk⟩ := pollRtb_confirms hconf
  obtain ⟨hmem, counted, recent, hobs, hheld, honly, hstale, hlast⟩ := hdwell v hv
  unfold MavFlightController.causalMode MavFlightController.modeIsRtl at hgate₂
  simp only [Bool.and_eq_true, decide_eq_true_eq, gt_iff_lt] at hgate₂
  obtain ⟨⟨hafter, hrtl⟩, hisArmed⟩ := hgate₂
  have hbase : s.monitor.currentBaseMode &&& mavModeFlagSafetyArmed ≠ 0 := by
    unfold MavMonitor.isArmed at hisArmed
    simpa using hisArmed
  refine ⟨hmem, ?_, ?_, ⟨_, hchanged (Nat.ne_of_gt (Nat.zero_lt_of_lt hafter)), hafter⟩, ?_⟩
  · rw [show g.observed = counted ++ recent from hobs]
    exact (held_dwellCount hheld honly hstale hlast).mono hdwellOk
  · unfold MavFlightController.ackOk at hgate₁
    split at hgate₁
    · rename_i result ns hl
      simp only [Bool.and_eq_true, decide_eq_true_eq, gt_iff_lt, beq_iff_eq] at hgate₁
      obtain ⟨hns, rfl⟩ := hgate₁
      exact ⟨ns, hack _ _ hl, hns⟩
    · exact absurd hgate₁ (by simp)
  · -- armed, so there is a latest heartbeat
    change _ = modeAfter g.hist at hmode
    change _ = ((latest MavInput.heartbeat? g.hist).map (·.2.baseMode)).getD 0 at harmed
    unfold modeAfter at hmode
    change isRtlMode s.controller.profile s.monitor.currentCustomMode = true at hrtl
    rw [show s.monitor.currentCustomMode = _ from hmode] at hrtl
    rw [show s.monitor.currentBaseMode = _ from harmed] at hbase
    cases hl : latest MavInput.heartbeat? g.hist with
    | none => rw [hl] at hbase; exact absurd hbase (by simp)
    | some p =>
      rw [hl] at hrtl hbase
      exact ⟨p.1, p.2, rfl, hrtl, hbase⟩

/-- **What a confirmed return-to-base proves.** Along every interleaving of heartbeats,
    acknowledgements, sends and polls, a confirmation comes after a send, with three RTL
    heartbeats since the verification began that no poll broke, the command's latest
    acknowledgement an acceptance after the send, the last mode change after the send, and
    the latest heartbeat armed and in RTL. -/
theorem rtb_confirmed_sound (profile : VehicleProfile) (is : List (MavInput α)) :
    Along (ghost MavSystem.step follow) (RtbSound profile)
      (MavSystem.start profile, ⟨[], []⟩) is := by
  refine along_of_invariant (I := RtbTold profile) (fun _ i h => h.step i) ?_
    (RtbTold.start profile)
  intro x i h
  have hsound : Verdict.rtb true ∈ (x.1.step i).2 →
      ∃ v, x.1.rtb = .polling v ∧ RtbConfirmed profile v.sentAt x.2 := by
    intro hverdict
    obtain ⟨expired, v, rfl, hv, hconf⟩ := step_confirmsRtb hverdict
    exact ⟨v, hv, h.confirmed hv hconf⟩
  refine ⟨hsound, fun hfew hverdict => ?_⟩
  obtain ⟨v, -, hc⟩ := hsound hverdict
  have hthree : 3 ≤ _ := hc.held.le_countP
  omega

/-- A compliant autopilot, in its own mode before the send, is confirmed on its third
    heartbeat in RTL. -/
example : outputs MavSystem.step (MavSystem.start .arduCopter : MavSystem ℚ)
    [.heartbeat 10 ⟨4, 0x80, 0, 3⟩, .engageRtb 20, .beginVerifyRtb,
      .ack .stored 30 mavCmdNavReturnToLaunchId mavResultAccepted,
      .heartbeat 40 ⟨6, 0x80, 0, 3⟩, .pollRtb false, .pollRtb false,
      .heartbeat 50 ⟨6, 0x80, 0, 3⟩, .pollRtb false,
      .heartbeat 60 ⟨6, 0x80, 0, 3⟩, .pollRtb false] = [.rtb true] := by
  decide +kernel

end MavSystem

end FlyingSquirrel

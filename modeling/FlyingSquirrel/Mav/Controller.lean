import FlyingSquirrel.Lib.Num
import FlyingSquirrel.Lib.Run
import FlyingSquirrel.Mav.Monitor

/-!
# The flight controller and its read-backs (`mav/controller.rs`)

`sever_gps` and `engage_rtb` write down when they sent; `verify_sever_engaged` and
`verify_rtb_engaged` poll the monitor until it shows that the autopilot did what it was
told. The listener writes the monitor in the meantime.

`MavSystem.step` interleaves all of it. A verification is a loop with local variables, so
its state between two polls is data here (`SeverVerify`, `RtbVerify`), and each poll is one
input. The datagrams themselves are not modelled: nothing below reads whether a send
succeeded.
-/

set_option autoImplicit false

namespace FlyingSquirrel

open Lib

def mavResultAccepted : Nat := 0
def mavCmdNavReturnToLaunchId : Nat := 20
def mavCmdDoSetModeId : Nat := 176

/-- Polls in a row, each on a new HEARTBEAT, on which the mode must read as RTL. -/
def rtbVerifyDwellPolls : Nat := 3

/-- Echoes past the baseline that the sever read-back waits for. -/
def severVerifyDwellEchoes : Nat := 2

/-- The wire bytes of the two parameter types the sever uses. -/
def mavParamTypeInt8 : Nat := 2
def mavParamTypeInt32 : Nat := 6

/-- The parameter whose zeroing disables GPS aiding, with its type: `GPS_TYPE`, or
    `EKF2_GPS_CTRL`. -/
def severGpsParam : VehicleProfile → ParamName × Nat
  | .arduCopter => ([71, 80, 83, 95, 84, 89, 80, 69], mavParamTypeInt8)
  | .px4 => ([69, 75, 70, 50, 95, 71, 80, 83, 95, 67, 84, 82, 76], mavParamTypeInt32)

/-- The command whose acknowledgement an RTL is confirmed by. -/
def expectedAckCmd : VehicleProfile → Nat
  | .arduCopter => mavCmdNavReturnToLaunchId
  | .px4 => mavCmdDoSetModeId

/-- What the controller keeps of its sends. Zero stands for none. -/
structure MavFlightController where
  profile : VehicleProfile
  rtbSentAtNs : Nat
  severSentAtNs : Nat
  severEchoBaseline : Nat
deriving DecidableEq, Repr

/-- The local variables of `verify_sever_engaged` between two polls. -/
structure SeverVerify where
  sentAt : Nat
  baseline : Nat
deriving DecidableEq, Repr

/-- The local variables of `verify_rtb_engaged` between two polls. -/
structure RtbVerify where
  sentAt : Nat
  consecutiveRtl : Nat
  lastHbSeen : Nat
deriving DecidableEq, Repr

/-- A verification: not running, polling, or done with its answer. -/
inductive Verify (σ : Type)
  | idle
  | polling (v : σ)
  | returned (confirmed : Bool)
deriving DecidableEq, Repr

namespace MavFlightController

variable {α : Type} [Zero α] [Neg α] [OfScientific α] [LT α] [DecidableLT α]

/-- A read-back this close to zero counts as zero. -/
def severConfirmedEps : α := 0.5

/-- Whether an echo confirms the sever: after the send, typed, zero, and with enough echoes
    counted. -/
def severEchoConfirms (echo : ParamEcho α) (sentAt baselineCount expectedTy : Nat) : Bool :=
  let causal := decide (echo.recvNs > sentAt)
  let typedZero :=
    decide (fabs echo.value < severConfirmedEps) && echo.paramType == expectedTy
  let dwellMet := decide (echo.recvCount - baselineCount ≥ severVerifyDwellEchoes)
  causal && typedZero && dwellMet

/-- How many echoes of the sever parameter the monitor has counted. -/
def echoCount (c : MavFlightController) (m : MavMonitor α) : Nat :=
  ((m.lastParamValue (severGpsParam c.profile).1).map (·.recvCount)).getD 0

/-- `sever_gps` up to its send: the baseline, and then the send time. -/
def severSnapshot (c : MavFlightController) (m : MavMonitor α) : MavFlightController :=
  { c with severEchoBaseline := c.echoCount m }

def severStamp (c : MavFlightController) (now : Nat) : MavFlightController :=
  { c with severSentAtNs := now }

/-- `engage_rtb` up to its send. -/
def engageRtb (c : MavFlightController) (now : Nat) : MavFlightController :=
  { c with rtbSentAtNs := now }

def reset (c : MavFlightController) : MavFlightController :=
  { c with rtbSentAtNs := 0, severSentAtNs := 0, severEchoBaseline := 0 }

/-- `verify_sever_engaged` up to its loop. -/
def beginVerifySever (c : MavFlightController) : Verify SeverVerify :=
  if c.severSentAtNs = 0 then .returned false
  else .polling ⟨c.severSentAtNs, c.severEchoBaseline⟩

def pollSever (c : MavFlightController) (m : MavMonitor α) (v : SeverVerify)
    (expired : Bool) : Verify SeverVerify :=
  let (name, expectedTy) := severGpsParam c.profile
  let confirmed :=
    match m.lastParamValue name with
    | some echo => severEchoConfirms echo v.sentAt v.baseline expectedTy
    | none => false
  if confirmed then .returned true
  else if expired then .returned false
  else .polling v

/-- `verify_rtb_engaged` up to its loop: the heartbeat on record does not count. -/
def beginVerifyRtb (c : MavFlightController) (m : MavMonitor α) : Verify RtbVerify :=
  if c.rtbSentAtNs = 0 then .returned false
  else .polling ⟨c.rtbSentAtNs, 0, m.lastHeartbeatNs⟩

/-- Gate 1: the command was acknowledged as accepted, after the send. -/
def ackOk (c : MavFlightController) (m : MavMonitor α) (sentAt : Nat) : Bool :=
  match m.lastAckForCmd (expectedAckCmd c.profile) with
  | some (result, ns) => decide (ns > sentAt) && result == mavResultAccepted
  | none => false

/-- Whether the mode on record is an RTL mode. -/
def modeIsRtl (c : MavFlightController) (m : MavMonitor α) : Bool :=
  isRtlMode c.profile m.currentCustomMode

/-- Gate 2: the mode changed after the send, to RTL, armed. -/
def causalMode (c : MavFlightController) (m : MavMonitor α) (sentAt : Nat) : Bool :=
  decide (m.modeChangedAtNs > sentAt) && c.modeIsRtl m && m.isArmed

/-- Gates 3 and 4: the dwell counter after an observation. An RTL mode counts on a new
    HEARTBEAT, waits on an old one, and any other mode starts over. -/
def dwellCount (c : MavFlightController) (m : MavMonitor α) (v : RtbVerify) : Nat :=
  let freshHb := decide (m.lastHeartbeatNs > v.lastHbSeen)
  if c.modeIsRtl m && freshHb then succU8 v.consecutiveRtl
  else if c.modeIsRtl m = false then 0
  else v.consecutiveRtl

def pollRtb (c : MavFlightController) (m : MavMonitor α) (v : RtbVerify) (expired : Bool) :
    Verify RtbVerify :=
  let consecutiveRtl := c.dwellCount m v
  let dwellOk := decide (consecutiveRtl ≥ rtbVerifyDwellPolls)
  if c.ackOk m v.sentAt && c.causalMode m v.sentAt && dwellOk then .returned true
  else if expired then .returned false
  else .polling { v with consecutiveRtl := consecutiveRtl, lastHbSeen := m.lastHeartbeatNs }

end MavFlightController

/-! ## The controller beside the listener -/

/-- What can happen on the link: a message recorded by the listener, a step of an action, a
    step of a verification. The eviction order of a full map comes with the record. -/
inductive MavInput (α : Type)
  | heartbeat (ns : Nat) (hb : MavMonitor.Heartbeat)
  | ack (o : IterOrder Nat (Nat × Nat)) (ns command result : Nat)
  | paramValue (o : IterOrder ParamName (ParamEcho α)) (ns : Nat) (paramId : ParamName)
      (value : α) (paramType : Nat)
  | severSnapshot
  | severStamp (now : Nat)
  | engageRtb (now : Nat)
  | reset
  | beginVerifySever
  | pollSever (expired : Bool)
  | beginVerifyRtb
  | pollRtb (expired : Bool)

inductive Verdict
  | sever (confirmed : Bool)
  | rtb (confirmed : Bool)
deriving DecidableEq, Repr

structure MavSystem (α : Type) where
  monitor : MavMonitor α
  controller : MavFlightController
  sever : Verify SeverVerify
  rtb : Verify RtbVerify

namespace MavSystem

variable {α : Type} [Zero α] [Neg α] [OfScientific α] [LT α] [DecidableLT α]

def start (profile : VehicleProfile) : MavSystem α where
  monitor := .new
  controller := ⟨profile, 0, 0, 0⟩
  sever := .idle
  rtb := .idle

/-- The verdict of a verification that has just returned. -/
def verdict {σ : Type} (say : Bool → Verdict) : Verify σ → List Verdict
  | .returned b => [say b]
  | _ => []

def step (s : MavSystem α) : MavInput α → MavSystem α × List Verdict
  | .heartbeat ns hb => ({ s with monitor := s.monitor.recordHeartbeat ns hb }, [])
  | .ack o ns command result =>
    ({ s with monitor := s.monitor.recordAck o ns command result }, [])
  | .paramValue o ns paramId value paramType =>
    ({ s with monitor := s.monitor.recordParamValue o ns paramId value paramType }, [])
  | .severSnapshot => ({ s with controller := s.controller.severSnapshot s.monitor }, [])
  | .severStamp now => ({ s with controller := s.controller.severStamp now }, [])
  | .engageRtb now => ({ s with controller := s.controller.engageRtb now }, [])
  | .reset => ({ s with controller := s.controller.reset }, [])
  | .beginVerifySever =>
    let v := s.controller.beginVerifySever
    ({ s with sever := v }, verdict .sever v)
  | .pollSever expired =>
    match s.sever with
    | .polling v =>
      let v' := s.controller.pollSever s.monitor v expired
      ({ s with sever := v' }, verdict .sever v')
    | _ => (s, [])
  | .beginVerifyRtb =>
    let v := s.controller.beginVerifyRtb s.monitor
    ({ s with rtb := v }, verdict .rtb v)
  | .pollRtb expired =>
    match s.rtb with
    | .polling v =>
      let v' := s.controller.pollRtb s.monitor v expired
      ({ s with rtb := v' }, verdict .rtb v')
    | _ => (s, [])

/-! ## What one input can do -/

/-- What the monitor makes of an input: the listener records messages, and nothing else
    writes. -/
def hear (m : MavMonitor α) : MavInput α → MavMonitor α
  | .heartbeat ns hb => m.recordHeartbeat ns hb
  | .ack o ns command result => m.recordAck o ns command result
  | .paramValue o ns paramId value paramType => m.recordParamValue o ns paramId value paramType
  | _ => m

variable {s : MavSystem α} {i : MavInput α}

theorem step_pollSever (s : MavSystem α) (expired : Bool) :
    (s.step (.pollSever expired)).1 = s ∨ ∃ v, s.sever = .polling v ∧
      (s.step (.pollSever expired)).1 =
        { s with sever := s.controller.pollSever s.monitor v expired } := by
  unfold step
  cases h : s.sever with
  | idle => exact .inl rfl
  | polling v => exact .inr ⟨v, rfl, rfl⟩
  | returned b => exact .inl rfl

theorem step_pollRtb (s : MavSystem α) (expired : Bool) :
    ((∀ v, s.rtb ≠ .polling v) ∧ (s.step (.pollRtb expired)).1 = s) ∨
    ∃ v, s.rtb = .polling v ∧
      (s.step (.pollRtb expired)).1 =
        { s with rtb := s.controller.pollRtb s.monitor v expired } := by
  unfold step
  cases h : s.rtb with
  | idle => exact .inl ⟨by simp, rfl⟩
  | polling v => exact .inr ⟨v, rfl, rfl⟩
  | returned b => exact .inl ⟨by simp, rfl⟩

theorem step_monitor (s : MavSystem α) (i : MavInput α) :
    (s.step i).1.monitor = hear s.monitor i := by
  cases i with
  | pollSever expired =>
    rcases step_pollSever s expired with h | ⟨v, -, h⟩ <;> rw [h] <;> rfl
  | pollRtb expired =>
    rcases step_pollRtb s expired with ⟨-, h⟩ | ⟨v, -, h⟩ <;> rw [h] <;> rfl
  | _ => rfl

/-- The controller only ever changes what it keeps of its sends, and a send time is the one
    of a send. -/
theorem step_controller (s : MavSystem α) (i : MavInput α) :
    (s.step i).1.controller.profile = s.controller.profile ∧
    ((s.step i).1.controller.severSentAtNs = 0 ∨
      (s.step i).1.controller.severSentAtNs = s.controller.severSentAtNs ∨
      i = .severStamp (s.step i).1.controller.severSentAtNs) ∧
    ((s.step i).1.controller.rtbSentAtNs = 0 ∨
      (s.step i).1.controller.rtbSentAtNs = s.controller.rtbSentAtNs ∨
      i = .engageRtb (s.step i).1.controller.rtbSentAtNs) := by
  cases i with
  | pollSever expired =>
    rcases step_pollSever s expired with h | ⟨v, -, h⟩ <;> rw [h] <;>
      exact ⟨rfl, .inr (.inl rfl), .inr (.inl rfl)⟩
  | pollRtb expired =>
    rcases step_pollRtb s expired with ⟨-, h⟩ | ⟨v, -, h⟩ <;> rw [h] <;>
      exact ⟨rfl, .inr (.inl rfl), .inr (.inl rfl)⟩
  | severStamp now => exact ⟨rfl, .inr (.inr rfl), .inr (.inl rfl)⟩
  | engageRtb now => exact ⟨rfl, .inr (.inl rfl), .inr (.inr rfl)⟩
  | reset => exact ⟨rfl, .inl rfl, .inl rfl⟩
  | _ => exact ⟨rfl, .inr (.inl rfl), .inr (.inl rfl)⟩

/-- A running read-back goes by what it began with. -/
theorem step_polling {v : SeverVerify} (h : (s.step i).1.sever = .polling v) :
    (i ≠ .beginVerifySever ∧ s.sever = .polling v) ∨
      (i = .beginVerifySever ∧ s.controller.severSentAtNs ≠ 0 ∧
        v = ⟨s.controller.severSentAtNs, s.controller.severEchoBaseline⟩) := by
  cases i with
  | beginVerifySever =>
    change s.controller.beginVerifySever = .polling v at h
    unfold MavFlightController.beginVerifySever at h
    split at h
    · exact absurd h (by simp)
    · rename_i hsent
      exact .inr ⟨rfl, hsent, (Verify.polling.inj h).symm⟩
  | pollSever expired =>
    refine .inl ⟨by simp, ?_⟩
    rcases step_pollSever s expired with hs | ⟨v₀, hv, hs⟩
    · rwa [hs] at h
    · rw [hs] at h
      change s.controller.pollSever s.monitor v₀ expired = .polling v at h
      unfold MavFlightController.pollSever at h
      dsimp only at h
      generalize (match s.monitor.lastParamValue (severGpsParam s.controller.profile).1 with
        | some echo => _ | none => false) = confirmed at h
      cases confirmed <;> cases expired
      · exact hv.trans h
      all_goals exact absurd h (by simp)
  | pollRtb expired =>
    refine .inl ⟨by simp, ?_⟩
    rcases step_pollRtb s expired with ⟨-, hs⟩ | ⟨v₀, -, hs⟩ <;> rwa [hs] at h
  | _ => exact .inl ⟨by simp, h⟩

theorem step_sever {v : SeverVerify} (h : (s.step i).1.sever = .polling v) :
    s.sever = .polling v ∨
      (v.sentAt = s.controller.severSentAtNs ∧ s.controller.severSentAtNs ≠ 0) := by
  rcases step_polling h with ⟨-, hold⟩ | ⟨-, hsent, rfl⟩
  · exact .inl hold
  · exact .inr ⟨rfl, hsent⟩

/-- The baseline is what the last snapshot counted, or less after a reset. -/
theorem step_severEchoBaseline (s : MavSystem α) (i : MavInput α) :
    (i = .severSnapshot ∧ (s.step i).1.controller.severEchoBaseline =
      s.controller.echoCount s.monitor) ∨
    (i ≠ .severSnapshot ∧ (s.step i).1.controller.severEchoBaseline ≤
      s.controller.severEchoBaseline) := by
  cases i with
  | severSnapshot => exact .inl ⟨rfl, rfl⟩
  | pollSever expired =>
    refine .inr ⟨by simp, le_of_eq ?_⟩
    rcases step_pollSever s expired with h | ⟨v, -, h⟩ <;> rw [h]
  | pollRtb expired =>
    refine .inr ⟨by simp, le_of_eq ?_⟩
    rcases step_pollRtb s expired with ⟨-, h⟩ | ⟨v, -, h⟩ <;> rw [h]
  | reset => exact .inr ⟨by simp, Nat.zero_le _⟩
  | _ => exact .inr ⟨by simp, le_refl _⟩

theorem mem_verdict {σ : Type} {say : Bool → Verdict} {x : Verify σ} {w : Verdict} :
    w ∈ verdict say x ↔ ∃ b, x = .returned b ∧ w = say b := by
  cases x <;> simp [verdict]

/-- **Who may speak.** A verdict comes from the poll of its own verification, or is the
    refusal of one that begins without a send. -/
theorem step_says {w : Verdict} (h : w ∈ (s.step i).2) :
    (∃ b, w = .sever b ∧ ((i = .beginVerifySever ∧ b = false) ∨
      ∃ expired v, i = .pollSever expired ∧ s.sever = .polling v ∧
        s.controller.pollSever s.monitor v expired = .returned b)) ∨
    (∃ b, w = .rtb b ∧ ((i = .beginVerifyRtb ∧ b = false) ∨
      ∃ expired v, i = .pollRtb expired ∧ s.rtb = .polling v ∧
        s.controller.pollRtb s.monitor v expired = .returned b)) := by
  cases i with
  | beginVerifySever =>
    obtain ⟨b, hb, rfl⟩ := mem_verdict.mp h
    refine .inl ⟨b, rfl, .inl ⟨rfl, ?_⟩⟩
    unfold MavFlightController.beginVerifySever at hb
    split at hb
    · exact (Verify.returned.inj hb).symm
    · exact absurd hb (by simp)
  | beginVerifyRtb =>
    obtain ⟨b, hb, rfl⟩ := mem_verdict.mp h
    refine .inr ⟨b, rfl, .inl ⟨rfl, ?_⟩⟩
    unfold MavFlightController.beginVerifyRtb at hb
    split at hb
    · exact (Verify.returned.inj hb).symm
    · exact absurd hb (by simp)
  | pollSever expired =>
    unfold step at h
    cases hv : s.sever with
    | polling v =>
      rw [hv] at h
      obtain ⟨b, hb, rfl⟩ := mem_verdict.mp h
      exact .inl ⟨b, rfl, .inr ⟨expired, v, rfl, rfl, hb⟩⟩
    | _ => rw [hv] at h; exact absurd h (by simp)
  | pollRtb expired =>
    unfold step at h
    cases hv : s.rtb with
    | polling v =>
      rw [hv] at h
      obtain ⟨b, hb, rfl⟩ := mem_verdict.mp h
      exact .inr ⟨b, rfl, .inr ⟨expired, v, rfl, rfl, hb⟩⟩
    | _ => rw [hv] at h; exact absurd h (by simp)
  | _ => exact absurd h (by simp [step])

end MavSystem

end FlyingSquirrel

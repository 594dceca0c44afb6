import FlyingSquirrel.Lib.Run
import FlyingSquirrel.Types

/-!
# The read health of the IMU (`hw/mpu6050.rs`)

The driver's read loop asks `ReadHealth` about every read. It keeps two counts: of bad reads in
a row, which the escalation ladder goes by, and of repeats of one raw frame, past which a frame
that was read counts as a bad read too.
-/

set_option autoImplicit false

namespace FlyingSquirrel

open Lib

def rawFrameLen : Nat := 14

/-- The burst of registers that one read returns. -/
abbrev RawFrame := Vector UInt8 rawFrameLen

def degradedThreshold : Nat := 100
def reinitInterval : Nat := 200
def busDownThreshold : Nat := 1000
def frozenOutputThreshold : Nat := 100

inductive TroubleKind
  | readError
  | frozenOutput
deriving DecidableEq, Repr

/-- What one bad read escalates to. -/
structure Trouble where
  kind : TroubleKind
  /-- Length of the current streak of bad reads, this one included. -/
  consecutiveErrors : Nat
  warnDegraded : Bool
  /-- Drop the descriptor and initialise again. -/
  reinit : Bool
  /-- The budget is spent. -/
  endStream : Bool
deriving DecidableEq, Repr

/-- The verdict on a read that returned bytes. -/
inductive FrameVerdict
  | fresh (recoveredAfter : Option Nat)
  | frozen (t : Trouble)
deriving DecidableEq, Repr

structure ReadHealth where
  consecutiveErrors : Nat
  lastRaw : Option RawFrame
  frozenRun : Nat
deriving DecidableEq, Repr

namespace ReadHealth

def new : ReadHealth := ⟨0, none, 0⟩

def escalate (h : ReadHealth) (kind : TroubleKind) : ReadHealth × Trouble :=
  let consecutiveErrors := succU32 h.consecutiveErrors
  let endStream := decide (consecutiveErrors ≥ busDownThreshold)
  ({ h with consecutiveErrors := consecutiveErrors },
    { kind := kind
      consecutiveErrors := consecutiveErrors
      warnDegraded := consecutiveErrors == degradedThreshold
      reinit := !endStream && consecutiveErrors % reinitInterval == 0
      endStream := endStream })

/-- The end of `on_read_ok`, where the frame passes. -/
def recover (h : ReadHealth) : ReadHealth × FrameVerdict :=
  let recoveredAfter := if h.consecutiveErrors > 0 then some h.consecutiveErrors else none
  ({ h with consecutiveErrors := 0 }, .fresh recoveredAfter)

/-- A read returned a frame. -/
def onReadOk (h : ReadHealth) (raw : RawFrame) : ReadHealth × FrameVerdict :=
  if h.lastRaw = some raw then
    let h := { h with frozenRun := succU32 h.frozenRun }
    if h.frozenRun ≥ frozenOutputThreshold then
      let (h, t) := h.escalate .frozenOutput
      (h, .frozen t)
    else h.recover
  else { h with lastRaw := some raw, frozenRun := 0 }.recover

/-- The bus transaction failed. The last frame is kept. -/
def onReadErr (h : ReadHealth) : ReadHealth × Trouble := h.escalate .readError

end ReadHealth

/-! ## The read loop

One turn of the driver's loop is a read and what the health makes of it. -/

inductive ImuRead
  | ok (raw : RawFrame)
  | err
deriving DecidableEq, Repr

/-- The frame that a read returned, if it did. -/
def ImuRead.frame? : ImuRead → Option RawFrame
  | .ok raw => some raw
  | .err => none

inductive ReadAnswer
  | verdict (v : FrameVerdict)
  | failed (t : Trouble)
deriving DecidableEq, Repr

namespace ReadAnswer

/-- The frame passes and is decoded. -/
def isFresh : ReadAnswer → Bool
  | .verdict (.fresh _) => true
  | _ => false

/-- What a bad read escalates to. -/
def trouble? : ReadAnswer → Option Trouble
  | .verdict (.fresh _) => none
  | .verdict (.frozen t) => some t
  | .failed t => some t

/-- The loop returns on this answer. -/
def endsStream (a : ReadAnswer) : Bool := a.trouble?.any (·.endStream)

end ReadAnswer

namespace ReadHealth

def answer (h : ReadHealth) : ImuRead → ReadHealth × ReadAnswer
  | .ok raw => ((h.onReadOk raw).1, .verdict (h.onReadOk raw).2)
  | .err => (h.onReadErr.1, .failed h.onReadErr.2)

def step (h : ReadHealth) (r : ImuRead) : ReadHealth × List ReadAnswer :=
  ((h.answer r).1, [(h.answer r).2])

/-! ## What one read can do -/

/-- The ladder goes up by one and says where it stands. -/
def ladder (kind : TroubleKind) (n : Nat) : Trouble where
  kind := kind
  consecutiveErrors := n
  warnDegraded := n == degradedThreshold
  reinit := !decide (n ≥ busDownThreshold) && n % reinitInterval == 0
  endStream := decide (n ≥ busDownThreshold)

/-- **What a read does.** It brings a frame unlike the last, and passes; or the last frame once
    more, short of the threshold, and passes; or it is bad, and the ladder goes up. -/
theorem answer_cases (h : ReadHealth) (r : ImuRead) :
    (∃ raw, r = .ok raw ∧ h.lastRaw ≠ some raw ∧
      h.answer r = (⟨0, some raw, 0⟩, .verdict h.recover.2)) ∨
    (∃ raw, r = .ok raw ∧ h.lastRaw = some raw ∧
      succU32 h.frozenRun < frozenOutputThreshold ∧
      h.answer r = (⟨0, some raw, succU32 h.frozenRun⟩, .verdict h.recover.2)) ∨
    (∃ raw, r = .ok raw ∧ h.lastRaw = some raw ∧
      frozenOutputThreshold ≤ succU32 h.frozenRun ∧
      h.answer r = (⟨succU32 h.consecutiveErrors, some raw, succU32 h.frozenRun⟩,
        .verdict (.frozen (ladder .frozenOutput (succU32 h.consecutiveErrors))))) ∨
    (r = .err ∧
      h.answer r = ({ h with consecutiveErrors := succU32 h.consecutiveErrors },
        .failed (ladder .readError (succU32 h.consecutiveErrors)))) := by
  cases r with
  | err => exact .inr (.inr (.inr ⟨rfl, rfl⟩))
  | ok raw =>
    by_cases hsame : h.lastRaw = some raw
    · by_cases hfrozen : frozenOutputThreshold ≤ succU32 h.frozenRun
      · have hread : h.onReadOk raw =
            (⟨succU32 h.consecutiveErrors, some raw, succU32 h.frozenRun⟩,
              .frozen (ladder .frozenOutput (succU32 h.consecutiveErrors))) := by
          unfold onReadOk
          rw [if_pos hsame]
          dsimp only
          rw [if_pos hfrozen, ← hsame]
          rfl
        refine .inr (.inr (.inl ⟨raw, rfl, hsame, hfrozen, ?_⟩))
        rw [answer, hread]
      · have hread : h.onReadOk raw = (⟨0, some raw, succU32 h.frozenRun⟩, h.recover.2) := by
          unfold onReadOk
          rw [if_pos hsame]
          dsimp only
          rw [if_neg hfrozen, ← hsame]
          rfl
        refine .inr (.inl ⟨raw, rfl, hsame, Nat.not_le.mp hfrozen, ?_⟩)
        rw [answer, hread]
    · have hread : h.onReadOk raw = (⟨0, some raw, 0⟩, h.recover.2) := by
        unfold onReadOk
        rw [if_neg hsame]
        rfl
      refine .inl ⟨raw, rfl, hsame, ?_⟩
      rw [answer, hread]

end ReadHealth

end FlyingSquirrel

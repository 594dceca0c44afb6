import FlyingSquirrel.Lib.Recency
import FlyingSquirrel.Proof.RtbReadBack

/-!
# The acknowledgements on record

The map of acknowledgements is bounded, and what it has kept can be told from the history
of the link: the 64 commands acknowledged last, each with its latest result and time. So an
acknowledgement is there to be read until 64 other commands have been acknowledged since.
-/

set_option autoImplicit false

namespace FlyingSquirrel

open Lib

/-- The command that an input acknowledges, and when. -/
def MavInput.ackWrite {α : Type} : MavInput α → Option (Nat × Nat)
  | .ack _ ns command _ => some (command, ns)
  | _ => none

def ackWrites {α : Type} (hist : List (MavInput α)) : List (Nat × Nat) :=
  hist.filterMap MavInput.ackWrite

/-- The commands acknowledged, in order. -/
def ackCommands {α : Type} (hist : List (MavInput α)) : List Nat :=
  (ackWrites hist).map Prod.fst

/-- Each acknowledgement is received after the one before it. -/
def AckTimesIncrease {α : Type} (hist : List (MavInput α)) : Prop :=
  (ackWrites hist).Pairwise (fun a b => a.2 < b.2)

instance {α : Type} (hist : List (MavInput α)) : Decidable (AckTimesIncrease hist) :=
  inferInstanceAs (Decidable (List.Pairwise _ _))

namespace MavSystem

variable {α : Type} [Zero α] [Neg α] [OfScientific α] [LT α] [DecidableLT α]

/-- The monitor after a run from the start. -/
def monitorAfter (profile : VehicleProfile) (is : List (MavInput α)) : MavMonitor α :=
  (run MavSystem.step (MavSystem.start profile) is).monitor

theorem monitorAfter_snoc (profile : VehicleProfile) (is : List (MavInput α))
    (i : MavInput α) :
    monitorAfter profile (is ++ [i]) = hear (monitorAfter profile is) i := by
  unfold monitorAfter
  rw [run_snoc, step_monitor]

/-! ## Which commands are on record -/

theorem hear_acksByCmd {α : Type} {m : MavMonitor α} {i : MavInput α} (hi : i.ackWrite = none) :
    (hear m i).acksByCmd = m.acksByCmd := by
  cases i with
  | ack o ns command result => exact absurd hi (by simp [MavInput.ackWrite])
  | paramValue o ns paramId value paramType =>
    unfold hear MavMonitor.recordParamValue
    dsimp only
    split <;> rfl
  | _ => rfl

theorem acks_kept (profile : VehicleProfile) {is : List (MavInput α)}
    (htimes : AckTimesIncrease is) :
    Kept Prod.snd MavMonitor.mapCap (monitorAfter profile is).acksByCmd (ackWrites is) := by
  refine Kept.run MavSystem.step (fun s => s.monitor.acksByCmd) MavInput.ackWrite
    (s := MavSystem.start profile) (fun s i hi => ?_) (fun s i k t hi => ?_) rfl htimes
  · rw [step_monitor, hear_acksByCmd hi]
  · rw [step_monitor]
    cases i with
    | ack o ns command result =>
      obtain ⟨rfl, rfl⟩ := Prod.mk.inj (Option.some.inj hi)
      exact ⟨o, (result, ns), rfl, rfl⟩
    | _ => exact absurd hi (by simp [MavInput.ackWrite])

/-! ## What is on record of them -/

theorem lastAckForCmd_latest (profile : VehicleProfile) {is : List (MavInput α)}
    {command : Nat} {a : Nat × Nat}
    (h : (monitorAfter profile is).lastAckForCmd command = some a) :
    latest (MavInput.ackOf command) is = some a := by
  induction is using List.reverseRecOn with
  | nil =>
    have hnone : (monitorAfter profile ([] : List (MavInput α))).lastAckForCmd command = none :=
      AList.lookup_empty _
    exact absurd (hnone.symm.trans h) (by simp)
  | append_singleton is i ih =>
    rw [monitorAfter_snoc] at h
    rcases lastAckForCmd_hear h with hi | ⟨hi, hold⟩
    · exact latest_snoc_some hi
    · exact (latest_snoc_none hi).trans (ih hold)

theorem latest_ackOf_eq_none {α : Type} {is : List (MavInput α)} {command : Nat}
    (h : command ∉ ackCommands is) : latest (MavInput.ackOf command) is = none := by
  unfold latest
  rw [List.getLast?_eq_none_iff, List.filterMap_eq_nil_iff]
  intro i hi
  cases i with
  | ack o ns command' result =>
    refine if_neg fun hc => h ?_
    unfold ackCommands ackWrites
    rw [List.map_filterMap, List.mem_filterMap]
    exact ⟨_, hi, congrArg some hc⟩
  | _ => rfl

/-- An acknowledgement is on record until 64 other commands have been acknowledged since. -/
theorem lastAckForCmd_eq (profile : VehicleProfile) {is : List (MavInput α)}
    (htimes : AckTimesIncrease is) (command : Nat) :
    (monitorAfter profile is).lastAckForCmd command =
      if (othersSince command (ackCommands is)).length < MavMonitor.mapCap then
        latest (MavInput.ackOf command) is
      else none := by
  have hin : command ∈ (monitorAfter profile is).acksByCmd ↔ command ∈ ackCommands is ∧
      (othersSince command (ackCommands is)).length < MavMonitor.mapCap :=
    (acks_kept profile htimes).mem_iff
  cases hl : (monitorAfter profile is).lastAckForCmd command with
  | some a =>
    have hmem : command ∈ (monitorAfter profile is).acksByCmd :=
      AList.lookup_isSome.mp (Option.isSome_iff_exists.mpr ⟨a, hl⟩)
    rw [if_pos (hin.mp hmem).2, lastAckForCmd_latest profile hl]
  | none =>
    have hout : command ∉ (monitorAfter profile is).acksByCmd := AList.lookup_eq_none.mp hl
    split
    · rename_i hfew
      exact (latest_ackOf_eq_none fun hmem => hout (hin.mpr ⟨hmem, hfew⟩)).symm
    · rfl

/-- **The map of acknowledgements is a recency cache.** It holds the commands acknowledged
    last, as many as there are up to 64, each with its latest acknowledgement, and a look-up
    finds that unless 64 other commands were acknowledged since. -/
theorem acksByCmd_recency (profile : VehicleProfile) (is : List (MavInput α))
    (htimes : AckTimesIncrease is) :
    (monitorAfter profile is).acksByCmd.keys.Perm ((ackCommands is).dedup.reverse.take 64) ∧
    (monitorAfter profile is).acksByCmd.entries.length = min 64 (ackCommands is).dedup.length ∧
    (∀ e ∈ (monitorAfter profile is).acksByCmd.entries,
      latest (MavInput.ackOf e.1) is = some e.2) ∧
    ∀ command, (monitorAfter profile is).lastAckForCmd command =
      if (othersSince command (ackCommands is)).length < 64 then
        latest (MavInput.ackOf command) is
      else none := by
  have hkeys := (acks_kept profile htimes).keys_perm
  refine ⟨hkeys, ?_, fun e he => ?_, lastAckForCmd_eq profile htimes⟩
  · have hlen := hkeys.length_eq
    rwa [AList.keys, List.keys, List.length_map, List.length_take, List.length_reverse] at hlen
  · exact lastAckForCmd_latest profile (AList.mem_lookup_iff.mpr he)

theorem acksByCmd_recency_refresh :
    (monitorAfter .arduCopter ([.ack .stored 1 20 0, .ack .stored 2 176 4,
      .ack .stored 3 20 2] : List (MavInput ℚ))).lastAckForCmd 20 = some (2, 3) :=
  (acksByCmd_recency .arduCopter _ (by decide)).2.2.2 20

end MavSystem

end FlyingSquirrel

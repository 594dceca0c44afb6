import Mathlib.Data.List.Basic

/-!
# Broadcast channels

Nothing in this file knows about a program. A broadcast channel keeps the last messages sent to
it, as many as it has room for. Each receiver reads at a pace of its own; one that falls further
behind than that is told how many messages it has missed, and goes on after them.

How a channel does this is left open. `Broadcast` has the operations, a `Trail` is what has gone
on in a channel, and `Documented` says what the operations do to it, up to a relation. `Accounts`
says what a receiver's answers are then worth: **each message sent is read once, in its place, or
counted once as missed.** `RingChannel` is one that is as documented.
-/

namespace FlyingSquirrel
namespace Lib

/-- What a receiver is answered. -/
inductive Received (μ : Type)
  | value (m : μ)
  | lagged (skipped : Nat)
  | closed
deriving DecidableEq, Repr

namespace Received

variable {μ : Type}

def value? : Received μ → Option μ
  | .value m => some m
  | .lagged _ | .closed => none

def skipped : Received μ → Nat
  | .lagged n => n
  | .value _ | .closed => 0

/-- How many messages the receiver is past with the answer. -/
def passes : Received μ → Nat
  | .value _ => 1
  | .lagged n => n
  | .closed => 0

def isClosed : Received μ → Bool
  | .closed => true
  | .value _ | .lagged _ => false

end Received

/-- The operations of a channel, as one of its receivers sees it. -/
class Broadcast (B : Type) (μ : outParam Type) where
  create (cap : Nat) : B
  send (b : B) (m : μ) : B
  /-- The last sender is dropped. -/
  close (b : B) : B
  /-- What the receiver is answered; `none` where it must wait. -/
  recv (b : B) : Option (Received μ × B)

/-- What has gone on in a channel. -/
structure Trail (μ : Type) where
  cap : Nat
  /-- Everything that was sent, in order. -/
  sent : List μ
  /-- How much of it the receiver has passed. -/
  passed : Nat
  closed : Bool

namespace Trail

variable {μ : Type}

def create (cap : Nat) : Trail μ := ⟨cap, [], 0, false⟩

def sends (t : Trail μ) (ms : List μ) : Trail μ := { t with sent := t.sent ++ ms }

def passes (t : Trail μ) (n : Nat) : Trail μ := { t with passed := t.passed + n }

def close (t : Trail μ) : Trail μ := { t with closed := true }

end Trail

namespace Broadcast

variable {B μ : Type} [Broadcast B μ]

/-- What is documented of a channel: which trails `Trails` allows its states. -/
structure Documented (Trails : B → Trail μ → Prop) : Prop where
  create (cap : Nat) : Trails (create cap) (.create cap)
  send {b : B} {t : Trail μ} (h : Trails b t) (m : μ) : Trails (send b m) (t.sends [m])
  close {b : B} {t : Trail μ} (h : Trails b t) : Trails (close b) t.close
  /-- A value is the next message. -/
  value {b b' : B} {t : Trail μ} {m : μ} (h : Trails b t)
    (hrecv : recv b = some (.value m, b')) : t.sent[t.passed]? = some m ∧ Trails b' (t.passes 1)
  /-- Only what the channel has no room for is missed. -/
  lagged {b b' : B} {t : Trail μ} {n : Nat} (h : Trails b t)
    (hrecv : recv b = some (.lagged n, b')) :
    0 < n ∧ t.passed + n + t.cap ≤ t.sent.length ∧ Trails b' (t.passes n)
  /-- The end comes after everything else. -/
  ended {b b' : B} {t : Trail μ} (h : Trails b t) (hrecv : recv b = some (.closed, b')) :
    t.closed = true ∧ t.passed = t.sent.length ∧ Trails b' t
  /-- The receiver waits for nothing that is there. -/
  waits {b : B} {t : Trail μ} (h : Trails b t) (hrecv : recv b = none) :
    t.closed = false ∧ t.passed = t.sent.length

def sendAll (b : B) (ms : List μ) : B := ms.foldl send b

theorem Documented.sendAll {Trails : B → Trail μ → Prop} (hdoc : Documented Trails) {b : B}
    {t : Trail μ} (h : Trails b t) (ms : List μ) : Trails (sendAll b ms) (t.sends ms) := by
  induction ms generalizing b t with
  | nil => rwa [Trail.sends, List.append_nil]
  | cons m ms ih =>
    have hrest := ih (hdoc.send h m)
    rwa [show (t.sends [m]).sends ms = t.sends (m :: ms) by simp [Trail.sends]] at hrest

/-! ## What a receiver's answers account for -/

/-- The answers account for the messages, in order: each was read, or lies in a stretch that was
    reported missed with its length. -/
inductive Accounts : List (Received μ) → List μ → Prop
  | nil : Accounts [] []
  | value {answers : List (Received μ)} {ms : List μ} (h : Accounts answers ms) (m : μ) :
      Accounts (answers ++ [.value m]) (ms ++ [m])
  | lagged {answers : List (Received μ)} {ms : List μ} (h : Accounts answers ms)
      {missed : List μ} (hmissed : missed ≠ []) :
      Accounts (answers ++ [.lagged missed.length]) (ms ++ missed)
  | closed {answers : List (Received μ)} {ms : List μ} (h : Accounts answers ms) :
      Accounts (answers ++ [.closed]) ms

def values (answers : List (Received μ)) : List μ := answers.filterMap Received.value?

def missed : List (Received μ) → Nat
  | [] => 0
  | a :: answers => a.skipped + missed answers

/-- How many messages the answers account for. -/
def accounted (answers : List (Received μ)) : Nat := (values answers).length + missed answers

@[simp] theorem values_snoc (answers : List (Received μ)) (a : Received μ) :
    values (answers ++ [a]) = values answers ++ a.value?.toList := by
  unfold values
  rw [List.filterMap_append]
  cases h : a.value? <;> simp [h]

@[simp] theorem missed_snoc (answers : List (Received μ)) (a : Received μ) :
    missed (answers ++ [a]) = missed answers + a.skipped := by
  induction answers with
  | nil => exact Nat.add_comm _ _
  | cons b answers ih =>
    rw [List.cons_append, missed, missed, ih, Nat.add_assoc]

@[simp] theorem accounted_snoc (answers : List (Received μ)) (a : Received μ) :
    accounted (answers ++ [a]) = accounted answers + a.passes := by
  have hone : a.value?.toList.length + a.skipped = a.passes := by cases a <;> simp [
    Received.value?, Received.skipped, Received.passes]
  unfold accounted
  rw [values_snoc, missed_snoc, List.length_append]
  omega

/-- What was read is in order, and nothing is read twice. -/
theorem Accounts.sublist {answers : List (Received μ)} {ms : List μ} (h : Accounts answers ms) :
    (values answers).Sublist ms := by
  induction h with
  | nil => exact List.Sublist.refl _
  | value h m ih =>
    rw [values_snoc]
    exact ih.append (List.Sublist.refl _)
  | lagged h hmissed ih =>
    rw [values_snoc]
    exact ih.append (List.nil_sublist _)
  | closed h ih => rwa [values_snoc, show (Received.closed : Received μ).value? = none from rfl,
      Option.toList_none, List.append_nil]

/-- Read and missed, together, are all. -/
theorem Accounts.count {answers : List (Received μ)} {ms : List μ} (h : Accounts answers ms) :
    accounted answers = ms.length := by
  induction h with
  | nil => rfl
  | value h m ih => rw [accounted_snoc, ih, List.length_append]; rfl
  | lagged h hmissed ih => rw [accounted_snoc, ih, List.length_append]; rfl
  | closed h ih => rw [accounted_snoc, ih]; rfl

/-- Where nothing was missed, all was read. -/
theorem Accounts.exact {answers : List (Received μ)} {ms : List μ} (h : Accounts answers ms)
    (hnone : missed answers = 0) : values answers = ms := by
  have hcount := h.count
  unfold accounted at hcount
  exact h.sublist.eq_of_length (by omega)

namespace Documented

variable {Trails : B → Trail μ → Prop} {b b' : B} {t : Trail μ} {a : Received μ}

/-- **An answer accounts for what its reader moves past.** -/
theorem recv (hdoc : Documented Trails) (h : Trails b t) {answers : List (Received μ)}
    (hacc : Accounts answers (t.sent.take t.passed)) (hle : t.passed ≤ t.sent.length)
    (hrecv : recv b = some (a, b')) :
    Trails b' (t.passes a.passes) ∧
      Accounts (answers ++ [a]) (t.sent.take (t.passed + a.passes)) ∧
      t.passed + a.passes ≤ t.sent.length := by
  cases a with
  | value m =>
    obtain ⟨hm, hnext⟩ := hdoc.value h hrecv
    obtain ⟨hlt, hget⟩ := List.getElem?_eq_some_iff.mp hm
    refine ⟨hnext, ?_, hlt⟩
    show Accounts _ (t.sent.take (t.passed + 1))
    rw [List.take_succ_eq_append_getElem hlt, hget]
    exact hacc.value m
  | lagged n =>
    obtain ⟨hpos, hroom, hnext⟩ := hdoc.lagged h hrecv
    have hall : t.passed + n ≤ t.sent.length := by omega
    refine ⟨hnext, ?_, hall⟩
    -- the messages passed over are the `n` that come next
    have hlen : ((t.sent.drop t.passed).take n).length = n := by
      rw [List.length_take, List.length_drop]
      omega
    show Accounts _ (t.sent.take (t.passed + n))
    rw [List.take_add, ← congrArg Received.lagged hlen]
    exact hacc.lagged fun hnil => by rw [hnil, List.length_nil] at hlen; omega
  | closed => exact ⟨(hdoc.ended h hrecv).2.2, hacc.closed, hle⟩

/-- A receiver that the channel has room for misses nothing. -/
theorem recv_within (hdoc : Documented Trails) (h : Trails b t)
    (hwithin : t.sent.length ≤ t.passed + t.cap) (hrecv : Broadcast.recv b = some (a, b')) :
    a.skipped = 0 := by
  cases a with
  | value m => rfl
  | closed => rfl
  | lagged n =>
    obtain ⟨hpos, hroom, -⟩ := hdoc.lagged h hrecv
    omega

end Documented

end Broadcast

/-! ## A channel that is as documented -/

structure RingChannel (μ : Type) where
  cap : Nat
  /-- The messages kept, oldest first. -/
  kept : List μ
  /-- How many were ever sent. -/
  total : Nat
  /-- Where the receiver is among them. -/
  next : Nat
  closed : Bool
deriving Repr

namespace RingChannel

variable {μ : Type}

def create (cap : Nat) : RingChannel μ := ⟨cap, [], 0, 0, false⟩

/-- The new message takes the place of the oldest one, once the ring is full. -/
def send (b : RingChannel μ) (m : μ) : RingChannel μ :=
  { b with kept := (b.kept ++ [m]).drop (b.kept.length + 1 - b.cap), total := b.total + 1 }

def close (b : RingChannel μ) : RingChannel μ := { b with closed := true }

/-- The position of the oldest message kept. -/
def oldest (b : RingChannel μ) : Nat := b.total - b.kept.length

def recv (b : RingChannel μ) : Option (Received μ × RingChannel μ) :=
  if b.next < b.oldest then some (.lagged (b.oldest - b.next), { b with next := b.oldest })
  else
    match b.kept[b.next - b.oldest]? with
    | some m => some (.value m, { b with next := b.next + 1 })
    | none => if b.closed then some (.closed, b) else none

instance : Broadcast (RingChannel μ) μ := ⟨create, send, close, recv⟩

/-- The ring keeps the end of what was sent. -/
structure Holds (b : RingChannel μ) (t : Trail μ) : Prop where
  cap : b.cap = t.cap
  total : b.total = t.sent.length
  kept : b.kept = t.sent.drop (t.sent.length - t.cap)
  next : b.next = t.passed
  closed : b.closed = t.closed
  passed_le : t.passed ≤ t.sent.length

theorem Holds.oldest {b : RingChannel μ} {t : Trail μ} (h : b.Holds t) :
    b.oldest = t.sent.length - t.cap := by
  unfold RingChannel.oldest
  rw [h.total, h.kept, List.length_drop]
  omega

theorem Holds.send {b : RingChannel μ} {t : Trail μ} (h : b.Holds t) (m : μ) :
    (b.send m).Holds (t.sends [m]) where
  cap := h.cap
  total := by
    show b.total + 1 = (t.sent ++ [m]).length
    rw [h.total, List.length_append, List.length_singleton]
  kept := by
    show (b.kept ++ [m]).drop (b.kept.length + 1 - b.cap) =
      (t.sent ++ [m]).drop ((t.sent ++ [m]).length - t.cap)
    have hkept : b.kept ++ [m] = (t.sent ++ [m]).drop (t.sent.length - t.cap) := by
      rw [h.kept, List.drop_append_of_le_length (Nat.sub_le ..)]
    have hlen : b.kept.length = t.sent.length - (t.sent.length - t.cap) := by
      rw [h.kept, List.length_drop]
    rw [hkept, List.drop_drop, hlen, h.cap, List.length_append, List.length_singleton]
    congr 1
    omega
  next := h.next
  closed := h.closed
  passed_le := by
    show t.passed ≤ (t.sent ++ [m]).length
    rw [List.length_append]
    exact Nat.le_add_right_of_le h.passed_le

/-- What the receiver is answered, by where it is. -/
theorem Holds.recv_cases {b : RingChannel μ} {t : Trail μ} (h : b.Holds t) :
    (t.passed < t.sent.length - t.cap ∧
      b.recv = some (.lagged (t.sent.length - t.cap - t.passed),
        { b with next := t.sent.length - t.cap })) ∨
    (∃ m, t.sent[t.passed]? = some m ∧
      b.recv = some (.value m, { b with next := t.passed + 1 })) ∨
    (t.passed = t.sent.length ∧ t.closed = true ∧ b.recv = some (.closed, b)) ∨
    (t.passed = t.sent.length ∧ t.closed = false ∧ b.recv = none) := by
  unfold RingChannel.recv
  rw [h.oldest, h.next, h.closed]
  by_cases hbehind : t.passed < t.sent.length - t.cap
  · rw [if_pos hbehind]
    exact .inl ⟨hbehind, rfl⟩
  · rw [if_neg hbehind, h.kept, List.getElem?_drop,
      show t.sent.length - t.cap + (t.passed - (t.sent.length - t.cap)) = t.passed by omega]
    cases hm : t.sent[t.passed]? with
    | some m => exact .inr (.inl ⟨m, rfl, rfl⟩)
    | none =>
      have hend := Nat.le_antisymm h.passed_le (List.getElem?_eq_none_iff.mp hm)
      cases hclosed : t.closed with
      | true => exact .inr (.inr (.inl ⟨hend, rfl, rfl⟩))
      | false => exact .inr (.inr (.inr ⟨hend, rfl, rfl⟩))

theorem documented : Broadcast.Documented (Holds : RingChannel μ → Trail μ → Prop) where
  create cap := ⟨rfl, rfl, List.drop_nil.symm, rfl, rfl, Nat.le_refl 0⟩
  send h m := h.send m
  close h := ⟨h.cap, h.total, h.kept, h.next, rfl, h.passed_le⟩
  value {b b' t m} h hrecv := by
    change b.recv = _ at hrecv
    rcases h.recv_cases with ⟨-, ha⟩ | ⟨m', hm, ha⟩ | ⟨-, -, ha⟩ | ⟨-, -, ha⟩
    case inr.inl =>
      obtain ⟨rfl, rfl⟩ : m' = m ∧ _ = b' := by simpa [ha] using hrecv
      obtain ⟨hlt, -⟩ := List.getElem?_eq_some_iff.mp hm
      exact ⟨hm, h.cap, h.total, h.kept, rfl, h.closed, hlt⟩
    all_goals exact absurd (ha.symm.trans hrecv) (by simp)
  lagged {b b' t n} h hrecv := by
    change b.recv = _ at hrecv
    rcases h.recv_cases with ⟨hbehind, ha⟩ | ⟨_, -, ha⟩ | ⟨-, -, ha⟩ | ⟨-, -, ha⟩
    case inl =>
      obtain ⟨rfl, rfl⟩ : _ = n ∧ _ = b' := by simpa [ha] using hrecv
      refine ⟨by omega, by omega, h.cap, h.total, h.kept, ?_, h.closed, ?_⟩
      · show t.sent.length - t.cap = t.passed + (t.sent.length - t.cap - t.passed)
        omega
      · show t.passed + (t.sent.length - t.cap - t.passed) ≤ t.sent.length
        omega
    all_goals exact absurd (ha.symm.trans hrecv) (by simp)
  ended {b b' t} h hrecv := by
    change b.recv = _ at hrecv
    rcases h.recv_cases with ⟨-, ha⟩ | ⟨_, -, ha⟩ | ⟨hend, hclosed, ha⟩ | ⟨-, -, ha⟩
    case inr.inr.inl =>
      obtain rfl : b = b' := by simpa [ha] using hrecv
      exact ⟨hclosed, hend, h⟩
    all_goals exact absurd (ha.symm.trans hrecv) (by simp)
  waits {b t} h hrecv := by
    change b.recv = _ at hrecv
    rcases h.recv_cases with ⟨-, ha⟩ | ⟨_, -, ha⟩ | ⟨-, -, ha⟩ | ⟨hend, hopen, -⟩
    case inr.inr.inr => exact ⟨hopen, hend⟩
    all_goals exact absurd (ha.symm.trans hrecv) (by simp)

end RingChannel

end Lib
end FlyingSquirrel

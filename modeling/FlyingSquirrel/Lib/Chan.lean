import Mathlib.Data.List.Basic

/-!
# Queues with an end

Nothing in this file knows about a program. A channel is a queue and whether every sender
is gone. Receiving from it answers a queued message while there is one, then, once it is
closed, the end; an open channel with nothing queued has no answer yet.
-/

namespace FlyingSquirrel
namespace Lib

/-- A multi-producer, single-consumer channel, seen by its receiver. -/
structure Chan (μ : Type) where
  queue : List μ
  closed : Bool
deriving Repr

namespace Chan

variable {μ : Type}

def empty : Chan μ := ⟨[], false⟩

/-- A sender sends. Nothing arrives once every sender is gone. -/
def send (c : Chan μ) (m : μ) : Chan μ :=
  if c.closed then c else { c with queue := c.queue ++ [m] }

def close (c : Chan μ) : Chan μ := { c with closed := true }

/-- What `recv` is ready with: `none` where it must wait, `some none` at the end. -/
def recv (c : Chan μ) : Option (Option μ) :=
  match c.queue with
  | m :: _ => some (some m)
  | [] => if c.closed then some none else none

/-- The channel after a ready `recv`. -/
def rest (c : Chan μ) : Chan μ := { c with queue := c.queue.tail }

end Chan

end Lib
end FlyingSquirrel

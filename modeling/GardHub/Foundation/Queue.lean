import GardHub.Foundation.Simulation

/-!
# Queues

What a first-in first-out queue is, as a list with its oldest entry in front,
and what enters and leaves it.  A queue may be bounded: `room` tells whether a
queue of a given length takes another entry, and a queue that does not take it
stays as it is.
-/

namespace GardHub
namespace Foundation

variable {α : Type}

inductive QueueCall (α : Type) where
  | add (a : α)
  | get

inductive QueueReply (α : Type) where
  | added
  | got (a : Option α)

/-- What a call replies, and the queue behind it. -/
def queueStep (room : Nat -> Bool) (q : List α) :
    QueueCall α -> QueueReply α × List α
  | .add a => (.added, if room q.length then q ++ [a] else q)
  | .get => (.got q.head?, q.tail)

/-!
## What enters and what leaves

Entries leave in the order in which they entered: what was in the queue and
what it took, in a row, is what it returned and what is left.
-/

/-- The entries a reply hands out. -/
def QueueReply.returned : QueueReply α -> List α
  | .added => []
  | .got a => a.toList

/-- The entries a call puts into a queue. -/
def queueTakes (room : Nat -> Bool) (q : List α) : QueueCall α -> List α
  | .add a => if room q.length then [a] else []
  | .get => []

/-- The entries that calls put into a queue, in order. -/
def queueAccepted (room : Nat -> Bool) :
    List α -> List (QueueCall α) -> List α
  | _, [] => []
  | q, call :: rest =>
      queueTakes room q call ++
        queueAccepted room (queueStep room q call).2 rest

variable {room : Nat -> Bool}

theorem queueStep_conserves (q : List α) (call : QueueCall α) :
    q ++ queueTakes room q call =
      (queueStep room q call).1.returned ++ (queueStep room q call).2 := by
  cases call with
  | add a =>
      simp only [queueTakes, queueStep, QueueReply.returned, List.nil_append]
      split <;> simp
  | get =>
      cases q <;> simp [queueTakes, queueStep, QueueReply.returned]

theorem queue_conserves (q : List α) (calls : List (QueueCall α)) :
    q ++ queueAccepted room q calls =
      (specOutputs (queueStep room) q calls).1.flatMap QueueReply.returned ++
        (specOutputs (queueStep room) q calls).2 := by
  induction calls generalizing q with
  | nil =>
      simp [queueAccepted, specOutputs]
  | cons call rest ih =>
      rw [queueAccepted, ← List.append_assoc, queueStep_conserves,
        List.append_assoc, ih, specOutputs, List.flatMap_cons,
        List.append_assoc]

/-- What is in a queue was in it before or has been put into it since. -/
theorem mem_queue_of_mem_final {q : List α} {calls : List (QueueCall α)}
    {a : α} (h : a ∈ (specOutputs (queueStep room) q calls).2) :
    a ∈ q ∨ a ∈ queueAccepted room q calls := by
  rw [← List.mem_append, queue_conserves, List.mem_append]
  exact Or.inr h

end Foundation
end GardHub

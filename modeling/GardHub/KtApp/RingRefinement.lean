import GardHub.Foundation.Queue
import GardHub.KtApp.BufferPool

/-!
# The ring as a queue

The ring of metadata buffers is a queue of at most nine of them.  Its head is a
slot whose buffer is gone, so it is full when the tail has caught up with the
head, and empty when the tail is right behind it.
-/

namespace GardHub
namespace KtApp

open Foundation
open KtLib

/-- The queue takes a buffer as long as a slot is free besides the head's. -/
def ringRoom (length : Nat) : Bool := length < 9

/-- The buffers in the ring, oldest first. -/
def MetadataBufferQueue.contents (queue : MetadataBufferQueue) :
    List MetaBuffer :=
  queue.listed.map queue.buffers

/-- A call on the ring, and the buffer it hands out if it is one to get. -/
def ringStep (queue : MetadataBufferQueue) :
    QueueCall MetaBuffer -> Option (Option MetaBuffer × MetadataBufferQueue)
  | .add buffer => some (none, ktAppMetadataBufferQueueAdd queue buffer)
  | .get =>
      let result := ktAppMetadataBufferQueueGet queue
      some (some result.1, result.2)

/-- The buffer handed out for a reply: no buffer of length 0 when there was
none to get. -/
def ringReply : QueueReply MetaBuffer -> Option MetaBuffer
  | .added => none
  | .got buffer => some (buffer.getD { address := 0, length := 0 })

/-- The queue that the ring is to be. -/
def ringSpec (waiting : List MetaBuffer) (call : QueueCall MetaBuffer) :
    Option MetaBuffer × List MetaBuffer :=
  let result := queueStep ringRoom waiting call
  (ringReply result.1, result.2)

/-!
## Slots
-/

theorem slotsBefore_of_ne {last first : Slot} (h : first ≠ last) :
    slotsBefore last first = first :: slotsBefore last (first + 1) := by
  revert last first
  decide

/-- Moving the end on by one slot adds this slot, unless it was the head's. -/
theorem slotsBefore_succ {head tail : Slot} (h : tail ≠ head) :
    slotsBefore (tail + 1) (head + 1) =
      slotsBefore tail (head + 1) ++ [tail] := by
  revert head tail
  decide

theorem slotsBefore_length_le (last first : Slot) :
    (slotsBefore last first).length ≤ 9 := by
  revert last first
  decide

theorem slotsBefore_length_eq_iff {head tail : Slot} :
    (slotsBefore tail (head + 1)).length = 9 <-> tail = head := by
  revert head tail
  decide

theorem slotsBefore_eq_nil_iff {last first : Slot} :
    slotsBefore last first = [] <-> first = last := by
  revert last first
  decide

theorem not_mem_slotsBefore (last first : Slot) :
    last ∉ slotsBefore last first := by
  revert last first
  decide

/-!
## One call
-/

section Call

variable {queue : MetadataBufferQueue}

theorem contents_length_le (queue : MetadataBufferQueue) :
    queue.contents.length ≤ 9 := by
  rw [MetadataBufferQueue.contents, List.length_map]
  exact slotsBefore_length_le _ _

theorem contents_full_iff :
    queue.contents.length = 9 <-> queue.tail = queue.head := by
  rw [MetadataBufferQueue.contents, List.length_map]
  exact slotsBefore_length_eq_iff

theorem contents_eq_nil_iff :
    queue.contents = [] <-> queue.head + 1 = queue.tail := by
  rw [MetadataBufferQueue.contents, List.map_eq_nil_iff]
  exact slotsBefore_eq_nil_iff

theorem add_of_full (h : queue.contents.length = 9) (buffer : MetaBuffer) :
    ktAppMetadataBufferQueueAdd queue buffer = queue :=
  if_pos (contents_full_iff.mp h)

theorem contents_add (h : queue.contents.length ≠ 9) (buffer : MetaBuffer) :
    (ktAppMetadataBufferQueueAdd queue buffer).contents =
      queue.contents ++ [buffer] := by
  have hroom : queue.tail ≠ queue.head := mt contents_full_iff.mpr h
  rw [ktAppMetadataBufferQueueAdd, if_neg hroom]
  simp only [MetadataBufferQueue.contents, MetadataBufferQueue.listed,
    slotsBefore_succ hroom, List.map_append, List.map_singleton,
    Function.update_self]
  congr 1
  -- The slot at the tail is none of those listed.
  refine List.map_congr_left fun i hi => Function.update_of_ne ?_ _ _
  rintro rfl
  exact not_mem_slotsBefore _ _ hi

theorem get_of_empty (h : queue.contents = []) :
    ktAppMetadataBufferQueueGet queue =
      ({ address := 0, length := 0 }, queue) :=
  if_pos (contents_eq_nil_iff.mp h)

theorem contents_get (h : queue.contents ≠ []) :
    queue.contents = (ktAppMetadataBufferQueueGet queue).1 ::
      (ktAppMetadataBufferQueueGet queue).2.contents := by
  have hnext : queue.head + 1 ≠ queue.tail := mt contents_eq_nil_iff.mpr h
  simp only [ktAppMetadataBufferQueueGet, if_neg hnext,
    MetadataBufferQueue.contents, MetadataBufferQueue.listed]
  rw [slotsBefore_of_ne hnext, List.map_cons]

theorem get_unchanged_iff :
    ktAppMetadataBufferQueueGet queue =
        ({ address := 0, length := 0 }, queue) <->
      queue.contents = [] := by
  refine ⟨fun hget => ?_, get_of_empty⟩
  by_contra hcontents
  have hlength := congrArg List.length (contents_get hcontents)
  rw [hget, List.length_cons] at hlength
  exact Nat.ne_of_lt (Nat.lt_succ_self _) hlength

theorem add_unchanged_iff (buffer : MetaBuffer) :
    ktAppMetadataBufferQueueAdd queue buffer = queue <->
      queue.contents.length = 9 := by
  refine ⟨fun hadd => ?_, fun h => add_of_full h buffer⟩
  by_contra hroom
  have hlength := congrArg List.length (contents_add hroom buffer)
  rw [hadd, List.length_append, List.length_singleton] at hlength
  exact Nat.ne_of_lt (Nat.lt_succ_self _) hlength

theorem ringStep_refines (queue : MetadataBufferQueue)
    (call : QueueCall MetaBuffer) :
    exists queue', ringStep queue call =
        some ((ringSpec queue.contents call).1, queue') ∧
      queue'.contents = (ringSpec queue.contents call).2 := by
  cases call with
  | add buffer =>
      refine ⟨_, rfl, ?_⟩
      simp only [ringSpec, queueStep]
      by_cases hfull : queue.contents.length = 9
      · rw [add_of_full hfull, hfull]
        rfl
      · have hle := contents_length_le queue
        have hroom : ringRoom queue.contents.length = true := by
          simp only [ringRoom, decide_eq_true_eq]
          lia
        rw [contents_add hfull, hroom, if_pos rfl]
  | get =>
      by_cases hempty : queue.contents = []
      · refine ⟨queue, ?_, by rw [hempty]; rfl⟩
        simp only [ringStep, get_of_empty hempty, hempty]
        rfl
      · have hget := contents_get hempty
        refine ⟨(ktAppMetadataBufferQueueGet queue).2, ?_, by rw [hget]; rfl⟩
        rw [hget]
        rfl

theorem ringStep_simulates :
    Simulates ringStep ringSpec (fun _ _ => True)
      fun queue waiting => queue.contents = waiting := by
  rintro queue _ call rfl -
  exact ringStep_refines queue call

end Call

/-!
## Whole runs
-/

/-- The buffers of the slots 1 to 9. -/
def initialWaiting (pBuffer : Slot -> Int) : List MetaBuffer :=
  (List.finRange 10).tail.map
    (ktAppMetadataBufferQueueInit pBuffer).buffers

theorem contents_init (pBuffer : Slot -> Int) :
    (ktAppMetadataBufferQueueInit pBuffer).contents = initialWaiting pBuffer := by
  have hslots : slotsBefore 0 (0 + 1) = (List.finRange 10).tail := by
    decide
  rw [MetadataBufferQueue.contents, MetadataBufferQueue.listed]
  exact congrArg (List.map _) hslots

theorem ringRun (queue : MetadataBufferQueue)
    (calls : List (QueueCall MetaBuffer)) :
    exists queue', runOutputs ringStep queue calls =
        some ((specOutputs (queueStep ringRoom) queue.contents calls).1.map
          ringReply, queue') ∧
      queue'.contents =
        (specOutputs (queueStep ringRoom) queue.contents calls).2 := by
  have hspec : specOutputs ringSpec queue.contents calls =
      ((specOutputs (queueStep ringRoom) queue.contents calls).1.map ringReply,
        (specOutputs (queueStep ringRoom) queue.contents calls).2) :=
    specOutputs_rename ringReply queue.contents calls
  rcases ringStep_simulates.run rfl
      (specAllows_of_forall (fun _ _ => trivial) _ calls)
    with ⟨queue', hrun, hcontents⟩
  rw [hspec] at hrun hcontents
  exact ⟨queue', hrun, hcontents⟩

/-- Whatever calls come after a buffer was handed out: when one with its address
is handed out again, it has been added, or was held at that point. -/
def AddedOrHeld (queue : MetadataBufferQueue) (held : List MetaBuffer) : Prop :=
  forall calls replies queue',
    runOutputs ringStep (ktAppMetadataBufferQueueGet queue).2 calls =
        some (replies, queue') ->
      queue.contents ≠ [] -> queue'.contents ≠ [] ->
      (ktAppMetadataBufferQueueGet queue').1.address =
        (ktAppMetadataBufferQueueGet queue).1.address ->
      exists buffer, buffer ∈ held ++ queueAccepted ringRoom
          (ktAppMetadataBufferQueueGet queue).2.contents calls ∧
        buffer.address = (ktAppMetadataBufferQueueGet queue).1.address

theorem addedOrHeld_contents (queue : MetadataBufferQueue) :
    AddedOrHeld queue (ktAppMetadataBufferQueueGet queue).2.contents := by
  intro calls replies queue' hrun _ hcontents haddress
  rcases ringRun (ktAppMetadataBufferQueueGet queue).2 calls with ⟨last, hrun', hlast⟩
  rw [hrun, Option.some.injEq, Prod.mk.injEq] at hrun'
  rw [← hrun'.2] at hlast
  refine ⟨_, ?_, haddress⟩
  rw [List.mem_append]
  refine mem_queue_of_mem_final ?_
  rw [← hlast, contents_get hcontents]
  exact List.mem_cons_self

/-- For any calls from the start on, the ring is a queue of at most nine
buffers that begins with those of the slots 1 to 9.  It hands out nothing
exactly when it is empty and takes nothing exactly when it is full, no buffer
that it took is lost, and one that it hands out twice was added in between or
still in the ring. -/
theorem metadataBufferQueue_isQueue (pBuffer : Slot -> Int)
    (calls : List (QueueCall MetaBuffer)) :
    exists queue,
      runOutputs ringStep (ktAppMetadataBufferQueueInit pBuffer) calls =
          some ((specOutputs (queueStep ringRoom) (initialWaiting pBuffer)
            calls).1.map ringReply, queue) ∧
        queue.contents = (specOutputs (queueStep ringRoom)
          (initialWaiting pBuffer) calls).2 ∧
        queue.contents.length ≤ 9 ∧
        (ktAppMetadataBufferQueueGet queue =
            ({ address := 0, length := 0 }, queue) <-> queue.contents = []) ∧
        (forall buffer, ktAppMetadataBufferQueueAdd queue buffer = queue <->
          queue.contents.length = 9) ∧
        initialWaiting pBuffer ++
            queueAccepted ringRoom (initialWaiting pBuffer) calls =
          (specOutputs (queueStep ringRoom) (initialWaiting pBuffer)
            calls).1.flatMap QueueReply.returned ++ queue.contents ∧
        AddedOrHeld queue (ktAppMetadataBufferQueueGet queue).2.contents := by
  rcases ringRun (ktAppMetadataBufferQueueInit pBuffer) calls
    with ⟨queue, hrun, hcontents⟩
  rw [contents_init] at hrun hcontents
  refine ⟨queue, hrun, hcontents, contents_length_le queue, get_unchanged_iff,
    add_unchanged_iff, ?_, addedOrHeld_contents queue⟩
  rw [hcontents]
  exact queue_conserves _ calls

/-- The buffer of slot 2 is added while the ring still has it: the ring hands
it out twice, with nothing added in between. -/
theorem metadataBufferQueue_hands_out_twice :
    ¬ forall calls replies queue,
      runOutputs ringStep
          (ktAppMetadataBufferQueueInit fun i => 0x1000 * (i.val + 1)) calls =
        some (replies, queue) -> AddedOrHeld queue [] := by
  intro h
  have hagain := h [.get, .add { address := 0x3000, length := 284 }] _ _ rfl
    (List.replicate 7 .get) _ _ rfl (by decide) (by decide) (by decide)
  simp [List.replicate, queueAccepted, queueTakes] at hagain

end KtApp
end GardHub

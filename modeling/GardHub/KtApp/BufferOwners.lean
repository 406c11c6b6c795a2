import GardHub.KtApp.BufferPool

/-!
# Owners of the pool's buffers

A buffer of the pool is to be with the library, in the ring, or in the hands of
the handler or a callback, and nowhere else.  Nothing in the program says where
it is: that follows from the links of the FIFO and from the two indices of the
ring.
-/

namespace GardHub
namespace KtApp

open Foundation
open Interface
open KtLib

/-- The `bi__next` pointers lead from a pointer through these addresses to the
null pointer. -/
def Links (heap : Memory) : Int -> List Int -> Prop
  | p, [] => p = 0
  | p, a :: rest => p = a ∧ a ≠ 0 ∧ Links heap (biNext heap a) rest

/-- The addresses in these slots. -/
def MetadataBufferQueue.listedAddresses (queue : MetadataBufferQueue) :
    List Int :=
  queue.listed.map fun i => (queue.buffers i).address

/-- Each buffer of the pool is linked in the FIFO, listed in the ring or held by
whoever runs, and only once. -/
def OwnedOnce (pool : BufferPool) (held : List Int) (s : KtState KtAppCtx) :
    Prop :=
  exists linked, Links s.heap s.fifo.pHead linked ∧
    forall i, (linked ++ s.app.bufferQueue.listedAddresses ++ held).count
      (pool.pBuffer i) = 1

/-- Adding a buffer that is still linked, behind which others then are not
linked any more. -/
def CutsOff (buffer : MetaBuffer) (s : KtState KtAppCtx) : Prop :=
  exists linked s', Links s.heap s.fifo.pHead linked ∧
    buffer.address ∈ linked ∧ ktAddMetadataBuffer buffer s = (none, s') ∧
    Links s'.heap s'.fifo.pHead [buffer.address] ∧
    exists a, a ∈ linked ∧ a ≠ buffer.address

/-- The points of a run at which neither the handler nor a callback runs: at the
end of the start-up and behind every frame. -/
def OwnedThroughout (pool : BufferPool) (heap : Memory)
    (frames : List MetadataFrame) : Prop :=
  forall count, count ≤ frames.length ->
    OwnedOnce pool [] (ktAppRun pool heap (frames.take count)).lib

/-!
## Counting owners
-/

theorem Links.unique {heap : Memory} {p : Int} {linked linked' : List Int}
    (h : Links heap p linked) (h' : Links heap p linked') :
    linked = linked' := by
  induction linked generalizing p linked' with
  | nil =>
      cases linked' with
      | nil =>
          rfl
      | cons a rest =>
          exact absurd (h'.1.symm.trans h) h'.2.1
  | cons a rest ih =>
      cases linked' with
      | nil =>
          exact absurd (h.1.symm.trans h') h.2.1
      | cons b rest' =>
          have hab : a = b := h.1.symm.trans h'.1
          subst hab
          rw [ih h.2.2 h'.2.2]

theorem links_of_fifoHolds {heap : Memory} {fifo : BufFifo}
    {buffers : List MetaBuffer} (h : FifoHolds heap fifo buffers) :
    Links heap fifo.pHead (buffers.map MetaBuffer.address) := by
  have hlinks : forall (list : List MetaBuffer) (p : Int),
      (forall b, b ∈ list -> b.Usable) -> Chained heap p list ->
      Links heap p (list.map MetaBuffer.address) := by
    intro list
    induction list with
    | nil =>
        intro p _ hchained
        exact hchained
    | cons b rest ih =>
        intro p husable hchained
        exact ⟨hchained.1, (husable b List.mem_cons_self).address_ne_zero,
          ih _ (fun c hc => husable c (List.mem_cons_of_mem _ hc))
            hchained.2.2⟩
  exact hlinks buffers fifo.pHead h.usable h.chained

theorem pBuffer_injective (pool : BufferPool) :
    Function.Injective pool.pBuffer := by
  intro i j hij
  by_contra hne
  have hapart := pool.apart i j hne
  simp only [ktAppMetadataBufferSize, pdFaces] at hapart
  lia

theorem QueueFits.map_address {pool : BufferPool}
    {queue : MetadataBufferQueue} (h : QueueFits pool queue)
    (slots : List Slot) :
    slots.map (fun i => (queue.buffers i).address) =
      slots.map pool.pBuffer := by
  apply List.map_congr_left
  intro i _
  exact h.address i

/-- Owners can be counted by the slots that the buffers had at first. -/
theorem count_map_pBuffer (pool : BufferPool) (slots : List Slot) (i : Slot) :
    (slots.map pool.pBuffer).count (pool.pBuffer i) = slots.count i :=
  List.count_map_of_injective slots _ (pBuffer_injective pool) i

theorem ownedOnce_of_slots {pool : BufferPool} {s : KtState KtAppCtx}
    (linked held : List Slot) {slots : List Slot}
    (hlinks : Links s.heap s.fifo.pHead (linked.map pool.pBuffer))
    (hlisted : s.app.bufferQueue.listedAddresses = slots.map pool.pBuffer)
    (hone : forall i, (linked ++ slots ++ held).count i = 1) :
    OwnedOnce pool (held.map pool.pBuffer) s := by
  refine ⟨_, hlinks, ?_⟩
  intro i
  rw [hlisted, ← List.map_append, ← List.map_append, count_map_pBuffer]
  exact hone i

theorem count_initial (i : Slot) :
    (List.finRange 10 ++ slotsBefore 0 (0 + 1)).count i =
      if i = 0 then 1 else 2 := by
  revert i
  decide

theorem count_waiting (head i : Slot) :
    ([head] ++ slotsBefore head (head + 1) ++ []).count i = 1 := by
  revert head i
  decide +kernel

theorem count_filled (head i : Slot) :
    ([] ++ slotsBefore head (head + 1) ++ [head]).count i = 1 := by
  revert head i
  decide +kernel

/-- The callback has the next one, too. -/
theorem count_got (head i : Slot) :
    ([] ++ slotsBefore head (head + 1 + 1) ++ [head, head + 1]).count i =
      1 := by
  revert head i
  decide +kernel

/-- The callback has handed that over. -/
theorem count_handedOver (head i : Slot) :
    ([head + 1] ++ slotsBefore head (head + 1 + 1) ++ [head]).count i = 1 := by
  revert head i
  decide +kernel

/-!
## Start-up
-/

/-- The library gets all ten buffers, of which the ring goes on listing nine. -/
theorem ktAppMain_owners (pool : BufferPool) (heap : Memory) :
    exists linked, Links (ktAppMain pool heap).lib.heap
        (ktAppMain pool heap).lib.fifo.pHead linked ∧
      forall i, (linked ++
          (ktAppMain pool heap).lib.app.bufferQueue.listedAddresses).count
        (pool.pBuffer i) = if i = 0 then 1 else 2 := by
  rcases ktAppMain_holds pool heap with ⟨s, hrun, hheld, happ, -⟩
  rw [hrun]
  have hlinks := links_of_fifoHolds hheld
  have hall : (initialBuffers pool).map MetaBuffer.address =
      (List.finRange 10).map pool.pBuffer := by
    rw [initialBuffers, List.map_ofFn, List.ofFn_eq_map]
    rfl
  rw [hall] at hlinks
  have hlisted : s.app.bufferQueue.listedAddresses =
      (slotsBefore 0 (0 + 1)).map pool.pBuffer := by
    rw [happ]
    exact (queueFits_init pool).map_address _
  refine ⟨_, hlinks, ?_⟩
  intro i
  rw [hlisted, ← List.map_append, count_map_pBuffer]
  exact count_initial i

theorem ktAppMain_not_ownedOnce (pool : BufferPool) (heap : Memory) :
    ¬ OwnedOnce pool [] (ktAppMain pool heap).lib := by
  rcases ktAppMain_owners pool heap with ⟨linked, hlinks, hcount⟩
  rintro ⟨linked', hlinks', hone⟩
  have hsame := hlinks'.unique hlinks
  subst hsame
  have htwo := hcount 1
  have honce := hone 1
  rw [List.append_nil, htwo, if_neg (by decide)] at honce
  cases honce

/-- The first callback of a run hands over a buffer that the library has. -/
theorem ktAppMain_cutsOff (pool : BufferPool) (heap : Memory) :
    exists out mid, ktGetMetadataBuffer (ktAppMain pool heap).lib =
        (some out, mid) ∧
      forall n s, n ≤ 10 -> Filled n out mid s ->
        exists next, (faceCb s.app s.heap out.address).added = [next] ∧
          CutsOff next s := by
  rcases ktAppMain_holds pool heap with ⟨start, hrun, hheld, happ, -⟩
  rcases initialBuffers_eq pool with ⟨later, hsplit, hlater⟩
  rw [hsplit] at hheld
  rcases hheld.ktGetMetadataBuffer with ⟨fifo, hget, hrest⟩
  have hstart := (idle_ktAppMain pool heap).2
  rw [hrun] at hstart ⊢
  rcases hstart with ⟨_, _, hbetween⟩
  have hmid : Between pool later
      { start with
        fifo := fifo
        heap := setBiNext start.heap
          ((ktAppMetadataBufferQueueInit pool.pBuffer).buffers 0).address 0 } :=
    ⟨hbetween.queue, hbetween.supplied, hrest⟩
  refine ⟨_, _, hget, ?_⟩
  intro n s hn hfilled
  have happ' : s.app = (ktAppInitialised pool heap).app :=
    hfilled.app.trans happ
  have hbehind : BehindHead start.app.bufferQueue later := by
    rw [happ]
    exact hlater
  have hout : ((ktAppMetadataBufferQueueInit pool.pBuffer).buffers 0).address =
      (headBuffer start).address := by
    rw [headBuffer, happ]
    rfl
  have hfilling : Between pool later s := hmid.filled hbehind hout hn hfilled
  rcases hlater.next with hnone | ⟨rest, hne, hnext⟩
  · have hlength := congrArg List.length hsplit
    rw [hnone, initialBuffers, List.length_ofFn] at hlength
    cases hlength
  · subst hnext
    have hcut := hfilling.held
    rcases hcut.add_again hne with ⟨fifo', heap', hadd, hheld', -⟩
    refine ⟨_, congrArg AppReaction.added (faceCb_eq hfilling.queue _ _), ?_⟩
    rw [happ']
    refine ⟨_, { s with fifo := fifo', heap := heap' }, links_of_fifoHolds hcut,
      List.mem_map_of_mem List.mem_cons_self, ?_, links_of_fifoHolds hheld', ?_⟩
    · rw [ktAddMetadataBuffer]
      simp only [ktAppInitialised]
      rw [hadd]
    · rcases List.exists_mem_of_ne_nil rest hne with ⟨b, hb⟩
      refine ⟨b.address, List.mem_map_of_mem (List.mem_cons_of_mem _ hb), ?_⟩
      have hapart := (List.pairwise_cons.mp hcut.apart).1 b hb
      have hb := (hcut.usable b (List.mem_cons_of_mem _ hb)).length_ge
      have hnext := (hcut.usable _ List.mem_cons_self).length_ge
      intro heq
      simp only [ktAppInitialised] at heq
      rcases hapart with hapart | hapart <;> lia

/-!
## From the first report on
-/

section Reports

variable {pool : BufferPool} {s : KtState KtAppCtx}

theorem Reported.ownedOnce (h : Reported pool s) : OwnedOnce pool [] s := by
  have hqueue := h.between.queue
  have hlinks := links_of_fifoHolds h.between.held
  rw [List.map_singleton, headBuffer, hqueue.address] at hlinks
  refine ownedOnce_of_slots [_] [] hlinks (hqueue.map_address _) ?_
  intro i
  rw [MetadataBufferQueue.listed, hqueue.tail]
  exact count_waiting s.app.bufferQueue.head i

/-- From the first report on, a frame that is handled does not change that: the
handler holds the buffer it has got, the callback holds two once it has got the
next one from the ring, and one again when it has handed that over. -/
theorem Reported.ownedOnce_callback (h : Reported pool s) :
    exists mid, ktGetMetadataBuffer s = (some (headBuffer s), mid) ∧
      forall n s', n ≤ 10 -> Filled n (headBuffer s) mid s' ->
        let got := ktAppMetadataBufferQueueGet s'.app.bufferQueue
        let holding := { s' with app := { s'.app with bufferQueue := got.2 } }
        OwnedOnce pool [(headBuffer s).address] s' ∧
          OwnedOnce pool [(headBuffer s).address, got.1.address] holding ∧
          exists s'', ktAddMetadataBuffer got.1 holding = (none, s'') ∧
            OwnedOnce pool [(headBuffer s).address] s'' := by
  rcases h.between.held.ktGetMetadataBuffer with ⟨fifo, hget, hrest⟩
  refine ⟨_, hget, ?_⟩
  intro n s' hn hfilled
  have hmid : Between pool []
      { s with
        fifo := fifo
        heap := setBiNext s.heap (headBuffer s).address 0 } :=
    ⟨h.between.queue, h.between.supplied, hrest⟩
  have hfilling : Between pool [] s' :=
    hmid.filled ⟨Or.inl rfl, by simp⟩ rfl hn hfilled
  have hqueue := hfilling.queue
  have hempty : Links s'.heap s'.fifo.pHead [] := hfilling.held.chained
  have hhead : (headBuffer s).address =
      pool.pBuffer s'.app.bufferQueue.head := by
    rw [headBuffer, hfilled.app]
    exact h.between.queue.address _
  rw [hhead]
  simp only [ktAppMetadataBufferQueueGet_of_tail hqueue.tail]
  have hgot : forall slots : List Slot,
      slots.map (fun i => (s'.app.bufferQueue.buffers i).address) =
        slots.map pool.pBuffer :=
    hqueue.map_address
  refine ⟨?_, ?_, ?_⟩
  · refine ownedOnce_of_slots [] [_] hempty (hgot _) ?_
    intro i
    rw [MetadataBufferQueue.listed, hqueue.tail]
    exact count_filled s'.app.bufferQueue.head i
  · rw [hqueue.address]
    refine ownedOnce_of_slots [] [_, _] hempty (hgot _) ?_
    intro i
    simp only [hqueue.tail]
    exact count_got s'.app.bufferQueue.head i
  · rcases hfilling.held.add_nil (hqueue.usable (s'.app.bufferQueue.head + 1))
      with ⟨fifo', heap', hadd, hheld, -⟩
    have hlinks := links_of_fifoHolds hheld
    rw [List.map_singleton, hqueue.address] at hlinks
    simp only [ktAddMetadataBuffer, hadd]
    refine ⟨_, rfl, ?_⟩
    refine ownedOnce_of_slots [_] [_] hlinks (hgot _) ?_
    intro i
    simp only [hqueue.tail]
    exact count_handedOver s'.app.bufferQueue.head i

end Reports

/-- The application has reported nothing and is where the start-up left it, it
has reported something, or an assertion has ended it. -/
def Owners (pool : BufferPool) (heap : Memory) (ctxt : KtContext KtAppCtx) :
    Prop :=
  ctxt = ktAppMain pool heap ∨
    (ctxt.stopped = none ∧ Reported pool ctxt.lib) ∨
    ctxt.stopped = some .idealDataType

theorem Owners.handleFrame {pool : BufferPool} {heap : Memory}
    {ctxt : KtContext KtAppCtx} (h : Owners pool heap ctxt)
    {frame : MetadataFrame} (hframe : Documented frame.rx frame.bufferSize) :
    Owners pool heap (handleFrame ctxt frame) := by
  have hhandled : forall ctxt' : KtContext KtAppCtx, ctxt'.stopped = none ->
      Idle pool ctxt'.lib ->
      KtApp.handleFrame ctxt' frame = ctxt' ∨
        Owners pool heap (KtApp.handleFrame ctxt' frame) := by
    rintro ⟨lib, stopped⟩ hstopped hidle
    simp only at hstopped
    subst hstopped
    rcases hidle.handle hframe
      with ⟨outcome, s', hrun, ⟨rfl, rfl | hreported⟩ | ⟨rfl, -⟩⟩
    · left
      simp only [KtApp.handleFrame, hrun, KtContext.ofOutcome]
    · right
      simp only [KtApp.handleFrame, hrun, KtContext.ofOutcome]
      exact Or.inr (Or.inl ⟨rfl, hreported⟩)
    · right
      simp only [KtApp.handleFrame, hrun, KtContext.ofOutcome]
      exact Or.inr (Or.inr rfl)
  rcases h with rfl | ⟨hstopped, hreported⟩ | hstopped
  · have hstart := idle_ktAppMain pool heap
    rcases hhandled _ hstart.1 hstart.2 with hsame | howners
    · rw [hsame]
      exact Or.inl rfl
    · exact howners
  · rcases hhandled _ hstopped hreported.idle with hsame | howners
    · rw [hsame]
      exact Or.inr (Or.inl ⟨hstopped, hreported⟩)
    · exact howners
  · simp only [KtApp.handleFrame, hstopped]
    exact Or.inr (Or.inr hstopped)

theorem Owners.foldl {pool : BufferPool} {heap : Memory}
    {ctxt : KtContext KtAppCtx} (h : Owners pool heap ctxt)
    {frames : List MetadataFrame}
    (hframes : forall frame, frame ∈ frames ->
      Documented frame.rx frame.bufferSize) :
    Owners pool heap (frames.foldl KtApp.handleFrame ctxt) := by
  apply List.foldlRecOn frames KtApp.handleFrame h
  intro ctxt hctxt frame hframe
  exact hctxt.handleFrame (hframes frame hframe)

/-- No run has one owner for each buffer throughout: the start-up ends with two
owners for nine of them, and the first callback hands over one that the library
has, which cuts off others.  In a run of documented frames that has not been
ended, each buffer has one owner exactly if something has been reported. -/
theorem ktAppRun_not_ownedThroughout (pool : BufferPool) (heap : Memory)
    (frames : List MetadataFrame) :
    ¬ OwnedThroughout pool heap frames ∧
      (exists out mid, ktGetMetadataBuffer (ktAppMain pool heap).lib =
          (some out, mid) ∧
        forall n s, n ≤ 10 -> Filled n out mid s ->
          exists next, (faceCb s.app s.heap out.address).added = [next] ∧
            CutsOff next s) ∧
      ((forall frame, frame ∈ frames ->
          Documented frame.rx frame.bufferSize) ->
        (ktAppRun pool heap frames).stopped = none ->
        (OwnedOnce pool [] (ktAppRun pool heap frames).lib <->
          (ktAppRun pool heap frames).lib.reports ≠ [])) := by
  have hstart := ktAppMain_not_ownedOnce pool heap
  refine ⟨?_, ktAppMain_cutsOff pool heap, ?_⟩
  · intro h
    exact hstart (h 0 (Nat.zero_le _))
  · intro hframes hstopped
    have howners : Owners pool heap (ktAppRun pool heap frames) :=
      Owners.foldl (Or.inl rfl) hframes
    rcases howners with hsame | ⟨-, hreported⟩ | hended
    · rcases ktAppMain_holds pool heap with ⟨s, hrun, -, -, hreports⟩
      rw [hsame]
      rw [hrun] at hstart ⊢
      simp [hstart, hreports]
    · simp [hreported.ownedOnce, hreported.reports_ne_nil]
    · rw [hended] at hstopped
      cases hstopped

/-- Without a single frame, the buffer on the second page is linked and listed,
and with one frame there are buffers that are cut off. -/
theorem ktAppRun_sharesBuffers :
    ¬ OwnedThroughout pagePool (fun _ => 0) [] ∧
      ¬ OwnedThroughout pagePool (fun _ => 0) [threeUsersFrame] ∧
      (exists linked,
        Links (ktAppMain pagePool (fun _ => 0)).lib.heap
          (ktAppMain pagePool (fun _ => 0)).lib.fifo.pHead linked ∧
        (linked ++ (ktAppMain pagePool
            (fun _ => 0)).lib.app.bufferQueue.listedAddresses).count
          (pageBuffer 1) = 2) := by
  have hstart := ktAppMain_not_ownedOnce pagePool (fun _ => 0)
  rcases ktAppMain_owners pagePool (fun _ => 0) with ⟨linked, hlinks, hcount⟩
  refine ⟨fun h => hstart (h 0 (Nat.zero_le _)),
    fun h => hstart (h 0 (Nat.zero_le _)), linked, hlinks, ?_⟩
  exact hcount 1

end KtApp
end GardHub

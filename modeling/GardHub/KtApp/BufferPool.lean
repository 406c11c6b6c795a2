import GardHub.KtLib.Classification
import GardHub.KtLib.Dispatcher

/-!
# The pool of metadata buffers

The application keeps its metadata buffers in a ring, from which the two face
callbacks take the next buffer for the library and to which they return the one
that was reported.  At start-up the library is given every buffer of the pool
while the ring lists them, too.
-/

namespace GardHub
namespace KtApp

open Foundation
open Interface
open KtLib

/-- An index of `buffers`, which has `KT_APP_METADATA_BUFFER_POOL_SIZE` slots.
Adding one wraps around. -/
abbrev Slot := Fin 10

/-- `KT_APP_METADATA_BUFFER_SIZE`: room for
`KT_APP_MAX_FACES_IN_METADATA_STREAM` faces. -/
def ktAppMetadataBufferSize : Nat := pdFaces 10

/-- `metadata_buffer_queue_t` -/
structure MetadataBufferQueue where
  buffers : Slot -> MetaBuffer
  head : Slot
  tail : Slot

/-- `kt_app_metadata_buffer_queue_init`, with the memory that `os_malloc`
returned for each of the slots. -/
def ktAppMetadataBufferQueueInit (pBuffer : Slot -> Int) :
    MetadataBufferQueue :=
  { buffers := fun i =>
      { address := pBuffer i, length := ktAppMetadataBufferSize }
    head := 0
    tail := 0 }

/-- `kt_app_metadata_buffer_queue_add` -/
def ktAppMetadataBufferQueueAdd (queue : MetadataBufferQueue)
    (buffer : MetaBuffer) : MetadataBufferQueue :=
  if queue.tail = queue.head then queue
  else
    { queue with
        buffers := Function.update queue.buffers queue.tail buffer
        tail := queue.tail + 1 }

/-- `kt_app_metadata_buffer_queue_get` -/
def ktAppMetadataBufferQueueGet (queue : MetadataBufferQueue) :
    MetaBuffer × MetadataBufferQueue :=
  let nextHead := queue.head + 1
  if nextHead = queue.tail then ({ address := 0, length := 0 }, queue)
  else (queue.buffers nextHead, { queue with head := nextHead })

/-- The slots from `first` on that come before `last`. -/
def slotsBefore (last first : Slot) : List Slot :=
  ((List.finRange 10).map fun k => first + k).takeWhile fun i => i ≠ last

/-- The slots `head + 1` to `tail - 1`. -/
def MetadataBufferQueue.listed (queue : MetadataBufferQueue) : List Slot :=
  slotsBefore queue.tail (queue.head + 1)

/-- What the callbacks use of `kt_app_ctx`.  `got` and `handedOver` keep a
record of the buffers that came out of the ring and of those that were passed to
`Kt_AddMetadataBuffer`. -/
structure KtAppCtx where
  bufferQueue : MetadataBufferQueue
  got : List MetaBuffer
  handedOver : List MetaBuffer

/-- The buffer that has been reported, as it goes back to the ring: its length
is that of the faces in it. -/
def reportedBuffer (heap : Memory) (pPpeData : Int) : MetaBuffer :=
  { address := pPpeData
    length := pdFaces (heap.load32 pPpeData) % 2 ^ 32 }

/-- What both face callbacks do with the buffers.  The face count is read
before the library has the new buffer, and in the source after that; see
`runCallback_inOrder`. -/
def faceCb (appCtx : KtAppCtx) (heap : Memory) (pPpeData : Int) :
    AppReaction KtAppCtx :=
  let result := ktAppMetadataBufferQueueGet appCtx.bufferQueue
  if result.1.address = 0 then
    { app := { appCtx with
        bufferQueue := result.2
        got := appCtx.got ++ [result.1] }
      heap := heap
      added := [] }
  else
    { app :=
        { bufferQueue := ktAppMetadataBufferQueueAdd result.2
            (reportedBuffer heap pPpeData)
          got := appCtx.got ++ [result.1]
          handedOver := appCtx.handedOver ++ [result.1] }
      heap := heap
      added := [result.1] }

/-- `kt_app_face_identified_cb` -/
def ktAppFaceIdentifiedCb := faceCb

/-- `kt_app_face_not_identified_cb` -/
def ktAppFaceNotIdentifiedCb := faceCb

/-- `kt_callbacks` -/
def ktCallbacks : KtCallbacks KtAppCtx :=
  { kcOnFaceIdentified := some ktAppFaceIdentifiedCb
    kcOnFaceNotIdentified := some ktAppFaceNotIdentifiedCb }

/-- The callbacks in the order of the source: get a buffer, hand it over, read
the face count, and return the buffer that was reported. -/
def faceCbInOrder (pPpeData : Int) (s : KtState KtAppCtx) :
    Option AssertSite × KtState KtAppCtx :=
  let result := ktAppMetadataBufferQueueGet s.app.bufferQueue
  let got := s.app.got ++ [result.1]
  if result.1.address = 0 then
    (none, { s with app := { s.app with bufferQueue := result.2, got := got } })
  else
    match ktAddMetadataBuffer result.1 s with
    | (some site, s') => (some site, s')
    | (none, s') =>
        (none,
          { s' with
            app :=
              { bufferQueue := ktAppMetadataBufferQueueAdd result.2
                  (reportedBuffer s'.heap pPpeData)
                got := got
                handedOver := s.app.handedOver ++ [result.1] } })

/-!
## Runs of the application
-/

/-- The memory of the pool: ten blocks that do not overlap. -/
structure BufferPool where
  pBuffer : Slot -> Int
  pos : forall i, 0 < pBuffer i
  le : forall i, pBuffer i + ktAppMetadataBufferSize ≤ 2 ^ 64
  apart : forall i j, i ≠ j ->
    pBuffer i + ktAppMetadataBufferSize ≤ pBuffer j ∨
      pBuffer j + ktAppMetadataBufferSize ≤ pBuffer i

/-- What `kt_app_main` gives to the library at start-up. -/
def initialBuffers (pool : BufferPool) : List MetaBuffer :=
  List.ofFn (ktAppMetadataBufferQueueInit pool.pBuffer).buffers

/-- KtLib behind `Kt_Init`, with the ring initialised. -/
def ktAppInitialised (pool : BufferPool) (heap : Memory) : KtState KtAppCtx :=
  { fifo := ktBufFifoInit
    heap := heap
    app :=
      { bufferQueue := ktAppMetadataBufferQueueInit pool.pBuffer
        got := []
        handedOver := initialBuffers pool }
    reports := []
    stores := [] }

/-- `kt_app_main`, up to the buffers it supplies KtLib with. -/
def ktAppMain (pool : BufferPool) (heap : Memory) : KtContext KtAppCtx :=
  let result := loopOver ktAddMetadataBuffer (initialBuffers pool)
    (ktAppInitialised pool heap)
  { lib := result.2, stopped := result.1 }

/-- A metadata message in the staging buffer. -/
structure MetadataFrame where
  rx : Memory
  bufferSize : Nat

/-- Once an assertion has failed nothing is handled any more. -/
def handleFrame (ctxt : KtContext KtAppCtx) (frame : MetadataFrame) :
    KtContext KtAppCtx :=
  match ctxt.stopped with
  | some _ => ctxt
  | none =>
      (KtContext.ofOutcome (ktHandleReceivedMetadata ktCallbacks frame.rx
        frame.bufferSize ctxt.lib)).2

/-- The application, from start-up on. -/
def ktAppRun (pool : BufferPool) (heap : Memory)
    (frames : List MetadataFrame) : KtContext KtAppCtx :=
  frames.foldl handleFrame (ktAppMain pool heap)

/-!
## The ring
-/

theorem succ_ne_self (i : Slot) : i + 1 ≠ i := by
  revert i
  decide

section Ring

variable {queue : MetadataBufferQueue}

/-- With the tail at the head, every slot but the head's waits, the next one
first. -/
theorem ktAppMetadataBufferQueueGet_of_tail (h : queue.tail = queue.head) :
    ktAppMetadataBufferQueueGet queue =
      (queue.buffers (queue.head + 1),
        { queue with head := queue.head + 1 }) := by
  rw [ktAppMetadataBufferQueueGet, h, if_neg (succ_ne_self queue.head)]

/-- What is then returned to the ring goes where the head was, and the tail
follows the head. -/
theorem ktAppMetadataBufferQueueAdd_of_tail (h : queue.tail = queue.head)
    (buffer : MetaBuffer) :
    ktAppMetadataBufferQueueAdd { queue with head := queue.head + 1 } buffer =
      { buffers := Function.update queue.buffers queue.head buffer
        head := queue.head + 1
        tail := queue.head + 1 } := by
  simp only [ktAppMetadataBufferQueueAdd, h]
  rw [if_neg (succ_ne_self queue.head).symm]

end Ring

/-!
## The invariant

The library holds the buffer of the slot at the head, and may hold more only
until the first report.  Each slot keeps the address it has from the start, and
a length that the library accepts.
-/

/-- The slots between two reports. -/
structure QueueFits (pool : BufferPool) (queue : MetadataBufferQueue) :
    Prop where
  tail : queue.tail = queue.head
  address : forall i, (queue.buffers i).address = pool.pBuffer i
  length_ge : forall i, minBufSize ≤ (queue.buffers i).length
  length_le : forall i, (queue.buffers i).length ≤ ktAppMetadataBufferSize

/-- The buffers that wait behind the head's: none, or some that start with the
next slot's. -/
structure BehindHead (queue : MetadataBufferQueue) (later : List MetaBuffer) :
    Prop where
  next : later = [] ∨ exists rest, rest ≠ [] ∧
    later = queue.buffers (queue.head + 1) :: rest
  others : forall b, b ∈ later -> exists i, i ≠ queue.head ∧ b = queue.buffers i

/-- Every buffer from the ring was one, and every length was accepted. -/
structure Supplied (appCtx : KtAppCtx) : Prop where
  got : forall b, b ∈ appCtx.got -> b.address ≠ 0
  handedOver : forall b, b ∈ appCtx.handedOver -> minBufSize ≤ b.length

/-- Between two reports, with some buffers in the FIFO. -/
structure Between (pool : BufferPool) (waiting : List MetaBuffer)
    (s : KtState KtAppCtx) : Prop where
  queue : QueueFits pool s.app.bufferQueue
  supplied : Supplied s.app
  held : FifoHolds s.heap s.fifo waiting

/-- The buffer at the head. -/
def headBuffer (s : KtState KtAppCtx) : MetaBuffer :=
  s.app.bufferQueue.buffers s.app.bufferQueue.head

/-- The library has the buffer at the head, ready to be got. -/
def Idle (pool : BufferPool) (s : KtState KtAppCtx) : Prop :=
  exists later, BehindHead s.app.bufferQueue later ∧
    Between pool (headBuffer s :: later) s

/-- The library has got it and fills it. -/
def Busy (pool : BufferPool) (s : KtState KtAppCtx) : Prop :=
  exists later, BehindHead s.app.bufferQueue later ∧ Between pool later s

/-- Something has been reported, and since then the library has the buffer at
the head and no other. -/
structure Reported (pool : BufferPool) (s : KtState KtAppCtx) : Prop where
  between : Between pool [headBuffer s] s
  reports_ne_nil : s.reports ≠ []

section Pool

variable {pool : BufferPool} {queue : MetadataBufferQueue}
  {s : KtState KtAppCtx}

theorem QueueFits.usable (h : QueueFits pool queue) (i : Slot) :
    (queue.buffers i).Usable := by
  have hge := h.length_ge i
  have hle := h.length_le i
  have hpos := pool.pos i
  have htop := pool.le i
  simp only [minBufSize] at hge
  constructor
  · rw [h.address]
    exact hpos
  · rw [h.address]
    lia
  · exact hge
  · apply lt_of_le_of_lt hle
    decide

theorem QueueFits.update (h : QueueFits pool queue) {buffer : MetaBuffer}
    (haddress : buffer.address = pool.pBuffer queue.head)
    (hge : minBufSize ≤ buffer.length)
    (hle : buffer.length ≤ ktAppMetadataBufferSize) :
    QueueFits pool
      { buffers := Function.update queue.buffers queue.head buffer
        head := queue.head + 1
        tail := queue.head + 1 } := by
  have hslots : forall i, Function.update queue.buffers queue.head buffer i =
      if i = queue.head then buffer else queue.buffers i := by
    intro i
    rw [Function.update_apply]
  refine ⟨rfl, ?_, ?_, ?_⟩
  · intro i
    simp only [hslots]
    split
    · rename_i hi
      rw [haddress, hi]
    · exact h.address i
  · intro i
    simp only [hslots]
    split
    · exact hge
    · exact h.length_ge i
  · intro i
    simp only [hslots]
    split
    · exact hle
    · exact h.length_le i

theorem Supplied.append {appCtx : KtAppCtx} (h : Supplied appCtx)
    {b : MetaBuffer} (hb : b.Usable) (queue : MetadataBufferQueue) :
    Supplied
      { bufferQueue := queue
        got := appCtx.got ++ [b]
        handedOver := appCtx.handedOver ++ [b] } := by
  constructor
  · intro c hc
    rcases List.mem_append.mp hc with hc | hc
    · exact h.got c hc
    · rcases List.mem_singleton.mp hc with rfl
      exact hb.address_ne_zero
  · intro c hc
    rcases List.mem_append.mp hc with hc | hc
    · exact h.handedOver c hc
    · rcases List.mem_singleton.mp hc with rfl
      exact hb.length_ge

/-!
## Steps between two reports
-/

theorem Reported.idle (h : Reported pool s) : Idle pool s :=
  ⟨[], ⟨Or.inl rfl, by simp⟩, h.between⟩

theorem Idle.get (h : Idle pool s) :
    exists s', ktGetMetadataBuffer s = (some (headBuffer s), s') ∧
      s'.app = s.app ∧ Busy pool s' := by
  rcases h with ⟨later, hlater, hbetween⟩
  rcases hbetween.held.ktGetMetadataBuffer with ⟨fifo, hget, hheld⟩
  exact ⟨_, hget, rfl, later, hlater,
    ⟨hbetween.queue, hbetween.supplied, hheld⟩⟩

theorem Idle.length_ne_zero (h : Idle pool s) : (headBuffer s).length ≠ 0 := by
  rcases h with ⟨later, -, hbetween⟩
  exact (hbetween.queue.usable s.app.bufferQueue.head).length_ne_zero

/-- Filling the head's buffer leaves the buffers alone that wait: each block of
the pool has room for ten faces, whatever length the library was told. -/
theorem Between.filled {n : Nat} {out : MetaBuffer} {s' : KtState KtAppCtx}
    {later : List MetaBuffer} (h : Between pool later s)
    (hlater : BehindHead s.app.bufferQueue later)
    (hout : out.address = (headBuffer s).address) (hn : n ≤ 10)
    (hfilled : Filled n out s s') : Between pool later s' := by
  have hqueue := h.queue
  refine ⟨?_, ?_, ?_⟩
  · rw [hfilled.app]
    exact hqueue
  · rw [hfilled.app]
    exact h.supplied
  · rw [hfilled.fifo]
    apply h.held.congr
    intro b hb x hlow hhigh
    rcases hlater.others b hb with ⟨i, hi, rfl⟩
    have hle := hqueue.length_le i
    have hapart := pool.apart i s.app.bufferQueue.head hi
    rw [hqueue.address] at hlow hhigh
    rw [headBuffer, hqueue.address] at hout
    symm
    apply hfilled.same
    simp only [ktAppMetadataBufferSize, pdFaces] at *
    lia

theorem Busy.filled {n : Nat} {out : MetaBuffer} {s' : KtState KtAppCtx}
    (h : Busy pool s) (hout : out.address = (headBuffer s).address)
    (hn : n ≤ 10) (hfilled : Filled n out s s') : Busy pool s' := by
  rcases h with ⟨later, hlater, hbetween⟩
  refine ⟨later, ?_, hbetween.filled hlater hout hn hfilled⟩
  rw [hfilled.app]
  exact hlater

/-- Handing over the next buffer: the library then has that one and no other,
even if it had it before. -/
theorem Busy.handOver (h : Busy pool s) :
    exists fifo heap,
      ktAddBufferToFifo s.fifo
          (s.app.bufferQueue.buffers (s.app.bufferQueue.head + 1)) s.heap =
        (none, fifo, heap) ∧
      FifoHolds heap fifo
        [s.app.bufferQueue.buffers (s.app.bufferQueue.head + 1)] ∧
      heap.load32 (headBuffer s).address =
        s.heap.load32 (headBuffer s).address := by
  rcases h with ⟨later, hlater, hbetween⟩
  have hqueue := hbetween.queue
  have hheld := hbetween.held
  have hcount : forall heap : Memory,
      (forall x, (headBuffer s).address ≤ x ->
        x < (headBuffer s).address + 4 -> heap x = s.heap x) ->
      heap.load32 (headBuffer s).address =
        s.heap.load32 (headBuffer s).address := by
    intro heap hsame
    exact Memory.load32_congr fun x hlow hhigh => hsame x hlow hhigh
  have hapart : forall i, i ≠ s.app.bufferQueue.head -> forall x,
      (headBuffer s).address ≤ x -> x < (headBuffer s).address + 4 ->
      x < (s.app.bufferQueue.buffers i).address ∨
        (s.app.bufferQueue.buffers i).address + 12 ≤ x := by
    intro i hi x hlow hhigh
    have hblocks := pool.apart i s.app.bufferQueue.head hi
    rw [headBuffer, hqueue.address] at hlow hhigh
    rw [hqueue.address]
    simp only [ktAppMetadataBufferSize, pdFaces] at hblocks
    lia
  have hnext := hapart _ (succ_ne_self s.app.bufferQueue.head)
  rcases hlater.next with hnone | ⟨rest, hrest, hsome⟩
  · subst hnone
    rcases hheld.add (hqueue.usable (s.app.bufferQueue.head + 1)) (by simp)
      with ⟨fifo, heap, hadd, hheld', hsame⟩
    refine ⟨fifo, heap, hadd, hheld', hcount heap ?_⟩
    intro x hlow hhigh
    exact hsame.same x (hnext x hlow hhigh) (by simp)
  · rw [hsome] at hheld
    rcases hheld.add_again hrest with ⟨fifo, heap, hadd, hheld', hsame⟩
    refine ⟨fifo, heap, hadd, hheld', hcount heap ?_⟩
    intro x hlow hhigh
    apply hsame.same x (hnext x hlow hhigh)
    intro c hc
    have hmem : c ∈ later := by
      rw [hsome]
      exact List.mem_cons_of_mem _ hc
    rcases hlater.others c hmem with ⟨i, hi, rfl⟩
    have hblock := hapart i hi x hlow hhigh
    lia

/-- The context behind a callback: the next buffer has been handed over and the
reported one is in its slot. -/
def appCtxAfter (appCtx : KtAppCtx) (buffer : MetaBuffer) : KtAppCtx :=
  let queue := appCtx.bufferQueue
  let next := queue.buffers (queue.head + 1)
  { bufferQueue :=
      { buffers := Function.update queue.buffers queue.head buffer
        head := queue.head + 1
        tail := queue.head + 1 }
    got := appCtx.got ++ [next]
    handedOver := appCtx.handedOver ++ [next] }

theorem faceCb_eq {appCtx : KtAppCtx} (h : QueueFits pool appCtx.bufferQueue)
    (heap : Memory) (p : Int) :
    faceCb appCtx heap p =
      { app := appCtxAfter appCtx (reportedBuffer heap p)
        heap := heap
        added :=
          [appCtx.bufferQueue.buffers (appCtx.bufferQueue.head + 1)] } := by
  have hnull := (h.usable (appCtx.bufferQueue.head + 1)).address_ne_zero
  simp only [faceCb, ktAppMetadataBufferQueueGet_of_tail h.tail, if_neg hnull,
    ktAppMetadataBufferQueueAdd_of_tail h.tail, appCtxAfter]

/-- A callback with the buffer at the head, once that holds up to ten faces. -/
theorem Busy.runCallback (h : Busy pool s) {n : Nat} {out : MetaBuffer}
    (hout : out.address = (headBuffer s).address) (hn : n ≤ 10)
    (hcounted : Counted n out s) (identified : Bool) :
    exists s', runCallback identified faceCb out s = (none, s') ∧
      Reported pool s' := by
  rcases h.handOver with ⟨fifo, heap, hadd, hheld, -⟩
  rcases h with ⟨later, -, hbetween⟩
  have hqueue := hbetween.queue
  have hlow := hcounted.1
  have hhigh := hcounted.2
  have hlength : (reportedBuffer s.heap out.address).length =
      pdFaces (s.heap.load32 out.address) := by
    simp only [reportedBuffer, pdFaces]
    lia
  have haddress : (reportedBuffer s.heap out.address).address =
      pool.pBuffer s.app.bufferQueue.head := by
    rw [reportedBuffer, hout, headBuffer, hqueue.address]
  have hge : minBufSize ≤ (reportedBuffer s.heap out.address).length := by
    rw [hlength]
    simp only [minBufSize, pdFaces]
    lia
  have hle : (reportedBuffer s.heap out.address).length ≤
      ktAppMetadataBufferSize := by
    rw [hlength]
    simp only [ktAppMetadataBufferSize, pdFaces]
    lia
  have hcalled : KtLib.runCallback identified faceCb out s =
      (none,
        { s with
          fifo := fifo
          heap := heap
          app := appCtxAfter s.app (reportedBuffer s.heap out.address)
          reports := s.reports ++ [readPpeData identified s.heap out] }) := by
    simp only [KtLib.runCallback, faceCb_eq hqueue, loopOver,
      ktAddMetadataBuffer, hadd]
  have hheld' : FifoHolds heap fifo [Function.update s.app.bufferQueue.buffers
      s.app.bufferQueue.head (reportedBuffer s.heap out.address)
      (s.app.bufferQueue.head + 1)] := by
    rw [Function.update_of_ne (succ_ne_self s.app.bufferQueue.head)]
    exact hheld
  exact ⟨_, hcalled, ⟨hqueue.update haddress hge hle,
    hbetween.supplied.append (hqueue.usable _) _, hheld'⟩, by simp⟩

/-- It makes no difference that the source reads the face count once the next
buffer has been handed over. -/
theorem Busy.runCallback_inOrder (h : Busy pool s) {out : MetaBuffer}
    (hout : out.address = (headBuffer s).address) (identified : Bool) :
    KtLib.runCallback identified faceCb out s =
      faceCbInOrder out.address
        { s with
          reports := s.reports ++ [readPpeData identified s.heap out] } := by
  rcases h.handOver with ⟨fifo, heap, hadd, -, hcount⟩
  rcases h with ⟨later, -, hbetween⟩
  have hqueue := hbetween.queue
  have hnull := (hqueue.usable (s.app.bufferQueue.head + 1)).address_ne_zero
  have hreported : reportedBuffer heap out.address =
      reportedBuffer s.heap out.address := by
    rw [reportedBuffer, reportedBuffer, hout, hcount]
  simp only [KtLib.runCallback, faceCb_eq hqueue, faceCbInOrder,
    ktAppMetadataBufferQueueGet_of_tail hqueue.tail, if_neg hnull, loopOver,
    ktAddMetadataBuffer, hadd, hreported, appCtxAfter,
    ktAppMetadataBufferQueueAdd_of_tail hqueue.tail]

/-!
## Frames
-/

theorem Busy.callsBack (h : Busy pool s) {out : MetaBuffer}
    (hout : out.address = (headBuffer s).address) {n : Nat} (hn : n ≤ 10)
    (identified : Bool) :
    CallsBack (KtLib.runCallback identified faceCb out) n out s
      (Reported pool) := by
  intro s' hfilled hcounted
  have hout' : out.address = (headBuffer s').address := by
    rw [headBuffer, hfilled.app]
    exact hout
  exact (h.filled hout hn hfilled).runCallback hout' hn hcounted identified

theorem Busy.handleUsers (h : Busy pool s) {rx : Memory} {bufferSize : Nat}
    (hrx : Documented rx bufferSize) (hne : nbUsers rx ≠ 0)
    (ideal : Option Nat) :
    exists s', handleUsers ktCallbacks rx ideal (headBuffer s) s =
      (.returned true, s') ∧ Reported pool s' := by
  have hle := hrx.loopCount_le
  apply handleUsers_rule hrx.userType_of_lt (by lia) (hrx.loopCount_pos hne)
  · rintro callback ⟨rfl⟩ s' hfilled hcounted
    rcases h.callsBack rfl hle true s' hfilled hcounted
      with ⟨mid, hcalled, hreported⟩
    refine ⟨mid, hcalled, hreported, ?_⟩
    rcases hreported.idle.get with ⟨next, hget, happ, hbusy⟩
    have hhead : (headBuffer mid).address = (headBuffer next).address := by
      rw [headBuffer, headBuffer, happ]
    exact ⟨_, next, hget, hreported.idle.length_ne_zero,
      hbusy.callsBack hhead hle false⟩
  · exact h.callsBack rfl hle false
  · intro hnone
    cases hnone

/-- What is made of a documented frame: there is nobody in it, it is reported,
or an assertion fails because of a hand behind the users. -/
theorem Idle.handle (h : Idle pool s) {rx : Memory} {bufferSize : Nat}
    (hrx : Documented rx bufferSize) :
    exists outcome s',
      ktHandleReceivedMetadata ktCallbacks rx bufferSize s = (outcome, s') ∧
        ((outcome = .returned true ∧ (s' = s ∨ Reported pool s')) ∨
          (outcome = .assertFailed .idealDataType ∧ Supplied s'.app)) := by
  have hle := hrx.loopCount_le
  by_cases hzero : nbUsers rx = 0
  · exact ⟨.returned true, s, ktHandleReceivedMetadata_nobody ktCallbacks s
      hrx.bufferSize_ne_zero hrx.responseType hrx.responseVersion hzero,
      Or.inl ⟨rfl, Or.inl rfl⟩⟩
  · rcases h.get with ⟨mid, hget, happ, hbusy⟩
    by_cases hideal : IdealUserFirst rx bufferSize
    · rw [ktHandleReceivedMetadata_got ktCallbacks hrx.bufferSize_ne_zero
        hrx.responseType hrx.responseVersion hrx.nbUsers_le_supported hzero
        hideal hget h.length_ne_zero]
      have hhead : headBuffer mid = headBuffer s := by
        rw [headBuffer, headBuffer, happ]
      rcases hbusy.handleUsers hrx hzero (idealUser rx bufferSize)
        with ⟨s', hreturned, hreported⟩
      rw [hhead] at hreturned
      exact ⟨_, s', hreturned, Or.inl ⟨rfl, Or.inr hreported⟩⟩
    · rw [IdealUserFirst, Classical.not_imp] at hideal
      refine ⟨_, mid, ktHandleReceivedMetadata_otherIdeal ktCallbacks
        hrx.bufferSize_ne_zero hrx.responseType hrx.responseVersion
        hrx.nbUsers_le_supported hzero hideal hget h.length_ne_zero,
        Or.inr ⟨rfl, ?_⟩⟩
      rcases hbusy with ⟨later, -, hbetween⟩
      exact hbetween.supplied

end Pool

/-!
## Start-up
-/

theorem queueFits_init (pool : BufferPool) :
    QueueFits pool (ktAppMetadataBufferQueueInit pool.pBuffer) := by
  have hsize : minBufSize ≤ ktAppMetadataBufferSize := by
    decide
  exact ⟨rfl, fun _ => rfl, fun _ => hsize, fun _ => le_rfl⟩

/-- Behind the first slot's buffer, the others wait in the order of their
slots. -/
theorem initialBuffers_eq (pool : BufferPool) :
    exists later,
      initialBuffers pool =
        (ktAppMetadataBufferQueueInit pool.pBuffer).buffers 0 :: later ∧
      BehindHead (ktAppMetadataBufferQueueInit pool.pBuffer) later := by
  refine ⟨List.ofFn fun i : Fin 9 =>
    (ktAppMetadataBufferQueueInit pool.pBuffer).buffers i.succ, ?_, ?_, ?_⟩
  · rw [initialBuffers, List.ofFn_succ]
  · right
    refine ⟨List.ofFn fun i : Fin 8 =>
      (ktAppMetadataBufferQueueInit pool.pBuffer).buffers i.succ.succ, ?_, ?_⟩
    · simp
    · rw [List.ofFn_succ]
      rfl
  · intro b hb
    rcases List.mem_ofFn.mp hb with ⟨i, rfl⟩
    exact ⟨i.succ, Fin.succ_ne_zero i, rfl⟩

/-- Every buffer of the pool is accepted, and the library has them all. -/
theorem ktAppMain_holds (pool : BufferPool) (heap : Memory) :
    exists s, ktAppMain pool heap = { lib := s, stopped := none } ∧
      FifoHolds s.heap s.fifo (initialBuffers pool) ∧
      s.app = (ktAppInitialised pool heap).app ∧ s.reports = [] := by
  have hfits := queueFits_init pool
  have husable : forall b, b ∈ initialBuffers pool -> b.Usable := by
    intro b hb
    rcases List.mem_ofFn.mp hb with ⟨i, rfl⟩
    exact hfits.usable i
  have hapart : ([] ++ initialBuffers pool).Pairwise MetaBuffer.Apart := by
    apply List.pairwise_ofFn.mpr
    intro i j hij
    exact pool.apart i j (Fin.ne_of_lt hij)
  have hinit : FifoHolds (ktAppInitialised pool heap).heap
      (ktAppInitialised pool heap).fifo [] :=
    fifoHolds_init heap
  rcases loopOver_ktAddMetadataBuffer hinit husable hapart
    with ⟨s, hloop, hall⟩
  have happ : s.app = (ktAppInitialised pool heap).app := by
    have hsame := (loopOver_ktAddMetadataBuffer_same (initialBuffers pool)
      (ktAppInitialised pool heap)).1
    rwa [hloop] at hsame
  have hrun : ktAppMain pool heap = { lib := s, stopped := none } := by
    simp only [ktAppMain, hloop]
  have hheld := hall.held
  rw [List.nil_append] at hheld
  exact ⟨s, hrun, hheld, happ, hall.reports⟩

theorem idle_ktAppMain (pool : BufferPool) (heap : Memory) :
    (ktAppMain pool heap).stopped = none ∧
      Idle pool (ktAppMain pool heap).lib := by
  rcases ktAppMain_holds pool heap with ⟨s, hrun, hheld, happ, -⟩
  rw [hrun]
  refine ⟨rfl, ?_⟩
  rcases initialBuffers_eq pool with ⟨later, hsplit, hlater⟩
  rw [hsplit] at hheld
  have hfits := queueFits_init pool
  refine ⟨later, ?_, ?_, ⟨?_, ?_⟩, ?_⟩
  · rw [happ]
    exact hlater
  · rw [happ]
    exact hfits
  · rw [happ]
    intro b hb
    cases hb
  · rw [happ]
    intro b hb
    rcases List.mem_ofFn.mp hb with ⟨i, rfl⟩
    exact hfits.length_ge i
  · rw [headBuffer, happ]
    exact hheld

/-!
## Runs
-/

/-- The application waits for the next frame, or it stays in an assertion that has
failed on a record of a hand where an ideal user was expected. -/
def Running (pool : BufferPool) (ctxt : KtContext KtAppCtx) : Prop :=
  (ctxt.stopped = none ∧ Idle pool ctxt.lib) ∨
    (ctxt.stopped = some .idealDataType ∧ Supplied ctxt.lib.app)

theorem Running.handleFrame {pool : BufferPool} {ctxt : KtContext KtAppCtx}
    (h : Running pool ctxt) {frame : MetadataFrame}
    (hframe : Documented frame.rx frame.bufferSize) :
    Running pool (handleFrame ctxt frame) := by
  rcases h with ⟨hstopped, hidle⟩ | ⟨hstopped, hsupplied⟩
  · rcases hidle.handle hframe
      with ⟨outcome, s', hrun, ⟨rfl, rfl | hreported⟩ | ⟨rfl, hsupplied⟩⟩
    · simp only [KtApp.handleFrame, hstopped, hrun, KtContext.ofOutcome]
      exact Or.inl ⟨rfl, hidle⟩
    · simp only [KtApp.handleFrame, hstopped, hrun, KtContext.ofOutcome]
      exact Or.inl ⟨rfl, hreported.idle⟩
    · simp only [KtApp.handleFrame, hstopped, hrun, KtContext.ofOutcome]
      exact Or.inr ⟨rfl, hsupplied⟩
  · simp only [KtApp.handleFrame, hstopped]
    exact Or.inr ⟨hstopped, hsupplied⟩

theorem Running.foldl {pool : BufferPool} {ctxt : KtContext KtAppCtx}
    (h : Running pool ctxt) {frames : List MetadataFrame}
    (hframes : forall frame, frame ∈ frames ->
      Documented frame.rx frame.bufferSize) :
    Running pool (frames.foldl KtApp.handleFrame ctxt) := by
  apply List.foldlRecOn frames KtApp.handleFrame h
  intro ctxt hctxt frame hframe
  exact hctxt.handleFrame (hframes frame hframe)

/-- Over any run of documented frames the buffers suffice.  No assertion about a
missing or a short buffer fails, neither the two behind
`Kt_GetMetadataBuffer` nor those of `Kt_AddMetadataBuffer`; the ring always has
a buffer for the callbacks; and what the library is given is long enough. -/
theorem ktAppRun_buffersSuffice (pool : BufferPool) (heap : Memory)
    (frames : List MetadataFrame)
    (hframes : forall frame, frame ∈ frames ->
      Documented frame.rx frame.bufferSize) :
    ((ktAppRun pool heap frames).stopped = none ∨
        (ktAppRun pool heap frames).stopped = some .idealDataType) ∧
      (forall b, b ∈ (ktAppRun pool heap frames).lib.app.got ->
        b.address ≠ 0) ∧
      (forall b, b ∈ (ktAppRun pool heap frames).lib.app.handedOver ->
        minBufSize ≤ b.length) := by
  have hstart := idle_ktAppMain pool heap
  have hrunning : Running pool (ktAppRun pool heap frames) :=
    Running.foldl (Or.inl hstart) hframes
  rcases hrunning with ⟨hstopped, later, -, hbetween⟩ | ⟨hstopped, hsupplied⟩
  · exact ⟨Or.inl hstopped, hbetween.supplied.got,
      hbetween.supplied.handedOver⟩
  · exact ⟨Or.inr hstopped, hsupplied.got, hsupplied.handedOver⟩

/-- A block on every page. -/
def pageBuffer (i : Slot) : Int := 4096 * (i.val + 1)

theorem pageBuffer_pos (i : Slot) : 0 < pageBuffer i := by
  unfold pageBuffer
  lia

theorem pageBuffer_le (i : Slot) :
    pageBuffer i + ktAppMetadataBufferSize ≤ 2 ^ 64 := by
  have hlt := i.isLt
  simp only [pageBuffer, ktAppMetadataBufferSize, pdFaces]
  lia

theorem pageBuffer_apart (i j : Slot) (hij : i ≠ j) :
    pageBuffer i + ktAppMetadataBufferSize ≤ pageBuffer j ∨
      pageBuffer j + ktAppMetadataBufferSize ≤ pageBuffer i := by
  have hne : i.val ≠ j.val := by
    intro heq
    exact hij (Fin.ext heq)
  simp only [pageBuffer, ktAppMetadataBufferSize, pdFaces]
  lia

def pagePool : BufferPool :=
  { pBuffer := pageBuffer
    pos := pageBuffer_pos
    le := pageBuffer_le
    apart := pageBuffer_apart }

def threeUsersFrame : MetadataFrame :=
  { rx := received threeUsers, bufferSize := threeUsers.length }

/-- Twelve frames with two reports each take the ring around more than twice. -/
theorem ktAppRun_buffersSuffice_twelve :
    ((ktAppRun pagePool (fun _ => 0)
          (List.replicate 12 threeUsersFrame)).stopped = none ∨
        (ktAppRun pagePool (fun _ => 0)
          (List.replicate 12 threeUsersFrame)).stopped =
            some .idealDataType) ∧
      (forall b, b ∈ (ktAppRun pagePool (fun _ => 0)
          (List.replicate 12 threeUsersFrame)).lib.app.got ->
        b.address ≠ 0) ∧
      (forall b, b ∈ (ktAppRun pagePool (fun _ => 0)
          (List.replicate 12 threeUsersFrame)).lib.app.handedOver ->
        minBufSize ≤ b.length) := by
  apply ktAppRun_buffersSuffice
  intro frame hframe
  rw [List.eq_of_mem_replicate hframe]
  exact documented_threeUsers

end KtApp
end GardHub

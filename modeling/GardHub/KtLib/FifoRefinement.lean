import GardHub.Foundation.Queue
import GardHub.Foundation.Simulation
import GardHub.KtLib.Metadata

/-!
# The buffer FIFOs

The library keeps two FIFOs of application buffers, one for metadata and one
for QR strings.  The calls on them are simulated by two queues of buffers: the
lists threaded through the buffers hold what the queues hold, whatever the
owner of a buffer did to it before it was added.
-/

namespace GardHub
namespace KtLib

open Foundation

/-!
## The calls
-/

/-- `kc__meta_buf_fifo` and `kc__qr_buf_fifo` -/
inductive KtFifo where
  | metadata
  | qrString
deriving DecidableEq

theorem KtFifo.forall_iff {p : KtFifo -> Prop} :
    (forall f, p f) <-> p .metadata ∧ p .qrString := by
  constructor
  · intro h
    exact ⟨h .metadata, h .qrString⟩
  · rintro ⟨hmetadata, hqrString⟩ f
    cases f with
    | metadata =>
        exact hmetadata
    | qrString =>
        exact hqrString

/-- The two FIFOs of the context, and the memory their buffers lie in. -/
structure KtFifos where
  heap : Memory
  bufFifo : KtFifo -> BufFifo

namespace KtFifos

/-- `Kt_BufFifo_Init` on both FIFOs. -/
def init (heap : Memory) : KtFifos :=
  { heap := heap, bufFifo := fun _ => ktBufFifoInit }

def addBuffer (f : KtFifo) (buffer : MetaBuffer) (c : KtFifos) :
    Option AssertSite × KtFifos :=
  let result := ktAddBufferToFifo (c.bufFifo f) buffer c.heap
  (result.1,
    { heap := result.2.2
      bufFifo := Function.update c.bufFifo f result.2.1 })

def getBuffer (f : KtFifo) (c : KtFifos) : Option MetaBuffer × KtFifos :=
  if ktBufFifoIsEmpty (c.bufFifo f) then (none, c)
  else
    let result := ktGetBufferFromFifo (c.bufFifo f) c.heap
    (some result.1,
      { heap := result.2.2
        bufFifo := Function.update c.bufFifo f result.2.1 })

/-- The loop that frees the buffers of a FIFO, with the addresses it frees.
`osMemFree` is what freeing does to memory. -/
def releaseLoop (osMemFree : Int -> Memory -> Memory) :
    Nat -> BufFifo -> Memory -> Option (List Int × BufFifo × Memory)
  | 0, _, _ => none
  | fuel + 1, fifo, heap =>
      if ktBufFifoIsEmpty fifo then some ([], fifo, heap)
      else
        let result := ktGetBufferFromFifo fifo heap
        (releaseLoop osMemFree fuel result.2.1
          (osMemFree result.1.address result.2.2)).map fun tail =>
            (result.1.address :: tail.1, tail.2)

def releaseBuffers (osMemFree : Int -> Memory -> Memory) (fuel : Nat)
    (f : KtFifo) (c : KtFifos) : Option (List Int × KtFifos) :=
  (releaseLoop osMemFree fuel (c.bufFifo f) c.heap).map fun result =>
    (result.1,
      { heap := result.2.2
        bufFifo := Function.update c.bufFifo f result.2.1 })

/-- `Kt_AddMetadataBuffer` -/
def ktAddMetadataBuffer := addBuffer .metadata

/-- `Kt_GetMetadataBuffer` -/
def ktGetMetadataBuffer := getBuffer .metadata

/-- `Kt_ReleaseMetadataBuffers` -/
def ktReleaseMetadataBuffers (osMemFree : Int -> Memory -> Memory)
    (fuel : Nat) :=
  releaseBuffers osMemFree fuel .metadata

/-- `Kt_AddQrStringBuffer` -/
def ktAddQrStringBuffer := addBuffer .qrString

/-- `Kt_GetQrStringBuffer` -/
def ktGetQrStringBuffer := getBuffer .qrString

/-- `Kt_ReleaseQrStringBuffers` -/
def ktReleaseQrStringBuffers (osMemFree : Int -> Memory -> Memory)
    (fuel : Nat) :=
  releaseBuffers osMemFree fuel .qrString

end KtFifos

/-- A call on a FIFO, or a write to memory by the owner of a buffer. -/
inductive FifoCall where
  | add (f : KtFifo) (buffer : MetaBuffer)
  | get (f : KtFifo)
  | release (f : KtFifo)
  | ownerWrites (address : Int) (bytes : List UInt8)

inductive FifoReply where
  | queue (reply : QueueReply MetaBuffer)
  | freed (addresses : List Int)
  | written

/-- Carry out a call; one whose assertion fails does not return. -/
def fifoStep (osMemFree : Int -> Memory -> Memory) (fuel : Nat) (c : KtFifos) :
    FifoCall -> Option (FifoReply × KtFifos)
  | .add f buffer =>
      let result :=
        match f with
        | .metadata => c.ktAddMetadataBuffer buffer
        | .qrString => c.ktAddQrStringBuffer buffer
      match result.1 with
      | none => some (.queue .added, result.2)
      | some _ => none
  | .get f =>
      let result :=
        match f with
        | .metadata => c.ktGetMetadataBuffer
        | .qrString => c.ktGetQrStringBuffer
      some (.queue (.got result.1), result.2)
  | .release f =>
      let result :=
        match f with
        | .metadata => c.ktReleaseMetadataBuffers osMemFree fuel
        | .qrString => c.ktReleaseQrStringBuffers osMemFree fuel
      result.map fun result => (.freed result.1, result.2)
  | .ownerWrites address bytes =>
      some (.written, { c with heap := c.heap.store address bytes })

/-- The metadata calls of the message handler are those of the context. -/
theorem ktAddMetadataBuffer_context {app : Type} (qr : BufFifo)
    (buffer : MetaBuffer) (s : KtState app) :
    let c : KtFifos :=
      { heap := s.heap
        bufFifo := fun f => match f with | .metadata => s.fifo | .qrString => qr }
    ktAddMetadataBuffer buffer s =
      ((c.ktAddMetadataBuffer buffer).1,
        { s with
            fifo := (c.ktAddMetadataBuffer buffer).2.bufFifo .metadata
            heap := (c.ktAddMetadataBuffer buffer).2.heap }) := by
  simp [ktAddMetadataBuffer, KtFifos.ktAddMetadataBuffer, KtFifos.addBuffer]

/-!
## The queues
-/

/-- The buffers waiting in each FIFO, oldest first. -/
abbrev Waiting := KtFifo -> List MetaBuffer

/-- What the calls mean for the queues of waiting buffers. -/
def fifoSpec (waiting : Waiting) : FifoCall -> FifoReply × Waiting
  | .add f buffer =>
      let result := queueStep (fun _ => true) (waiting f) (.add buffer)
      (.queue result.1, Function.update waiting f result.2)
  | .get f =>
      let result := queueStep (fun _ => true) (waiting f) .get
      (.queue result.1, Function.update waiting f result.2)
  | .release f =>
      (.freed ((waiting f).map MetaBuffer.address),
        Function.update waiting f [])
  | .ownerWrites _ _ => (.written, waiting)

/-- Freeing a buffer changes no memory that lies apart from it. -/
def FreesOnly (osMemFree : Int -> Memory -> Memory) (b : MetaBuffer) : Prop :=
  forall (heap : Memory) (c : MetaBuffer), c.Apart b ->
    SameIn c heap (osMemFree b.address heap)

/-- An added buffer is usable and overlaps none that is already held, buffers
that are released can be freed, and the owner does not write to held buffers. -/
def FifoAllowed (osMemFree : Int -> Memory -> Memory) (waiting : Waiting) :
    FifoCall -> Prop
  | .add _ buffer =>
      buffer.Usable ∧ forall f c, c ∈ waiting f -> c.Apart buffer
  | .get _ => True
  | .release f => forall b, b ∈ waiting f -> FreesOnly osMemFree b
  | .ownerWrites address bytes => forall f c, c ∈ waiting f ->
      address + bytes.length ≤ c.address ∨ c.address + c.length ≤ address

/-!
## The invariant
-/

/-- The FIFOs hold the waiting buffers; an empty one has no tail, and buffers in
different FIFOs lie apart. -/
structure FifosHold (c : KtFifos) (waiting : Waiting) : Prop where
  holds : forall f, FifoHolds c.heap (c.bufFifo f) (waiting f)
  tail_eq : forall f, waiting f = [] -> (c.bufFifo f).pTail = 0
  apart : forall f g, f ≠ g -> forall b, b ∈ waiting f ->
    forall d, d ∈ waiting g -> b.Apart d

theorem fifosHold_init (heap : Memory) :
    FifosHold (KtFifos.init heap) fun _ => [] :=
  ⟨fun _ => fifoHolds_init heap, fun _ _ => rfl, by simp⟩

/-- An operation on one FIFO keeps the others, if their buffers stay as they
are and lie apart from those it leaves. -/
theorem FifosHold.update {c : KtFifos} {waiting : Waiting}
    (h : FifosHold c waiting) {f : KtFifo} {fifo : BufFifo} {heap : Memory}
    {buffers : List MetaBuffer} (hholds : FifoHolds heap fifo buffers)
    (htail : buffers = [] -> fifo.pTail = 0)
    (hothers : forall g, g ≠ f -> forall b, b ∈ waiting g ->
      SameIn b c.heap heap ∧ forall d, d ∈ buffers -> b.Apart d) :
    FifosHold
      { heap := heap, bufFifo := Function.update c.bufFifo f fifo }
      (Function.update waiting f buffers) := by
  constructor
  · intro g
    by_cases hg : g = f
    · subst hg
      simpa using hholds
    · simp only [Function.update_of_ne hg]
      exact (h.holds g).congr fun b hb => (hothers g hg b hb).1
  · intro g
    by_cases hg : g = f
    · subst hg
      simpa using htail
    · simp only [Function.update_of_ne hg]
      exact h.tail_eq g
  · intro g k hne b hb d hd
    by_cases hg : g = f
    · subst hg
      rw [Function.update_self] at hb
      rw [Function.update_of_ne hne.symm] at hd
      exact ((hothers k hne.symm d hd).2 b hb).symm
    · rw [Function.update_of_ne hg] at hb
      by_cases hk : k = f
      · subst hk
        rw [Function.update_self] at hd
        exact (hothers g hg b hb).2 d hd
      · rw [Function.update_of_ne hk] at hd
        exact h.apart g k hne b hb d hd

/-!
## One call
-/

section Calls

variable {c : KtFifos} {waiting : Waiting} {f : KtFifo}

theorem FifosHold.addBuffer (h : FifosHold c waiting) {b : MetaBuffer}
    (hb : b.Usable) (hapart : forall g d, d ∈ waiting g -> d.Apart b) :
    exists c', KtFifos.addBuffer f b c = (none, c') ∧
      FifosHold c' (Function.update waiting f (waiting f ++ [b])) := by
  rcases (h.holds f).add hb (hapart f) with ⟨fifo, heap, hadd, hholds, hadded⟩
  refine ⟨{ heap := heap, bufFifo := Function.update c.bufFifo f fifo }, ?_, ?_⟩
  · simp only [KtFifos.addBuffer, hadd]
  · apply h.update hholds
    · simp
    · intro g hg d hd
      have hdb : d.Apart b := hapart g d hd
      constructor
      · intro x hlow hhigh
        refine (hadded.same x ?_ ?_).symm
        · have hge := hb.length_ge
          rcases hdb with hbefore | hafter <;> lia
        · intro e he
          have hde : d.Apart e := h.apart g f hg d hd e he
          have hge := ((h.holds f).usable e he).length_ge
          rcases hde with hbefore | hafter <;> lia
      · intro e he
        rcases List.mem_append.mp he with he | he
        · exact h.apart g f hg d hd e he
        · rw [List.mem_singleton.mp he]
          exact hdb

theorem ktGetBufferFromFifo_pTail {fifo fifo' : BufFifo} {heap heap' : Memory}
    {b : MetaBuffer} (h : ktGetBufferFromFifo fifo heap = (b, fifo', heap'))
    (hhead : fifo'.pHead = 0) : fifo'.pTail = 0 := by
  simp only [ktGetBufferFromFifo, Prod.mk.injEq] at h
  rcases h with ⟨-, rfl, -⟩
  simp only at hhead ⊢
  rw [if_pos hhead]

theorem FifoHolds.get_rest {heap : Memory} {fifo : BufFifo} {b : MetaBuffer}
    {rest : List MetaBuffer} (h : FifoHolds heap fifo (b :: rest)) :
    exists fifo', ktGetBufferFromFifo fifo heap =
        (b, fifo', setBiNext heap b.address 0) ∧
      FifoHolds (setBiNext heap b.address 0) fifo' rest ∧
      (rest = [] -> fifo'.pTail = 0) := by
  rcases h.get with ⟨fifo', hget, hholds⟩
  refine ⟨fifo', hget, hholds, fun hrest => ?_⟩
  subst hrest
  exact ktGetBufferFromFifo_pTail hget hholds.chained

theorem FifosHold.getBuffer (h : FifosHold c waiting) :
    exists c', KtFifos.getBuffer f c = ((waiting f).head?, c') ∧
      FifosHold c' (Function.update waiting f (waiting f).tail) := by
  cases hwaiting : waiting f with
  | nil =>
      have hempty := (h.holds f).isEmpty_iff.mpr hwaiting
      refine ⟨c, by simp [KtFifos.getBuffer, hempty], ?_⟩
      rw [List.tail_nil, ← hwaiting, Function.update_eq_self]
      exact h
  | cons b rest =>
      have hholds := h.holds f
      have hempty : ktBufFifoIsEmpty (c.bufFifo f) = false := by
        rw [Bool.eq_false_iff, Ne, hholds.isEmpty_iff, hwaiting]
        exact List.cons_ne_nil b rest
      rw [hwaiting] at hholds
      rcases hholds.get_rest with ⟨fifo, hget, hrest, htail⟩
      have hb : b ∈ waiting f := by
        rw [hwaiting]
        exact List.mem_cons_self
      refine ⟨_, by simp only [KtFifos.getBuffer, hempty, hget]; rfl, ?_⟩
      apply h.update hrest htail
      intro g hg d hd
      refine ⟨sameIn_setBiNext (hholds.usable b List.mem_cons_self)
        (h.apart g f hg d hd b hb).symm, fun e he => ?_⟩
      exact h.apart g f hg d hd e (by
        rw [hwaiting]
        exact List.mem_cons_of_mem b he)

/-- The release loop frees the buffers of a FIFO in their order, and ends. -/
theorem FifoHolds.releaseLoop {osMemFree : Int -> Memory -> Memory}
    {fifo : BufFifo} {heap : Memory} {buffers : List MetaBuffer}
    (h : FifoHolds heap fifo buffers) (htail : buffers = [] -> fifo.pTail = 0)
    (hfrees : forall b, b ∈ buffers -> FreesOnly osMemFree b) {fuel : Nat}
    (hfuel : buffers.length < fuel) :
    exists fifo' heap',
      KtFifos.releaseLoop osMemFree fuel fifo heap =
          some (buffers.map MetaBuffer.address, fifo', heap') ∧
        FifoHolds heap' fifo' [] ∧ fifo'.pTail = 0 ∧
        forall c : MetaBuffer, (forall b, b ∈ buffers -> c.Apart b) ->
          SameIn c heap heap' := by
  induction fuel generalizing fifo heap buffers with
  | zero =>
      cases hfuel
  | succ fuel ih =>
      cases buffers with
      | nil =>
          have hempty := h.isEmpty_iff.mpr rfl
          refine ⟨fifo, heap, ?_, h, htail rfl, fun _ _ _ _ _ => rfl⟩
          simp [KtFifos.releaseLoop, hempty]
      | cons b rest =>
          have hempty : ktBufFifoIsEmpty fifo = false := by
            rw [Bool.eq_false_iff, Ne, h.isEmpty_iff]
            exact List.cons_ne_nil b rest
          have hb := h.usable b List.mem_cons_self
          have hapart := List.pairwise_cons.mp h.apart
          have hfree := hfrees b List.mem_cons_self
          rcases h.get_rest with ⟨mid, hget, hrest, hmidTail⟩
          have hfreed : FifoHolds
              (osMemFree b.address (setBiNext heap b.address 0)) mid rest :=
            hrest.congr fun c hc => hfree _ c (hapart.1 c hc).symm
          rcases ih hfreed hmidTail
              (fun c hc => hfrees c (List.mem_cons_of_mem b hc))
              (Nat.lt_of_succ_lt_succ hfuel)
            with ⟨fifo', heap', hloop, hend, hendTail, hsame⟩
          refine ⟨fifo', heap', ?_, hend, hendTail, fun c hc => ?_⟩
          · simp only [KtFifos.releaseLoop, hempty, hget, hloop]
            rfl
          · have hcb := hc b List.mem_cons_self
            exact ((sameIn_setBiNext hb hcb.symm).trans (hfree _ c hcb)).trans
              (hsame c fun d hd => hc d (List.mem_cons_of_mem b hd))

theorem FifosHold.releaseBuffers {osMemFree : Int -> Memory -> Memory}
    (h : FifosHold c waiting)
    (hfrees : forall b, b ∈ waiting f -> FreesOnly osMemFree b) {fuel : Nat}
    (hfuel : (waiting f).length < fuel) :
    exists c', KtFifos.releaseBuffers osMemFree fuel f c =
        some ((waiting f).map MetaBuffer.address, c') ∧
      FifosHold c' (Function.update waiting f []) := by
  rcases (h.holds f).releaseLoop (h.tail_eq f) hfrees hfuel
    with ⟨fifo, heap, hloop, hholds, htail, hsame⟩
  refine ⟨_, by simp only [KtFifos.releaseBuffers, hloop]; rfl, ?_⟩
  apply h.update hholds fun _ => htail
  intro g hg d hd
  exact ⟨hsame d fun b hb => h.apart g f hg d hd b hb, by simp⟩

/-- What the owner writes outside the held buffers does not matter. -/
theorem FifosHold.ownerWrites (h : FifosHold c waiting) {address : Int}
    {bytes : List UInt8}
    (houtside : forall g b, b ∈ waiting g ->
      address + bytes.length ≤ b.address ∨ b.address + b.length ≤ address) :
    FifosHold { c with heap := c.heap.store address bytes } waiting := by
  refine ⟨fun g => (h.holds g).congr fun b hb x hlow hhigh => ?_, h.tail_eq,
    h.apart⟩
  refine (Memory.store_apply_of_not_mem ?_).symm
  rcases houtside g b hb with hbefore | hafter <;> lia

end Calls

/-!
## Whole runs
-/

/-- A call is allowed, and the loop of a release has fuel for all buffers. -/
def FifoFueled (osMemFree : Int -> Memory -> Memory) (fuel : Nat)
    (waiting : Waiting) (call : FifoCall) : Prop :=
  FifoAllowed osMemFree waiting call ∧
    forall f, (waiting f).length < fuel

theorem fifoStep_simulates (osMemFree : Int -> Memory -> Memory) (fuel : Nat) :
    Simulates (fifoStep osMemFree fuel) fifoSpec (FifoFueled osMemFree fuel)
      FifosHold := by
  intro c waiting call h hfueled
  rcases hfueled with ⟨hallowed, hfuel⟩
  cases call with
  | add f buffer =>
      rcases h.addBuffer (f := f) hallowed.1 hallowed.2 with ⟨c', hadd, hc'⟩
      refine ⟨c', ?_, hc'⟩
      cases f <;>
        simp only [fifoStep, KtFifos.ktAddMetadataBuffer,
          KtFifos.ktAddQrStringBuffer, hadd] <;> rfl
  | get f =>
      rcases h.getBuffer (f := f) with ⟨c', hget, hc'⟩
      refine ⟨c', ?_, hc'⟩
      cases f <;>
        simp only [fifoStep, KtFifos.ktGetMetadataBuffer,
          KtFifos.ktGetQrStringBuffer, hget] <;> rfl
  | release f =>
      rcases h.releaseBuffers hallowed (hfuel f) with ⟨c', hrelease, hc'⟩
      refine ⟨c', ?_, hc'⟩
      cases f <;>
        simp only [fifoStep, KtFifos.ktReleaseMetadataBuffers,
          KtFifos.ktReleaseQrStringBuffers, hrelease] <;> rfl
  | ownerWrites address bytes =>
      exact ⟨_, rfl, h.ownerWrites hallowed⟩

theorem fifoSpec_length_le (waiting : Waiting) (call : FifoCall) (f : KtFifo) :
    ((fifoSpec waiting call).2 f).length ≤ (waiting f).length + 1 := by
  have hupdate : forall (g : KtFifo) (buffers : List MetaBuffer),
      buffers.length ≤ (waiting g).length + 1 ->
        (Function.update waiting g buffers f).length ≤
          (waiting f).length + 1 := by
    intro g buffers hbuffers
    by_cases hf : f = g
    · subst hf
      simpa using hbuffers
    · simp [Function.update_of_ne hf]
  cases call with
  | add g buffer =>
      exact hupdate g _ (by simp [queueStep])
  | get g =>
      exact hupdate g _ (by simp [queueStep]; lia)
  | release g =>
      exact hupdate g _ (by simp)
  | ownerWrites address bytes =>
      exact Nat.le_succ _

theorem fifoCalls_fueled {osMemFree : Int -> Memory -> Memory}
    {calls : List FifoCall} {fuel : Nat} {waiting : Waiting}
    (hfuel : forall f, (waiting f).length + calls.length < fuel)
    (h : SpecAllows fifoSpec (FifoAllowed osMemFree) waiting calls) :
    SpecAllows fifoSpec (FifoFueled osMemFree fuel) waiting calls := by
  refine h.mono
    (fun waiting calls => forall f, (waiting f).length + calls.length < fuel)
    ?_ hfuel
  intro waiting call rest hlengths hallowed
  refine ⟨⟨hallowed, fun f => ?_⟩, fun f => ?_⟩
  · have hlength := hlengths f
    rw [List.length_cons] at hlength
    lia
  · have hlength := hlengths f
    have hle := fifoSpec_length_le waiting call f
    rw [List.length_cons] at hlength
    lia

/-!
## The lists
-/

/-- Following the pointers from one node leads to another. -/
inductive LeadsTo (heap : Memory) : Int -> Int -> Prop where
  | here (p : Int) : LeadsTo heap p p
  | next {p q : Int} (hp : p ≠ 0) (h : LeadsTo heap (biNext heap p) q) :
      LeadsTo heap p q

/-- The FIFO is a list of these buffers: the pointers lead through them with
their lengths, no buffer is in it twice, the head is null exactly when the tail
is, and the tail is the node where the pointers end. -/
structure LinksBuffers (heap : Memory) (fifo : BufFifo)
    (buffers : List MetaBuffer) : Prop where
  chained : Chained heap fifo.pHead buffers
  nodup : (buffers.map MetaBuffer.address).Nodup
  null_iff : fifo.pHead = 0 <-> fifo.pTail = 0
  last : fifo.pHead ≠ 0 ->
    LeadsTo heap fifo.pHead fifo.pTail ∧ biNext heap fifo.pTail = 0

/-- A chain leads to its last buffer, behind which there is none. -/
theorem Chained.leadsTo_last {heap : Memory} {p : Int}
    {buffers : List MetaBuffer} {last : MetaBuffer}
    (h : Chained heap p buffers)
    (husable : forall b, b ∈ buffers -> b.Usable)
    (hlast : buffers.getLast? = some last) :
    LeadsTo heap p last.address ∧ biNext heap last.address = 0 := by
  induction buffers generalizing p with
  | nil =>
      cases hlast
  | cons b rest ih =>
      rcases h with ⟨rfl, -, hrest⟩
      have hb := (husable b List.mem_cons_self).address_ne_zero
      cases rest with
      | nil =>
          cases hlast
          exact ⟨.here _, hrest⟩
      | cons d tail =>
          rcases ih hrest (fun c hc => husable c (List.mem_cons_of_mem b hc))
              (by simpa using hlast) with ⟨hleads, hend⟩
          exact ⟨.next hb hleads, hend⟩

theorem FifoHolds.address_nodup {heap : Memory} {fifo : BufFifo}
    {buffers : List MetaBuffer} (h : FifoHolds heap fifo buffers) :
    (buffers.map MetaBuffer.address).Nodup := by
  refine List.pairwise_map.mpr (h.apart.imp_of_mem ?_)
  intro b d hb hd hapart heq
  have hbLength := (h.usable b hb).length_ge
  have hdLength := (h.usable d hd).length_ge
  rcases hapart with hbefore | hafter <;> lia

theorem FifoHolds.linksBuffers {heap : Memory} {fifo : BufFifo}
    {buffers : List MetaBuffer} (h : FifoHolds heap fifo buffers)
    (htail : buffers = [] -> fifo.pTail = 0) :
    LinksBuffers heap fifo buffers := by
  have hempty : fifo.pHead = 0 <-> buffers = [] := by
    simpa [ktBufFifoIsEmpty] using h.isEmpty_iff
  have hlast : forall b, buffers.getLast? = some b ->
      fifo.pTail = b.address ∧ b.Usable := by
    intro b hb
    exact ⟨h.tail b hb, h.usable b (List.mem_of_getLast? hb)⟩
  refine ⟨h.chained, h.address_nodup, ?_, ?_⟩
  · constructor
    · intro hhead
      exact htail (hempty.mp hhead)
    · intro htailNull
      rw [hempty, ← List.getLast?_eq_none_iff]
      refine Option.eq_none_iff_forall_ne_some.mpr fun b hb => ?_
      exact (hlast b hb).2.address_ne_zero
        ((hlast b hb).1.symm.trans htailNull)
  · intro hhead
    rw [Ne, hempty, ← List.getLast?_eq_none_iff] at hhead
    rcases Option.ne_none_iff_exists'.mp hhead with ⟨b, hb⟩
    rw [(hlast b hb).1]
    exact h.chained.leadsTo_last h.usable hb

/-- On any sequence of allowed calls the FIFOs reply as the queues of waiting
buffers do, every release ends, and behind the calls the lists are those of the
queues. -/
theorem fifoCalls_refine (osMemFree : Int -> Memory -> Memory) (heap : Memory)
    (calls : List FifoCall) (fuel : Nat)
    (hallowed : SpecAllows fifoSpec (FifoAllowed osMemFree) (fun _ => []) calls)
    (hfuel : calls.length < fuel) :
    exists c, runOutputs (fifoStep osMemFree fuel) (KtFifos.init heap) calls =
        some ((specOutputs fifoSpec (fun _ => []) calls).1, c) ∧
      forall f, LinksBuffers c.heap (c.bufFifo f)
        ((specOutputs fifoSpec (fun _ => []) calls).2 f) := by
  have hfueled : SpecAllows fifoSpec (FifoFueled osMemFree fuel)
      (fun _ => []) calls :=
    fifoCalls_fueled (fun _ => by simpa using hfuel) hallowed
  rcases (fifoStep_simulates osMemFree fuel).run (fifosHold_init heap) hfueled
    with ⟨c, hrun, hc⟩
  exact ⟨c, hrun, fun f => (hc.holds f).linksBuffers (hc.tail_eq f)⟩

/-- Two metadata buffers and one for QR strings. -/
def sampleBuffer (i : Nat) : MetaBuffer :=
  { address := 0x1000 * (i + 1), length := 64 }

def sampleCalls : List FifoCall :=
  [.add .metadata (sampleBuffer 0), .add .qrString (sampleBuffer 2),
    .add .metadata (sampleBuffer 1), .get .metadata,
    .ownerWrites 0x1000 [0xFF, 0xFF, 0xFF, 0xFF, 0xFF, 0xFF, 0xFF, 0xFF],
    .add .metadata (sampleBuffer 0), .release .metadata, .get .metadata,
    .get .qrString]

theorem sampleBuffer_usable {i : Nat} (h : i < 3) : (sampleBuffer i).Usable := by
  constructor <;> simp only [sampleBuffer] <;> lia

theorem sampleBuffer_apart {i j : Nat} (h : i ≠ j) :
    (sampleBuffer i).Apart (sampleBuffer j) := by
  simp only [MetaBuffer.Apart, sampleBuffer]
  lia

/-- Freeing that clears the first bytes of what it frees. -/
def clearingFree (p : Int) (heap : Memory) : Memory := setBiNext heap p 0

theorem clearingFree_freesOnly {b : MetaBuffer} (h : b.Usable) :
    FreesOnly clearingFree b :=
  fun _ _ hapart => sameIn_setBiNext h hapart.symm

theorem sampleCalls_allowed :
    SpecAllows fifoSpec (FifoAllowed clearingFree) (fun _ => []) sampleCalls := by
  have hfirst := sampleBuffer_usable (i := 0) (by decide)
  have hsecond := sampleBuffer_usable (i := 1) (by decide)
  have hthird := sampleBuffer_usable (i := 2) (by decide)
  simp only [sampleCalls, SpecAllows, FifoAllowed, fifoSpec, queueStep,
    KtFifo.forall_iff]
  simp [hfirst, hsecond, hthird, clearingFree_freesOnly, sampleBuffer_apart]
  simp [sampleBuffer]

theorem fifoCalls_refine_sample :
    exists c, runOutputs (fifoStep clearingFree 10)
        (KtFifos.init fun _ => 0xAA) sampleCalls =
        some ((specOutputs fifoSpec (fun _ => []) sampleCalls).1, c) ∧
      forall f, LinksBuffers c.heap (c.bufFifo f)
        ((specOutputs fifoSpec (fun _ => []) sampleCalls).2 f) :=
  fifoCalls_refine clearingFree (fun _ => 0xAA) sampleCalls 10
    sampleCalls_allowed (by decide)

end KtLib
end GardHub

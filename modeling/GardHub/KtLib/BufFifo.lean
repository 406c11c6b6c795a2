import GardHub.Foundation.Memory

/-!
# Buffer FIFO

Buffers of the application wait in a linked list that is threaded through the
buffers themselves: the first 8 bytes of a waiting buffer point to the next one
and the 4 bytes behind them hold its length.  `FifoHolds` relates the list in
memory to the buffers it stands for; adding and getting keep that relation.
-/

namespace GardHub
namespace KtLib

open Foundation

/-- A buffer: its address and the length the application declared for it. -/
structure MetaBuffer where
  address : Int
  length : Nat
deriving DecidableEq

/-- `BufFifo` -/
structure BufFifo where
  pHead : Int
  pTail : Int
deriving DecidableEq

/-- A thread whose `KT__ASSERT` fails stays in an endless loop; these are the
assertions that can fail. -/
inductive AssertSite where
  | parameter
  | responseHeader
  | nbUsers
  | metadataBuffer
  | idealDataType
  | userDataType
  | secondBuffer
  | unidentifiedDataType
  | nullBuffer
  | bufferLength
deriving DecidableEq

/-- `MIN_BUF_SIZE` -/
@[simp] def minBufSize : Nat := 16

/-- `Kt_BufFifo_Init` -/
def ktBufFifoInit : BufFifo := { pHead := 0, pTail := 0 }

/-- `Kt_BufFifo_IsEmpty` -/
def ktBufFifoIsEmpty (fifo : BufFifo) : Bool := fifo.pHead = 0

/-- `bi__next` of the buffer at an address. -/
def biNext (heap : Memory) (p : Int) : Int := heap.load64 p

/-- `bi__buff_len` of the buffer at an address. -/
def biBuffLen (heap : Memory) (p : Int) : Nat := heap.load32 (p + 8)

/-- Set `bi__next`. -/
def setBiNext (heap : Memory) (p next : Int) : Memory :=
  heap.store p (leBytes 8 next.toNat)

/-- `Kt_GetBufferFromFifo`; its callers have made sure that there is a buffer. -/
def ktGetBufferFromFifo (fifo : BufFifo) (heap : Memory) :
    MetaBuffer × BufFifo × Memory :=
  let p := fifo.pHead
  let next := biNext heap p
  let heap := setBiNext heap p 0
  ({ address := p, length := biBuffLen heap p },
    { pHead := next, pTail := if next = 0 then 0 else fifo.pTail },
    heap)

/-- `Kt_AddBufferToFifo` -/
def ktAddBufferToFifo (fifo : BufFifo) (buffer : MetaBuffer) (heap : Memory) :
    Option AssertSite × BufFifo × Memory :=
  let p := buffer.address
  if p = 0 then
    (some .nullBuffer, fifo, heap)
  else if buffer.length < minBufSize then
    (some .bufferLength, fifo, heap)
  else
    let heap := setBiNext heap p 0
    let heap := heap.store (p + 8) (leBytes 4 buffer.length)
    if fifo.pHead = 0 then
      (none, { pHead := p, pTail := p }, heap)
    else
      (none, { fifo with pTail := p }, setBiNext heap fifo.pTail p)

/-!
## The buffers a FIFO holds
-/

/-- A buffer that the application may add: it is not the null pointer, its
addresses are 64-bit addresses, and its length is in range. -/
structure MetaBuffer.Usable (b : MetaBuffer) : Prop where
  address_pos : 0 < b.address
  address_le : b.address + b.length ≤ 2 ^ 64
  length_ge : 16 ≤ b.length
  length_lt : b.length < 2 ^ 32

theorem MetaBuffer.Usable.address_ne_zero {b : MetaBuffer} (h : b.Usable) :
    b.address ≠ 0 := by
  have hpos := h.address_pos
  lia

theorem MetaBuffer.Usable.not_short {b : MetaBuffer} (h : b.Usable) :
    ¬ b.length < minBufSize :=
  not_lt.mpr h.length_ge

theorem MetaBuffer.Usable.length_ne_zero {b : MetaBuffer} (h : b.Usable) :
    b.length ≠ 0 := by
  have hge := h.length_ge
  lia

/-- Two buffers do not overlap. -/
def MetaBuffer.Apart (b c : MetaBuffer) : Prop :=
  b.address + b.length ≤ c.address ∨ c.address + c.length ≤ b.address

theorem MetaBuffer.Apart.symm {b c : MetaBuffer} (h : b.Apart c) :
    c.Apart b := by
  rcases h with h | h
  · exact Or.inr h
  · exact Or.inl h

/-- A pointer leads through a list of buffers to the null pointer. -/
def Chained (heap : Memory) : Int -> List MetaBuffer -> Prop
  | p, [] => p = 0
  | p, b :: rest =>
      p = b.address ∧ biBuffLen heap b.address = b.length ∧
        Chained heap (biNext heap b.address) rest

/-- The FIFO in memory holds a list of buffers, oldest first. -/
structure FifoHolds (heap : Memory) (fifo : BufFifo)
    (buffers : List MetaBuffer) : Prop where
  chained : Chained heap fifo.pHead buffers
  tail : forall b, buffers.getLast? = some b -> fifo.pTail = b.address
  usable : forall b, b ∈ buffers -> b.Usable
  apart : buffers.Pairwise MetaBuffer.Apart

/-- Memory is the same in a buffer. -/
def SameIn (b : MetaBuffer) (heap heap' : Memory) : Prop :=
  forall x, b.address ≤ x -> x < b.address + b.length -> heap x = heap' x

theorem biNext_congr {b : MetaBuffer} {heap heap' : Memory} (hb : b.Usable)
    (h : SameIn b heap heap') :
    biNext heap b.address = biNext heap' b.address := by
  have hlength := hb.length_ge
  rw [biNext, biNext, Memory.load64, Memory.load64, Memory.load_congr]
  intro x hlow hhigh
  exact h x hlow (by lia)

theorem biBuffLen_congr {b : MetaBuffer} {heap heap' : Memory} (hb : b.Usable)
    (h : SameIn b heap heap') :
    biBuffLen heap b.address = biBuffLen heap' b.address := by
  have hlength := hb.length_ge
  rw [biBuffLen, biBuffLen, Memory.load32, Memory.load32, Memory.load_congr]
  intro x hlow hhigh
  exact h x (by lia) (by lia)

theorem Chained.congr {heap heap' : Memory} {buffers : List MetaBuffer}
    {p : Int} (husable : forall b, b ∈ buffers -> b.Usable)
    (hsame : forall b, b ∈ buffers -> SameIn b heap heap')
    (h : Chained heap p buffers) : Chained heap' p buffers := by
  induction buffers generalizing p with
  | nil =>
      exact h
  | cons b rest ih =>
      rcases h with ⟨haddress, hlength, hrest⟩
      have hb := husable b List.mem_cons_self
      have hsameHead := hsame b List.mem_cons_self
      refine ⟨haddress, ?_, ?_⟩
      · rw [← biBuffLen_congr hb hsameHead]
        exact hlength
      · rw [← biNext_congr hb hsameHead]
        apply ih
        · intro c hc
          exact husable c (List.mem_cons_of_mem _ hc)
        · intro c hc
          exact hsame c (List.mem_cons_of_mem _ hc)
        · exact hrest

/-- What happens outside the buffers a FIFO holds does not matter to it. -/
theorem FifoHolds.congr {heap heap' : Memory} {fifo : BufFifo}
    {buffers : List MetaBuffer}
    (hsame : forall b, b ∈ buffers -> SameIn b heap heap')
    (h : FifoHolds heap fifo buffers) : FifoHolds heap' fifo buffers :=
  ⟨h.chained.congr h.usable hsame, h.tail, h.usable, h.apart⟩

theorem fifoHolds_init (heap : Memory) : FifoHolds heap ktBufFifoInit [] :=
  ⟨rfl, by simp, by simp, List.Pairwise.nil⟩

theorem FifoHolds.isEmpty_iff {heap : Memory} {fifo : BufFifo}
    {buffers : List MetaBuffer} (h : FifoHolds heap fifo buffers) :
    ktBufFifoIsEmpty fifo = true <-> buffers = [] := by
  cases buffers with
  | nil =>
      have hhead : fifo.pHead = 0 := h.chained
      simp [ktBufFifoIsEmpty, hhead]
  | cons b rest =>
      have hhead : fifo.pHead = b.address := h.chained.1
      have hne := (h.usable b List.mem_cons_self).address_ne_zero
      simp [ktBufFifoIsEmpty, hhead, hne]

theorem setBiNext_of_not_mem {heap : Memory} {p next x : Int}
    (h : x < p ∨ p + 8 ≤ x) : setBiNext heap p next x = heap x := by
  apply Memory.store_apply_of_not_mem
  simpa using h

theorem sameIn_setBiNext {heap : Memory} {b c : MetaBuffer} {next : Int}
    (hc : c.Usable) (h : c.Apart b) :
    SameIn b heap (setBiNext heap c.address next) := by
  have hge := hc.length_ge
  intro x hlow hhigh
  rw [setBiNext_of_not_mem]
  rcases h with hbefore | hafter <;> lia

theorem biBuffLen_setBiNext (heap : Memory) (p next : Int) :
    biBuffLen (setBiNext heap p next) p = biBuffLen heap p := by
  rw [biBuffLen, biBuffLen, Memory.load32, Memory.load32, setBiNext,
    Memory.load_store_disjoint]
  simp

theorem biNext_setBiNext {heap : Memory} {p next : Int} (hlow : 0 ≤ next)
    (hhigh : next < 2 ^ 64) : biNext (setBiNext heap p next) p = next := by
  have hload := Memory.load_store_same heap p (leBytes 8 next.toNat)
  rw [leBytes_length] at hload
  rw [biNext, Memory.load64, setBiNext, hload,
    leValue_leBytes_of_lt (by norm_num; lia)]
  lia

theorem FifoHolds.get {heap : Memory} {fifo : BufFifo} {b : MetaBuffer}
    {rest : List MetaBuffer} (h : FifoHolds heap fifo (b :: rest)) :
    exists fifo', ktGetBufferFromFifo fifo heap =
        (b, fifo', setBiNext heap b.address 0) ∧
      FifoHolds (setBiNext heap b.address 0) fifo' rest := by
  rcases h.chained with ⟨hhead, hlength, hrest⟩
  have hapart := List.pairwise_cons.mp h.apart
  have husable : forall c, c ∈ rest -> c.Usable := by
    intro c hc
    exact h.usable c (List.mem_cons_of_mem _ hc)
  have hsame : forall c, c ∈ rest ->
      SameIn c heap (setBiNext heap b.address 0) := by
    intro c hc
    exact sameIn_setBiNext (h.usable b List.mem_cons_self) (hapart.1 c hc)
  refine ⟨{ pHead := biNext heap fifo.pHead
            pTail := if biNext heap fifo.pHead = 0 then 0 else fifo.pTail },
    ?_, ?_⟩
  · simp only [ktGetBufferFromFifo, hhead, biBuffLen_setBiNext, hlength]
  · constructor
    · rw [hhead]
      exact hrest.congr husable hsame
    · intro c hc
      cases rest with
      | nil =>
          cases hc
      | cons d tail =>
          have hnext : biNext heap fifo.pHead = d.address := by
            rw [hhead]
            exact hrest.1
          have hpos := (husable d List.mem_cons_self).address_pos
          rw [if_neg (by rw [hnext]; lia)]
          exact h.tail c (by simpa using hc)
    · exact husable
    · exact hapart.2

theorem Chained.length_eq {heap : Memory} {p : Int} {buffers : List MetaBuffer}
    (h : Chained heap p buffers) :
    forall c, c ∈ buffers -> biBuffLen heap c.address = c.length := by
  induction buffers generalizing p with
  | nil =>
      simp
  | cons b rest ih =>
      rcases h with ⟨-, hlength, hrest⟩
      intro c hc
      rcases List.mem_cons.mp hc with rfl | hc
      · exact hlength
      · exact ih hrest c hc

theorem Chained.link {heap heap' : Memory} {p : Int}
    {front : List MetaBuffer} {last b : MetaBuffer}
    (h : Chained heap p (front ++ [last]))
    (husable : forall c, c ∈ front -> c.Usable)
    (hsame : forall c, c ∈ front -> SameIn c heap heap')
    (hlast : biBuffLen heap' last.address = last.length)
    (hlink : biNext heap' last.address = b.address)
    (hlength : biBuffLen heap' b.address = b.length)
    (hend : biNext heap' b.address = 0) :
    Chained heap' p (front ++ [last, b]) := by
  induction front generalizing p with
  | nil =>
      rcases h with ⟨haddress, -, -⟩
      exact ⟨haddress, hlast, hlink, hlength, hend⟩
  | cons c rest ih =>
      rcases h with ⟨haddress, hlen, hrest⟩
      have hc := husable c List.mem_cons_self
      have hsameHead := hsame c List.mem_cons_self
      refine ⟨haddress, ?_, ?_⟩
      · rw [← biBuffLen_congr hc hsameHead]
        exact hlen
      · rw [← biNext_congr hc hsameHead]
        apply ih
        · exact hrest
        · intro d hd
          exact husable d (List.mem_cons_of_mem _ hd)
        · intro d hd
          exact hsame d (List.mem_cons_of_mem _ hd)

/-- The first 12 bytes of a buffer that waits are the list's. -/
theorem biBuffLen_store_length {heap : Memory} {b : MetaBuffer}
    (hb : b.Usable) :
    biBuffLen (heap.store (b.address + 8) (leBytes 4 b.length)) b.address =
      b.length := by
  have hload :=
    Memory.load_store_same heap (b.address + 8) (leBytes 4 b.length)
  rw [leBytes_length] at hload
  rw [biBuffLen, Memory.load32, hload,
    leValue_leBytes_of_lt (by norm_num; exact hb.length_lt)]

theorem biNext_store_length {heap : Memory} {p : Int} {length : Nat} :
    biNext (heap.store (p + 8) (leBytes 4 length)) p = biNext heap p := by
  rw [biNext, biNext, Memory.load64, Memory.load64, Memory.load_store_disjoint]
  simp

/-- What adding a buffer leaves of the memory behind the list's own fields. -/
structure AddedTo (heap heap' : Memory) (b : MetaBuffer)
    (buffers : List MetaBuffer) : Prop where
  same : forall x, (x < b.address ∨ b.address + 12 ≤ x) ->
    (forall c, c ∈ buffers -> x < c.address ∨ c.address + 8 ≤ x) ->
    heap' x = heap x

/-- Memory in which a new buffer has been prepared. -/
def preparedHeap (heap : Memory) (b : MetaBuffer) : Memory :=
  (setBiNext heap b.address 0).store (b.address + 8) (leBytes 4 b.length)

/-- Memory in which it has been linked behind the last one as well. -/
def linkedHeap (heap : Memory) (b last : MetaBuffer) : Memory :=
  setBiNext (preparedHeap heap b) last.address b.address

theorem preparedHeap_of_not_mem {heap : Memory} {b : MetaBuffer} {x : Int}
    (h : x < b.address ∨ b.address + 12 ≤ x) :
    preparedHeap heap b x = heap x := by
  rw [preparedHeap, Memory.store_apply_of_not_mem (by simp; lia),
    setBiNext_of_not_mem (by lia)]

theorem biNext_preparedHeap (heap : Memory) (b : MetaBuffer) :
    biNext (preparedHeap heap b) b.address = 0 := by
  rw [preparedHeap, biNext_store_length]
  exact biNext_setBiNext (by decide) (by decide)

theorem sameIn_preparedHeap {heap : Memory} {b c : MetaBuffer} (hb : b.Usable)
    (h : c.Apart b) : SameIn c heap (preparedHeap heap b) := by
  have hge := hb.length_ge
  intro x hlow hhigh
  rw [preparedHeap_of_not_mem]
  rcases h with hbefore | hafter <;> lia

theorem SameIn.trans {b : MetaBuffer} {heap mid heap' : Memory}
    (h : SameIn b heap mid) (h' : SameIn b mid heap') :
    SameIn b heap heap' := by
  intro x hlow hhigh
  rw [h x hlow hhigh, h' x hlow hhigh]

section Linked

variable {heap : Memory} {b last : MetaBuffer}

theorem biBuffLen_linkedHeap (hb : b.Usable) (hlast : last.Usable)
    (hapart : last.Apart b) :
    biBuffLen (linkedHeap heap b last) b.address = b.length := by
  have hsame : SameIn b (preparedHeap heap b) (linkedHeap heap b last) :=
    sameIn_setBiNext hlast hapart
  rw [← biBuffLen_congr hb hsame]
  exact biBuffLen_store_length hb

theorem biNext_linkedHeap (hb : b.Usable) (hlast : last.Usable)
    (hapart : last.Apart b) :
    biNext (linkedHeap heap b last) b.address = 0 := by
  have hsame : SameIn b (preparedHeap heap b) (linkedHeap heap b last) :=
    sameIn_setBiNext hlast hapart
  rw [← biNext_congr hb hsame]
  exact biNext_preparedHeap heap b

theorem addedTo_linkedHeap {buffers : List MetaBuffer}
    (hlast : last ∈ buffers) :
    AddedTo heap (linkedHeap heap b last) b buffers := by
  constructor
  intro x hx hbuffers
  rw [linkedHeap, setBiNext_of_not_mem (hbuffers last hlast),
    preparedHeap_of_not_mem hx]

theorem ktAddBufferToFifo_linked {fifo : BufFifo} (hb : b.Usable)
    (hhead : fifo.pHead ≠ 0) (htail : fifo.pTail = last.address) :
    ktAddBufferToFifo fifo b heap =
      (none, { fifo with pTail := b.address }, linkedHeap heap b last) := by
  simp only [ktAddBufferToFifo, if_neg hb.address_ne_zero, if_neg hb.not_short,
    if_neg hhead, htail, linkedHeap, preparedHeap]

end Linked

/-- A usable buffer is the only one behind being added to an empty list. -/
theorem FifoHolds.add_nil {heap : Memory} {fifo : BufFifo}
    (h : FifoHolds heap fifo []) {b : MetaBuffer} (hb : b.Usable) :
    exists fifo' heap', ktAddBufferToFifo fifo b heap = (none, fifo', heap') ∧
      FifoHolds heap' fifo' [b] ∧ AddedTo heap heap' b [] := by
  have hhead : fifo.pHead = 0 := h.chained
  refine ⟨{ pHead := b.address, pTail := b.address }, preparedHeap heap b,
    ?_, ?_, ?_⟩
  · simp only [ktAddBufferToFifo, if_neg hb.address_ne_zero,
      if_neg hb.not_short, if_pos hhead, preparedHeap]
  · constructor
    · exact ⟨rfl, biBuffLen_store_length hb, biNext_preparedHeap heap b⟩
    · intro c hc
      simp only [List.getLast?_singleton, Option.some.injEq] at hc
      rw [← hc]
    · simpa using hb
    · exact List.pairwise_singleton _ _
  · constructor
    intro x hx _
    exact preparedHeap_of_not_mem hx

theorem FifoHolds.add_behind {heap : Memory} {fifo : BufFifo}
    {front : List MetaBuffer} {last b : MetaBuffer}
    (h : FifoHolds heap fifo (front ++ [last])) (hb : b.Usable)
    (hapart : forall c, c ∈ front ++ [last] -> c.Apart b) :
    exists fifo' heap', ktAddBufferToFifo fifo b heap = (none, fifo', heap') ∧
      FifoHolds heap' fifo' (front ++ [last] ++ [b]) ∧
      AddedTo heap heap' b (front ++ [last]) := by
  have hlast : last.Usable := h.usable last (by simp)
  have hlastApart : last.Apart b := hapart last (by simp)
  have htail : fifo.pTail = last.address := h.tail last (by simp)
  have hhead : fifo.pHead ≠ 0 := by
    intro hzero
    have hempty := h.isEmpty_iff.mp (by simp [ktBufFifoIsEmpty, hzero])
    simp at hempty
  have hsameFront : forall c, c ∈ front ->
      SameIn c heap (linkedHeap heap b last) := by
    intro c hc
    have hclast : c.Apart last :=
      (List.pairwise_append.mp h.apart).2.2 c hc last (by simp)
    exact (sameIn_preparedHeap hb (hapart c (by simp [hc]))).trans
      (sameIn_setBiNext hlast hclast.symm)
  have hsameLast : SameIn last heap (preparedHeap heap b) :=
    sameIn_preparedHeap hb hlastApart
  refine ⟨_, _, ktAddBufferToFifo_linked hb hhead htail, ?_,
    addedTo_linkedHeap (by simp)⟩
  constructor
  · rw [List.append_assoc]
    apply h.chained.link
    · intro c hc
      exact h.usable c (by simp [hc])
    · exact hsameFront
    · rw [linkedHeap, biBuffLen_setBiNext, ← biBuffLen_congr hlast hsameLast]
      exact h.chained.length_eq last (by simp)
    · have hpos := hb.address_pos
      have htop := hb.address_le
      have hge := hb.length_ge
      exact biNext_setBiNext (by lia) (by lia)
    · exact biBuffLen_linkedHeap hb hlast hlastApart
    · exact biNext_linkedHeap hb hlast hlastApart
  · intro c hc
    simp only [List.getLast?_append, List.getLast?_singleton,
      Option.some_or, Option.some.injEq] at hc
    rw [← hc]
  · intro c hc
    rcases List.mem_append.mp hc with hc | hc
    · exact h.usable c hc
    · rcases List.mem_singleton.mp hc with rfl
      exact hb
  · apply List.pairwise_append.mpr
    refine ⟨h.apart, List.pairwise_singleton _ _, ?_⟩
    intro c hc d hd
    rcases List.mem_singleton.mp hd with rfl
    exact hapart c hc

theorem FifoHolds.add {heap : Memory} {fifo : BufFifo}
    {buffers : List MetaBuffer} (h : FifoHolds heap fifo buffers)
    {b : MetaBuffer} (hb : b.Usable)
    (hapart : forall c, c ∈ buffers -> c.Apart b) :
    exists fifo' heap', ktAddBufferToFifo fifo b heap = (none, fifo', heap') ∧
      FifoHolds heap' fifo' (buffers ++ [b]) ∧
      AddedTo heap heap' b buffers := by
  rcases List.eq_nil_or_concat buffers with rfl | ⟨front, last, hsplit⟩
  · exact h.add_nil hb
  · rw [List.concat_eq_append] at hsplit
    subst hsplit
    exact h.add_behind hb hapart

/-- Adding the oldest buffer once more, while others wait behind it, puts it
last and first at once: the others are cut off. -/
theorem FifoHolds.add_again {heap : Memory} {fifo : BufFifo} {b : MetaBuffer}
    {rest : List MetaBuffer} (h : FifoHolds heap fifo (b :: rest))
    (hrest : rest ≠ []) :
    exists fifo' heap', ktAddBufferToFifo fifo b heap = (none, fifo', heap') ∧
      FifoHolds heap' fifo' [b] ∧ AddedTo heap heap' b rest := by
  have hb := h.usable b List.mem_cons_self
  rcases List.eq_nil_or_concat rest with hnil | ⟨front, last, hsplit⟩
  · exact absurd hnil hrest
  · rw [List.concat_eq_append] at hsplit
    subst hsplit
    have hlast : last.Usable := h.usable last (by simp)
    have hapart : b.Apart last :=
      (List.pairwise_cons.mp h.apart).1 last (by simp)
    have htail : fifo.pTail = last.address := by
      apply h.tail last
      simp [List.getLast?_cons]
    have hhead : fifo.pHead = b.address := h.chained.1
    have hne : fifo.pHead ≠ 0 := by
      rw [hhead]
      exact hb.address_ne_zero
    refine ⟨_, _, ktAddBufferToFifo_linked hb hne htail, ?_,
      addedTo_linkedHeap (by simp)⟩
    constructor
    · exact ⟨hhead, biBuffLen_linkedHeap hb hlast hapart.symm,
        biNext_linkedHeap hb hlast hapart.symm⟩
    · intro c hc
      simp only [List.getLast?_singleton, Option.some.injEq] at hc
      rw [← hc]
    · simpa using hb
    · exact List.pairwise_singleton _ _

end KtLib
end GardHub

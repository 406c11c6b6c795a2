import GardHub.KtLib.Metadata

/-!
# Callbacks

What the application may do while it is called back, and what a callback then
leaves of the buffers that wait in the FIFO.
-/

namespace GardHub
namespace KtLib

open Foundation

variable {app : Type}

/-- Getting the oldest buffer that waits. -/
theorem FifoHolds.ktGetMetadataBuffer {s : KtState app} {b : MetaBuffer}
    {rest : List MetaBuffer} (h : FifoHolds s.heap s.fifo (b :: rest)) :
    exists fifo, ktGetMetadataBuffer s =
        (some b, { s with
          fifo := fifo
          heap := setBiNext s.heap b.address 0 }) ∧
      FifoHolds (setBiNext s.heap b.address 0) fifo rest := by
  rcases h.get with ⟨fifo, hget, hrest⟩
  have hempty : ktBufFifoIsEmpty s.fifo = false := by
    have hiff := h.isEmpty_iff
    simpa using hiff
  refine ⟨fifo, ?_, hrest⟩
  simp [KtLib.ktGetMetadataBuffer, hempty, hget]

/-- Nothing waits, and nothing changes. -/
theorem FifoHolds.ktGetMetadataBuffer_nil {s : KtState app}
    (h : FifoHolds s.heap s.fifo []) :
    KtLib.ktGetMetadataBuffer s = (none, s) := by
  rw [KtLib.ktGetMetadataBuffer, if_pos (h.isEmpty_iff.mpr rfl)]

/-- A callback leaves the waiting buffers alone, and the buffers it adds are
usable and overlap neither those nor each other. -/
structure Courteous (waiting : List MetaBuffer) (heap : Memory)
    (reaction : AppReaction app) : Prop where
  keeps : forall b, b ∈ waiting -> SameIn b heap reaction.heap
  usable : forall b, b ∈ reaction.added -> b.Usable
  apart : (waiting ++ reaction.added).Pairwise MetaBuffer.Apart

/-- Memory is the same in a buffer, behind the part that belongs to the FIFO
while the buffer waits. -/
def SameContents (b : MetaBuffer) (heap heap' : Memory) : Prop :=
  forall x, b.address + 12 ≤ x -> x < b.address + b.length -> heap' x = heap x

theorem SameContents.trans {b : MetaBuffer} {heap mid heap' : Memory}
    (h : SameContents b heap mid) (h' : SameContents b mid heap') :
    SameContents b heap heap' := by
  intro x hlow hhigh
  rw [h' x hlow hhigh, h x hlow hhigh]

theorem SameIn.sameContents {b : MetaBuffer} {heap heap' : Memory}
    (h : SameIn b heap heap') : SameContents b heap heap' := by
  intro x hlow hhigh
  exact (h x (by lia) hhigh).symm

/-- Two buffers of a list are the same one or do not overlap. -/
theorem apart_of_mem {buffers : List MetaBuffer}
    (h : buffers.Pairwise MetaBuffer.Apart) {b c : MetaBuffer}
    (hb : b ∈ buffers) (hc : c ∈ buffers) : b = c ∨ b.Apart c := by
  induction h with
  | nil =>
      cases hb
  | cons hhead _ ih =>
      rcases List.mem_cons.mp hb with hbHead | hb
      · rcases List.mem_cons.mp hc with hcHead | hc
        · exact Or.inl (hbHead.trans hcHead.symm)
        · rw [hbHead]
          exact Or.inr (hhead c hc)
      · rcases List.mem_cons.mp hc with hcHead | hc
        · rw [hcHead]
          exact Or.inr (hhead b hb).symm
        · exact ih hb hc

theorem AddedTo.sameContents {heap heap' : Memory} {b c : MetaBuffer}
    {buffers : List MetaBuffer} (h : AddedTo heap heap' b buffers)
    (hb : b.Usable) (husable : forall d, d ∈ buffers -> d.Usable)
    (hapart : buffers.Pairwise MetaBuffer.Apart) (hc : c ∈ buffers)
    (hcb : c.Apart b) : SameContents c heap heap' := by
  intro x hlow hhigh
  have hbLength := hb.length_ge
  apply h.same
  · rcases hcb with hcb | hcb <;> lia
  · intro d hd
    have hdLength := (husable d hd).length_ge
    rcases apart_of_mem hapart hd hc with rfl | hdc | hdc <;> lia

/-- The state behind a loop that added some buffers to those that waited. -/
structure AddedAll (s : KtState app) (waiting added : List MetaBuffer)
    (s' : KtState app) : Prop where
  held : FifoHolds s'.heap s'.fifo (waiting ++ added)
  contents : forall c, c ∈ waiting -> SameContents c s.heap s'.heap
  reports : s'.reports = s.reports
  stores : s'.stores = s.stores

theorem loopOver_ktAddMetadataBuffer {added waiting : List MetaBuffer}
    {s : KtState app} (hheld : FifoHolds s.heap s.fifo waiting)
    (husable : forall b, b ∈ added -> b.Usable)
    (hapart : (waiting ++ added).Pairwise MetaBuffer.Apart) :
    exists s', loopOver ktAddMetadataBuffer added s = (none, s') ∧
      AddedAll s waiting added s' := by
  induction added generalizing s waiting with
  | nil =>
      refine ⟨s, rfl, ?_, fun c _ x _ _ => rfl, rfl, rfl⟩
      rw [List.append_nil]
      exact hheld
  | cons b rest ih =>
      have hb := husable b List.mem_cons_self
      have hwaitingApart : forall c, c ∈ waiting -> c.Apart b := by
        intro c hc
        exact (List.pairwise_append.mp hapart).2.2 c hc b List.mem_cons_self
      rcases hheld.add hb hwaitingApart with ⟨fifo, heap, hadd, hheld', hsame⟩
      have hstep : ktAddMetadataBuffer b s =
          (none, { s with fifo := fifo, heap := heap }) := by
        rw [ktAddMetadataBuffer, hadd]
      have hsplit : waiting ++ b :: rest = waiting ++ [b] ++ rest := by
        simp
      rw [loopOver_cons_of_none _ hstep]
      rw [hsplit] at hapart
      have hnext : FifoHolds
          ({ s with fifo := fifo, heap := heap } : KtState app).heap
          ({ s with fifo := fifo, heap := heap } : KtState app).fifo
          (waiting ++ [b]) := hheld'
      rcases ih hnext (fun c hc => husable c (List.mem_cons_of_mem _ hc))
        hapart with ⟨s', hloop, hall⟩
      refine ⟨s', hloop, ?_, ?_, hall.reports, hall.stores⟩
      · rw [hsplit]
        exact hall.held
      · intro c hc
        have hfirst : SameContents c s.heap heap :=
          hsame.sameContents hb hheld.usable hheld.apart hc
            (hwaitingApart c hc)
        exact hfirst.trans (hall.contents c (List.mem_append_left _ hc))

/-- A courteous callback gets its report and returns. -/
theorem runCallback_courteous (identified : Bool)
    {callback : app -> Memory -> Int -> AppReaction app} {out : MetaBuffer}
    {s : KtState app} {waiting : List MetaBuffer}
    (hheld : FifoHolds s.heap s.fifo waiting)
    (h : Courteous waiting s.heap (callback s.app s.heap out.address)) :
    exists s', runCallback identified callback out s = (none, s') ∧
      FifoHolds s'.heap s'.fifo
        (waiting ++ (callback s.app s.heap out.address).added) ∧
      (forall c, c ∈ waiting -> SameContents c s.heap s'.heap) ∧
      s'.reports = s.reports ++ [readPpeData identified s.heap out] ∧
      s'.stores = s.stores := by
  have hafter : FifoHolds (callback s.app s.heap out.address).heap s.fifo
      waiting :=
    hheld.congr h.keeps
  have hstart : FifoHolds
      ({ s with
          app := (callback s.app s.heap out.address).app
          heap := (callback s.app s.heap out.address).heap
          reports := s.reports ++ [readPpeData identified s.heap out] } :
        KtState app).heap s.fifo waiting := hafter
  rcases loopOver_ktAddMetadataBuffer hstart h.usable h.apart
    with ⟨s', hloop, hall⟩
  refine ⟨s', hloop, hall.held, ?_, hall.reports, hall.stores⟩
  intro c hc
  exact (h.keeps c hc).sameContents.trans (hall.contents c hc)

/-- Adding buffers changes nothing but the list and memory. -/
theorem loopOver_ktAddMetadataBuffer_same (added : List MetaBuffer)
    (s : KtState app) :
    (loopOver ktAddMetadataBuffer added s).2.app = s.app ∧
      (loopOver ktAddMetadataBuffer added s).2.reports = s.reports ∧
      (loopOver ktAddMetadataBuffer added s).2.stores = s.stores := by
  have hbody : forall b, b ∈ added -> forall s' : KtState app,
      (s'.app = s.app ∧ s'.reports = s.reports ∧ s'.stores = s.stores) ->
      ((ktAddMetadataBuffer b s').2.app = s.app ∧
        (ktAddMetadataBuffer b s').2.reports = s.reports ∧
        (ktAddMetadataBuffer b s').2.stores = s.stores) := by
    intro b _ s' hs'
    exact hs'
  exact loopOver_preserves added hbody ⟨rfl, rfl, rfl⟩

/-- Whatever a callback does, it has been made. -/
theorem runCallback_reports (identified : Bool)
    (callback : app -> Memory -> Int -> AppReaction app) (out : MetaBuffer)
    (s : KtState app) :
    (runCallback identified callback out s).2.reports =
        s.reports ++ [readPpeData identified s.heap out] ∧
      (runCallback identified callback out s).2.stores = s.stores :=
  (loopOver_ktAddMetadataBuffer_same _ _).2

end KtLib
end GardHub

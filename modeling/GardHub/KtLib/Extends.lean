import GardHub.KtLib.Callbacks
import GardHub.KtLib.Faces

/-!
# The record of a run

Whatever a part of the handler does, it adds to the record of what was put into
the buffers and of what was reported, and takes nothing back.
-/

namespace GardHub
namespace KtLib

open Foundation
open Interface

variable {app : Type}

structure Extends (s s' : KtState app) : Prop where
  stores : s.stores <+: s'.stores
  reports : s.reports <+: s'.reports

theorem Extends.refl (s : KtState app) : Extends s s :=
  ⟨List.prefix_rfl, List.prefix_rfl⟩

theorem Extends.trans {s mid s' : KtState app} (h : Extends s mid)
    (h' : Extends mid s') : Extends s s' :=
  ⟨h.stores.trans h'.stores, h.reports.trans h'.reports⟩

theorem PutsFaces.extends {fits : Prop} {s : KtState app} {st : FacePass}
    (h : PutsFaces fits s.stores st.stores) : Extends s (s.finishPass st) := by
  rcases h with ⟨new, hnew, -⟩
  exact ⟨⟨new, hnew.symm⟩, List.prefix_rfl⟩

theorem extends_count {s : KtState app} {st : FacePass} {out : MetaBuffer}
    {bytes : List UInt8} :
    Extends (s.finishPass st) (s.finishPass (st.put out 0 bytes)) :=
  ⟨List.prefix_append _ _, List.prefix_rfl⟩

theorem runCallback_extends (identified : Bool)
    (callback : app -> Memory -> Int -> AppReaction app) (out : MetaBuffer)
    (s : KtState app) :
    Extends s (runCallback identified callback out s).2 := by
  rcases runCallback_reports identified callback out s with ⟨hreports, hstores⟩
  exact ⟨⟨[], by rw [hstores, List.append_nil]⟩, ⟨_, hreports.symm⟩⟩

section Handler

variable {cbs : KtCallbacks app} {rx : Memory} {ideal : Option Nat}

theorem reportUnidentified_extends (identified : Nat) (out : MetaBuffer)
    (s : KtState app) :
    Extends s (reportUnidentified cbs rx ideal identified out s).2 := by
  have hpasses := unidentifiedUsers_pass rx ideal out (loopCount rx)
    (rfl : (s.startPass identified).countOfUnidentifiedUsers = 0)
  rcases hpasses with ⟨st, hpass, ⟨-, hloop⟩ | ⟨-, hloop⟩⟩
  · have hpassed : Extends s (s.finishPass (st.put out 0
        (leBytes 4 st.countOfUnidentifiedUsers))) :=
      (PutsFaces.extends hpass.stores).trans extends_count
    cases hcallback : cbs.kcOnFaceNotIdentified with
    | none =>
        simp only [reportUnidentified, hloop, hcallback]
        exact hpassed
    | some callback =>
        have hcalled := runCallback_extends false callback out (s.finishPass
          (st.put out 0 (leBytes 4 st.countOfUnidentifiedUsers)))
        simp only [reportUnidentified, hloop, hcallback]
        split <;> rename_i hrun <;> rw [hrun] at hcalled
        · exact hpassed.trans hcalled
        · exact hpassed.trans hcalled
  · simp only [reportUnidentified, hloop]
    exact PutsFaces.extends hpass.stores

theorem ktGetMetadataBuffer_extends (s : KtState app) :
    Extends s (ktGetMetadataBuffer s).2 := by
  unfold ktGetMetadataBuffer
  split
  · exact Extends.refl s
  · exact ⟨List.prefix_rfl, List.prefix_rfl⟩

theorem handleUnidentified_extends (identified unidentified : Nat)
    (pOutData : Option MetaBuffer) (s : KtState app) :
    Extends s (handleUnidentified cbs rx ideal identified unidentified pOutData
      s).2 := by
  unfold handleUnidentified
  split
  · exact Extends.refl s
  · cases pOutData with
    | some out =>
        exact reportUnidentified_extends identified out s
    | none =>
        have hget := ktGetMetadataBuffer_extends s
        cases hbuffer : ktGetMetadataBuffer s with
        | mk result s' =>
            rw [hbuffer] at hget
            cases result with
            | none =>
                exact hget
            | some out =>
                simp only
                split
                · exact hget
                · exact hget.trans (reportUnidentified_extends identified out s')

/-- What is left to do behind the pass over the identified users. -/
theorem handleUsers_extends {b : MetaBuffer} {s : KtState app}
    {st : FacePass}
    (hloop : loopOver (identifiedUser rx ideal b) (List.range (loopCount rx))
      (s.startPass 0) = (none, st)) :
    Extends (s.finishPass (st.put b 0 (leBytes 4 st.countOfIdentifiedUsers)))
      (handleUsers cbs rx ideal b s).2 := by
  unfold handleUsers
  rw [hloop]
  cases hcallback : cbs.kcOnFaceIdentified with
  | none =>
      exact handleUnidentified_extends _ _ _ _
  | some callback =>
      have hcalled := runCallback_extends true callback b (s.finishPass
        (st.put b 0 (leBytes 4 st.countOfIdentifiedUsers)))
      simp only
      split
      · exact handleUnidentified_extends _ _ _ _
      · split <;> rename_i hrun <;> rw [hrun] at hcalled
        · exact hcalled
        · exact hcalled.trans (handleUnidentified_extends _ _ _ _)

end Handler

end KtLib
end GardHub

import Mathlib

/-!
# Parts between marks

A list of bodies, each behind a header and in front of a mark.  A reader cuts at
the first mark it finds, and so reads back the bodies exactly if the mark is in
none of them.
-/

namespace GardHub
namespace Foundation

variable {symbol : Type} {first : symbol} {later header : List symbol}

/-- A mark whose first symbol is nowhere else in it does not begin in a body and
end in the mark behind it. -/
theorem not_overlaps (hfirst : first ∉ later) {body : List symbol}
    (hbody : ¬ (first :: later) <:+: body) (hne : body ≠ [])
    (rest : List symbol) :
    ¬ (first :: later) <+: body ++ (first :: later) ++ rest := by
  intro hfront
  rcases Nat.lt_or_ge body.length (first :: later).length with hlong | hshort
  · -- The mark would have its first symbol once more, behind the body.
    rcases List.exists_cons_of_ne_nil hne with ⟨b, body', rfl⟩
    have hlt : body'.length < later.length := Nat.lt_of_succ_lt_succ hlong
    have hsame : later[body'.length] = first := by
      simpa using List.IsPrefix.getElem hfront hlong
    exact hfirst (hsame ▸ List.getElem_mem hlt)
  · apply hbody
    have hwithin : (first :: later) <+: body := by
      rw [List.append_assoc] at hfront
      exact List.prefix_of_prefix_length_le hfront (List.prefix_append _ _)
        hshort
    exact hwithin.isInfix

/-- A part with its header and the mark behind it. -/
def writePart (header mark body : List symbol) : List symbol :=
  header ++ body ++ mark

theorem length_le_flatMap_writePart (mark : List symbol) (hheader : header ≠ [])
    (bodies : List (List symbol)) :
    bodies.length ≤ (bodies.flatMap (writePart header mark)).length := by
  induction bodies with
  | nil =>
      exact Nat.le_refl 0
  | cons body rest ih =>
      have hpos := List.length_pos_iff.mpr hheader
      simp only [List.flatMap_cons, writePart, List.length_append,
        List.length_cons] at ih ⊢
      lia

variable [DecidableEq symbol]

/-- What stands in front of the first mark, and what stands behind it. -/
def cutAt (mark : List symbol) :
    List symbol -> Option (List symbol × List symbol)
  | [] => none
  | b :: rest =>
      if mark <+: b :: rest then some ([], (b :: rest).drop mark.length)
      else (cutAt mark rest).map fun cut => (b :: cut.1, cut.2)

/-- The bodies, one after another, as long as there is a header and a mark. -/
def readParts (header mark : List symbol) :
    Nat -> List symbol -> List (List symbol)
  | 0, _ => []
  | parts + 1, input =>
      if header <+: input then
        match cutAt mark (input.drop header.length) with
        | none => []
        | some (body, rest) => body :: readParts header mark parts rest
      else []

/-!
## Cutting
-/

section Cut

/-- A body without the mark is cut off at the mark behind it. -/
theorem cutAt_append (hfirst : first ∉ later) {body : List symbol}
    (hbody : ¬ (first :: later) <:+: body) (rest : List symbol) :
    cutAt (first :: later) (body ++ (first :: later) ++ rest) =
      some (body, rest) := by
  induction body with
  | nil =>
      simp [cutAt]
  | cons b body ih =>
      have hnot := not_overlaps hfirst hbody (List.cons_ne_nil b body) rest
      have hlater : ¬ (first :: later) <:+: body := fun h =>
        hbody (h.trans (List.suffix_cons b body).isInfix)
      simp only [List.cons_append] at hnot ih hlater ⊢
      rw [cutAt, if_neg hnot, ih hlater, Option.map_some]

/-- A body with a mark in it is cut off before its end. -/
theorem cutAt_shorter {mark body : List symbol} (hmark : mark ≠ [])
    (hbody : mark <:+: body) (rest : List symbol) :
    exists cut, cutAt mark (body ++ rest) = some cut ∧
      cut.1.length < body.length := by
  induction body with
  | nil =>
      exact absurd (List.infix_nil.mp hbody) hmark
  | cons b body ih =>
      rw [List.cons_append, cutAt]
      by_cases hfront : mark <+: b :: (body ++ rest)
      · rw [if_pos hfront]
        exact ⟨_, rfl, Nat.succ_pos _⟩
      · have hlater : mark <:+: body := by
          rcases List.infix_cons_iff.mp hbody with hnow | hlater
          · exact absurd (hnow.trans (List.prefix_append _ rest)) hfront
          · exact hlater
        rcases ih hlater with ⟨cut, hcut, hlt⟩
        rw [if_neg hfront, hcut]
        exact ⟨_, rfl, Nat.succ_lt_succ hlt⟩

end Cut

section Parts

/-- With steps enough, the bodies are read back exactly if there is no mark in
any of them. -/
theorem readParts_eq_iff (hfirst : first ∉ later) (hheader : header ≠ [])
    (bodies : List (List symbol)) {steps : Nat} (hsteps : bodies.length ≤ steps) :
    readParts header (first :: later) steps
        (bodies.flatMap (writePart header (first :: later))) = bodies <->
      forall body, body ∈ bodies -> ¬ (first :: later) <:+: body := by
  induction bodies generalizing steps with
  | nil =>
      cases steps with
      | zero =>
          simp [readParts]
      | succ steps =>
          simp [readParts, hheader]
  | cons body rest ih =>
      cases steps with
      | zero =>
          exact absurd hsteps (Nat.not_succ_le_zero _)
      | succ steps =>
          have hrest := ih (Nat.le_of_succ_le_succ hsteps)
          have hstarts : header <+:
              (body :: rest).flatMap (writePart header (first :: later)) := by
            rw [List.flatMap_cons, writePart, List.append_assoc,
              List.append_assoc]
            exact List.prefix_append _ _
          have hdrop : ((body :: rest).flatMap
              (writePart header (first :: later))).drop header.length =
                body ++ (first :: later) ++
                  rest.flatMap (writePart header (first :: later)) := by
            simp [List.flatMap_cons, writePart, List.append_assoc]
          rw [readParts, if_pos hstarts, hdrop, List.forall_mem_cons]
          by_cases hbody : (first :: later) <:+: body
          · have hshorter := cutAt_shorter (List.cons_ne_nil first later) hbody
              ((first :: later) ++
                rest.flatMap (writePart header (first :: later)))
            rcases hshorter with ⟨⟨front, back⟩, hcut, hlt⟩
            rw [← List.append_assoc] at hcut
            simp only [hcut, hbody, not_true_eq_false, false_and, iff_false]
            intro hsame
            rw [(List.cons.inj hsame).1] at hlt
            exact Nat.lt_irrefl _ hlt
          · rw [cutAt_append hfirst hbody]
            simp [hrest, hbody]

end Parts

end Foundation
end GardHub

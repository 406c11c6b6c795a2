import Mathlib

/-!
# UTF-8 texts in bytes

A text is a list of characters, encoded one after another.  A decoder that
leaves out what it cannot decode makes of a text that is cut off somewhere the
characters that were left whole.
-/

namespace GardHub
namespace Foundation

/-- The encoding of a text. -/
def utf8Bytes (text : List Char) : List UInt8 :=
  text.flatMap String.utf8EncodeChar

/-- The character whose encoding the bytes start with. -/
def utf8Front (bytes : List UInt8) : Option Char :=
  bytes.toByteArray.utf8DecodeChar? 0

/-- Decode for a number of steps.  A byte at which no character starts is left
out. -/
def decodeIgnoring : Nat -> List UInt8 -> List Char
  | 0, _ => []
  | _ + 1, [] => []
  | steps + 1, b :: rest =>
      match utf8Front (b :: rest) with
      | none => decodeIgnoring steps rest
      | some c => c :: decodeIgnoring steps ((b :: rest).drop c.utf8Size)

/-- Decode a text and ignore what is not the encoding of a character. -/
def utf8DecodeIgnoring (bytes : List UInt8) : List Char :=
  decodeIgnoring bytes.length bytes

/-- The characters at the front of a text whose encoding fits in `n` bytes. -/
def fittingFront : Nat -> List Char -> List Char
  | _, [] => []
  | n, c :: rest =>
      if c.utf8Size ≤ n then c :: fittingFront (n - c.utf8Size) rest else []

/-- The longest front of a text whose encoding fits in `n` bytes. -/
structure LongestFitting (n : Nat) (text front : List Char) : Prop where
  isPrefix : front <+: text
  length_le : (utf8Bytes front).length ≤ n
  longest : forall other, other <+: text -> (utf8Bytes other).length ≤ n ->
    other <+: front

/-!
## The front of the bytes
-/

section Front

variable {c d : Char} {bytes rest : List UInt8}

theorem utf8Front_append (c : Char) (rest : List UInt8) :
    utf8Front (String.utf8EncodeChar c ++ rest) = some c := by
  rw [utf8Front, List.toByteArray_append]
  exact ByteArray.utf8DecodeChar?_utf8EncodeChar_append

theorem exists_append_of_utf8Front (h : utf8Front bytes = some c) :
    exists rest, bytes = String.utf8EncodeChar c ++ rest := by
  rcases ByteArray.exists_of_utf8DecodeChar?_eq_some h with ⟨l, hl⟩
  have hdata := congrArg (fun b => b.data.toList) hl
  exact ⟨l.data.toList, by simpa using hdata⟩

/-- No encoding starts with another one. -/
theorem eq_of_utf8EncodeChar_append {rest' : List UInt8}
    (h : String.utf8EncodeChar c ++ rest = String.utf8EncodeChar d ++ rest') :
    c = d := by
  have hfront := utf8Front_append c rest
  rw [h, utf8Front_append] at hfront
  exact (Option.some_inj.mp hfront).symm

/-- No character starts at a byte of an encoding that has been cut off. -/
theorem utf8Front_cut {k : Nat} (hk : k < c.utf8Size) (i : Nat) :
    utf8Front (((String.utf8EncodeChar c).take k).drop i) = none := by
  cases hfront : utf8Front (((String.utf8EncodeChar c).take k).drop i) with
  | none =>
      rfl
  | some d =>
      exfalso
      have hlength := String.length_utf8EncodeChar c
      rcases exists_append_of_utf8Front hfront with ⟨rest, hpiece⟩
      cases i with
      | zero =>
          -- The whole encoding would start with the one of `d`, which is
          -- shorter.
          have hwhole : String.utf8EncodeChar c ++ [] =
              String.utf8EncodeChar d ++
                (rest ++ (String.utf8EncodeChar c).drop k) := by
            rw [List.append_nil, ← List.append_assoc, ← hpiece, List.drop_zero,
              List.take_append_drop]
          have hshort := congrArg List.length hpiece
          rw [eq_of_utf8EncodeChar_append hwhole] at hk hshort
          simp only [List.drop_zero, List.length_take, List.length_append,
            String.length_utf8EncodeChar] at hshort
          lia
      | succ i =>
          -- The encoding of `d` would start with a byte that only continues
          -- one.
          have hlong := congrArg List.length hpiece
          simp only [List.length_drop, List.length_take, List.length_append,
            String.length_utf8EncodeChar] at hlong
          have hd := d.utf8Size_pos
          have hfirst : 0 < (String.utf8EncodeChar d).length := by
            rw [String.length_utf8EncodeChar]
            exact hd
          have hlater : i + 1 < (String.utf8EncodeChar c).length := by lia
          have hbyte : (String.utf8EncodeChar c)[i + 1] =
              (String.utf8EncodeChar d)[0] := by
            have hhead := congrArg (fun l => l[0]?) hpiece
            simp only [List.getElem?_drop, Nat.add_zero] at hhead
            rw [List.getElem?_take_of_lt (by lia),
              List.getElem?_append_left hfirst,
              List.getElem?_eq_getElem hlater,
              List.getElem?_eq_getElem hfirst] at hhead
            exact Option.some_inj.mp hhead
          have hstarts : ((String.utf8EncodeChar d)[0]).IsUTF8FirstByte :=
            UInt8.isUTF8FirstByte_getElem_utf8EncodeChar.mpr rfl
          rw [← hbyte] at hstarts
          cases UInt8.isUTF8FirstByte_getElem_utf8EncodeChar.mp hstarts

theorem zero_not_mem_utf8Bytes {text : List Char} (h : '\x00' ∉ text) :
    0 ∉ utf8Bytes text := by
  intro hzero
  rcases List.mem_flatMap.mp hzero with ⟨c, hc, hbyte⟩
  rcases List.mem_iff_getElem.mp hbyte with ⟨i, hi, hget⟩
  have hstarts : ((String.utf8EncodeChar c)[i]).IsUTF8FirstByte := by
    rw [hget]
    decide
  have hi0 := UInt8.isUTF8FirstByte_getElem_utf8EncodeChar.mp hstarts
  subst hi0
  have hnul : String.utf8EncodeChar '\x00' ++
      (String.utf8EncodeChar c).tail = String.utf8EncodeChar c ++ [] := by
    have hhead : [(0 : UInt8)] = String.utf8EncodeChar '\x00' := by decide
    rw [← hhead, ← hget, List.append_nil, List.singleton_append,
      List.getElem_zero, List.cons_head_tail]
  rw [eq_of_utf8EncodeChar_append hnul] at h
  exact h hc

end Front

/-!
## Texts that are cut off
-/

section Cut

variable {c : Char} {n steps : Nat}

theorem utf8Bytes_cons (c : Char) (rest : List Char) :
    utf8Bytes (c :: rest) = String.utf8EncodeChar c ++ utf8Bytes rest :=
  List.flatMap_cons

theorem decodeIgnoring_append (c : Char) (rest : List UInt8) (steps : Nat) :
    decodeIgnoring (steps + 1) (String.utf8EncodeChar c ++ rest) =
      c :: decodeIgnoring steps rest := by
  have hfront := utf8Front_append c rest
  have hdrop : (String.utf8EncodeChar c ++ rest).drop c.utf8Size = rest := by
    rw [← String.length_utf8EncodeChar c, List.drop_left]
  cases hbytes : String.utf8EncodeChar c ++ rest with
  | nil =>
      rw [hbytes] at hfront
      cases hfront
  | cons b later =>
      rw [hbytes] at hfront hdrop
      rw [decodeIgnoring, hfront]
      simp only [hdrop]

/-- Nothing is decoded from an encoding that has been cut off. -/
theorem decodeIgnoring_cut {k : Nat} (hk : k < c.utf8Size) (i steps : Nat) :
    decodeIgnoring steps (((String.utf8EncodeChar c).take k).drop i) = [] := by
  induction steps generalizing i with
  | zero =>
      rfl
  | succ steps ih =>
      have hnone := utf8Front_cut hk i
      have hnext := ih (i + 1)
      rw [← List.drop_drop] at hnext
      cases hpiece : ((String.utf8EncodeChar c).take k).drop i with
      | nil =>
          rfl
      | cons b later =>
          rw [hpiece] at hnone hnext
          rw [decodeIgnoring, hnone]
          exact hnext

/-- From a text that is cut off behind `n` bytes the characters in front of the
cut are decoded. -/
theorem decodeIgnoring_take (text : List Char)
    (hsteps : ((utf8Bytes text).take n).length ≤ steps) :
    decodeIgnoring steps ((utf8Bytes text).take n) = fittingFront n text := by
  induction text generalizing n steps with
  | nil =>
      cases steps with
      | zero =>
          rfl
      | succ steps =>
          simp [utf8Bytes, decodeIgnoring, fittingFront]
  | cons c rest ih =>
      have hlength := String.length_utf8EncodeChar c
      have hpos := c.utf8Size_pos
      rw [utf8Bytes_cons] at hsteps ⊢
      rw [fittingFront]
      by_cases hfits : c.utf8Size ≤ n
      · have htake : (String.utf8EncodeChar c ++ utf8Bytes rest).take n =
            String.utf8EncodeChar c ++
              (utf8Bytes rest).take (n - c.utf8Size) := by
          rw [List.take_append, hlength,
            List.take_of_length_le (hlength.trans_le hfits)]
        rw [htake, List.length_append, hlength] at hsteps
        cases steps with
        | zero =>
            lia
        | succ steps =>
            rw [htake, if_pos hfits, decodeIgnoring_append, ih (by lia)]
      · have htake : (String.utf8EncodeChar c ++ utf8Bytes rest).take n =
            ((String.utf8EncodeChar c).take n).drop 0 := by
          rw [List.take_append_of_le_length (by lia), List.drop_zero]
        rw [htake, if_neg hfits, decodeIgnoring_cut (Nat.lt_of_not_le hfits)]

theorem fittingFront_longest (n : Nat) (text : List Char) :
    LongestFitting n text (fittingFront n text) := by
  induction text generalizing n with
  | nil =>
      exact ⟨⟨[], rfl⟩, Nat.zero_le n, fun other hother _ => hother⟩
  | cons c rest ih =>
      have hrest := ih (n - c.utf8Size)
      have hlength := String.length_utf8EncodeChar c
      rw [fittingFront]
      by_cases hfits : c.utf8Size ≤ n
      · rw [if_pos hfits]
        constructor
        · rcases hrest.isPrefix with ⟨later, hlater⟩
          exact ⟨later, by rw [List.cons_append, hlater]⟩
        · have hle := hrest.length_le
          rw [utf8Bytes_cons, List.length_append, hlength]
          lia
        · intro other hother hle
          cases other with
          | nil =>
              exact ⟨_, rfl⟩
          | cons d later =>
              rw [List.cons_prefix_cons] at hother ⊢
              rcases hother with ⟨rfl, hother⟩
              rw [utf8Bytes_cons, List.length_append, hlength] at hle
              exact ⟨rfl, hrest.longest later hother (by lia)⟩
      · rw [if_neg hfits]
        refine ⟨⟨_, rfl⟩, Nat.zero_le n, ?_⟩
        intro other hother hle
        cases other with
        | nil =>
            exact ⟨_, rfl⟩
        | cons d later =>
            rw [List.cons_prefix_cons] at hother
            rcases hother with ⟨rfl, -⟩
            rw [utf8Bytes_cons, List.length_append, hlength] at hle
            lia

/-- A text that is cut off behind `n` bytes is decoded as the longest front that
fits in them. -/
theorem utf8DecodeIgnoring_take (n : Nat) (text : List Char) :
    LongestFitting n text (utf8DecodeIgnoring ((utf8Bytes text).take n)) := by
  rw [utf8DecodeIgnoring, decodeIgnoring_take text (le_refl _)]
  exact fittingFront_longest n text

end Cut

end Foundation
end GardHub

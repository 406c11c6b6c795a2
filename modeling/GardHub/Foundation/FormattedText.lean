import Mathlib

/-!
# Formatted text

Conversions of formatted output and input as a line-based text file uses them:
an unsigned number, a text up to a stop byte, and single characters.  Text is a
sequence of bytes in the C locale.  A conversion of the input either fails or
leaves the input behind what it took.
-/

namespace GardHub
namespace Foundation

/-- A C string: what stands in front of the first NUL. -/
def cString (bytes : List UInt8) : List UInt8 :=
  bytes.takeWhile fun c => c != 0

/-- `isspace` -/
def isSpace (c : UInt8) : Bool :=
  c == 32 || (9 ≤ c && c ≤ 13)

/-- `isdigit` -/
def isDigit (c : UInt8) : Bool :=
  48 ≤ c && c ≤ 57

/-!
## Numbers
-/

/-- The digit for a value below ten. -/
def digitByte (value : Nat) : UInt8 :=
  UInt8.ofNat (48 + value)

/-- The value of a digit. -/
def digitValue (c : UInt8) : Nat :=
  c.toNat - 48

/-- Output of `%u`. -/
def printUnsigned (value : Nat) : List UInt8 :=
  if value = 0 then [digitByte 0]
  else ((Nat.digits 10 value).map digitByte).reverse

/-- The number that a sequence of digits stands for. -/
def digitsValue (digits : List UInt8) : Nat :=
  Nat.ofDigits 10 (digits.reverse.map digitValue)

/-- `strtoul` for the digits behind a sign: a 64-bit number, the largest one if
the digits stand for more. -/
def strtoul (negative : Bool) (magnitude : Nat) : Nat :=
  if 2 ^ 64 ≤ magnitude then 2 ^ 64 - 1
  else if negative then (2 ^ 64 - magnitude) % 2 ^ 64
  else magnitude

/-- Input of `%u` behind white space and sign: at least one digit. -/
def scanDigits (negative : Bool) (input : List UInt8) :
    Option (UInt32 × List UInt8) :=
  let digits := input.takeWhile isDigit
  if digits = [] then none
  else some (UInt32.ofNat (strtoul negative (digitsValue digits)),
    input.dropWhile isDigit)

/-- Input of `%u`.  White space is skipped, and a sign is taken. -/
def scanUnsigned (input : List UInt8) : Option (UInt32 × List UInt8) :=
  match input.dropWhile isSpace with
  | [] => none
  | c :: rest =>
      if c = 43 then scanDigits false rest
      else if c = 45 then scanDigits true rest
      else scanDigits false (c :: rest)

/-- Input of a character that stands for itself. -/
def scanLiteral (c : UInt8) : List UInt8 -> Option (List UInt8)
  | [] => none
  | c' :: rest => if c' = c then some rest else none

/-- Input of `%[^...]` with a width: at least one byte that does not stop. -/
def scanUntil (stops : UInt8 -> Bool) (width : Nat) (input : List UInt8) :
    Option (List UInt8 × List UInt8) :=
  let text := (input.take width).takeWhile fun c => !stops c
  if text = [] then none else some (text, input.drop text.length)

/-!
## What is printed can be scanned
-/

theorem isDigit_digitByte {value : Nat} (h : value < 10) :
    isDigit (digitByte value) = true := by
  have hall : forall v, v < 10 -> isDigit (digitByte v) = true := by decide
  exact hall value h

theorem digitValue_digitByte {value : Nat} (h : value < 10) :
    digitValue (digitByte value) = value := by
  have hall : forall v, v < 10 -> digitValue (digitByte v) = v := by decide
  exact hall value h

theorem printUnsigned_ne_nil (value : Nat) : printUnsigned value ≠ [] := by
  unfold printUnsigned
  by_cases hzero : value = 0
  · simp [hzero]
  · simp [hzero, Nat.digits_ne_nil_iff_ne_zero]

theorem isDigit_of_mem_printUnsigned {value : Nat} {c : UInt8}
    (h : c ∈ printUnsigned value) : isDigit c = true := by
  unfold printUnsigned at h
  by_cases hzero : value = 0
  · rw [if_pos hzero, List.mem_singleton] at h
    rw [h]
    rfl
  · rw [if_neg hzero, List.mem_reverse, List.mem_map] at h
    rcases h with ⟨digit, hdigit, rfl⟩
    exact isDigit_digitByte (Nat.digits_lt_base (by decide) hdigit)

theorem digitsValue_printUnsigned (value : Nat) :
    digitsValue (printUnsigned value) = value := by
  unfold digitsValue printUnsigned
  by_cases hzero : value = 0
  · rw [if_pos hzero, hzero]
    rfl
  · rw [if_neg hzero, List.reverse_reverse, List.map_map]
    have hdigits : (Nat.digits 10 value).map (digitValue ∘ digitByte) =
        Nat.digits 10 value := by
      conv_rhs => rw [← List.map_id (Nat.digits 10 value)]
      apply List.map_congr_left
      intro digit hdigit
      exact digitValue_digitByte (Nat.digits_lt_base (by decide) hdigit)
    rw [hdigits, Nat.ofDigits_digits]

/-- A digit is neither white space nor a sign. -/
theorem not_isSpace_of_isDigit {c : UInt8} (h : isDigit c = true) :
    isSpace c = false ∧ c ≠ 43 ∧ c ≠ 45 := by
  have hrange : 48 ≤ c.toNat ∧ c.toNat ≤ 57 := by
    simpa [isDigit, UInt8.le_iff_toNat_le] using h
  refine ⟨?_, ?_, ?_⟩
  · simp only [isSpace, Bool.or_eq_false_iff, beq_eq_false_iff_ne,
      Bool.and_eq_false_iff, decide_eq_false_iff_not, UInt8.le_iff_toNat_le]
    refine ⟨?_, Or.inr ?_⟩
    · rintro rfl
      exact absurd hrange.1 (by decide)
    · change ¬ c.toNat ≤ 13
      lia
  · rintro rfl
    exact absurd hrange.1 (by decide)
  · rintro rfl
    exact absurd hrange.1 (by decide)

theorem takeWhile_append_of_all {p : UInt8 -> Bool} {front : List UInt8}
    (hfront : forall c, c ∈ front -> p c = true) {c : UInt8} (hc : p c = false)
    (rest : List UInt8) : (front ++ c :: rest).takeWhile p = front := by
  rw [List.takeWhile_append_of_pos hfront,
    List.takeWhile_cons_of_neg (by simp [hc]),
    List.append_nil]

theorem dropWhile_append_of_all {p : UInt8 -> Bool} {front : List UInt8}
    (hfront : forall c, c ∈ front -> p c = true) {c : UInt8} (hc : p c = false)
    (rest : List UInt8) : (front ++ c :: rest).dropWhile p = c :: rest := by
  rw [List.dropWhile_append_of_pos hfront,
    List.dropWhile_cons_of_neg (by simp [hc])]

/-- A printed number that no digit follows is scanned. -/
theorem scanDigits_printUnsigned (value : UInt32) {c : UInt8}
    (hc : isDigit c = false) (rest : List UInt8) :
    scanDigits false (printUnsigned value.toNat ++ c :: rest) =
      some (value, c :: rest) := by
  have hall : forall d, d ∈ printUnsigned value.toNat -> isDigit d = true :=
    fun d hd => isDigit_of_mem_printUnsigned hd
  have hsmall : ¬ 2 ^ 64 ≤ value.toNat := by
    have hlt := value.toNat_lt
    lia
  simp only [scanDigits, takeWhile_append_of_all hall hc,
    dropWhile_append_of_all hall hc, if_neg (printUnsigned_ne_nil _),
    digitsValue_printUnsigned, strtoul, if_neg hsmall]
  simp

/-- So it is behind any white space. -/
theorem scanUnsigned_printUnsigned {spaces : List UInt8}
    (hspaces : forall c, c ∈ spaces -> isSpace c = true) (value : UInt32)
    {c : UInt8} (hc : isDigit c = false) (rest : List UInt8) :
    scanUnsigned (spaces ++ (printUnsigned value.toNat ++ c :: rest)) =
      some (value, c :: rest) := by
  have hscan := scanDigits_printUnsigned value hc rest
  cases hprint : printUnsigned value.toNat with
  | nil =>
      exact absurd hprint (printUnsigned_ne_nil _)
  | cons d digits =>
      have hd : isDigit d = true := by
        apply isDigit_of_mem_printUnsigned
        rw [hprint]
        exact List.mem_cons_self
      rcases not_isSpace_of_isDigit hd with ⟨hspace, hplus, hminus⟩
      rw [hprint] at hscan
      rw [scanUnsigned, List.cons_append,
        dropWhile_append_of_all hspaces hspace]
      simp only [if_neg hplus, if_neg hminus]
      exact hscan

theorem scanUnsigned_spaces {spaces : List UInt8}
    (hspaces : forall c, c ∈ spaces -> isSpace c = true) :
    scanUnsigned spaces = none := by
  rw [scanUnsigned, List.dropWhile_eq_nil_iff.mpr hspaces]

/-!
## Text up to a stop byte
-/

variable {stops : UInt8 -> Bool} {width : Nat}

theorem scanUntil_append {text : List UInt8} (hne : text ≠ [])
    (hwidth : text.length ≤ width)
    (htext : forall c, c ∈ text -> stops c = false) {c : UInt8}
    (hc : stops c = true) (rest : List UInt8) :
    scanUntil stops width (text ++ c :: rest) = some (text, c :: rest) := by
  have hgoes : forall d, d ∈ text -> (!stops d) = true := by
    intro d hd
    simp [htext d hd]
  have hstop : ((c :: rest).take (width - text.length)).takeWhile
      (fun d => !stops d) = [] := by
    cases width - text.length with
    | zero =>
        rfl
    | succ room =>
        rw [List.take_succ_cons, List.takeWhile_cons_of_neg (by simp [hc])]
  have htake : ((text ++ c :: rest).take width).takeWhile
      (fun d => !stops d) = text := by
    rw [List.take_append, List.take_of_length_le hwidth,
      List.takeWhile_append_of_pos hgoes, hstop, List.append_nil]
  rw [scanUntil, htake]
  simp only [if_neg hne, List.drop_left]

theorem scanUntil_stop {c : UInt8} (hc : stops c = true) (rest : List UInt8) :
    scanUntil stops width (c :: rest) = none := by
  have htake : ((c :: rest).take width).takeWhile (fun d => !stops d) = [] := by
    cases width with
    | zero =>
        rfl
    | succ room =>
        rw [List.take_succ_cons, List.takeWhile_cons_of_neg (by simp [hc])]
  rw [scanUntil, htake]
  rfl

end Foundation
end GardHub

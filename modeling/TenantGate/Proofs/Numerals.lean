import Mathlib.Data.List.Induction
import Mathlib.Data.Nat.Digits.Defs
import TenantGate.SocketAddress

/-!
# Numbers as they are written

A numeral (`Numeral`) is one or more ASCII digits with a plus sign in front or not; its value is the
one that positional notation gives, so leading zeros do not matter. Reading a number under a bound
accepts exactly the numerals of the numbers under the bound (`boundedNumber?_eq_some_iff`), and the
digits of a number are read back as this number, also as the port of an address
(`SocketAddress.read?_everywhere`).
-/

set_option autoImplicit false

namespace TenantGate

open TenantGate.Text

namespace Text

/-! ## Digits -/

/-- The ASCII digit of a number below ten. -/
def digit (d : Fin 10) : Char := Char.ofNat ('0'.toNat + d.val)

/-- The number that digits write, the most significant one first. -/
def positional (digits : List (Fin 10)) : Nat := Nat.ofDigits 10 (digits.reverse.map Fin.val)

theorem digitValue_digit : ∀ d : Fin 10, digitValue (digit d) = d.val := by decide

theorem isDigit_digit : ∀ d : Fin 10, (digit d).isDigit = true := by decide

/-- No digit is a plus sign. -/
theorem digit_ne_plus : ∀ d : Fin 10, digit d ≠ '+' := by decide

theorem exists_digit {c : Char} (h : c.isDigit = true) : ∃ d, digit d = c := by
  obtain ⟨hzero, hnine⟩ := Char.isDigit_iff_toNat.1 h
  have h0 : '0'.toNat = 48 := rfl
  have h9 : '9'.toNat = 57 := rfl
  refine ⟨⟨c.toNat - '0'.toNat, by omega⟩, ?_⟩
  have hsum : '0'.toNat + (c.toNat - '0'.toNat) = c.toNat := by omega
  rw [digit, hsum, Char.ofNat_toNat]

theorem exists_digits {cs : List Char} (h : ∀ c ∈ cs, c.isDigit = true) :
    ∃ digits : List (Fin 10), digits.map digit = cs := by
  induction cs with
  | nil => exact ⟨[], rfl⟩
  | cons c cs ih =>
    obtain ⟨d, hd⟩ := exists_digit (h c List.mem_cons_self)
    obtain ⟨digits, hdigits⟩ := ih fun c' hc' => h c' (List.mem_cons_of_mem c hc')
    exact ⟨d :: digits, by rw [List.map_cons, hd, hdigits]⟩

theorem digitsValue_append_digit (cs : List Char) (c : Char) :
    digitsValue (cs ++ [c]) = 10 * digitsValue cs + digitValue c := by
  simp [digitsValue]

/-- Digits have the value of positional notation. -/
theorem digitsValue_map_digit (digits : List (Fin 10)) :
    digitsValue (digits.map digit) = positional digits := by
  -- from the back, where the least significant digit stands
  induction digits using List.reverseRecOn with
  | nil => rfl
  | append_singleton digits d ih =>
    rw [List.map_append, List.map_singleton, digitsValue_append_digit, ih, digitValue_digit,
      positional, positional, List.reverse_append, List.reverse_singleton, List.singleton_append,
      List.map_cons, Nat.ofDigits_cons, Nat.add_comm]

/-! ## Numerals -/

/-- The numerals of a number: digits, with a plus sign in front or not. -/
inductive Numeral : String → Nat → Prop where
  | unsigned {digits : List (Fin 10)} :
      digits ≠ [] → Numeral (String.ofList (digits.map digit)) (positional digits)
  | signed {digits : List (Fin 10)} :
      digits ≠ [] → Numeral (String.ofList ('+' :: digits.map digit)) (positional digits)

theorem dropPlus_map_digit (digits : List (Fin 10)) :
    dropPlus (digits.map digit) = digits.map digit := by
  cases digits with
  | nil => rfl
  | cons d digits =>
    rw [List.map_cons, dropPlus]
    intro cs hcs
    exact digit_ne_plus d (List.cons.inj hcs).1

/-- A text is the text behind its plus sign, or that text with a plus sign in front. -/
theorem eq_dropPlus_or (cs : List Char) : cs = dropPlus cs ∨ cs = '+' :: dropPlus cs := by
  unfold dropPlus
  split
  · exact Or.inr rfl
  · exact Or.inl rfl

theorem boundedNumber?_of_digits {bound : Nat} {s : String} {digits : List (Fin 10)}
    (hs : dropPlus s.toList = digits.map digit) (hne : digits ≠ [])
    (hlt : positional digits < bound) : boundedNumber? bound s = some (positional digits) := by
  have hall : (digits.map digit).all Char.isDigit = true := by
    rw [List.all_eq_true]
    intro c hc
    obtain ⟨d, -, rfl⟩ := List.mem_map.1 hc
    exact isDigit_digit d
  simp [boundedNumber?, hs, hall, hne, digitsValue_map_digit, hlt]

/-- **A number under a bound is read exactly from its numerals.** -/
theorem boundedNumber?_eq_some_iff {bound n : Nat} {s : String} :
    boundedNumber? bound s = some n ↔ Numeral s n ∧ n < bound := by
  constructor
  · intro h
    unfold boundedNumber? at h
    dsimp only at h
    split at h
    · cases h
    · next hform =>
      simp only [Bool.or_eq_true, Bool.not_eq_true', not_or, Bool.not_eq_true,
        List.isEmpty_eq_false_iff, Bool.not_eq_false, List.all_eq_true] at hform
      obtain ⟨hne, hall⟩ := hform
      split at h
      · next hlt =>
        cases h
        obtain ⟨digits, hdigits⟩ := exists_digits hall
        have hne' : digits ≠ [] := by
          rintro rfl
          exact hne hdigits.symm
        rw [← hdigits, digitsValue_map_digit] at hlt ⊢
        refine ⟨?_, hlt⟩
        rcases eq_dropPlus_or s.toList with hs | hs
        · rw [← String.ofList_toList (s := s), hs, ← hdigits]
          exact .unsigned hne'
        · rw [← String.ofList_toList (s := s), hs, ← hdigits]
          exact .signed hne'
      · cases h
  · rintro ⟨hnumeral, hlt⟩
    cases hnumeral with
    | @unsigned digits hne =>
      refine boundedNumber?_of_digits ?_ hne hlt
      rw [String.toList_ofList, dropPlus_map_digit]
    | @signed digits hne =>
      refine boundedNumber?_of_digits ?_ hne hlt
      rw [String.toList_ofList, dropPlus]

/-! ## Pieces -/

/-- Without separators there is one piece. -/
theorem pieces_of_not_mem {separator : Char} {cs : List Char} (h : separator ∉ cs) :
    pieces separator cs = [cs] := by
  induction cs with
  | nil => rfl
  | cons c cs ih =>
    rw [List.mem_cons, not_or] at h
    rw [pieces, if_neg (Ne.symm h.1), ih h.2]
    rfl

end Text

/-! ## Ports -/

namespace SocketAddress

/-- The digits of a number are read as this number. -/
theorem number?_toDigits {bound n : Nat} (h : n < bound) :
    number? bound (Nat.toDigits 10 n) = some ⟨n, h⟩ := by
  have hall : (Nat.toDigits 10 n).all Char.isDigit = true := by
    rw [List.all_eq_true]
    intro c hc
    exact Nat.isDigit_of_mem_toDigits (by decide) (by decide) hc
  have hvalue : digitsValue (Nat.toDigits 10 n) = n := Nat.ofDigitChars_ten_toDigits
  simp [number?, hall, Nat.toDigits_ne_nil, hvalue, h]

/-- The address of a port at every address of the machine is read back. -/
theorem read?_everywhere (port : Fin 65536) :
    read? s!"0.0.0.0:{port.val}" = some (everywhere port) := by
  have hcolon : ':' ∉ Nat.toDigits 10 port.val := by
    intro hmem
    have hdigit := Nat.isDigit_of_mem_toDigits (by decide) (by decide) hmem
    revert hdigit
    decide
  have htext : (s!"0.0.0.0:{port.val}").toList =
      ['0', '.', '0', '.', '0', '.', '0', ':'] ++ Nat.toDigits 10 port.val := by
    simp only [String.toList_append, toString, Nat.repr_eq_ofList_toDigits, String.toList_ofList]
    rfl
  have hpieces : pieces ':' (s!"0.0.0.0:{port.val}").toList =
      [['0', '.', '0', '.', '0', '.', '0'], Nat.toDigits 10 port.val] := by
    rw [htext]
    simp [pieces, pieces_of_not_mem hcolon, pushPiece]
  have hhost : (pieces '.' ['0', '.', '0', '.', '0', '.', '0']).map octet? =
      [some 0, some 0, some 0, some 0] := by decide
  simp only [read?, hpieces, hhost, number?_toDigits port.isLt, Option.map_some]
  rfl

end SocketAddress

end TenantGate

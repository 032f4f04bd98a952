import TenantGate.Unicode.CombiningClass
import TenantGate.Unicode.Decomposition

/-!
# Canonical composition

`nfc` brings a sequence of code points into composed normal form (NFC): it takes every character
apart, sorts the marks behind each base by combining class, and puts pairs together again where
nothing stands between them.
-/

set_option autoImplicit false

namespace TenantGate.Unicode

/-! ## Syllables of Hangul -/

namespace Hangul

/-- The first syllable. -/
def syllable : Nat := 0xAC00

/-- The first leading consonant. -/
def leading : Nat := 0x1100

/-- The first vowel. -/
def vowel : Nat := 0x1161

/-- One before the first trailing consonant. -/
def trailing : Nat := 0x11A7

/-- Number of leading consonants. -/
def leadings : Nat := 19

/-- Number of vowels. -/
def vowels : Nat := 21

/-- Number of trailing consonants, none included. -/
def trailings : Nat := 28

/-- The parts of a syllable. -/
def parts? (n : Nat) : Option (List Nat) :=
  if syllable ≤ n ∧ n < syllable + leadings * vowels * trailings then
    let i := n - syllable
    let l := leading + i / (vowels * trailings)
    let v := vowel + i % (vowels * trailings) / trailings
    let t := i % trailings
    some (if t = 0 then [l, v] else [l, v, trailing + t])
  else none

/-- The syllable of a leading consonant and a vowel, or of a syllable and a trailing consonant. -/
def pair? (a b : Nat) : Option Nat :=
  if leading ≤ a ∧ a < leading + leadings ∧ vowel ≤ b ∧ b < vowel + vowels then
    some (syllable + ((a - leading) * vowels + (b - vowel)) * trailings)
  else if syllable ≤ a ∧ a < syllable + leadings * vowels * trailings ∧
      (a - syllable) % trailings = 0 ∧ trailing < b ∧ b < trailing + trailings then
    some (a + (b - trailing))
  else none

end Hangul

/-! ## Decomposition -/

/-- The parts of a code point, taken apart once. -/
def parts? (n : Nat) : Option (List Nat) :=
  ((Hangul.parts? n).or (composites.lookup? n)).or (excluded.lookup? n)

/-- A code point taken apart a number of times. -/
def decomposeTimes : Nat → Nat → List Nat
  | 0, n => [n]
  | k + 1, n =>
      match parts? n with
      | some ps => ps.flatMap (decomposeTimes k)
      | none => [n]

/-- Nothing in the tables is nested deeper than this. -/
def deepestNesting : Nat := 8

/-- A code point taken apart completely. -/
def decompose (n : Nat) : List Nat := decomposeTimes deepestNesting n

/-! ## Canonical order -/

/-- Put a code point in front of a sorted sequence, behind the marks of a smaller class. -/
def insertSorted (n : Nat) : List Nat → List Nat
  | [] => [n]
  | m :: ms =>
      if 0 < combiningClass m ∧ combiningClass m < combiningClass n then m :: insertSorted n ms
      else n :: m :: ms

/-- Sort each run of marks by class; marks of one class keep their order. -/
def sortMarks (ns : List Nat) : List Nat := ns.foldr insertSorted []

/-! ## Composition -/

/-- The code point that a pair composes to. -/
def composed? (a b : Nat) : Option Nat :=
  (Hangul.pair? a b).or ((composites.rows.find? fun row => row.2.2 == [a, b]).map Prod.fst)

/-- Compose behind a base. `kept` holds the marks that stay, last one first; a code point reaches
the base only past marks of a smaller class. -/
def composeFrom (base : Nat) (kept : List Nat) : List Nat → List Nat
  | [] => base :: kept.reverse
  | n :: ns =>
      let reaches := match kept with
        | [] => true
        | m :: _ => combiningClass m < combiningClass n
      match if reaches then composed? base n else none with
      | some c => composeFrom c kept ns
      | none =>
          if combiningClass n = 0 then base :: kept.reverse ++ composeFrom n [] ns
          else composeFrom base (n :: kept) ns

/-- The composed normal form. -/
def nfc (ns : List Nat) : List Nat :=
  match sortMarks (ns.flatMap decompose) with
  | [] => []
  | n :: rest => composeFrom n [] rest

end TenantGate.Unicode

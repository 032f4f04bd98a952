import TenantGate.Text.Pieces

/-!
# Properties of code points as ranges

A property is a list of rows, each an inclusive range of code points with a label. The tables of
this library are written as text, one word for a row: `41-5A:L` gives the range from U+0041 to
U+005A the label `L`, and a single code point or an empty label is left out (`AD`). `lookup?`
answers the label of the first row that holds a code point.
-/

set_option autoImplicit false

namespace TenantGate.Unicode

open TenantGate.Text

/-- The value of a hexadecimal digit. -/
def hexDigit? (c : Char) : Option Nat :=
  let n := c.toNat
  if 0x30 ≤ n && n ≤ 0x39 then some (n - 0x30)
  else if 0x41 ≤ n && n ≤ 0x46 then some (n - 0x41 + 10)
  else if 0x61 ≤ n && n ≤ 0x66 then some (n - 0x61 + 10)
  else none

/-- The value of hexadecimal digits; another character counts as zero. -/
def hexValue (cs : List Char) : Nat := cs.foldl (fun n c => 16 * n + (hexDigit? c).getD 0) 0

/-- A label for each of some ranges of code points. -/
structure Ranges (α : Type) where
  rows : List (Nat × Nat × α)

namespace Ranges

variable {α : Type}

/-- The label of a code point. -/
def lookup? (t : Ranges α) (n : Nat) : Option α :=
  (t.rows.find? fun row => row.1 ≤ n && n ≤ row.2.1).map fun row => row.2.2

/-- The code point has a label. -/
def contains (t : Ranges α) (n : Nat) : Bool := (t.lookup? n).isSome

/-- A row from its word. -/
def readRow (label : List Char → α) (word : List Char) : Nat × Nat × α :=
  let range := word.takeWhile (· != ':')
  let first := range.takeWhile (· != '-')
  let last := (range.drop first.length).drop 1
  (hexValue first, hexValue (if last.isEmpty then first else last),
    label ((word.drop range.length).drop 1))

/-- The words of a text, which stand on one or more lines. -/
def words (text : String) : List (List Char) :=
  (pieces ' ' (text.toList.map fun c => if c = '\n' then ' ' else c)).filter (!·.isEmpty)

/-- The table written by a text. -/
def ofText (label : List Char → α) (text : String) : Ranges α :=
  ⟨(words text).map (readRow label)⟩

end Ranges

/-- A set of code points. -/
abbrev CodeSet := Ranges Unit

/-- The set written by a text. -/
def CodeSet.ofText (text : String) : CodeSet := Ranges.ofText (fun _ => ()) text

end TenantGate.Unicode

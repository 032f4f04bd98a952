/-!
# Bounded decimal numbers

A number is written as ASCII digits, with a plus sign in front or not, and has to lie under a bound.
Leading zeros are allowed, blanks are not.
-/

set_option autoImplicit false

namespace TenantGate.Text

/-- The value of a decimal digit. -/
def digitValue (c : Char) : Nat := c.toNat - '0'.toNat

/-- The value of decimal digits. -/
def digitsValue (cs : List Char) : Nat := cs.foldl (fun n c => 10 * n + digitValue c) 0

/-- The text without one plus sign in front. -/
def dropPlus : List Char → List Char
  | '+' :: cs => cs
  | cs => cs

/-- The number under a bound that a text writes. -/
def boundedNumber? (bound : Nat) (s : String) : Option Nat :=
  let digits := dropPlus s.toList
  if digits.isEmpty || !digits.all Char.isDigit then none
  else if digitsValue digits < bound then some (digitsValue digits) else none

/-- The number of 16 bits that a text writes. -/
def number16? (s : String) : Option Nat := boundedNumber? 0x10000 s

/-- The number of 64 bits that a text writes. -/
def number64? (s : String) : Option Nat := boundedNumber? 0x10000000000000000 s

end TenantGate.Text

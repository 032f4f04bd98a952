/-!
# Punycode

The ASCII form of a label: its ASCII characters, a hyphen if there are any, and digits in base 36
that say where to insert which further characters. Each insertion is a number of variable length
whose digits are read until one lies under its threshold; thresholds adapt to the insertions so far.
`decode?` reads such a form. The loop over the digits ends because each number takes at least one of
them.
-/

set_option autoImplicit false

namespace TenantGate.Idna.Punycode

/-- The base of the digits. -/
def base : Nat := 36

/-- Words of the arithmetic have 32 bits; a number beyond them is no insertion. -/
def wordBound : Nat := 0x100000000

/-- The value of a digit. -/
def digit? (c : Char) : Option Nat :=
  let n := c.toNat
  if 0x61 ≤ n && n ≤ 0x7A then some (n - 0x61)
  else if 0x41 ≤ n && n ≤ 0x5A then some (n - 0x41)
  else if 0x30 ≤ n && n ≤ 0x39 then some (n - 0x30 + 26)
  else none

/-- The threshold of the digit at a place, counted in steps of the base. -/
def threshold (place bias : Nat) : Nat := max 1 (min 26 (place - bias))

/-- Divide a difference until it is small, counting the bias that this adds. -/
def shrink (delta bias : Nat) : Nat × Nat :=
  if 455 < delta then shrink (delta / 35) (bias + base) else (delta, bias)
termination_by delta
decreasing_by omega

/-- The bias after an insertion. -/
def adapt (delta points : Nat) (first : Bool) : Nat :=
  let scaled := if first then delta / 700 else delta / 2
  let (small, bias) := shrink (scaled + scaled / points) 0
  bias + base * small / (small + 38)

/-- Read one number from place `place` on. The rest is shorter than the digits given. -/
def number? (bias : Nat) (place weight total : Nat) :
    (cs : List Char) → Option (Nat × { rest : List Char // rest.length < cs.length })
  | [] => none
  | c :: cs =>
      match digit? c with
      | none => none
      | some d =>
          let total := total + d * weight
          let t := threshold place bias
          if wordBound ≤ total then none
          else if d < t then some (total, ⟨cs, by simp⟩)
          else if wordBound ≤ weight * (base - t) then none
          else
            (number? bias (place + base) (weight * (base - t)) total cs).map
              fun p => (p.1, ⟨p.2.val, by have := p.2.property; simp; omega⟩)

/-- A character from its code point; there is none for surrogates. -/
def char? (n : Nat) : Option Char := if h : n.isValidChar then some (Char.ofNatAux n h) else none

/-- Insert characters as the digits say. `start` is where the last insertion ended and `n` the code
point that is up. -/
def insertAll (bias start n : Nat) (first : Bool) (label : List Char) (digits : List Char) :
    Option (List Char) :=
  match digits with
  | [] => some label
  | c :: cs =>
      match number? bias base 1 start (c :: cs) with
      | none => none
      | some (i, rest) =>
          let points := label.length + 1
          let n := n + i / points
          match char? n with
          | none => none
          | some inserted =>
              let place := i % points
              insertAll (adapt (i - start) points first) (place + 1) n false
                (label.take place ++ inserted :: label.drop place) rest.val
termination_by digits.length
decreasing_by exact rest.property

/-- The label with a given ASCII form; a hyphen at the very start is no separator. -/
def decode? (form : List Char) : Option (List Char) :=
  let digits := (form.reverse.takeWhile (· != '-')).reverse
  let ascii := form.take (form.length - digits.length - 1)
  if digits.length = form.length then insertAll 72 0 128 true [] digits
  else if ascii.isEmpty then none
  else insertAll 72 0 128 true ascii digits

end TenantGate.Idna.Punycode

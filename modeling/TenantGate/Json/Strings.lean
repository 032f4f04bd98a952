import TenantGate.Unicode.Ranges

/-!
# JSON strings

`writeString` writes a text between quotes with the shortest escapes: quotes, backslashes and five
controls have short ones, other controls are written by their code, and everything else stands for
itself. `readString` reads a string behind its opening quote, one character at a time; escapes by
code are UTF-16 units, so that a character beyond 16 bits takes a pair of them.
-/

set_option autoImplicit false

namespace TenantGate.Json

open TenantGate.Unicode

/-- Why a text is not read: it ends too early, it is no JSON, or it is JSON for something else. -/
inductive Fault where
  | ended
  | malformed
  | mismatched
deriving DecidableEq, Repr

/-! ## Writing -/

/-- A digit in lower-case hexadecimal. -/
def hexChar (n : Nat) : Char := Char.ofNat (if n < 10 then 0x30 + n else 0x61 + (n - 10))

/-- A character as it is written between quotes. -/
def escaped (c : Char) : List Char :=
  if c = '"' then ['\\', '"']
  else if c = '\\' then ['\\', '\\']
  else if c = '\x08' then ['\\', 'b']
  else if c = '\x0c' then ['\\', 'f']
  else if c = '\n' then ['\\', 'n']
  else if c = '\r' then ['\\', 'r']
  else if c = '\t' then ['\\', 't']
  else if c.toNat < 0x20 then
    ['\\', 'u', '0', '0', hexChar (c.toNat / 16), hexChar (c.toNat % 16)]
  else [c]

/-- A text between quotes. -/
def writeString (s : String) : List Char := '"' :: s.toList.flatMap escaped ++ ['"']

/-! ## Reading -/

/-- Where a reader stands in a string. A unit of an escape is read digit by digit, `left` of which
are missing and `value` is what the others give; `lead` is the first unit of a pair. -/
inductive StringState where
  | plain
  | escape
  | unit (lead : Option Nat) (left value : Nat)
  | pairBackslash (lead : Nat)
  | pairLetter (lead : Nat)
deriving DecidableEq, Repr

/-- The number of octets that a text takes in UTF-8. -/
def octetCount (cs : List Char) : Nat := cs.foldl (fun n c => n + c.utf8Size) 0

/-- The octets of the four digits of a unit are there. -/
def hasUnit (cs : List Char) : Bool := 4 ≤ octetCount (cs.take 4)

/-- The character of a short escape. -/
def shortEscape? (c : Char) : Option Char :=
  match c with
  | '"' => some '"'
  | '\\' => some '\\'
  | '/' => some '/'
  | 'b' => some '\x08'
  | 'f' => some '\x0c'
  | 'n' => some '\n'
  | 'r' => some '\r'
  | 't' => some '\t'
  | _ => none

/-- The unit is the first one of a pair. -/
def isLead (unit : Nat) : Bool := 0xD800 ≤ unit && unit ≤ 0xDBFF

/-- The unit is the second one of a pair. -/
def isTrail (unit : Nat) : Bool := 0xDC00 ≤ unit && unit ≤ 0xDFFF

/-- The character of a pair of units. -/
def pairChar (lead trail : Nat) : Char :=
  Char.ofNat (0x10000 + (lead - 0xD800) * 0x400 + (trail - 0xDC00))

/-- Read on in a string; `taken` holds the characters so far, last one first. A lenient reader
passes over a string that nobody asks for and lets units stand without their partner. -/
def readStringFrom (lenient : Bool) (st : StringState) (taken : List Char) :
    List Char → Except Fault (List Char × List Char)
  | [] => .error .ended
  | c :: cs =>
      match st with
      | .plain =>
          if c = '"' then .ok (taken.reverse, cs)
          else if c = '\\' then readStringFrom lenient .escape taken cs
          else if c.toNat < 0x20 then .error .malformed
          else readStringFrom lenient .plain (c :: taken) cs
      | .escape =>
          match shortEscape? c with
          | some d => readStringFrom lenient .plain (d :: taken) cs
          | none =>
              if c ≠ 'u' then .error .malformed
              else if hasUnit cs then readStringFrom lenient (.unit none 4 0) taken cs
              else .error .ended
      | .unit lead left value =>
          match hexDigit? c with
          | none => .error .malformed
          | some d =>
              let value := 16 * value + d
              if 1 < left then readStringFrom lenient (.unit lead (left - 1) value) taken cs
              else if lenient then readStringFrom lenient .plain taken cs
              else
                match lead with
                | some lead =>
                    if isTrail value then
                      readStringFrom lenient .plain (pairChar lead value :: taken) cs
                    else .error .malformed
                | none =>
                    if isTrail value then .error .malformed
                    else if isLead value then readStringFrom lenient (.pairBackslash value) taken cs
                    else readStringFrom lenient .plain (Char.ofNat value :: taken) cs
      | .pairBackslash lead =>
          if c = '\\' then readStringFrom lenient (.pairLetter lead) taken cs
          else .error .malformed
      | .pairLetter lead =>
          if c ≠ 'u' then .error .malformed
          else if hasUnit cs then readStringFrom lenient (.unit (some lead) 4 0) taken cs
          else .error .ended

/-- Read a string behind its opening quote; the answer is its text and the rest. -/
def readString (cs : List Char) : Except Fault (String × List Char) :=
  (readStringFrom false .plain [] cs).map fun p => (String.ofList p.1, p.2)

/-- Pass over a string behind its opening quote. -/
def skipString (cs : List Char) : Except Fault (List Char) :=
  (readStringFrom true .plain [] cs).map Prod.snd

end TenantGate.Json

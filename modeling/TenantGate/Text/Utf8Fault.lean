/-!
# Where octets stop being text

A reader of text that meets other octets says how many of them were text, and how many at this
place belong to no character. `Utf8Fault.of` goes through the octets one by one; of the character
that it is in, it keeps the bounds of the octets that are still to come.
-/

set_option autoImplicit false

namespace TenantGate.Text

/-- Octets that are no UTF-8: the octets in front of the fault, and those at fault, whose number is
missing where the octets end within a character. -/
structure Utf8Fault where
  start : Nat
  width : Option Nat
deriving DecidableEq, Repr

namespace Utf8Fault

/-- The wording of a fault. -/
def message : Utf8Fault → String
  | ⟨start, some width⟩ => s!"invalid utf-8 sequence of {width} bytes from index {start}"
  | ⟨start, none⟩ => s!"incomplete utf-8 byte sequence from index {start}"

/-- The bounds of an octet that continues a character. -/
def continuation : UInt8 × UInt8 := (0x80, 0xBF)

/-- The bounds of the octets behind the first one of a character. The second octet has bounds of its
own where others would write a shorter character, a surrogate, or one beyond the last. -/
def following? (b : UInt8) : Option (List (UInt8 × UInt8)) :=
  if b < 0x80 then some []
  else if 0xC2 ≤ b ∧ b ≤ 0xDF then some [continuation]
  else if b = 0xE0 then some [(0xA0, 0xBF), continuation]
  else if b = 0xED then some [(0x80, 0x9F), continuation]
  else if 0xE1 ≤ b ∧ b ≤ 0xEF then some [continuation, continuation]
  else if b = 0xF0 then some [(0x90, 0xBF), continuation, continuation]
  else if 0xF1 ≤ b ∧ b ≤ 0xF3 then some [continuation, continuation, continuation]
  else if b = 0xF4 then some [(0x80, 0x8F), continuation, continuation]
  else none

/-- The fault behind `start` octets of text and `width` octets of a character that goes on within
bounds. -/
def scan : Nat → Nat → List (UInt8 × UInt8) → List UInt8 → Utf8Fault
  | start, _, _, [] => ⟨start, none⟩
  | start, width, [], b :: bs =>
      match following? b with
      | some bounds => scan (start + width) 1 bounds bs
      | none => ⟨start + width, some 1⟩
  | start, width, (least, most) :: bounds, b :: bs =>
      if least ≤ b ∧ b ≤ most then scan start (width + 1) bounds bs else ⟨start, some width⟩

/-- The fault of octets that are no text. -/
def of (bs : List UInt8) : Utf8Fault := scan 0 0 [] bs

end Utf8Fault

end TenantGate.Text

import TenantGate.Unicode.Printable

/-!
# Quoted texts in diagnostics

`quoted` shows a text between double quotes so that every character can be told: quotes, backslashes
and four controls have short escapes, and any other character that does not show as itself and alone
is written as its code point in hexadecimal.
-/

set_option autoImplicit false

namespace TenantGate.Text

/-- The digits of a number in lower-case hexadecimal. -/
def hexText (n : Nat) : String := String.ofList (Nat.toDigits 16 n)

/-- A code point between braces. -/
def codeEscape (n : Nat) : String := "\\u\x7b" ++ hexText n ++ "\x7d"

/-- A character as it is shown between quotes. -/
def quotedChar (c : Char) : String :=
  match c with
  | '\x00' => "\\0"
  | '\t' => "\\t"
  | '\r' => "\\r"
  | '\n' => "\\n"
  | '"' => "\\\""
  | '\\' => "\\\\"
  | _ => if Unicode.isPrintable c then c.toString else codeEscape c.toNat

/-- A text between quotes. -/
def quoted (s : String) : String := "\"" ++ String.join (s.toList.map quotedChar) ++ "\""

end TenantGate.Text

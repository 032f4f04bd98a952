/-!
# Blank characters and trimming

`isBlank` is the Unicode property White_Space, which is what every text of this library is
trimmed by. `trim` works on lists of characters, so that the readers built on it recurse on data;
`trimmed` is the same on `String`.
-/

set_option autoImplicit false

namespace TenantGate.Text

/-- The characters with the Unicode property White_Space. -/
def isBlank (c : Char) : Bool :=
  let n := c.toNat
  (0x09 ≤ n && n ≤ 0x0D) || n == 0x20 || n == 0x85 || n == 0xA0 || n == 0x1680 ||
    (0x2000 ≤ n && n ≤ 0x200A) || n == 0x2028 || n == 0x2029 || n == 0x202F || n == 0x205F ||
    n == 0x3000

/-- The text without its leading blanks. -/
def trimStart (cs : List Char) : List Char := cs.dropWhile isBlank

/-- The text without its trailing blanks. -/
def trimEnd (cs : List Char) : List Char := (cs.reverse.dropWhile isBlank).reverse

/-- The text without leading and trailing blanks. -/
def trim (cs : List Char) : List Char := trimEnd (trimStart cs)

/-- `trim` on `String`. -/
def trimmed (s : String) : String := String.ofList (trim s.toList)

end TenantGate.Text

/-!
# Letter case within ASCII

Names in header fields, switches and log levels are compared without regard to the case of the
letters `A` to `Z` only; every other character stands for itself.
-/

set_option autoImplicit false

namespace TenantGate.Text

/-- The text with the letters `A` to `Z` in lower case. -/
def lower (s : String) : String := String.ofList (s.toList.map Char.toLower)

/-- Equality of texts up to the case of the letters `A` to `Z`. -/
def sameLetters (a b : List Char) : Bool := a.map Char.toLower == b.map Char.toLower

end TenantGate.Text

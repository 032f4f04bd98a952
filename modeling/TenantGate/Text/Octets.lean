/-!
# Text as octets

Header values, keys and signed messages are octets. `octets` gives the UTF-8 octets of a text and
`ofOctets?` reads a text back; `ofOctets?_octets` and `octets_of_ofOctets?` say that the two are
inverse wherever the octets are UTF-8 at all.
-/

set_option autoImplicit false

namespace TenantGate.Text

/-- The UTF-8 octets of a text. -/
def octets (s : String) : List UInt8 := s.toUTF8.data.toList

/-- The text with the given UTF-8 octets, if they are UTF-8. -/
def ofOctets? (bs : List UInt8) : Option String := String.fromUTF8? ⟨⟨bs⟩⟩

theorem ofOctets?_octets (s : String) : ofOctets? (octets s) = some s := by
  simp [ofOctets?, octets, String.fromUTF8?, String.fromUTF8, s.isValidUTF8]

theorem octets_of_ofOctets? {bs : List UInt8} {s : String} (h : ofOctets? bs = some s) :
    octets s = bs := by
  unfold ofOctets? String.fromUTF8? at h
  split at h
  · cases h
    rfl
  · cases h

end TenantGate.Text

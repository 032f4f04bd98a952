import TenantGate.Text.Decimal
import TenantGate.Text.Pieces

/-!
# Socket addresses

A socket address is an IPv4 address and a port, written as `a.b.c.d:port` in decimal. An octet has
at most three digits and no leading zero, so that it cannot be taken for an octal number; a port may
have leading zeros. `read?` reads what is written so and nothing else.
-/

set_option autoImplicit false

namespace TenantGate

open TenantGate.Text

/-- An IPv4 address and a port. -/
structure SocketAddress where
  a : Fin 256
  b : Fin 256
  c : Fin 256
  d : Fin 256
  port : Fin 65536
deriving DecidableEq, Repr

namespace SocketAddress

/-- The number under a bound that decimal digits write. -/
def number? (bound : Nat) (digits : List Char) : Option (Fin bound) :=
  if digits.isEmpty || !digits.all Char.isDigit then none
  else if h : digitsValue digits < bound then some ⟨digitsValue digits, h⟩ else none

/-- An octet of an address. -/
def octet? (digits : List Char) : Option (Fin 256) :=
  if 3 < digits.length || (digits.head? == some '0' && 1 < digits.length) then none
  else number? 256 digits

/-- The address that a text writes. -/
def read? (text : String) : Option SocketAddress :=
  match pieces ':' text.toList with
  | [host, port] =>
      match (pieces '.' host).map octet? with
      | [some a, some b, some c, some d] => (number? 65536 port).map (⟨a, b, c, d, ·⟩)
      | _ => none
  | _ => none

/-- The address that stands for every address of this machine. -/
def everywhere (port : Fin 65536) : SocketAddress := ⟨0, 0, 0, 0, port⟩

end SocketAddress

end TenantGate

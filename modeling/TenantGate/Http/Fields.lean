import TenantGate.Text.Letters
import TenantGate.Text.Octets

/-!
# Header fields

A field has a name, kept in lower case, and a value of octets that need not be text. `Fields` keeps
the order of arrival, and a name may come more than once; readers look at the first value.
-/

set_option autoImplicit false

namespace TenantGate.Http

open TenantGate.Text

/-- The octets of a token: letters, digits and a few signs. -/
def isTokenOctet (b : UInt8) : Bool :=
  let n := b.toNat
  (0x30 ≤ n && n ≤ 0x39) || (0x41 ≤ n && n ≤ 0x5A) || (0x61 ≤ n && n ≤ 0x7A) ||
    [0x21, 0x23, 0x24, 0x25, 0x26, 0x27, 0x2A, 0x2B, 0x2D, 0x2E, 0x5E, 0x5F, 0x60, 0x7C,
      0x7E].contains n

/-- The octets of a field value: tab, visible ASCII, space, and everything beyond ASCII. -/
def isValueOctet (b : UInt8) : Bool :=
  let n := b.toNat
  n == 0x09 || (0x20 ≤ n && n != 0x7F)

/-- The longest field name. -/
def longestName : Nat := 65535

/-- Header fields in their order of arrival; names are in lower case. -/
structure Fields where
  entries : List (String × List UInt8)
deriving DecidableEq, Repr

/-- Why a field is refused. -/
inductive FieldFault where
  | name
  | value
deriving DecidableEq, Repr

/-- The wording of a fault. -/
def FieldFault.message : FieldFault → String
  | name => "invalid HTTP header name"
  | value => "failed to parse header value"

namespace Fields

/-- No fields. -/
def empty : Fields := ⟨[]⟩

/-- The number of values. -/
def count (f : Fields) : Nat := f.entries.length

/-- The first value of a name. -/
def first? (f : Fields) (name : String) : Option (List UInt8) :=
  (f.entries.find? fun e => e.1 == name).map Prod.snd

/-- The fields with one more value behind those of its name. -/
def add (f : Fields) (name : String) (value : List UInt8) : Fields := ⟨f.entries ++ [(name, value)]⟩

/-- The fields with a value for a name that has none yet. -/
def addMissing (f : Fields) (name : String) (value : List UInt8) : Fields :=
  if (f.first? name).isSome then f else f.add name value

/-- A field name, put into lower case. -/
def name? (bs : List UInt8) : Option String :=
  if bs.isEmpty || longestName < bs.length || !bs.all isTokenOctet then none
  else (ofOctets? bs).map lower

/-- Append a field as it was received. -/
def receive (f : Fields) (name value : List UInt8) : Except FieldFault Fields :=
  match name? name with
  | none => .error .name
  | some n => if value.all isValueOctet then .ok (f.add n value) else .error .value

/-- All fields as they were received, the first fault ending the reading. -/
def receiveAll (received : List (List UInt8 × List UInt8)) : Except FieldFault Fields :=
  received.foldlM (fun f p => f.receive p.1 p.2) empty

end Fields

end TenantGate.Http

import TenantGate.Text.Octets

/-!
# The process environment

`Environment` holds the variables of a process with the octets of their values. A variable whose
value is not text counts as unset. `setMissing` gives a value to an unset variable and changes no
other; a value with a NUL in it cannot be stored, since a stored value ends at its first NUL.
-/

set_option autoImplicit false

namespace TenantGate

open TenantGate.Text

/-- The variables of a process, with their values. -/
structure Environment where
  bindings : List (String × List UInt8)
deriving DecidableEq, Repr

/-- A value that was to be stored and cannot be; the program ends there. -/
structure Unstorable where
  name : String
  value : String
deriving DecidableEq, Repr

namespace Environment

/-- The value of a variable: what its first binding says, if that is text. -/
def get? (env : Environment) (name : String) : Option String :=
  (env.bindings.find? fun v => v.1 == name).bind fun v => ofOctets? v.2

/-- Set a variable that is unset. -/
def setMissing (env : Environment) (name value : String) : Except Unstorable Environment :=
  if (env.get? name).isSome then .ok env
  else if value.toList.contains '\x00' then .error ⟨name, value⟩
  else .ok ⟨(name, octets value) :: env.bindings⟩

end Environment

end TenantGate

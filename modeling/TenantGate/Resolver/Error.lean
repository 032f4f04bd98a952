import TenantGate.Signature

/-!
# Why a request has no tenant context

`ResolveError` is the cause of a rejection, with its wording, its kind and the status that it is
answered with.
-/

set_option autoImplicit false

namespace TenantGate

/-- Why a request has no tenant context. -/
inductive ResolveError where
  | signature (cause : SignatureError)
  | invalidHeader (name : String)
deriving DecidableEq, Repr

namespace ResolveError

/-- The wording of an error. -/
def message : ResolveError → String
  | signature cause => cause.message
  | invalidHeader name => s!"header {name} is not valid utf-8"

/-- The status that an error is answered with: 500 if this service is at fault, else 403. -/
def status : ResolveError → Nat
  | signature cause => if cause.isServerError then 500 else 403
  | invalidHeader _ => 403

/-- This service is at fault. -/
def isServerError (e : ResolveError) : Bool := e.status == 500

/-- The kind of an error without its details. -/
def kind : ResolveError → String
  | signature cause => cause.kind
  | invalidHeader _ => "InvalidHeader"

end ResolveError

end TenantGate

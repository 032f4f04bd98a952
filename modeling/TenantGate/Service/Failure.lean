import TenantGate.Json.Strings
import TenantGate.Resolver.Basic

/-!
# Failures as clients see them

Three kinds of failure are answered with a JSON object that holds a code and a message. What led to a
rejection stays inside: `Failure.ofResolve` keeps the status of an error and nothing else.
-/

set_option autoImplicit false

namespace TenantGate

open TenantGate.Http

/-- A failure of a request. -/
inductive Failure where
  | notFound (resource : String)
  | forbidden
  | internal
deriving DecidableEq, Repr

namespace Failure

/-- The status that answers a failure. -/
def status : Failure → Nat
  | notFound _ => 404
  | forbidden => 403
  | internal => 500

/-- The code in the answer. -/
def code : Failure → String
  | notFound _ => "not_found"
  | forbidden => "FORBIDDEN"
  | internal => "INTERNAL_SERVER_ERROR"

/-- The message in the answer. -/
def publicMessage : Failure → String
  | notFound resource => resource ++ " not found."
  | forbidden => "forbidden"
  | internal => "internal server error"

/-- A failure in diagnostics. -/
def shown : Failure → String
  | notFound resource => "not found: " ++ resource
  | forbidden => "forbidden"
  | internal => "internal server error"

/-- The body of the answer. -/
def body (f : Failure) : String :=
  String.ofList (
    "\x7b\"error\":\x7b\"code\":".toList ++ Json.writeString f.code ++
      ",\"message\":".toList ++ Json.writeString f.publicMessage ++ "\x7d\x7d".toList)

/-- The answer. -/
def response (f : Failure) : Response := Response.json f.status f.body

/-- The failure of a request that has no tenant context. -/
def ofResolve (e : ResolveError) : Failure := if e.isServerError then internal else forbidden

/-- The failure of a reader that misses a fact of the context. -/
def ofContext : ContextError → Failure
  | .notPresent _ => notFound "tenant context value"

theorem status_ofResolve (e : ResolveError) : (ofResolve e).status = e.status := by
  cases e with
  | signature cause => cases cause <;> rfl
  | invalidHeader name => rfl

end Failure

end TenantGate

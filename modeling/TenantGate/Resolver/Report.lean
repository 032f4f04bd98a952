import TenantGate.Forwarding
import TenantGate.Resolver.Error

/-!
# Reports of a resolver

What happens to a request is reported as an `Event` of the log or as a call of an installed error
log. An event has a severity, a message and fields.
-/

set_option autoImplicit false

namespace TenantGate

/-- The weight of an event. -/
inductive Severity where
  | error
  | warn
  | info
  | debug
deriving DecidableEq, Repr

/-- The name of a severity in a log. -/
def Severity.name : Severity → String
  | error => "ERROR"
  | warn => "WARN"
  | info => "INFO"
  | debug => "DEBUG"

/-- What happens to a request and is worth an event. -/
inductive Event where
  | resolved (source : Option Forwarding.Source) (systemBaseUri tenantId : String)
  | rejected (error : ResolveError) (method target : String)
  | contextMissing (target : String)
deriving DecidableEq, Repr

namespace Event

/-- The severity of an event. A rejection is an error only if this service is at fault. -/
def severity : Event → Severity
  | resolved _ _ _ => .debug
  | rejected error _ _ => if error.isServerError then .error else .warn
  | contextMissing _ => .error

/-- The message of an event. -/
def message : Event → String
  | resolved _ _ _ => "tenant context resolved"
  | rejected error _ _ => error.message
  | contextMissing _ => "tenant context missing; is the tenant middleware applied?"

/-- A source as it is shown in an event. -/
def shownSource : Option Forwarding.Source → String
  | none => "None"
  | some source => s!"Some({source.name})"

/-- The fields of an event, sorted by name. -/
def fields : Event → List (String × String)
  | e@(resolved source systemBaseUri tenantId) =>
      [("initiator_source", shownSource source), ("message", e.message),
        ("system_base_uri", systemBaseUri), ("tenant_id", tenantId)]
  | e@(rejected _ method target) => [("message", e.message), ("method", method), ("uri", target)]
  | e@(contextMissing target) => [("message", e.message), ("uri", target)]

end Event

/-- What an error log is told: the rejected request and the reason. -/
structure LogCall where
  method : String
  target : String
  fieldCount : Nat
  message : String
deriving DecidableEq, Repr

/-- A report goes to the event stream or to the error log with a tag. -/
inductive Report where
  | event (e : Event)
  | logged (tag : String) (call : LogCall)
deriving DecidableEq, Repr

end TenantGate

import TenantGate.Service.Site
import TenantGate.Service.TenantAnswer
import TenantGate.Settings

/-!
# The sites of the service

`application` is the service as it runs: a health check, and the tenant route behind the gate and the
mount point `/api/v1`, all inside the transport layers. `transportSite` and `gatedSite` put the same
layers around small routes of their own, which show what each layer does.
-/

set_option autoImplicit false

namespace TenantGate.Service

open TenantGate.Http

/-! ## Handlers -/

/-- The answer to a health check. -/
def health : Handler := fun _ =>
  Reply.respond (Response.json 200 "\x7b\"status\":\"ok\"\x7d")

/-- The facts of a context, or the failure of the first one that has to be there. -/
def tenantAnswer (ctx : Context) : Except Failure TenantAnswer := do
  let tenantId ← (ctx.read .tenantId).mapError Failure.ofContext
  let initiator ← (ctx.read .initiatorSystemBaseUri).mapError Failure.ofContext
  .ok ⟨tenantId, ctx.get? .systemBaseUri, initiator⟩

/-- State the tenant context of a call. A call without one means that no gate stands before this
handler, which is a fault of the service. -/
def currentTenant : Handler := fun call =>
  match call.context with
  | none =>
      (Reply.respond Failure.internal.response).after
        [.event (.contextMissing call.request.target.shown)]
  | some ctx =>
      match tenantAnswer ctx with
      | .ok answer => Reply.respond (Response.json 200 answer.write)
      | .error failure => Reply.respond failure.response

/-- The size up to which a handler takes a body as text, whatever other limits say. -/
def textLimit : Nat := 2 * 1024 * 1024

/-- Take the body of a request as text and hand it on; a body that cannot be taken does not reach
the inner handler. -/
def takingText (inner : String → Handler) : Handler := fun call =>
  match (call.request.body.limited textLimit).readText with
  | .ok text => inner text call
  | .error .tooLarge =>
      Reply.respond
        (Response.text 413 "Failed to buffer the request body: length limit exceeded")
  | .error (.notText fault) =>
      Reply.respond
        (Response.text 400 ("Request body didn\x27t contain valid UTF-8: " ++ fault.message))

/-- Answer with the body of the request. -/
def echo : Handler := takingText fun text _ => Reply.respond (Response.text 200 text)

/-- Answer with a fixed text. -/
def fixedText (text : String) : Handler := fun _ => Reply.respond (Response.text 200 text)

/-- Answer with a status alone. -/
def fixedStatus (status : Nat) : Handler := fun _ => Reply.respond (Response.bare status)

/-- A handler that takes longer by a number of milliseconds. -/
def delayed (milliseconds : Nat) (inner : Handler) : Handler := fun call =>
  let reply := inner call
  { reply with elapsed := reply.elapsed + milliseconds }

/-! ## Settings at work -/

/-- The resolver that settings describe. -/
def resolverOf (s : Settings) : Resolver :=
  (Resolver.new s.defaultBaseUri s.key).withUnsignedDefaults s.allowUnsignedDefaults

/-- The limits that settings describe. -/
def limitsOf (s : Settings) (freshId : String) : Limits := ⟨s.bodyLimit, s.timeoutSeconds, freshId⟩

/-! ## Sites -/

/-- The mount point of the tenant routes. -/
def apiMount : String := "/api/v1"

/-- The tenant routes, behind the gate. -/
def tenantRoutes (s : Settings) : Site :=
  (Site.ofRoutes [Route.new [.fixed "tenant"] [("GET", currentTenant)]]).layered
    (gate (resolverOf s))

/-- The whole service. -/
def application (s : Settings) (freshId : String) : Site :=
  ((Site.ofRoutes [Route.new [.fixed "health"] [("GET", health)]]).withRoutes
    (Site.mounted apiMount (tenantRoutes s))).layered (transport (limitsOf s freshId))

/-- Small routes inside the transport layers. -/
def transportSite (s : Settings) (freshId : String) : Site :=
  (Site.ofRoutes
    [Route.new [.fixed "ok"] [("GET", fixedText "ok")],
      Route.new [.fixed "echo"] [("POST", echo)],
      Route.new [.fixed "fail"] [("GET", fixedStatus 418)],
      Route.new [.fixed "slow"] [("GET", delayed 100 (fixedText "slow"))]]).layered
    (transport (limitsOf s freshId))

/-- The tenant handler behind the gate, and once more outside of it. -/
def gatedSite (s : Settings) : Site :=
  ((Site.ofRoutes
    [Route.new [.fixed "tenant"] [("GET", currentTenant), ("POST", currentTenant)],
      Route.new [.fixed "tenant", .anything] [("GET", currentTenant)]]).layered
    (gate (resolverOf s))).withRoutes [Route.new [.fixed "open"] [("GET", currentTenant)]]

/-- The tenant handler alone. -/
def handlerSite : Site := Site.ofRoutes [Route.new [.fixed "tenant"] [("GET", currentTenant)]]

end TenantGate.Service

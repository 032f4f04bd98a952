import TenantGate.Http.Message
import TenantGate.Resolver.Report
import TenantGate.Resolver.Stated

/-!
# Resolvers

A resolver reads the fields that a gateway sets on a request, verifies the signature over them and
derives the tenant context. `Resolver.resolution` is the decision itself; `resolve` adds the report
of a success, and `resolveRequest` the one report of a failure, which goes to the installed error log
or becomes an event.
-/

set_option autoImplicit false

namespace TenantGate

open TenantGate.Http

/-- The settings of a resolver. An empty default base URI is none, and without an installed error
log, named here by its tag, rejections become events. -/
structure Resolver where
  defaultText : String
  key : Option SigningKey
  allowUnsignedDefaults : Bool
  errorLog : Option String

namespace Resolver

/-- A resolver that verifies every request. -/
def new (defaultText : String) (key : Option SigningKey) : Resolver :=
  ⟨defaultText, key, false, none⟩

/-- The resolver with its switch for unsigned defaults set. -/
def withUnsignedDefaults (r : Resolver) (allow : Bool) : Resolver :=
  { r with allowUnsignedDefaults := allow }

/-- The resolver with an error log installed in place of any other. -/
def withErrorLog (r : Resolver) (tag : String) : Resolver := { r with errorLog := some tag }

/-- The default base URI. -/
def defaultBaseUri (r : Resolver) : Option String :=
  if r.defaultText.isEmpty then none else some r.defaultText

/-- The request is served by the defaults: the switch is on and no signed field has a value. -/
def servesUnsigned (r : Resolver) (f : Fields) : Bool :=
  r.allowUnsignedDefaults && !GatewayField.signed.any (hasValue f)

/-- The fields that a request states, once they are trusted. A missing key is reported before
anything the client sent is decoded. -/
def trusted (r : Resolver) (f : Fields) : Except ResolveError Stated :=
  if r.servesUnsigned f then Stated.read f
  else if r.key.isNone then .error (.signature .missingSecret)
  else do
    let stated ← Stated.read f
    let signature ← fieldText? f GatewayField.signature
    (verify r.key stated.signed signature).mapError .signature
    .ok stated

/-- The tenant context of a request. -/
def resolution (r : Resolver) (f : Fields) : Except ResolveError Context :=
  (r.trusted f).map fun stated => stated.context r.defaultBaseUri

/-- The event of a success. -/
def successEvent (r : Resolver) (s : Stated) : Event :=
  .resolved (s.host.map (·.source)) ((s.baseUri r.defaultBaseUri).getD "")
    ((s.context r.defaultBaseUri).tenantId.getD "")

/-- Resolve the fields of a request; a success is reported. -/
def resolve (r : Resolver) (f : Fields) : Except ResolveError Context × List Report :=
  (r.resolution f,
    match r.trusted f with
    | .ok stated => [.event (r.successEvent stated)]
    | .error _ => [])

/-- The report of a rejected request. -/
def rejection (r : Resolver) (head : RequestHead) (e : ResolveError) : Report :=
  match r.errorLog with
  | some tag => .logged tag ⟨head.method, head.target.shown, head.fields.count, e.message⟩
  | none => .event (.rejected e head.method head.target.shown)

/-- Resolve a request; both success and failure are reported. -/
def resolveRequest (r : Resolver) (head : RequestHead) :
    Except ResolveError Context × List Report :=
  match r.resolve head.fields with
  | (.error e, reports) => (.error e, reports ++ [r.rejection head e])
  | done => done

end Resolver

end TenantGate

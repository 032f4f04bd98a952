import TenantGate.Context
import TenantGate.Forwarding
import TenantGate.Http.Fields
import TenantGate.Resolver.Error

/-!
# What a request states

A gateway sets five fields on a request, named in `GatewayField`. `Stated.read` decodes those under
the signature, `Stated.signed` gives them as they are signed, and `Stated.context` the tenant context
that follows from them.
-/

set_option autoImplicit false

namespace TenantGate

open TenantGate.Http

/-! ## The fields a gateway sets -/

namespace GatewayField

/-- The base URI of the system that serves the tenant. -/
def systemBaseUri : String := "x-dv-baseuri"

/-- The tenant. -/
def tenantId : String := "x-dv-tenant-id"

/-- The signature over the other fields. -/
def signature : String := "x-dv-sig-1"

/-- The standard forwarding field. -/
def forwarded : String := "forwarded"

/-- The older forwarding field. -/
def xForwardedHost : String := "x-forwarded-host"

/-- The fields that are under the signature. -/
def signed : List String := [systemBaseUri, tenantId, forwarded, xForwardedHost]

end GatewayField

/-! ## Decoding -/

/-- A field value as text. An empty value counts as absent. -/
def fieldText? (f : Fields) (name : String) : Except ResolveError (Option String) :=
  match f.first? name with
  | none => .ok none
  | some bs =>
      match Text.ofOctets? bs with
      | none => .error (.invalidHeader name)
      | some text => .ok (if text.isEmpty then none else some text)

/-- The first value of a field is there and not empty, whether or not it is text. -/
def hasValue (f : Fields) (name : String) : Bool :=
  match f.first? name with
  | some bs => !bs.isEmpty
  | none => false

/-- The decoded fields of a request. -/
structure Stated where
  systemBaseUri : Option String
  tenantId : Option String
  host : Option Forwarding.Found
deriving DecidableEq, Repr

namespace Stated

/-- Decode the fields; the first one that is not text is the error. -/
def read (f : Fields) : Except ResolveError Stated := do
  let systemBaseUri ← fieldText? f GatewayField.systemBaseUri
  let tenantId ← fieldText? f GatewayField.tenantId
  let forwarded ← fieldText? f GatewayField.forwarded
  let xForwardedHost ← fieldText? f GatewayField.xForwardedHost
  .ok ⟨systemBaseUri, tenantId, Forwarding.choose forwarded xForwardedHost⟩

/-- The fields as they are signed. -/
def signed (s : Stated) : SignedFields :=
  ⟨s.systemBaseUri.getD "", s.tenantId.getD "", (s.host.map (·.raw)).getD ""⟩

/-- The tenant of requests that state none. -/
def defaultTenant : String := "0"

/-- The base URI stated by the request, else the default. -/
def baseUri (s : Stated) (fallback : Option String) : Option String := s.systemBaseUri.or fallback

/-- The context that follows from the fields and the default base URI. -/
def context (s : Stated) (fallback : Option String) : Context where
  tenantId := some (s.tenantId.getD defaultTenant)
  systemBaseUri := s.baseUri fallback
  initiatorSystemBaseUri :=
    some (match s.host with
      | some found => found.initiatorUri
      | none => (s.baseUri fallback).getD "")

end Stated

end TenantGate

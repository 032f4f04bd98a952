import TenantGate.Service.Failure
import TenantGate.Text.Decimal

/-!
# Handlers and the layers around them

A handler turns a call into a reply: a response or an interruption, the time that it took, and its
reports. A layer wraps a handler. `gate` resolves the tenant context first, `sizeLimit` and
`timeLimit` bound bodies and time, `propagateId` and `assignId` carry request identifiers.
-/

set_option autoImplicit false

namespace TenantGate.Service

open TenantGate.Http TenantGate.Text

/-- A request together with the tenant context that a layer has found for it. -/
structure Call where
  request : Request
  context : Option Context

/-- Why a handler gives no response. -/
inductive Interruption where
  | timedOut
deriving DecidableEq, Repr

/-- The response to a call that was interrupted. -/
def Interruption.response : Interruption → Response
  | timedOut => Response.bare 408

/-- What a handler does with a call; `elapsed` counts milliseconds. -/
structure Reply where
  outcome : Except Interruption Response
  elapsed : Nat
  reports : List Report

namespace Reply

/-- A response at once and without reports. -/
def respond (r : Response) : Reply := ⟨.ok r, 0, []⟩

/-- The reply with its response changed. -/
def mapResponse (f : Response → Response) (r : Reply) : Reply :=
  { r with outcome := r.outcome.map f }

/-- The reply with reports in front of its own. -/
def after (reports : List Report) (r : Reply) : Reply := { r with reports := reports ++ r.reports }

/-- The response, also where the call was interrupted. -/
def response (r : Reply) : Response :=
  match r.outcome with
  | .ok response => response
  | .error interruption => interruption.response

end Reply

/-- What serves calls; a layer takes one and gives another. -/
abbrev Handler := Call → Reply

/-! ## The tenant gate -/

/-- Resolve the tenant context and hand it on; a rejected call does not reach the inner
handler. -/
def gate (resolver : Resolver) (inner : Handler) : Handler := fun call =>
  match resolver.resolveRequest call.request.toRequestHead with
  | (.ok context, reports) => (inner { call with context := some context }).after reports
  | (.error e, reports) => (Reply.respond (Failure.ofResolve e).response).after reports

/-! ## Limits -/

/-- The size of the body as it is announced: the first value, if it is a number of 64 bits. -/
def announcedSize? (f : Fields) : Option Nat :=
  (f.first? "content-length").bind fun bs =>
    if bs.all fun b => isValueOctet b && b.toNat < 0x80 then (ofOctets? bs).bind number64? else none

/-- Refuse bodies that are announced to be larger than a limit, and stop reading others there. -/
def sizeLimit (limit : Nat) (inner : Handler) : Handler := fun call =>
  let limited (n : Nat) : Call :=
    { call with request := { call.request with body := call.request.body.limited n } }
  match announcedSize? call.request.fields with
  | some size =>
      if limit < size then Reply.respond (Response.text 413 "length limit exceeded")
      else inner (limited (min limit size))
  | none => inner (limited limit)

/-- Interrupt a handler that takes longer than a number of seconds. One that replies at once is
never interrupted. -/
def timeLimit (seconds : Nat) (inner : Handler) : Handler := fun call =>
  let reply := inner call
  if 0 < reply.elapsed ∧ 1000 * seconds ≤ reply.elapsed then
    ⟨.error .timedOut, 1000 * seconds, reply.reports⟩
  else reply

/-! ## Request identifiers -/

/-- The field that carries the identifier of a request. -/
def requestId : String := "x-request-id"

/-- Give a request that has no identifier a fresh one. -/
def assignId (fresh : String) (inner : Handler) : Handler := fun call =>
  let fields := call.request.fields.addMissing requestId (octets fresh)
  inner { call with request := { call.request with fields := fields } }

/-- Give the response the identifier of the request. -/
def propagateId (inner : Handler) : Handler := fun call =>
  let reply := inner call
  match call.request.fields.first? requestId with
  | some id => reply.mapResponse fun r => { r with fields := r.fields.addMissing requestId id }
  | none => reply

/-- What the limits and the identifier of a service are. -/
structure Limits where
  bodyLimit : Nat
  timeoutSeconds : Nat
  freshId : String

/-- All layers of the transport, the outermost first. -/
def transport (limits : Limits) (inner : Handler) : Handler :=
  assignId limits.freshId (propagateId (sizeLimit limits.bodyLimit
    (timeLimit limits.timeoutSeconds inner)))

end TenantGate.Service

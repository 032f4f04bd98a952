import TenantGate.Proofs.Influence
import TenantGate.Service.Layer

/-!
# What layers let through

`Seen` is what clients and logs see of a reply, its header fields apart. The gate answers a rejected
call in place of the handler behind it and hands the context of an accepted one on (`gate_of_error`,
`gate_of_ok`). The transport refuses bodies that are announced too large; any other call reaches the
handler as `Limits.passed` says, under the time limit. Either reply gets the identifier of the call
(`transport_of_announcesMore`, `transport_of_within`), and what is seen of it is left as it is
(`seen_transport_of_within`). A resolver answers a passed call as it answers the call itself.
-/

set_option autoImplicit false

namespace TenantGate.Service

open TenantGate.Http TenantGate.Text

/-- What is seen of a reply, its header fields apart. -/
structure Seen where
  status : Nat
  body : String
  reports : List Report
deriving DecidableEq, Repr

/-- What is seen of a response and its reports. -/
def Seen.of (r : Response) (reports : List Report) : Seen := ⟨r.status, r.body, reports⟩

/-- What is seen of a reply, also where the call was interrupted. -/
def Reply.seen (r : Reply) : Seen := Seen.of r.response r.reports

theorem Reply.seen_after_respond (r : Response) (reports : List Report) :
    ((Reply.respond r).after reports).seen = ⟨r.status, r.body, reports⟩ := by
  rw [Reply.seen, after, respond, List.append_nil]
  rfl

/-- A change that keeps status and body of a response is not seen. -/
theorem Reply.seen_mapResponse {f : Response → Response}
    (hf : ∀ r, (f r).status = r.status ∧ (f r).body = r.body) (reply : Reply) :
    (reply.mapResponse f).seen = reply.seen := by
  obtain ⟨outcome, elapsed, reports⟩ := reply
  cases outcome with
  | ok r =>
    obtain ⟨hstatus, hbody⟩ := hf r
    show Seen.of (f r) reports = Seen.of r reports
    rw [Seen.of, Seen.of, hstatus, hbody]
  | error interruption => rfl

/-! ## The tenant gate -/

/-- A rejected call is answered by the gate, whatever stands behind it. -/
theorem gate_of_error {r : Resolver} {call : Call} {e : ResolveError}
    (h : (r.resolve call.request.fields).1 = .error e) (inner : Handler) :
    gate r inner call =
      (Reply.respond (Failure.ofResolve e).response).after
        [r.rejection call.request.toRequestHead e] := by
  rw [gate, Resolver.resolveRequest_of_error h]

/-- An accepted call is handed on with its context. -/
theorem gate_of_ok {r : Resolver} {call : Call} {ctx : Context}
    (h : (r.resolve call.request.fields).1 = .ok ctx) (inner : Handler) :
    gate r inner call =
      (inner { call with context := some ctx }).after (r.resolve call.request.fields).2 := by
  rw [gate, Resolver.resolveRequest_of_ok h]

/-! ## The transport -/

/-- The fields announce a body that is larger than a limit. -/
def AnnouncesMore (limit : Nat) (f : Fields) : Prop :=
  ∃ size, announcedSize? f = some size ∧ limit < size

/-- The size up to which a body is read. -/
def readableSize (limit : Nat) (f : Fields) : Nat :=
  match announcedSize? f with
  | some size => min limit size
  | none => limit

/-- A call as the transport hands it on: with an identifier, and with a limit on its body. -/
def Limits.passed (limits : Limits) (call : Call) : Call :=
  let fields := call.request.fields.addMissing requestId (octets limits.freshId)
  let body := call.request.body.limited (readableSize limits.bodyLimit fields)
  { call with request := { call.request with fields := fields, body := body } }

theorem sizeLimit_of_within {limit : Nat} {call : Call}
    (h : ¬ AnnouncesMore limit call.request.fields) (inner : Handler) :
    sizeLimit limit inner call =
      inner { call with
        request := { call.request with
          body := call.request.body.limited (readableSize limit call.request.fields) } } := by
  unfold sizeLimit readableSize
  cases hsize : announcedSize? call.request.fields with
  | none => rfl
  | some size =>
    have hle : ¬ limit < size := fun hlt => h ⟨size, hsize, hlt⟩
    exact if_neg hle

theorem sizeLimit_of_announcesMore {limit : Nat} {call : Call}
    (h : AnnouncesMore limit call.request.fields) (inner : Handler) :
    sizeLimit limit inner call = Reply.respond (Response.text 413 "length limit exceeded") := by
  obtain ⟨size, hsize, hlt⟩ := h
  simp only [sizeLimit, hsize, if_pos hlt]

/-- A handler that replies at once is never interrupted. -/
theorem timeLimit_of_prompt {inner : Handler} {call : Call} (h : (inner call).elapsed = 0)
    (seconds : Nat) : timeLimit seconds inner call = inner call := by
  rw [timeLimit, h]
  exact if_neg fun hlt => absurd hlt.1 (Nat.lt_irrefl 0)

/-- An identifier does not change what is announced. -/
theorem announcesMore_addMissing_iff {limit : Nat} {f : Fields} {id : List UInt8} :
    AnnouncesMore limit (f.addMissing requestId id) ↔ AnnouncesMore limit f := by
  rw [AnnouncesMore, AnnouncesMore, announcedSize?, announcedSize?,
    Fields.first?_addMissing_of_ne (by decide)]

/-- The identifier of a call: the first one of the request, an empty one included, or the fresh
one. -/
def Limits.idOf (limits : Limits) (f : Fields) : List UInt8 :=
  (f.first? requestId).getD (octets limits.freshId)

/-- The response with an identifier, unless it has one. -/
def withId (id : List UInt8) (r : Response) : Response :=
  { r with fields := r.fields.addMissing requestId id }

/-- An identifier on the response is not seen. -/
theorem seen_withId (id : List UInt8) (reply : Reply) :
    (reply.mapResponse (withId id)).seen = reply.seen := by
  apply Reply.seen_mapResponse
  intro r
  exact ⟨rfl, rfl⟩

/-- A call whose request has an identifier. -/
def Limits.identified (limits : Limits) (call : Call) : Call :=
  let fields := call.request.fields.addMissing requestId (octets limits.freshId)
  { call with request := { call.request with fields := fields } }

/-- Whatever the limits make of a call, the response gets the identifier of the call. -/
theorem transport_eq (limits : Limits) (inner : Handler) (call : Call) :
    transport limits inner call =
      (sizeLimit limits.bodyLimit (timeLimit limits.timeoutSeconds inner)
        (limits.identified call)).mapResponse (withId (limits.idOf call.request.fields)) := by
  have hid : (limits.identified call).request.fields.first? requestId =
      some (limits.idOf call.request.fields) :=
    Fields.first?_addMissing_self _ _ _
  show propagateId _ (limits.identified call) = _
  rw [propagateId, hid]
  rfl

/-- A body that is announced too large is refused in place of the handler. -/
theorem transport_of_announcesMore {limits : Limits} {call : Call}
    (h : AnnouncesMore limits.bodyLimit call.request.fields) (inner : Handler) :
    transport limits inner call =
      (Reply.respond (Response.text 413 "length limit exceeded")).mapResponse
        (withId (limits.idOf call.request.fields)) := by
  rw [transport_eq, sizeLimit_of_announcesMore (announcesMore_addMissing_iff.2 h)]

/-- Any other call reaches the handler. -/
theorem transport_of_within {limits : Limits} {call : Call}
    (h : ¬ AnnouncesMore limits.bodyLimit call.request.fields) (inner : Handler) :
    transport limits inner call =
      (timeLimit limits.timeoutSeconds inner (limits.passed call)).mapResponse
        (withId (limits.idOf call.request.fields)) := by
  rw [transport_eq, sizeLimit_of_within (mt announcesMore_addMissing_iff.1 h)]
  -- the identifier is assigned before the limit is set, so this call is the passed one
  rfl

/-- **What is seen of a call that announces no larger body is what the handler replies to it.** -/
theorem seen_transport_of_within {limits : Limits} {inner : Handler} {call : Call}
    (h : ¬ AnnouncesMore limits.bodyLimit call.request.fields)
    (hprompt : (inner (limits.passed call)).elapsed = 0) :
    (transport limits inner call).seen = (inner (limits.passed call)).seen := by
  rw [transport_of_within h, seen_withId, timeLimit_of_prompt hprompt]

/-- **A call that announces a larger body does not reach the handler.** -/
theorem seen_transport_of_announcesMore {limits : Limits} {call : Call}
    (h : AnnouncesMore limits.bodyLimit call.request.fields) (inner : Handler) :
    (transport limits inner call).seen = ⟨413, "length limit exceeded", []⟩ := by
  rw [transport_of_announcesMore h, seen_withId]
  rfl

/-- The transport adds nothing that a resolver looks at. -/
theorem sameValues_passed (limits : Limits) (call : Call) :
    SameValues (limits.passed call).request.fields call.request.fields := by
  intro name hn
  have hne : name ≠ requestId := by
    rintro rfl
    exact absurd hn (by decide)
  have hfirst : (limits.passed call).request.fields.first? name = call.request.fields.first? name :=
    Fields.first?_addMissing_of_ne hne _ _
  rw [Fields.value?, Fields.value?, hfirst]

end TenantGate.Service

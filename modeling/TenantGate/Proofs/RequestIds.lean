import TenantGate.Proofs.Application

/-!
# Identifiers on responses

The transport puts the identifier of a call on the response, whether the handler gave it or a body
was announced too large. Only an interruption is no response and has nowhere to carry it
(`response_of_overrun`). The main theorem, `response_carries_id`, says so of any site inside the
transport: a response has the identifier of its request unless the handler overran its time, and
then it has none.
-/

set_option autoImplicit false

namespace TenantGate.Service

open TenantGate.Http TenantGate.Text

/-! ## Handlers without identifiers of their own -/

/-- A handler gives every call a response, and sets no identifier on it. -/
def RespondsWithoutId (inner : Handler) : Prop :=
  ∀ call, ∃ r, (inner call).outcome = .ok r ∧ r.fields.first? requestId = none

/-- A handler takes longer for a call than the transport allows. -/
def Overruns (limits : Limits) (inner : Handler) (call : Call) : Prop :=
  ¬ AnnouncesMore limits.bodyLimit call.request.fields ∧
    0 < (inner (limits.passed call)).elapsed ∧
    1000 * limits.timeoutSeconds ≤ (inner (limits.passed call)).elapsed

variable {limits : Limits} {inner : Handler} {call : Call}

theorem response_of_overrun (h : Overruns limits inner call) :
    (transport limits inner call).response = Interruption.timedOut.response := by
  obtain ⟨hwithin, hlong⟩ := h
  rw [transport_of_within hwithin, timeLimit, if_pos hlong]
  rfl

/-- A response that comes in time has the identifier of the call. -/
theorem first?_transport (hinner : RespondsWithoutId inner) (h : ¬ Overruns limits inner call) :
    (transport limits inner call).response.fields.first? requestId =
      some (limits.idOf call.request.fields) := by
  have hwithId : ∀ r : Response, r.fields.first? requestId = none →
      (withId (limits.idOf call.request.fields) r).fields.first? requestId =
        some (limits.idOf call.request.fields) := by
    intro r hr
    rw [withId, Fields.first?_addMissing_self, hr, Option.getD_none]
  by_cases hmore : AnnouncesMore limits.bodyLimit call.request.fields
  · rw [transport_of_announcesMore hmore]
    exact hwithId _ (by decide)
  · have htime : ¬ (0 < (inner (limits.passed call)).elapsed ∧
        1000 * limits.timeoutSeconds ≤ (inner (limits.passed call)).elapsed) :=
      fun hlong => h ⟨hmore, hlong⟩
    obtain ⟨r, hr, hnone⟩ := hinner (limits.passed call)
    rw [transport_of_within hmore, timeLimit, if_neg htime, Reply.mapResponse, Reply.response, hr]
    exact hwithId r hnone

/-! ## Sites -/

/-- All handlers of a site respond without identifiers. -/
structure Site.RespondsWithoutId (s : Site) : Prop where
  routes : ∀ route ∈ s.routes, Service.RespondsWithoutId route.handler
  fallback : Service.RespondsWithoutId s.fallback

theorem Site.RespondsWithoutId.handlerFor {s : Site} (h : s.RespondsWithoutId) (path : String) :
    Service.RespondsWithoutId (s.handlerFor path) := by
  unfold Site.handlerFor
  split
  · next route hfind => exact h.routes route (List.mem_of_find?_eq_some hfind)
  · exact h.fallback

/-- **Every response that comes in time carries the identifier of its request.** Take any site
inside the transport whose handlers respond and set no identifier themselves, and any call. Unless
the handler of the path overruns its time, the response has the first identifier of the request, an
empty one included, and a fresh one if the request has none; it does not matter which handler or
layer it comes from. If the handler overruns its time, the response is a 408 without an
identifier. -/
theorem response_carries_id (s : Site) (hs : s.RespondsWithoutId) (limits : Limits) (call : Call) :
    (¬ Overruns limits (s.handlerFor call.request.target.routePath) call →
        ((s.layered (transport limits)).answer call).1.fields.first? "x-request-id" =
          some ((call.request.fields.first? "x-request-id").getD (octets limits.freshId))) ∧
      (Overruns limits (s.handlerFor call.request.target.routePath) call →
        ((s.layered (transport limits)).answer call).1.status = 408 ∧
          ((s.layered (transport limits)).answer call).1.fields.first? "x-request-id" = none) := by
  have hfirst : ((s.layered (transport limits)).answer call).1.fields.first? "x-request-id" =
      (transport limits (s.handlerFor call.request.target.routePath)
        call).response.fields.first? "x-request-id" := by
    rw [Site.first?_answer (by decide) (by decide), Site.handlerFor_layered]
  -- completing a response does not touch the identifier, so the transport decides
  rw [hfirst]
  constructor
  · intro hintime
    exact first?_transport (hs.handlerFor _) hintime
  · intro hlong
    rw [Site.status_answer, Site.handlerFor_layered, response_of_overrun hlong]
    exact ⟨rfl, rfl⟩

/-! ## The sites of the service -/

theorem respondsWithoutId_respond {r : Response} (h : r.fields.first? requestId = none) :
    RespondsWithoutId fun _ => Reply.respond r :=
  fun _ => ⟨r, rfl, h⟩

theorem respondsWithoutId_delayed (milliseconds : Nat) (h : RespondsWithoutId inner) :
    RespondsWithoutId (delayed milliseconds inner) :=
  h

theorem respondsWithoutId_takingText {inner : String → Handler}
    (h : ∀ text, RespondsWithoutId (inner text)) : RespondsWithoutId (takingText inner) := by
  intro call
  unfold takingText
  split
  · next text _ => exact h text call
  · exact ⟨_, rfl, rfl⟩
  · exact ⟨_, rfl, rfl⟩

/-- A route of one method sets no identifier if its handler sets none. -/
theorem respondsWithoutId_route (h : RespondsWithoutId inner) (pattern : List Segment)
    (method : String) : RespondsWithoutId (Route.new pattern [(method, inner)]).handler := by
  intro call
  show ∃ r, (Route.byMethod [(method, inner)] call).outcome = .ok r ∧ _
  rw [byMethod_eq, List.find?_singleton]
  split
  · next served hserved =>
    split at hserved
    · cases hserved
      exact h call
    · cases hserved
  -- no method of the route serves the call
  · exact ⟨Response.bare 405, rfl, rfl⟩

theorem respondsWithoutId_gate (r : Resolver) (h : RespondsWithoutId inner) :
    RespondsWithoutId (gate r inner) := by
  intro call
  cases hout : (r.resolve call.request.fields).1 with
  | ok ctx =>
    rw [gate_of_ok hout]
    exact h _
  | error e =>
    rw [gate_of_error hout]
    exact ⟨_, rfl, rfl⟩

theorem respondsWithoutId_currentTenant : RespondsWithoutId currentTenant := by
  intro call
  unfold currentTenant
  split
  · exact ⟨_, rfl, rfl⟩
  · split
    · exact ⟨_, rfl, rfl⟩
    · exact ⟨_, rfl, rfl⟩

/-- The routes of the service, without the transport around them. -/
def bareApplication (s : Settings) : Site :=
  (Site.ofRoutes [Route.new [.fixed "health"] [("GET", health)]]).withRoutes
    (Site.mounted apiMount (tenantRoutes s))

theorem application_eq_layered (s : Settings) (freshId : String) :
    application s freshId = (bareApplication s).layered (transport (limitsOf s freshId)) :=
  rfl

/-- **No handler of the service sets an identifier.** -/
theorem respondsWithoutId_bareApplication (s : Settings) :
    (bareApplication s).RespondsWithoutId where
  routes := by
    intro route hroute
    simp only [bareApplication, Site.withRoutes, Site.ofRoutes, Site.mounted, tenantRoutes,
      Site.layered, List.map_cons, List.map_nil, List.mem_append, List.mem_singleton] at hroute
    rcases hroute with rfl | rfl
    · exact respondsWithoutId_route (respondsWithoutId_respond rfl) _ _
    · have htenant := respondsWithoutId_route respondsWithoutId_currentTenant
        [.fixed "tenant"] "GET"
      intro call
      -- the gate is inside the mount point, and sees the call with a shorter path
      exact respondsWithoutId_gate (resolverOf s) htenant (Site.unmounted apiMount call)
  fallback := respondsWithoutId_respond rfl

/-- Small routes, without the transport around them. -/
def bareTransportSite : Site :=
  Site.ofRoutes
    [Route.new [.fixed "ok"] [("GET", fixedText "ok")],
      Route.new [.fixed "echo"] [("POST", echo)],
      Route.new [.fixed "fail"] [("GET", fixedStatus 418)],
      Route.new [.fixed "slow"] [("GET", delayed 100 (fixedText "slow"))]]

theorem transportSite_eq_layered (s : Settings) (freshId : String) :
    transportSite s freshId = bareTransportSite.layered (transport (limitsOf s freshId)) :=
  rfl

theorem respondsWithoutId_bareTransportSite : bareTransportSite.RespondsWithoutId where
  routes := by
    intro route hroute
    simp only [bareTransportSite, Site.ofRoutes, List.mem_cons, List.not_mem_nil,
      or_false] at hroute
    have htext : ∀ text, RespondsWithoutId (fixedText text) :=
      fun _ => respondsWithoutId_respond rfl
    have hecho : RespondsWithoutId echo :=
      respondsWithoutId_takingText fun _ => respondsWithoutId_respond rfl
    rcases hroute with rfl | rfl | rfl | rfl
    · exact respondsWithoutId_route (htext "ok") _ _
    · exact respondsWithoutId_route hecho _ _
    · exact respondsWithoutId_route (respondsWithoutId_respond rfl) _ _
    · exact respondsWithoutId_route (respondsWithoutId_delayed 100 (htext "slow")) _ _
  fallback := respondsWithoutId_respond rfl

/-- Settings under which a handler may not take any time. -/
def hastySettings : Settings := { openSettings with timeoutSeconds := 0 }

/-- A rejection keeps the empty identifier of its request, a refused body gets a fresh one, and a
response that is too late has none. -/
theorem response_carries_id_rejected :
    ((application openSettings "a").answer
        ⟨bodiless "GET" "/api/v1/tenant"
          ⟨[(requestId, []), (GatewayField.tenantId, octets "t1")]⟩, none⟩).1.fields.first?
            requestId = some [] ∧
      ((application openSettings "a").answer
        ⟨bodiless "PUT" "/nowhere" ⟨[("content-length", octets "1048577")]⟩,
          none⟩).1.fields.first? requestId = some (octets "a") ∧
      ((transportSite hastySettings "a").answer ⟨bodiless "GET" "/slow" .empty, none⟩).1.status =
        408 := by
  have hservice := response_carries_id _ (respondsWithoutId_bareApplication openSettings)
    (limitsOf openSettings "a")
  rw [application_eq_layered, transportSite_eq_layered]
  refine ⟨?_, ?_, ?_⟩
  · refine (hservice _).1 ?_
    rintro ⟨-, hlong, -⟩
    -- a rejection takes no time
    exact absurd hlong (by decide)
  · refine (hservice _).1 ?_
    rintro ⟨hwithin, -⟩
    exact hwithin ⟨1048577, by decide, by decide⟩
  · have hslow := response_carries_id _ respondsWithoutId_bareTransportSite
      (limitsOf hastySettings "a") ⟨bodiless "GET" "/slow" .empty, none⟩
    refine (hslow.2 ⟨?_, by decide, by decide⟩).1
    have hnone : announcedSize? .empty = none := by decide
    rintro ⟨size, hsize, -⟩
    cases hnone.symm.trans hsize

/-- A response that is too late drops the identifier that its request has. -/
theorem late_response_drops_id :
    bareTransportSite.RespondsWithoutId ∧
      ((transportSite hastySettings "a").answer
        ⟨bodiless "GET" "/slow" ⟨[(requestId, octets "kept")]⟩, none⟩).1 =
          ⟨408, ⟨[("content-length", octets "0")]⟩, ""⟩ ∧
      ((transportSite hastySettings "a").answer
        ⟨bodiless "GET" "/slow" ⟨[(requestId, octets "kept")]⟩, none⟩).1.fields.first? requestId ≠
          some (octets "kept") := by
  refine ⟨respondsWithoutId_bareTransportSite, ?_, ?_⟩
  · decide
  · decide

end TenantGate.Service

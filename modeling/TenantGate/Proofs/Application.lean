import TenantGate.Proofs.AnswerText
import TenantGate.Proofs.Routes
import TenantGate.Service.Sites

/-!
# The service end to end

The settings for tenants and the gateway fields decide how the tenant path answers, and no other one.
`application_answers` says so for all settings and requests: on the tenant path a rejection comes
before anything that a handler would do and an accepted request is told its own context, and on any
other path they are not looked at. `applicationWith` is the service with any handlers in place of the
tenant handler; what it answers whatever they are is not of their making.
-/

set_option autoImplicit false

namespace TenantGate

open TenantGate.Http TenantGate.Text

/-- The resolver with the default base URI, the key and the switch of some settings, and without an
error log. -/
def Resolver.ofSettings (s : Settings) : Resolver where
  defaultText := s.defaultBaseUri
  key := s.key
  allowUnsignedDefaults := s.allowUnsignedDefaults
  errorLog := none

/-- The settings with others for tenants. -/
def Settings.withTenantSettings (s : Settings) (defaultBaseUri : String) (key : Option SigningKey)
    (allowUnsignedDefaults : Bool) : Settings :=
  { s with
    defaultBaseUri := defaultBaseUri
    key := key
    allowUnsignedDefaults := allowUnsignedDefaults }

/-- The fields that no gateway sets. -/
def Http.Fields.foreign (f : Fields) : List (String × List UInt8) :=
  f.entries.filter fun e => !GatewayField.all.contains e.1

theorem first?_eq_of_foreign {f g : Fields} (h : f.foreign = g.foreign) {name : String}
    (hname : name ∉ GatewayField.all) : f.first? name = g.first? name := by
  have hfirst : ∀ f : Fields,
      f.first? name = (f.foreign.find? fun e => e.1 == name).map Prod.snd := by
    intro f
    rw [Fields.first?, Fields.foreign, List.find?_filter]
    congr 2
    funext e
    by_cases he : e.1 = name
    · simp [he, hname]
    · simp [he]
  rw [hfirst, hfirst, h]

namespace Service

/-! ## The routes -/

/-- The service with handlers by method in place of the tenant handler. -/
def applicationWith (handlers : List (String × Handler)) (s : Settings) (freshId : String) : Site :=
  ((Site.ofRoutes [Route.new [.fixed "health"] [("GET", health)]]).withRoutes
    (Site.mounted apiMount
      ((Site.ofRoutes [Route.new [.fixed "tenant"] handlers]).layered
        (gate (resolverOf s))))).layered (transport (limitsOf s freshId))

theorem application_eq (s : Settings) (freshId : String) :
    application s freshId = applicationWith [("GET", currentTenant)] s freshId :=
  rfl

/-- The route of health checks. -/
def healthRoute (s : Settings) (freshId : String) : Route where
  pattern := ["health"].map .fixed
  methods := Route.servedMethods [("GET", health)]
  handler := transport (limitsOf s freshId) (Route.byMethod [("GET", health)])

/-- The handler behind the mount point. -/
def gated (handlers : List (String × Handler)) (s : Settings) : Handler := fun call =>
  gate (resolverOf s) (Route.byMethod handlers) (Site.unmounted apiMount call)

/-- The tenant route. -/
def tenantRoute (handlers : List (String × Handler)) (s : Settings) (freshId : String) : Route where
  pattern := ["api", "v1", "tenant"].map .fixed
  methods := Route.servedMethods handlers
  handler := transport (limitsOf s freshId) (gated handlers s)

variable {handlers : List (String × Handler)} {s : Settings} {freshId : String}

theorem routes_applicationWith :
    (applicationWith handlers s freshId).routes =
      [healthRoute s freshId, tenantRoute handlers s freshId] := by
  have hmount : Site.mountSegments apiMount = [.fixed "api", .fixed "v1"] := by decide
  simp only [applicationWith, Site.layered, Site.withRoutes, Site.mounted, Site.ofRoutes, hmount]
  rfl

theorem fits_healthRoute_iff (path : String) :
    (healthRoute s freshId).fits path.toList = true ↔ path = "/health" :=
  Route.fits_iff_of_fixed rfl (by decide) path

theorem fits_tenantRoute_iff (path : String) :
    (tenantRoute handlers s freshId).fits path.toList = true ↔ path = "/api/v1/tenant" :=
  Route.fits_iff_of_fixed rfl (by decide) path

theorem find?_tenantRoute {path : String} (hpath : path = "/api/v1/tenant") :
    (applicationWith handlers s freshId).routes.find? (fun r => r.fits path.toList) =
      some (tenantRoute handlers s freshId) := by
  have hhealth : (healthRoute s freshId).fits path.toList = false := by
    rw [Bool.eq_false_iff, Ne, fits_healthRoute_iff, hpath]
    decide
  have htenant : (tenantRoute handlers s freshId).fits path.toList = true :=
    (fits_tenantRoute_iff _).2 hpath
  simp only [routes_applicationWith, List.find?_cons, hhealth, htenant]

theorem find?_healthRoute {path : String} (hpath : path = "/health") :
    (applicationWith handlers s freshId).routes.find? (fun r => r.fits path.toList) =
      some (healthRoute s freshId) := by
  have hhealth : (healthRoute s freshId).fits path.toList = true :=
    (fits_healthRoute_iff _).2 hpath
  simp only [routes_applicationWith, List.find?_cons, hhealth]

theorem find?_elsewhere {path : String} (hhealth : path ≠ "/health")
    (htenant : path ≠ "/api/v1/tenant") :
    (applicationWith handlers s freshId).routes.find? (fun r => r.fits path.toList) = none := by
  have hhealth' : (healthRoute s freshId).fits path.toList = false := by
    rwa [Bool.eq_false_iff, Ne, fits_healthRoute_iff]
  have htenant' : (tenantRoute handlers s freshId).fits path.toList = false := by
    rwa [Bool.eq_false_iff, Ne, fits_tenantRoute_iff]
  simp only [routes_applicationWith, List.find?_cons, hhealth', htenant', List.find?_nil]

/-! ## The tenant path -/

/-- A resolver answers what reaches the gate as it answers the request. -/
theorem resolve_unmounted (limits : Limits) (call : Call) :
    (resolverOf s).resolve (Site.unmounted apiMount (limits.passed call)).request.fields =
      (Resolver.ofSettings s).resolve call.request.fields :=
  Resolver.resolve_congr_of_values _ (sameValues_passed limits call)

theorem gated_of_error {limits : Limits} {call : Call} {e : ResolveError}
    (h : ((Resolver.ofSettings s).resolve call.request.fields).1 = .error e) :
    gated handlers s (limits.passed call) =
      (Reply.respond (Failure.ofResolve e).response).after
        [.event (.rejected e call.request.method
          (call.request.target.dropMount apiMount).shown)] := by
  rw [← resolve_unmounted limits call] at h
  exact gate_of_error h _

theorem gated_of_ok {limits : Limits} {call : Call} {ctx : Context}
    (h : ((Resolver.ofSettings s).resolve call.request.fields).1 = .ok ctx) :
    gated handlers s (limits.passed call) =
      (Route.byMethod handlers
          { Site.unmounted apiMount (limits.passed call) with context := some ctx }).after
        ((Resolver.ofSettings s).resolve call.request.fields).2 := by
  rw [← resolve_unmounted limits call] at h ⊢
  exact gate_of_ok h _

/-- What is seen on the tenant path is what the gate, and what stands behind it, replies at once. -/
theorem seen_tenantPath {call : Call}
    (hpath : call.request.target.routePath = "/api/v1/tenant")
    (hsize : ¬ AnnouncesMore s.bodyLimit call.request.fields)
    (hprompt : (gated handlers s ((limitsOf s freshId).passed call)).elapsed = 0) :
    (applicationWith handlers s freshId).seen call =
      (gated handlers s ((limitsOf s freshId).passed call)).seen.forMethod call.request.method := by
  rw [Site.seen_of_route (find?_tenantRoute hpath)]
  exact congrArg (Seen.forMethod _) (seen_transport_of_within hsize hprompt)

/-- **A rejection is the answer on the tenant path, whatever its handlers are.** -/
theorem seen_tenantPath_of_error {call : Call} {e : ResolveError}
    (hpath : call.request.target.routePath = "/api/v1/tenant")
    (hsize : ¬ AnnouncesMore s.bodyLimit call.request.fields)
    (h : ((Resolver.ofSettings s).resolve call.request.fields).1 = .error e) :
    (applicationWith handlers s freshId).seen call =
      Seen.forMethod call.request.method ⟨e.status, (Failure.ofResolve e).body,
        [.event (.rejected e call.request.method
          (call.request.target.dropMount apiMount).shown)]⟩ := by
  have hgated : gated handlers s ((limitsOf s freshId).passed call) = _ := gated_of_error h
  have hprompt : (gated handlers s ((limitsOf s freshId).passed call)).elapsed = 0 := by
    rw [hgated]
    rfl
  rw [seen_tenantPath hpath hsize hprompt, hgated, Reply.seen_after_respond,
    ← Failure.status_ofResolve e]
  rfl

/-- The context of an accepted request, as it is told to a client. -/
theorem tenantAnswer_of_resolve {r : Resolver} {f : Fields} {ctx : Context}
    (h : (r.resolve f).1 = .ok ctx) :
    ∃ answer : TenantAnswer, tenantAnswer ctx = .ok answer ∧
      ctx = ⟨some answer.tenantId, answer.systemBaseUri, some answer.initiatorSystemBaseUri⟩ := by
  obtain ⟨stated, -, rfl⟩ := Resolver.resolve_eq_ok_iff_trusted.1 h
  exact ⟨_, rfl, rfl⟩

/-- The tenant handler by method: it serves `GET` and `HEAD`. -/
theorem byMethod_currentTenant {call : Call} {ctx : Context} {answer : TenantAnswer}
    (hcontext : call.context = some ctx) (hanswer : tenantAnswer ctx = .ok answer) :
    Route.byMethod [("GET", currentTenant)] call =
      if call.request.method = "GET" ∨ call.request.method = "HEAD" then
        Reply.respond (Response.json 200 answer.write)
      else Reply.respond (Response.bare 405) := by
  have hserved : currentTenant call = Reply.respond (Response.json 200 answer.write) := by
    simp only [currentTenant, hcontext, hanswer]
  by_cases hhead : call.request.method = "HEAD"
  · rw [if_pos (Or.inr hhead), ← hserved, byMethod_eq, hhead]
    rfl
  · have hserving : servingMethod call.request.method = call.request.method := by
      simp [servingMethod, hhead]
    rw [byMethod_eq, hserving]
    by_cases hget : call.request.method = "GET"
    · rw [if_pos (Or.inl hget), ← hserved, hget]
      rfl
    · have hnone : ("GET" == call.request.method) = false := beq_eq_false_iff_ne.2 (Ne.symm hget)
      rw [if_neg (not_or.2 ⟨hget, hhead⟩), List.find?_cons, hnone]
      rfl

/-- **An accepted request on the tenant path is told its own context.** -/
theorem seen_tenantPath_of_ok {call : Call} {ctx : Context} {answer : TenantAnswer}
    (hpath : call.request.target.routePath = "/api/v1/tenant")
    (hsize : ¬ AnnouncesMore s.bodyLimit call.request.fields)
    (h : ((Resolver.ofSettings s).resolve call.request.fields).1 = .ok ctx)
    (hanswer : tenantAnswer ctx = .ok answer) :
    (application s freshId).seen call =
      ⟨if call.request.method = "GET" ∨ call.request.method = "HEAD" then 200 else 405,
        if call.request.method = "GET" then answer.write else "",
        ((Resolver.ofSettings s).resolve call.request.fields).2⟩ := by
  have hreply : gated [("GET", currentTenant)] s ((limitsOf s freshId).passed call) =
      (if call.request.method = "GET" ∨ call.request.method = "HEAD" then
        Reply.respond (Response.json 200 answer.write)
      else Reply.respond (Response.bare 405)).after
        ((Resolver.ofSettings s).resolve call.request.fields).2 := by
    rw [gated_of_ok h, byMethod_currentTenant rfl hanswer]
    rfl
  have hprompt :
      (gated [("GET", currentTenant)] s ((limitsOf s freshId).passed call)).elapsed = 0 := by
    rw [hreply]
    split <;> rfl
  rw [application_eq, seen_tenantPath hpath hsize hprompt, hreply]
  by_cases hget : call.request.method = "GET"
  · rw [if_pos (Or.inl hget), if_pos (Or.inl hget), if_pos hget, Reply.seen_after_respond, hget]
    rfl
  · by_cases hhead : call.request.method = "HEAD"
    · rw [if_pos (Or.inr hhead), if_pos (Or.inr hhead), if_neg hget, Reply.seen_after_respond,
        hhead]
      rfl
    · have hother := not_or.2 ⟨hget, hhead⟩
      rw [if_neg hother, if_neg hother, if_neg hget, Reply.seen_after_respond, Seen.forMethod,
        if_neg hhead]
      rfl

/-! ## Other paths -/

theorem blind_health : Blind health := blind_respond _

theorem blind_nowhere : Blind Site.nowhere := blind_respond _

/-- **Away from the tenant path nothing depends on tenants.** -/
theorem seen_elsewhere {s s' : Settings} {freshId freshId' : String} {a b : Call}
    (hlimit : s.bodyLimit = s'.bodyLimit) (hmethod : a.request.method = b.request.method)
    (htarget : a.request.target = b.request.target)
    (hforeign : a.request.fields.foreign = b.request.fields.foreign)
    (hpath : a.request.target.routePath ≠ "/api/v1/tenant") :
    (applicationWith handlers s freshId).seen a =
      (applicationWith handlers s' freshId').seen b := by
  have hsize : announcedSize? a.request.fields = announcedSize? b.request.fields := by
    rw [announcedSize?, announcedSize?, first?_eq_of_foreign hforeign (by decide)]
  have htransport : ∀ {inner : Handler}, Blind inner →
      (transport (limitsOf s freshId) inner a).seen =
        (transport (limitsOf s' freshId') inner b).seen := by
    intro inner hblind
    exact seen_transport_of_blind hblind hlimit hmethod hsize
  -- what is left are the health check and the fallback, and both of them are blind
  by_cases hhealth : a.request.target.routePath = "/health"
  · rw [Site.seen_of_route (find?_healthRoute hhealth),
      Site.seen_of_route (find?_healthRoute (htarget ▸ hhealth)), hmethod]
    refine congrArg (Seen.forMethod _) (htransport (blind_byMethod ?_))
    intro served hmem
    rw [List.mem_singleton.1 hmem]
    exact blind_health
  · have hfallback := htransport blind_nowhere
    rw [Site.seen_of_fallback (find?_elsewhere hhealth hpath),
      Site.seen_of_fallback (find?_elsewhere (htarget ▸ hhealth) (htarget ▸ hpath)), htarget,
      hmethod]
    exact if_congr Iff.rfl hfallback (congrArg (Seen.forMethod _) hfallback)

/-! ## The service -/

/-- **The service end to end.** Take a request on the tenant path that announces no body beyond the
limit. If the resolver of the settings rejects it, the answer is this rejection for every method, with
500 if the key is missing and else with 403, and no handler has a part in it. If the resolver accepts
it, the answer tells its own context: `GET` has an object that states the facts, `HEAD` has no body,
and other methods are refused with 405. On any other path neither the settings for tenants nor the
gateway fields change what is seen. -/
theorem application_answers (s : Settings) (freshId : String) (q : Request) :
    (¬ AnnouncesMore s.bodyLimit q.fields → q.target.routePath = "/api/v1/tenant" →
      (∀ e, ((Resolver.ofSettings s).resolve q.fields).1 = .error e →
          e.status = (if s.key.isNone then 500 else 403) ∧
            (application s freshId).seen ⟨q, none⟩ =
              ⟨e.status, if q.method = "HEAD" then "" else (Failure.ofResolve e).body,
                [.event (.rejected e q.method (q.target.dropMount apiMount).shown)]⟩ ∧
            ∀ handlers, (applicationWith handlers s freshId).seen ⟨q, none⟩ =
              (application s freshId).seen ⟨q, none⟩) ∧
        ∀ ctx, ((Resolver.ofSettings s).resolve q.fields).1 = .ok ctx →
          ∃ answer : TenantAnswer,
            ctx = ⟨some answer.tenantId, answer.systemBaseUri, some answer.initiatorSystemBaseUri⟩ ∧
            TenantAnswer.read answer.write = .ok answer ∧
            (application s freshId).seen ⟨q, none⟩ =
              ⟨if q.method = "GET" ∨ q.method = "HEAD" then 200 else 405,
                if q.method = "GET" then answer.write else "",
                ((Resolver.ofSettings s).resolve q.fields).2⟩) ∧
      (q.target.routePath ≠ "/api/v1/tenant" →
        ∀ (defaultBaseUri : String) (key : Option SigningKey) (allow : Bool) (freshId' : String)
          (f : Fields), f.foreign = q.fields.foreign →
          (application (s.withTenantSettings defaultBaseUri key allow) freshId').seen
              ⟨{ q with fields := f }, none⟩ =
            (application s freshId).seen ⟨q, none⟩) := by
  refine ⟨fun hsize hpath => ⟨?_, ?_⟩, ?_⟩
  · intro e he
    have hseen : ∀ handlers, (applicationWith handlers s freshId).seen ⟨q, none⟩ = _ :=
      fun handlers => seen_tenantPath_of_error hpath hsize he
    refine ⟨Resolver.status_of_resolve_eq_error he, hseen _, fun handlers => ?_⟩
    rw [hseen, application_eq, hseen]
  · intro ctx hctx
    obtain ⟨answer, hanswer, hfacts⟩ := tenantAnswer_of_resolve hctx
    exact ⟨answer, hfacts, answer.read_write, seen_tenantPath_of_ok hpath hsize hctx hanswer⟩
  · intro hpath defaultBaseUri key allow freshId' f hforeign
    rw [application_eq, application_eq]
    exact seen_elsewhere rfl rfl rfl hforeign hpath

/-- Settings with a default base URI and the switch on, and without a key. -/
def openSettings : Settings := ⟨3000, .development, "https://d", none, true, 30, 1048576⟩

/-- A request without a body. -/
def bodiless (method path : String) (fields : Fields) : Request :=
  { method := method, target := ⟨none, none, path, none⟩, fields := fields, body := ⟨[], none⟩ }

/-- A tenant cannot be deleted without a key, whoever serves it; nobody is told the defaults; and a
health check knows no tenants. -/
theorem application_answers_openSettings :
    (∀ handlers, (applicationWith handlers openSettings "a").seen
        ⟨bodiless "DELETE" "/api/v1/tenant" ⟨[(GatewayField.tenantId, octets "t1")]⟩, none⟩ =
      ⟨500, Failure.internal.body,
        [.event (.rejected (.signature .missingSecret) "DELETE" "/tenant")]⟩) ∧
      (application openSettings "a").seen ⟨bodiless "GET" "/api/v1/tenant" .empty, none⟩ =
        ⟨200, TenantAnswer.write ⟨"0", some "https://d", "https://d"⟩,
          [.event (.resolved none "https://d" "0")]⟩ ∧
      (application (openSettings.withTenantSettings "" none false) "b").seen
          ⟨bodiless "GET" "/health" ⟨[(GatewayField.tenantId, octets "t1")]⟩, none⟩ =
        (application openSettings "a").seen ⟨bodiless "GET" "/health" .empty, none⟩ := by
  have hsize : ∀ {f : Fields}, announcedSize? f = none →
      ¬ AnnouncesMore openSettings.bodyLimit f := by
    rintro f hnone ⟨size, hsome, -⟩
    rw [hnone] at hsome
    cases hsome
  refine ⟨?_, ?_, ?_⟩
  · obtain ⟨htenant, -⟩ := application_answers openSettings "a"
      (bodiless "DELETE" "/api/v1/tenant" ⟨[(GatewayField.tenantId, octets "t1")]⟩)
    obtain ⟨-, hseen, hall⟩ :=
      (htenant (hsize (by decide)) rfl).1 (.signature .missingSecret) (by decide)
    intro handlers
    rw [hall, hseen]
    decide
  · obtain ⟨htenant, -⟩ := application_answers openSettings "a"
      (bodiless "GET" "/api/v1/tenant" .empty)
    obtain ⟨answer, hfacts, -, hseen⟩ := (htenant (hsize (by decide)) rfl).2
      ⟨some "0", some "https://d", some "https://d"⟩ (by decide)
    cases answer
    cases hfacts
    exact hseen
  · obtain ⟨-, hother⟩ := application_answers openSettings "a" (bodiless "GET" "/health" .empty)
    exact hother (by decide) "" none false "b" _ rfl

end Service

end TenantGate

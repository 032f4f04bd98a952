import TenantGate.Proofs.Application

/-!
# Contexts told to clients

The tenant handler tells a client the context of its call. What is told depends on the context alone:
the facts, if the tenant and the initiator are known (`currentTenant_of_facts`), and else that one is
missing, whichever it is (`currentTenant_of_missing`); a call without a context is a fault of the
service and is reported (`currentTenant_of_none`). The main theorem, `context_survives_the_wire`, says
so of the answers to `GET`, and that a client who reads the answer gets the facts back as they were.
-/

set_option autoImplicit false

namespace TenantGate.Service

open TenantGate.Http TenantGate.Text

/-! ## The handler -/

/-- The failure of a context that lacks a fact which has to be there. -/
def missingFact : Failure := .notFound "tenant context value"

theorem tenantAnswer_of_missing {ctx : Context}
    (h : ctx.tenantId = none ∨ ctx.initiatorSystemBaseUri = none) :
    tenantAnswer ctx = .error missingFact := by
  obtain ⟨tenantId, systemBaseUri, initiator⟩ := ctx
  -- the tenant is read first, but the error does not name what is missing
  cases tenantId with
  | none => rfl
  | some tenantId =>
    rcases h with h | h
    · cases h
    · cases h
      rfl

variable {call : Call}

theorem currentTenant_of_facts {tenantId initiator : String} {systemBaseUri : Option String}
    (h : call.context = some ⟨some tenantId, systemBaseUri, some initiator⟩) :
    currentTenant call =
      Reply.respond
        (Response.json 200 (TenantAnswer.write ⟨tenantId, systemBaseUri, initiator⟩)) := by
  simp only [currentTenant, h]
  rfl

theorem currentTenant_of_missing {ctx : Context} (h : call.context = some ctx)
    (hmissing : ctx.tenantId = none ∨ ctx.initiatorSystemBaseUri = none) :
    currentTenant call = Reply.respond missingFact.response := by
  simp only [currentTenant, h, tenantAnswer_of_missing hmissing]

theorem currentTenant_of_none (h : call.context = none) :
    currentTenant call =
      (Reply.respond Failure.internal.response).after
        [.event (.contextMissing call.request.target.shown)] := by
  simp only [currentTenant, h]

/-! ## Its answers to `GET` -/

/-- The call asks for the tenant context. -/
structure AsksTenant (q : Request) : Prop where
  method : q.method = "GET"
  path : q.target.routePath = "/tenant"

/-- A response of the tenant handler as `GET` gets it. -/
def toGet (r : Response) : Response :=
  Site.complete (Route.servedMethods [("GET", currentTenant)]) "GET" r

/-- The answer to a call is what the tenant handler replies. -/
theorem answer_handlerSite {q : Request} (h : AsksTenant q) (context : Option Context) :
    handlerSite.answer ⟨q, context⟩ =
      (toGet (currentTenant ⟨q, context⟩).response, (currentTenant ⟨q, context⟩).reports) := by
  have hfits : (Route.new [.fixed "tenant"] [("GET", currentTenant)]).fits
      q.target.routePath.toList = true := by
    rw [h.path]
    decide
  have hhandler : Route.byMethod [("GET", currentTenant)] ⟨q, context⟩ =
      currentTenant ⟨q, context⟩ := by
    rw [byMethod_eq, h.method]
    rfl
  -- the site has this route only, and nothing around it
  simp only [handlerSite, Site.answer, Site.ofRoutes, List.find?_cons, hfits]
  rw [← hhandler, h.method]
  rfl

theorem body_toGet (r : Response) : (toGet r).body = r.body := rfl

theorem mediaType_toGet (r : Response) :
    (toGet r).fields.first? "content-type" = r.fields.first? "content-type" :=
  Site.first?_complete (by decide) (by decide) _ _ _

/-- **A context survives the wire.** A client that asks for a context in which the tenant and the
initiator are known is answered 200 with a JSON text, from which the three facts are read as they
were, the base URI being unset exactly if it was. If one of those two is not known, the answer is 404
and the same whatever the rest of the context and the request is. Without a context the answer is 500,
whatever fields the request has, and one error is reported. Apart from the handler, every answer is
read back from its text. -/
theorem context_survives_the_wire :
    (∀ answer : TenantAnswer, TenantAnswer.read answer.write = .ok answer) ∧
      ∃ missing ungated : Response, missing.status = 404 ∧ ungated.status = 500 ∧
        ∀ q : Request, AsksTenant q →
          (∀ (tenantId initiator : String) (systemBaseUri : Option String), ∃ told : Response,
            handlerSite.answer ⟨q, some ⟨some tenantId, systemBaseUri, some initiator⟩⟩ =
                (told, []) ∧
              told.status = 200 ∧
              told.fields.first? "content-type" = some (octets "application/json") ∧
              TenantAnswer.read told.body = .ok ⟨tenantId, systemBaseUri, initiator⟩) ∧
          (∀ ctx : Context, ctx.tenantId = none ∨ ctx.initiatorSystemBaseUri = none →
            handlerSite.answer ⟨q, some ctx⟩ = (missing, [])) ∧
          ∃ event : Event, event.severity = .error ∧
            handlerSite.answer ⟨q, none⟩ = (ungated, [.event event]) := by
  -- both failures are given before the request is, so that neither can depend on it
  refine ⟨TenantAnswer.read_write, toGet missingFact.response, toGet Failure.internal.response,
    rfl, rfl, ?_⟩
  intro q hq
  refine ⟨?_, ?_, ?_⟩
  · intro tenantId initiator systemBaseUri
    let facts : TenantAnswer := ⟨tenantId, systemBaseUri, initiator⟩
    refine ⟨toGet (Response.json 200 facts.write), ?_, rfl, ?_, ?_⟩
    · rw [answer_handlerSite hq, currentTenant_of_facts rfl]
      rfl
    · rw [mediaType_toGet]
      rfl
    · rw [body_toGet]
      exact TenantAnswer.read_write _
  · intro ctx hmissing
    rw [answer_handlerSite hq, currentTenant_of_missing rfl hmissing]
    rfl
  · refine ⟨.contextMissing q.target.shown, rfl, ?_⟩
    rw [answer_handlerSite hq, currentTenant_of_none rfl]
    rfl

/-- A request for the context that states a tenant of its own. -/
def tenantQuestion : Request :=
  bodiless "GET" "/tenant" ⟨[(GatewayField.tenantId, octets "t1")]⟩

/-- A tenant of awkward characters is told as it is, an empty base URI is told from one that is unset,
and a context without a tenant is answered as one without an initiator. -/
theorem context_survives_the_wire_awkward :
    (∃ told : Response,
        handlerSite.answer ⟨tenantQuestion, some ⟨some "\"\\/\x01\u2028😀", some "", some ""⟩⟩ =
          (told, []) ∧
        TenantAnswer.read told.body = .ok ⟨"\"\\/\x01\u2028😀", some "", ""⟩) ∧
      (∃ told : Response,
        handlerSite.answer ⟨tenantQuestion, some ⟨some "", none, some "i"⟩⟩ = (told, []) ∧
        TenantAnswer.read told.body = .ok ⟨"", none, "i"⟩) ∧
      handlerSite.answer ⟨tenantQuestion, some ⟨none, some "u", some "i"⟩⟩ =
        handlerSite.answer ⟨tenantQuestion, some ⟨some "t", none, none⟩⟩ ∧
      ∃ ungated event, ungated.status = 500 ∧
        handlerSite.answer ⟨tenantQuestion, none⟩ = (ungated, [.event event]) := by
  obtain ⟨-, missing, ungated, -, hstatus, hanswers⟩ := context_survives_the_wire
  obtain ⟨htold, hmissing, event, -, hungated⟩ := hanswers tenantQuestion ⟨rfl, by decide⟩
  refine ⟨?_, ?_, ?_, ungated, event, hstatus, hungated⟩
  · obtain ⟨told, hanswer, -, -, hread⟩ := htold "\"\\/\x01\u2028😀" "" (some "")
    exact ⟨told, hanswer, hread⟩
  · obtain ⟨told, hanswer, -, -, hread⟩ := htold "" "i" none
    exact ⟨told, hanswer, hread⟩
  · rw [hmissing _ (Or.inl rfl), hmissing _ (Or.inr rfl)]

end TenantGate.Service

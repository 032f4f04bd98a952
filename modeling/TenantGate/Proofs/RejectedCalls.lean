import TenantGate.Proofs.KeyIndependence
import TenantGate.Proofs.Layers
import TenantGate.Proofs.UnsignedDefaults
import TenantGate.Service.Sites

/-!
# What a rejection shows to a client

Three things follow from the error of a rejected call: its status, the failure that it becomes, and
the response to this failure. They agree for every error (`Failure.response_ofResolve_eq_iff`): two
errors have the same response exactly if they have the same status. The main theorem,
`rejection_shows_status_only`, says so of the responses of any two gates to any two calls that they
reject, and says which status it is and that no inner handler has a part in it.
-/

set_option autoImplicit false

namespace TenantGate

open TenantGate.Http TenantGate.Text

/-! ## From an error to its response -/

theorem Failure.status_response (failure : Failure) : failure.response.status = failure.status :=
  rfl

/-- **The response to an error tells its status and nothing else of it.** -/
theorem Failure.response_ofResolve_eq_iff {e e' : ResolveError} :
    (ofResolve e).response = (ofResolve e').response ↔ e.status = e'.status := by
  constructor
  · intro h
    have hstatus := congrArg Response.status h
    rwa [status_response, status_response, status_ofResolve, status_ofResolve] at hstatus
  · intro h
    -- the failure is chosen by the status alone
    have hfault : e.isServerError = e'.isServerError := by
      rw [ResolveError.isServerError, ResolveError.isServerError, h]
    rw [ofResolve, ofResolve, hfault]

namespace Resolver

variable {r : Resolver} {f : Fields} {e : ResolveError}

/-- A rejected request is not one that the switch serves. -/
theorem servesUnsigned_eq_false_of_error (h : (r.resolve f).1 = .error e) :
    r.servesUnsigned f = false := by
  cases hs : r.servesUnsigned f with
  | false => rfl
  | true =>
    rw [resolve_of_servesUnsigned hs] at h
    cases h

/-- The status of a rejection is 500 exactly if there is no key and the request does not qualify for
the defaults, and else 403. -/
theorem status_of_error (h : (r.resolve f).1 = .error e) :
    (e.status = 500 ↔ r.key = none ∧ (r.allowUnsignedDefaults = true → StatesSigned f)) ∧
      (e.status ≠ 500 → e.status = 403) := by
  have hqualifies := servesUnsigned_eq_false_iff.1 (servesUnsigned_eq_false_of_error h)
  have hstatus := status_of_resolve_eq_error h
  -- the presence of a key fixes the status, and both cases have to fit the condition
  cases hk : r.key with
  | none =>
    rw [hk] at hstatus
    exact ⟨⟨fun _ => ⟨rfl, hqualifies⟩, fun _ => hstatus⟩, fun hne => absurd hstatus hne⟩
  | some key =>
    rw [hk] at hstatus
    refine ⟨⟨fun h500 => ?_, fun ⟨hnone, _⟩ => ?_⟩, fun _ => hstatus⟩
    · rw [hstatus] at h500
      cases h500
    · cases hnone

end Resolver

namespace Service

/-- The response of a gate to a rejected call. -/
theorem response_gate_of_error {r : Resolver} {call : Call} {e : ResolveError}
    (h : (r.resolve call.request.fields).1 = .error e) (inner : Handler) :
    (gate r inner call).response = (Failure.ofResolve e).response := by
  rw [gate_of_error h]
  rfl

theorem status_gate_of_error {r : Resolver} {call : Call} {e : ResolveError}
    (h : (r.resolve call.request.fields).1 = .error e) (inner : Handler) :
    (gate r inner call).response.status = e.status := by
  rw [response_gate_of_error h, Failure.status_response, Failure.status_ofResolve]

/-- **A rejection tells a client its status and nothing else.** Take two calls that two gates
reject, whatever the calls and the resolvers are. The response to a rejected call has the status of
the error, which is 500 exactly if the resolver has no key and the request does not qualify for the
unsigned defaults, and else 403. The whole reply is the same whatever handler stands behind the
gate, so this handler has no part in it. If the statuses of the two responses are equal, then so are
the responses with their fields and bodies. -/
theorem rejection_shows_status_only (r₁ r₂ : Resolver) (a b : Call) (e₁ e₂ : ResolveError)
    (ha : (r₁.resolveRequest a.request.toRequestHead).1 = .error e₁)
    (hb : (r₂.resolveRequest b.request.toRequestHead).1 = .error e₂) :
    (∀ inner, (gate r₁ inner a).response.status = e₁.status) ∧
      (e₁.status = 500 ↔
        r₁.key = none ∧ (r₁.allowUnsignedDefaults = true → StatesSigned a.request.fields)) ∧
      (e₁.status ≠ 500 → e₁.status = 403) ∧
      (∀ inner inner', gate r₁ inner a = gate r₁ inner' a) ∧
      (∀ inner inner',
        (gate r₁ inner a).response.status = (gate r₂ inner' b).response.status →
          (gate r₁ inner a).response = (gate r₂ inner' b).response) := by
  rw [Resolver.fst_resolveRequest] at ha hb
  obtain ⟨h500, h403⟩ := Resolver.status_of_error ha
  refine ⟨status_gate_of_error ha, h500, h403, ?_, ?_⟩
  · intro inner inner'
    rw [gate_of_error ha, gate_of_error ha]
  · intro inner inner' hstatus
    rw [status_gate_of_error ha, status_gate_of_error hb] at hstatus
    rw [response_gate_of_error ha, response_gate_of_error hb]
    exact Failure.response_ofResolve_eq_iff.2 hstatus

/-- A call whose tenant is no text. -/
def undecodedCall : Call := ⟨Resolver.unsignedRequest ⟨[(GatewayField.tenantId, [0xFF])]⟩, none⟩

/-- A call to delete something, with a signature that is no base64. -/
def malformedCall : Call where
  request :=
    { method := "DELETE"
      target := ⟨none, none, "/b", none⟩
      fields := ⟨[(GatewayField.tenantId, octets "t1"), (GatewayField.signature, octets "!")]⟩
      body := ⟨[], none⟩ }
  context := none

/-- Two faults of two requests look alike under two keys and in front of two handlers. -/
theorem rejection_shows_status_only_malformed :
    (gate (Resolver.new "" (some .short)) currentTenant undecodedCall).response =
      (gate ((Resolver.new "https://d" (some Resolver.otherKey)).withUnsignedDefaults true) health
        malformedCall).response := by
  have hundecoded : ((Resolver.new "" (some .short)).resolveRequest
      undecodedCall.request.toRequestHead).1 = .error (.invalidHeader GatewayField.tenantId) := by
    decide
  have hmalformed : (((Resolver.new "https://d" (some Resolver.otherKey)).withUnsignedDefaults
      true).resolveRequest malformedCall.request.toRequestHead).1 =
        .error (.signature (.illegalBase64 (.invalidByte 0 33))) := by
    decide
  obtain ⟨hstatus, -, -, -, hresponse⟩ :=
    rejection_shows_status_only _ _ _ _ _ _ hundecoded hmalformed
  obtain ⟨hstatus', -⟩ := rejection_shows_status_only _ _ _ _ _ _ hmalformed hundecoded
  apply hresponse
  rw [hstatus, hstatus']
  rfl

end Service

end TenantGate

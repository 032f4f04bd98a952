import TenantGate.Proofs.Decision
import TenantGate.Resolver.Steps
import TenantGate.Service.Layer

/-!
# What a resolver reveals of its key

Two resolvers that differ in their keys alone may disagree on whether they accept a request, and on
nothing else. The verdict on one signature is the same under both keys unless exactly one of them
accepts it (`verify_eq_of_isOk_eq`), and the answer to a request follows (`trusted_eq_of_isOk_eq`).
The main theorem, `key_reveals_acceptance_only`, says so of answers, reports and responses, and says
that diagnostics show no more of a key than its length.
-/

set_option autoImplicit false

namespace TenantGate

open TenantGate.Http TenantGate.Text

/-- Keys that agree on whether a signature is accepted agree on what is wrong with it. -/
theorem verify_eq_of_isOk_eq {k₁ k₂ : SigningKey} {signed : SignedFields}
    {signature : Option String}
    (h : (verify (some k₁) signed signature).isOk = (verify (some k₂) signed signature).isOk) :
    verify (some k₁) signed signature = verify (some k₂) signed signature := by
  cases signature with
  | none => rfl
  | some text =>
    cases hd : Base64.decode (octets (trimmed text)) with
    | error cause => simp only [verify, hd]
    | ok code =>
      have hcompare : ∀ k : SigningKey, verify (some k) signed (some text) =
          if code = Digest.Hmac.code k.octets (octets signed.message) then .ok ()
          else .error .mismatch := by
        intro k
        simp only [verify, hd]
      rw [hcompare, hcompare] at h ⊢
      -- each key decides between two answers, and the two keys decide alike
      by_cases h₁ : code = Digest.Hmac.code k₁.octets (octets signed.message)
      · by_cases h₂ : code = Digest.Hmac.code k₂.octets (octets signed.message)
        · rw [if_pos h₁, if_pos h₂]
        · rw [if_pos h₁, if_neg h₂] at h
          cases h
      · by_cases h₂ : code = Digest.Hmac.code k₂.octets (octets signed.message)
        · rw [if_neg h₁, if_pos h₂] at h
          cases h
        · rw [if_neg h₁, if_neg h₂]

namespace Resolver

variable {r : Resolver} {k₁ k₂ : SigningKey}

/-- The resolver with a key in place of its own. -/
def withKey (r : Resolver) (key : SigningKey) : Resolver := { r with key := some key }

theorem trusted_withKey_of_unsigned {f : Fields} (hs : r.servesUnsigned f = true)
    (key : SigningKey) : (r.withKey key).trusted f = Stated.read f := by
  have hs' : (r.withKey key).servesUnsigned f = true := hs
  rw [trusted, if_pos hs']

/-- With a key, a request that the switch does not serve is read first and then verified. -/
theorem trusted_withKey {f : Fields} (hs : r.servesUnsigned f = false) (key : SigningKey) :
    (r.withKey key).trusted f =
      (do
        let stated ← Stated.read f
        let signature ← fieldText? f GatewayField.signature
        (verify (some key) stated.signed signature).mapError .signature
        .ok stated) := by
  have hs' : (r.withKey key).servesUnsigned f = false := hs
  rw [trusted, hs']
  rfl

/-- Keys that agree on whether a request is accepted agree on the answer. -/
theorem trusted_eq_of_isOk_eq {f : Fields}
    (h : ((r.withKey k₁).trusted f).isOk = ((r.withKey k₂).trusted f).isOk) :
    (r.withKey k₁).trusted f = (r.withKey k₂).trusted f := by
  cases hs : r.servesUnsigned f with
  | true => rw [trusted_withKey_of_unsigned hs, trusted_withKey_of_unsigned hs]
  | false =>
    rw [trusted_withKey hs, trusted_withKey hs] at h ⊢
    cases hread : Stated.read f with
    | error e => rw [Except.error_bind, Except.error_bind]
    | ok stated =>
      cases hfield : fieldText? f GatewayField.signature with
      | error e =>
        rw [Except.ok_bind, Except.ok_bind, Except.error_bind, Except.error_bind]
      | ok signature =>
        -- all that is left of either chain is the check of the signature
        rw [hread, Except.ok_bind, Except.ok_bind, hfield, Except.ok_bind, Except.ok_bind,
          Except.isOk_mapError_bind, Except.isOk_mapError_bind] at h
        rw [Except.ok_bind, Except.ok_bind, Except.ok_bind, Except.ok_bind,
          verify_eq_of_isOk_eq h]

/-! ## Answers, reports and responses -/

theorem isOk_resolveRequest (r : Resolver) (head : RequestHead) :
    (r.resolveRequest head).1.isOk = (r.trusted head.fields).isOk := by
  rw [fst_resolveRequest, fst_resolve]
  cases r.trusted head.fields with
  | ok _ => rfl
  | error _ => rfl

/-- Keys that agree on whether a request is accepted agree on all that is answered and reported. -/
theorem resolveRequest_eq_of_isOk_eq {head : RequestHead}
    (h : ((r.withKey k₁).resolveRequest head).1.isOk =
      ((r.withKey k₂).resolveRequest head).1.isOk) :
    (r.withKey k₁).resolveRequest head = (r.withKey k₂).resolveRequest head := by
  rw [isOk_resolveRequest, isOk_resolveRequest] at h
  have hresolve : (r.withKey k₁).resolve head.fields = (r.withKey k₂).resolve head.fields :=
    resolve_congr rfl (trusted_eq_of_isOk_eq h)
  unfold resolveRequest
  rw [hresolve]
  rfl

theorem resolveRequest_eq_of_error {head : RequestHead} {e₁ e₂ : ResolveError}
    (h₁ : ((r.withKey k₁).resolveRequest head).1 = .error e₁)
    (h₂ : ((r.withKey k₂).resolveRequest head).1 = .error e₂) :
    (r.withKey k₁).resolveRequest head = (r.withKey k₂).resolveRequest head := by
  apply resolveRequest_eq_of_isOk_eq
  rw [h₁, h₂]
  rfl

theorem resolveRequest_eq_of_ok {head : RequestHead} {c₁ c₂ : Context}
    (h₁ : ((r.withKey k₁).resolveRequest head).1 = .ok c₁)
    (h₂ : ((r.withKey k₂).resolveRequest head).1 = .ok c₂) :
    (r.withKey k₁).resolveRequest head = (r.withKey k₂).resolveRequest head := by
  apply resolveRequest_eq_of_isOk_eq
  rw [h₁, h₂]
  rfl

/-- Diagnostics show the length of a key and nothing else. -/
theorem shown_withKey_eq (hlen : k₁.octets.length = k₂.octets.length) :
    (r.withKey k₁).shown = (r.withKey k₂).shown := by
  have hkey : k₁.shown = k₂.shown := by rw [SigningKey.shown, SigningKey.shown, hlen]
  have hoption : shownOption SigningKey.shown (some k₁) =
      shownOption SigningKey.shown (some k₂) := by
    rw [shownOption, shownOption, hkey]
  unfold shown
  exact congrArg (fun key => _ ++ key ++ _ ++ _ ++ _ ++ _ ++ _) hoption

/-- **A key reveals whether it accepts and nothing else.** Take a resolver with one of two keys. A
request that is rejected under both is rejected with one error, so with one wording and one status,
and with one report to the error log or the event stream, and the gate answers it with one response,
whatever it guards. A request that is accepted under both has one context and one report. Keys of
one length look the same in diagnostics. -/
theorem key_reveals_acceptance_only (r : Resolver) (k₁ k₂ : SigningKey) (request : Request) :
    (∀ e₁ e₂, ((r.withKey k₁).resolveRequest request.toRequestHead).1 = .error e₁ →
        ((r.withKey k₂).resolveRequest request.toRequestHead).1 = .error e₂ →
        e₁ = e₂ ∧
          ((r.withKey k₁).resolveRequest request.toRequestHead).2 =
            ((r.withKey k₂).resolveRequest request.toRequestHead).2 ∧
          ∀ inner context, Service.gate (r.withKey k₁) inner ⟨request, context⟩ =
            Service.gate (r.withKey k₂) inner ⟨request, context⟩) ∧
      (∀ c₁ c₂, ((r.withKey k₁).resolveRequest request.toRequestHead).1 = .ok c₁ →
        ((r.withKey k₂).resolveRequest request.toRequestHead).1 = .ok c₂ →
        c₁ = c₂ ∧
          ((r.withKey k₁).resolveRequest request.toRequestHead).2 =
            ((r.withKey k₂).resolveRequest request.toRequestHead).2) ∧
      (k₁.octets.length = k₂.octets.length → (r.withKey k₁).shown = (r.withKey k₂).shown) := by
  refine ⟨?_, ?_, shown_withKey_eq⟩
  · intro e₁ e₂ h₁ h₂
    have heq := resolveRequest_eq_of_error h₁ h₂
    refine ⟨?_, congrArg Prod.snd heq, ?_⟩
    · rw [heq, h₂] at h₁
      exact (Except.error.inj h₁).symm
    · intro inner context
      simp only [Service.gate, heq]
  · intro c₁ c₂ h₁ h₂
    have heq := resolveRequest_eq_of_ok h₁ h₂
    refine ⟨?_, congrArg Prod.snd heq⟩
    rw [heq, h₂] at h₁
    exact (Except.ok.inj h₁).symm

/-- Another key of one octet. -/
def otherKey : SigningKey := ⟨[0x6C], by decide⟩

/-- A request without a signature. -/
def unsignedRequest (fields : Fields) : Request :=
  { method := "GET", target := ⟨none, none, "/a", none⟩, fields := fields, body := ⟨[], none⟩ }

/-- Two keys reject an unsigned tenant alike, and accept alike what the switch serves. -/
theorem key_reveals_acceptance_only_unsigned :
    (∀ inner context,
        Service.gate ((new "" none).withKey .short) inner
            ⟨unsignedRequest ⟨[(GatewayField.tenantId, octets "t1")]⟩, context⟩ =
          Service.gate ((new "" none).withKey otherKey) inner
            ⟨unsignedRequest ⟨[(GatewayField.tenantId, octets "t1")]⟩, context⟩) ∧
      (∀ c₁ c₂,
        ((((new "" none).withUnsignedDefaults true).withKey .short).resolveRequest
            (unsignedRequest .empty).toRequestHead).1 = .ok c₁ →
          ((((new "" none).withUnsignedDefaults true).withKey otherKey).resolveRequest
            (unsignedRequest .empty).toRequestHead).1 = .ok c₂ → c₁ = c₂) ∧
      ((new "" none).withKey .short).shown = ((new "" none).withKey otherKey).shown := by
  obtain ⟨hreject, -, hshown⟩ := key_reveals_acceptance_only (new "" none) .short otherKey
    (unsignedRequest ⟨[(GatewayField.tenantId, octets "t1")]⟩)
  obtain ⟨-, haccept, -⟩ := key_reveals_acceptance_only
    ((new "" none).withUnsignedDefaults true) .short otherKey (unsignedRequest .empty)
  refine ⟨?_, fun c₁ c₂ h₁ h₂ => (haccept c₁ c₂ h₁ h₂).1, hshown rfl⟩
  refine (hreject (.signature .missingSignature) (.signature .missingSignature) ?_ ?_).2.2
  · decide
  · decide

end Resolver

end TenantGate

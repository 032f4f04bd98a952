import TenantGate.Proofs.Decoding
import TenantGate.Proofs.SignatureCheck
import TenantGate.Resolver.Basic

/-!
# How a resolver decides

`Decision` lists what a resolver can answer to a request, with the condition of each answer, and
`decision_trusted` says that every answer of `Resolver.trusted` is one of them. In the other
direction, `trusted_of_servesUnsigned` and `trusted_of_signature` say when a request is trusted.
What the theory of resolvers says about acceptance and rejection is read off these cases, and a
request is answered as its fields are (`fst_resolveRequest`).
-/

set_option autoImplicit false

namespace TenantGate

open TenantGate.Http TenantGate.Text TenantGate.Forwarding

/-- All fields a gateway sets, in the order in which a resolver decodes them. -/
def GatewayField.all : List String := GatewayField.signed ++ [GatewayField.signature]

namespace SignedTexts

/-- The message under the signature: base URI, tenant and the whole header that gave the host. -/
def message (t : SignedTexts) (found : Option Found) : String :=
  t.systemBaseUri.getD "" ++ t.tenantId.getD "" ++ (found.map (·.raw)).getD ""

theorem message_stated (t : SignedTexts) :
    t.stated.signed.message = t.message (choose t.forwarded t.xForwardedHost) :=
  rfl

end SignedTexts

namespace Resolver

variable {r : Resolver} {f : Fields}

/-- Two readings of an absent field agree: the switch looks at octets, the decoder at texts. -/
theorem servesUnsigned_eq_true_iff :
    r.servesUnsigned f = true ↔
      r.allowUnsignedDefaults = true ∧ ∀ name ∈ GatewayField.signed, f.value? name = none := by
  simp only [servesUnsigned, Bool.and_eq_true, Bool.not_eq_true', List.any_eq_false,
    Bool.not_eq_true, hasValue_eq_false_iff]

theorem servesUnsigned_eq_false_iff :
    r.servesUnsigned f = false ↔ (r.allowUnsignedDefaults = true → StatesSigned f) := by
  rw [← Bool.not_eq_true, servesUnsigned_eq_true_iff, ← not_statesSigned_iff, not_and,
    Classical.not_not]

theorem servesUnsigned_of_off (hoff : r.allowUnsignedDefaults = false) (f : Fields) :
    r.servesUnsigned f = false := by
  rw [servesUnsigned, hoff, Bool.false_and]

/-- The signature of the request is the one of the message under the configured key. -/
def Verifies (r : Resolver) (f : Fields) (message : String) : Prop :=
  ∃ key signature, r.key = some key ∧
    f.value? "x-dv-sig-1" = some (octets signature) ∧
    trimmed signature = Base64.encodeText (Digest.Hmac.code key.octets (octets message))

/-- The answers of a resolver to a request, each with its condition. -/
inductive Decision (r : Resolver) (f : Fields) : Except ResolveError Stated → Prop where
  | unsigned :
      r.servesUnsigned f = true → SignedTexts.none.SaidBy f →
      Decision r f (.ok SignedTexts.none.stated)
  | missingSecret :
      r.servesUnsigned f = false → r.key = none →
      Decision r f (.error (.signature .missingSecret))
  | undecodable {key : SigningKey} {name : String} :
      r.servesUnsigned f = false → r.key = some key → First (Undecodable f) GatewayField.all name →
      Decision r f (.error (.invalidHeader name))
  | refused {key : SigningKey} {t : SignedTexts} {signature : Option String}
      {cause : SignatureError} :
      r.servesUnsigned f = false → r.key = some key → t.SaidBy f →
      f.value? GatewayField.signature = signature.map octets →
      Verdict (some key) t.stated.signed signature (.error cause) →
      Decision r f (.error (.signature cause))
  | verified {t : SignedTexts} :
      r.servesUnsigned f = false → t.SaidBy f → r.Verifies f t.stated.signed.message →
      Decision r f (.ok t.stated)

theorem trusted_of_servesUnsigned (hs : r.servesUnsigned f = true) :
    r.trusted f = .ok SignedTexts.none.stated := by
  obtain ⟨-, hnone⟩ := servesUnsigned_eq_true_iff.1 hs
  rw [trusted, if_pos hs]
  exact Stated.read_eq_ok_iff.2 ⟨_, SignedTexts.saidBy_none_iff.2 hnone, rfl⟩

/-- A request with a verified signature is trusted, whether or not the switch would serve it. -/
theorem trusted_of_signature {t : SignedTexts} (ht : t.SaidBy f)
    (hv : r.Verifies f t.stated.signed.message) : r.trusted f = .ok t.stated := by
  cases hs : r.servesUnsigned f with
  | true =>
    -- the switch serves no texts, and the request says one thing only
    obtain ⟨-, hnone⟩ := servesUnsigned_eq_true_iff.1 hs
    rw [trusted_of_servesUnsigned hs, ht.unique (SignedTexts.saidBy_none_iff.2 hnone)]
  | false =>
    obtain ⟨key, signature, hk, hsig, htext⟩ := hv
    have hread := Stated.read_eq_ok_iff.2 ⟨t, ht, rfl⟩
    have hfield := fieldText?_of_text hsig
    have hverify := verify_eq_ok_iff.2 ⟨key, signature, rfl, rfl, htext⟩
    simp only [trusted, hs, hk, Option.isNone_some, Bool.false_eq_true, if_false,
      Except.bind_eq_ok_iff, Except.mapError_eq_ok_iff]
    exact ⟨_, hread, _, hfield, (), hverify, rfl⟩

/-- **Every answer of a resolver has its condition among the decisions.** -/
theorem decision_trusted (r : Resolver) (f : Fields) : Decision r f (r.trusted f) := by
  cases hs : r.servesUnsigned f with
  | true =>
    rw [trusted_of_servesUnsigned hs]
    exact .unsigned hs (SignedTexts.saidBy_none_iff.2 (servesUnsigned_eq_true_iff.1 hs).2)
  | false =>
    cases hk : r.key with
    | none =>
      simp only [trusted, hs, hk]
      exact .missingSecret hs hk
    | some key =>
      -- from here on the answer is that of the chain of readings and the check
      cases hout : r.trusted f with
      | ok s =>
        simp only [trusted, hs, hk, Option.isNone_some, Bool.false_eq_true, if_false,
          Except.bind_eq_ok_iff, Except.mapError_eq_ok_iff, Except.ok.injEq] at hout
        obtain ⟨_, hread, signature, hfield, _, hverify, rfl⟩ := hout
        obtain ⟨t, ht, rfl⟩ := Stated.read_eq_ok_iff.1 hread
        obtain ⟨_, text, hkey, rfl, htext⟩ := verify_eq_ok_iff.1 hverify
        cases hkey
        exact .verified hs ht ⟨key, text, hk, fieldText?_eq_ok_iff.1 hfield, htext⟩
      | error e =>
        simp only [trusted, hs, hk, Option.isNone_some, Bool.false_eq_true, if_false,
          Except.bind_eq_error_iff, Except.mapError_eq_error_iff, reduceCtorEq, and_false,
          exists_false, or_false] at hout
        rcases hout with hread | ⟨s, hread, hout⟩
        · obtain ⟨name, hfirst, rfl⟩ := Stated.read_eq_error hread
          exact .undecodable hs hk (hfirst.append _)
        obtain ⟨t, ht, rfl⟩ := Stated.read_eq_ok_iff.1 hread
        rcases hout with hfield | ⟨signature, hfield, hout⟩
        · obtain ⟨hu, rfl⟩ := fieldText?_eq_error_iff.1 hfield
          exact .undecodable hs hk (.behind ht.not_undecodable (.here hu))
        obtain ⟨cause, hverify, rfl⟩ := hout
        exact .refused hs hk ht (fieldText?_eq_ok_iff.1 hfield) (verify_eq_iff.1 hverify)

/-! ## From the decision to the answer -/

theorem fst_resolve (r : Resolver) (f : Fields) :
    (r.resolve f).1 = (r.trusted f).map fun s => s.context r.defaultBaseUri :=
  rfl

theorem resolve_eq_ok_iff_trusted {ctx : Context} :
    (r.resolve f).1 = .ok ctx ↔
      ∃ s, r.trusted f = .ok s ∧ s.context r.defaultBaseUri = ctx := by
  rw [fst_resolve, Except.map_eq_ok_iff]

theorem resolve_eq_error_iff_trusted {e : ResolveError} :
    (r.resolve f).1 = .error e ↔ r.trusted f = .error e := by
  rw [fst_resolve, Except.map_eq_error_iff]

/-- A resolution that fails reports nothing. -/
theorem resolve_of_error {e : ResolveError} (h : (r.resolve f).1 = .error e) :
    r.resolve f = (.error e, []) := by
  have htrusted := resolve_eq_error_iff_trusted.1 h
  rw [← h, resolve, htrusted]

/-- An error has the status 500 if the key is missing, and else 403. -/
theorem status_of_resolve_eq_error {e : ResolveError} (h : (r.resolve f).1 = .error e) :
    e.status = if r.key.isNone then 500 else 403 := by
  have hd := decision_trusted r f
  rw [resolve_eq_error_iff_trusted.1 h] at hd
  cases hd with
  | missingSecret _ hk => rw [hk]; rfl
  | undecodable _ hk _ => rw [hk]; rfl
  | refused _ hk _ _ hverdict =>
    rw [hk]
    cases hverdict with
    | missingSecret hn => cases hn
    | missingSignature _ => rfl
    | illegalBase64 _ _ => rfl
    | mismatch _ _ _ => rfl

/-- Resolvers with one default that trust requests alike answer and report them alike. -/
theorem resolve_congr {a b : Resolver} {f g : Fields} (hd : a.defaultText = b.defaultText)
    (ht : a.trusted f = b.trusted g) : a.resolve f = b.resolve g := by
  have hu : a.defaultBaseUri = b.defaultBaseUri := by
    unfold defaultBaseUri
    rw [hd]
  unfold resolve resolution successEvent
  rw [ht, hu]

/-! ## Requests -/

theorem fst_resolveRequest (r : Resolver) (head : RequestHead) :
    (r.resolveRequest head).1 = (r.resolve head.fields).1 := by
  unfold resolveRequest
  split
  · next e reports h => rw [h]
  · rfl

/-- A rejected request is reported once. -/
theorem resolveRequest_of_error {head : RequestHead} {e : ResolveError}
    (h : (r.resolve head.fields).1 = .error e) :
    r.resolveRequest head = (.error e, [r.rejection head e]) := by
  rw [resolveRequest, resolve_of_error h]
  rfl

/-- An accepted request is reported as the resolution is. -/
theorem resolveRequest_of_ok {head : RequestHead} {ctx : Context}
    (h : (r.resolve head.fields).1 = .ok ctx) :
    r.resolveRequest head = (.ok ctx, (r.resolve head.fields).2) := by
  unfold resolveRequest
  cases hresolve : r.resolve head.fields with
  | mk outcome reports =>
    rw [hresolve] at h
    cases h
    rfl

end Resolver

end TenantGate

import TenantGate.Proofs.Acceptance

/-!
# The switch for unsigned defaults is conservative

The switch lets a resolver serve requests without a signature, and `unsignedDefaults_conservative`
says how little that is: it changes the answer only where no signed field has a value, and the
answer then is the context of the defaults, which is also what a valid signature would have given.
The signature field itself is not looked at. The defaults are spelled out (`defaults`,
`read_defaults`). Behind the theorem stands that an answer depends on the switch through
`servesUnsigned` alone (`trusted_congr`).
-/

set_option autoImplicit false

namespace TenantGate

open TenantGate.Http TenantGate.Text TenantGate.Forwarding

namespace Resolver

variable {r : Resolver} {f : Fields}

/-- The context of a request that states nothing: the tenant `0`, the default base URI unless it is
empty, and the default as the base URI of the initiator. -/
def defaults (r : Resolver) : Context where
  tenantId := some "0"
  systemBaseUri := if r.defaultText = "" then none else some r.defaultText
  initiatorSystemBaseUri := some r.defaultText

theorem context_none : SignedTexts.none.stated.context r.defaultBaseUri = r.defaults := by
  rw [defaultBaseUri_eq, defaults]
  -- the initiator has the default itself, which an empty one is as well
  by_cases hempty : r.defaultText = ""
  · rw [if_pos hempty, hempty]
    rfl
  · rw [if_neg hempty]
    rfl

/-- The defaults read the tenant `0`, the default base URI or that there is none, and the default as
it is, also where it is empty. -/
theorem read_defaults (r : Resolver) :
    r.defaults.read .tenantId = .ok "0" ∧
      r.defaults.read .systemBaseUri =
        (if r.defaultText = "" then .error (.notPresent .systemBaseUri)
          else .ok r.defaultText) ∧
      r.defaults.read .initiatorSystemBaseUri = .ok r.defaultText := by
  refine ⟨rfl, ?_, rfl⟩
  split
  · next hempty => exact Context.read_eq_error_iff.2 (if_pos hempty)
  · next hdefault => exact Context.read_eq_ok_iff.2 (if_neg hdefault)

/-! ## What an answer depends on -/

/-- Resolvers with one key that serve a request alike trust it alike. -/
theorem trusted_congr {a b : Resolver} (hk : a.key = b.key)
    (hs : a.servesUnsigned f = b.servesUnsigned f) : a.trusted f = b.trusted f := by
  unfold trusted
  rw [hk, hs]

/-! ## The switch -/

theorem resolve_of_servesUnsigned (hs : r.servesUnsigned f = true) :
    (r.resolve f).1 = .ok r.defaults := by
  rw [fst_resolve, trusted_of_servesUnsigned hs]
  exact congrArg Except.ok context_none

/-- What a resolver trusts without the switch it trusts with the switch. -/
theorem trusted_mono {s : Stated} (h : (r.withUnsignedDefaults false).trusted f = .ok s) :
    (r.withUnsignedDefaults true).trusted f = .ok s := by
  obtain ⟨t, ht, hs, ⟨hallow, -⟩ | hv⟩ := trusted_eq_ok_iff.1 h
  -- the switch is off, so the signature was verified, and the switch does not matter to it
  · cases hallow
  · exact trusted_eq_ok_iff.2 ⟨t, ht, hs, Or.inr hv⟩

/-- A resolver without a key trusts only what the switch serves. -/
theorem servesUnsigned_of_trusted {s : Stated} (hk : r.key = none) (h : r.trusted f = .ok s) :
    r.servesUnsigned f = true := by
  have hd := decision_trusted r f
  rw [h] at hd
  cases hd with
  | unsigned hs _ => exact hs
  | verified _ _ hv =>
    obtain ⟨key, -, hkey, -⟩ := hv
    rw [hk] at hkey
    cases hkey

/-- **The switch for unsigned defaults is conservative.** Where a signed field has a value, even one
that is no text or names no host, the switch changes neither answer nor report. Elsewhere it makes
the answer the defaults, whatever the key and the signature field. So whatever is accepted without
the switch is accepted with it and with the same context, and a resolver without a key accepts
nothing but the defaults. These read the tenant `0`, the default base URI unless it is empty, and as
the base URI of the initiator the default as it is. -/
theorem unsignedDefaults_conservative (r : Resolver) (f : Fields) :
    (StatesSigned f →
        (r.withUnsignedDefaults true).resolve f = (r.withUnsignedDefaults false).resolve f) ∧
      (¬ StatesSigned f → ((r.withUnsignedDefaults true).resolve f).1 = .ok r.defaults) ∧
      (∀ ctx, ((r.withUnsignedDefaults false).resolve f).1 = .ok ctx →
        ((r.withUnsignedDefaults true).resolve f).1 = .ok ctx) ∧
      (r.key = none → ∀ ctx, (r.resolve f).1 = .ok ctx →
        r.allowUnsignedDefaults = true ∧ ¬ StatesSigned f ∧ ctx = r.defaults) ∧
      r.defaults.read .tenantId = .ok "0" ∧
      r.defaults.read .systemBaseUri =
        (if r.defaultText = "" then .error (.notPresent .systemBaseUri)
          else .ok r.defaultText) ∧
      r.defaults.read .initiatorSystemBaseUri = .ok r.defaultText := by
  refine ⟨?_, ?_, ?_, ?_, read_defaults r⟩
  · intro h
    -- neither resolver serves the request unsigned, and nothing else tells them apart
    refine resolve_congr rfl (trusted_congr rfl ?_)
    rw [servesUnsigned_eq_false_iff.2 fun _ => h, servesUnsigned_eq_false_iff.2 fun _ => h]
  · intro h
    exact resolve_of_servesUnsigned (servesUnsigned_eq_true_iff.2 ⟨rfl, not_statesSigned_iff.1 h⟩)
  · intro ctx h
    obtain ⟨s, hs, hctx⟩ := resolve_eq_ok_iff_trusted.1 h
    exact resolve_eq_ok_iff_trusted.2 ⟨s, trusted_mono hs, hctx⟩
  · intro hk ctx h
    obtain ⟨s, hs, -⟩ := resolve_eq_ok_iff_trusted.1 h
    have hserved := servesUnsigned_of_trusted hk hs
    obtain ⟨hallow, hnone⟩ := servesUnsigned_eq_true_iff.1 hserved
    rw [resolve_of_servesUnsigned hserved] at h
    exact ⟨hallow, not_statesSigned_iff.2 hnone, (Except.ok.inj h).symm⟩

/-- A request whose only gateway field is a signature that is no text. -/
def straySignature : Fields := ⟨[(GatewayField.signature, [0xFF])]⟩

/-- A request whose tenant is no text. -/
def strayTenant : Fields := ⟨[(GatewayField.tenantId, [0x74, 0xE9])]⟩

/-- A resolver with a default base URI and without a key. -/
def keyless : Resolver := new "https://main.example.com" none

/-- The switch serves a stray signature, with the default base URI or none, but no stray tenant. -/
theorem unsignedDefaults_conservative_stray :
    ((keyless.withUnsignedDefaults true).resolve straySignature).1 =
        .ok ⟨some "0", some "https://main.example.com", some "https://main.example.com"⟩ ∧
      (((new "" none).withUnsignedDefaults true).resolve straySignature).1 =
        .ok ⟨some "0", none, some ""⟩ ∧
      (keyless.withUnsignedDefaults true).resolve strayTenant =
        (keyless.withUnsignedDefaults false).resolve strayTenant ∧
      keyless.defaults.read .systemBaseUri = .ok "https://main.example.com" ∧
      (new "" none).defaults.read .systemBaseUri = .error (.notPresent .systemBaseUri) := by
  have hs : ¬ StatesSigned straySignature := by
    rw [not_statesSigned_iff]
    decide
  have ht : StatesSigned strayTenant := ⟨GatewayField.tenantId, by decide, _, rfl, by decide⟩
  obtain ⟨hsame, -, -, -, -, hdefault, -⟩ := unsignedDefaults_conservative keyless strayTenant
  obtain ⟨-, hserved, -⟩ := unsignedDefaults_conservative keyless straySignature
  obtain ⟨-, hempty, -, -, -, hnone, -⟩ := unsignedDefaults_conservative (new "" none) straySignature
  exact ⟨hserved hs, hempty hs, hsame ht, hdefault, hnone⟩

end Resolver

end TenantGate

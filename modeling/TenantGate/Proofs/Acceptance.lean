import TenantGate.Proofs.Decision

/-!
# Which requests a resolver accepts, and with which context

`Context.FollowsFrom` says what a resolved context reads: the stated tenant or `0`, the stated base
URI or the default, and the initiator's base URI from the header that supplied the host. The main
theorem, `Resolver.resolve_eq_ok_iff`, says that a resolver accepts a request exactly if the switch
serves it or its signature is the one of its message, and that the context then follows from the
texts of the request and from the default base URI, where an empty default is none
(`Resolver.defaultBaseUri_eq`).
-/

set_option autoImplicit false

namespace TenantGate

open TenantGate.Http TenantGate.Text TenantGate.Forwarding

/-! ## What a resolved context reads -/

namespace Context

/-- The context reads what follows from the texts of a request, the header that supplied the host
and the default base URI. -/
structure FollowsFrom (ctx : Context) (t : SignedTexts) (found : Option Found)
    (fallback : Option String) : Prop where
  tenantId : ctx.read .tenantId = .ok (t.tenantId.getD "0")
  systemBaseUri :
    ctx.read .systemBaseUri =
      match t.systemBaseUri.or fallback with
      | some uri => .ok uri
      | none => .error (.notPresent .systemBaseUri)
  initiatorSystemBaseUri :
    ctx.read .initiatorSystemBaseUri =
      .ok (match found with
        | some found => "https://" ++ found.host
        | none => (t.systemBaseUri.or fallback).getD "")

/-- The context of a resolver follows from the texts. -/
theorem followsFrom_context (t : SignedTexts) (fallback : Option String) :
    (t.stated.context fallback).FollowsFrom t (choose t.forwarded t.xForwardedHost) fallback where
  tenantId := rfl
  systemBaseUri := by
    cases hu : t.systemBaseUri.or fallback with
    | none => simp [read, get?, Stated.context, Stated.baseUri, SignedTexts.stated, hu]
    | some uri => simp [read, get?, Stated.context, Stated.baseUri, SignedTexts.stated, hu]
  initiatorSystemBaseUri := by
    cases hf : choose t.forwarded t.xForwardedHost with
    | none => simp [read, get?, Stated.context, Stated.baseUri, SignedTexts.stated, hf]
    | some found =>
      simp [read, get?, Stated.context, SignedTexts.stated, hf, Found.initiatorUri, initiatorScheme]

/-- The readings leave no choice. -/
theorem FollowsFrom.unique {a b : Context} {t : SignedTexts} {found : Option Found}
    {fallback : Option String} (ha : a.FollowsFrom t found fallback)
    (hb : b.FollowsFrom t found fallback) : a = b := by
  refine ext_read fun key => ?_
  cases key with
  | tenantId => rw [ha.tenantId, hb.tenantId]
  | systemBaseUri => rw [ha.systemBaseUri, hb.systemBaseUri]
  | initiatorSystemBaseUri => rw [ha.initiatorSystemBaseUri, hb.initiatorSystemBaseUri]

theorem followsFrom_iff {ctx : Context} {t : SignedTexts} {fallback : Option String} :
    ctx.FollowsFrom t (choose t.forwarded t.xForwardedHost) fallback ↔
      t.stated.context fallback = ctx := by
  constructor
  · intro h
    exact (followsFrom_context t fallback).unique h
  · rintro rfl
    exact followsFrom_context t fallback

end Context

/-! ## Acceptance -/

namespace Resolver

/-- A default base URI that is empty is none. -/
theorem defaultBaseUri_eq (r : Resolver) :
    r.defaultBaseUri = if r.defaultText = "" then none else some r.defaultText := by
  simp only [defaultBaseUri, String.isEmpty_iff]

/-- A resolver accepts texts that the switch serves or the signature covers. -/
theorem trusted_eq_ok_iff {r : Resolver} {f : Fields} {s : Stated} :
    r.trusted f = .ok s ↔
      ∃ t : SignedTexts, t.SaidBy f ∧ t.stated = s ∧
        ((r.allowUnsignedDefaults = true ∧ t = .none) ∨
          r.Verifies f (t.message (choose t.forwarded t.xForwardedHost))) := by
  constructor
  · intro h
    have hd := decision_trusted r f
    rw [h] at hd
    cases hd with
    | unsigned hs ht =>
      obtain ⟨hallow, -⟩ := servesUnsigned_eq_true_iff.1 hs
      exact ⟨.none, ht, rfl, Or.inl ⟨hallow, rfl⟩⟩
    | verified _ ht hv =>
      rw [SignedTexts.message_stated] at hv
      exact ⟨_, ht, rfl, Or.inr hv⟩
  · rintro ⟨t, ht, rfl, ⟨hallow, rfl⟩ | hv⟩
    · exact trusted_of_servesUnsigned
        (servesUnsigned_eq_true_iff.2 ⟨hallow, SignedTexts.saidBy_none_iff.1 ht⟩)
    · rw [← SignedTexts.message_stated] at hv
      exact trusted_of_signature ht hv

/-- **Exact acceptance and exact result.** A resolver accepts a request exactly if every signed field
is absent, empty or a text, and either unsigned defaults are allowed and no signed field says
anything, or the signature is, up to blanks around it, the base64 of the authentication code of the
message under the configured key. The context then reads what the texts say, and in place of a base
URI that they do not state the default, if this is not empty. -/
theorem resolve_eq_ok_iff (r : Resolver) (f : Fields) (ctx : Context) :
    (r.resolve f).1 = .ok ctx ↔
      ∃ (t : SignedTexts) (found : Option Found),
        t.SaidBy f ∧ Chooses t.forwarded t.xForwardedHost found ∧
          ((r.allowUnsignedDefaults = true ∧ t = .none) ∨ r.Verifies f (t.message found)) ∧
          ctx.FollowsFrom t found (if r.defaultText = "" then none else some r.defaultText) := by
  rw [resolve_eq_ok_iff_trusted, defaultBaseUri_eq]
  constructor
  · rintro ⟨s, hs, rfl⟩
    obtain ⟨t, ht, rfl, hok⟩ := trusted_eq_ok_iff.1 hs
    exact ⟨t, _, ht, chooses_choose _ _, hok, Context.followsFrom_context t _⟩
  · rintro ⟨t, found, ht, hfound, hok, hctx⟩
    -- the host is the chosen one, so the message is the one that was verified
    obtain rfl := choose_eq_iff.2 hfound
    exact ⟨t.stated, trusted_eq_ok_iff.2 ⟨t, ht, rfl, hok⟩, Context.followsFrom_iff.1 hctx⟩

end Resolver

end TenantGate

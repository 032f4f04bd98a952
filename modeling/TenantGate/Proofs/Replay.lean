import TenantGate.Proofs.Acceptance

/-!
# What one signature binds

A gateway signs its fields one behind the other with nothing in between, and it signs the header
that supplied the host without saying which one that is. So the message under a signature binds the
context only together with the cuts between the fields and the source of the host
(`context_of_message_of_cuts`), and a signature of one request is also one of every other request
with that message (`AcceptsSigned.replay`). `message_does_not_bind` has three pairs of requests with
one message and different contexts: the first two move a cut, the third moves the header.
-/

set_option autoImplicit false

namespace TenantGate

open TenantGate.Http TenantGate.Text TenantGate.Forwarding

/-! ## Equal parts of equal messages -/

/-- The fields are cut at the same places, and two hosts come from the same header. -/
structure Stated.SameCuts (a b : Stated) : Prop where
  systemBaseUri :
    (octets a.signed.systemBaseUri).length = (octets b.signed.systemBaseUri).length
  tenantId : (octets a.signed.tenantId).length = (octets b.signed.tenantId).length
  source : ∀ found ∈ a.host, ∀ found' ∈ b.host, found.source = found'.source

/-- Messages that are cut at the same places have the same parts. -/
theorem SignedFields.eq_of_message {a b : SignedFields} (hm : octets a.message = octets b.message)
    (hb : (octets a.systemBaseUri).length = (octets b.systemBaseUri).length)
    (ht : (octets a.tenantId).length = (octets b.tenantId).length) : a = b := by
  -- split off the base URI, then the tenant; what is left is the forwarding header
  simp only [SignedFields.message, octets_append, List.append_assoc] at hm
  obtain ⟨hbase, hrest⟩ := List.append_inj hm hb
  obtain ⟨htenant, hforwarded⟩ := List.append_inj hrest ht
  cases a
  cases b
  simp only [octets_inj] at hbase htenant hforwarded
  rw [hbase, htenant, hforwarded]

/-- Texts that are absent where they are empty are told apart by their contribution to a message. -/
theorem eq_of_getD_eq {a b : Option String} (ha : a ≠ some "") (hb : b ≠ some "")
    (h : a.getD "" = b.getD "") : a = b := by
  cases a with
  | none =>
    cases b with
    | none => rfl
    | some t => exact absurd (congrArg some h.symm) hb
  | some s =>
    cases b with
    | none => exact absurd (congrArg some h) ha
    | some t => exact congrArg some h

/-- No text is empty; an empty one is absent. -/
structure SignedTexts.NoneEmpty (t : SignedTexts) : Prop where
  systemBaseUri : t.systemBaseUri ≠ some ""
  tenantId : t.tenantId ≠ some ""
  forwarded : t.forwarded ≠ some ""
  xForwardedHost : t.xForwardedHost ≠ some ""

instance (t : SignedTexts) : Decidable t.NoneEmpty :=
  decidable_of_iff
    (t.systemBaseUri ≠ some "" ∧ t.tenantId ≠ some "" ∧ t.forwarded ≠ some "" ∧
      t.xForwardedHost ≠ some "")
    ⟨fun ⟨hb, ht, hf, hx⟩ => ⟨hb, ht, hf, hx⟩, fun ⟨hb, ht, hf, hx⟩ => ⟨hb, ht, hf, hx⟩⟩

theorem ne_some_empty_of_value? {f : Fields} {name : String} {t : Option String}
    (h : f.value? name = t.map octets) : t ≠ some "" := by
  rintro rfl
  exact value?_ne_empty h

theorem SignedTexts.SaidBy.noneEmpty {t : SignedTexts} {f : Fields} (h : t.SaidBy f) :
    t.NoneEmpty :=
  ⟨ne_some_empty_of_value? h.systemBaseUri, ne_some_empty_of_value? h.tenantId,
    ne_some_empty_of_value? h.forwarded, ne_some_empty_of_value? h.xForwardedHost⟩

/-- Texts with one message and the same cuts are held alike. -/
theorem SignedTexts.stated_eq_of_message {t u : SignedTexts} (ht : t.NoneEmpty) (hu : u.NoneEmpty)
    (hm : octets t.stated.signed.message = octets u.stated.signed.message)
    (hc : t.stated.SameCuts u.stated) : t.stated = u.stated := by
  have hs := SignedFields.eq_of_message hm hc.systemBaseUri hc.tenantId
  have hb := eq_of_getD_eq ht.systemBaseUri hu.systemBaseUri (congrArg (·.systemBaseUri) hs)
  have hi := eq_of_getD_eq ht.tenantId hu.tenantId (congrArg (·.tenantId) hs)
  have htc := chooses_choose t.forwarded t.xForwardedHost
  have huc := chooses_choose u.forwarded u.xForwardedHost
  -- a header that supplied a host is not empty, so its contribution tells whether there is one
  have hr := eq_of_getD_eq (htc.raw_ne_empty ht.forwarded ht.xForwardedHost)
    (huc.raw_ne_empty hu.forwarded hu.xForwardedHost) (congrArg (·.forwarded) hs)
  have hhost := host_eq_of_raw htc huc hc.source hr
  unfold SignedTexts.stated
  rw [hb, hi, hhost]

/-! ## Acceptance through a signature -/

namespace Resolver

variable {r : Resolver}

/-- A resolver accepts a request through its signature: the switch does not serve it, its fields are
held as stated, and the answer is a context. -/
structure AcceptsSigned (r : Resolver) (f : Fields) (s : Stated) (ctx : Context) : Prop where
  not_unsigned : r.servesUnsigned f = false
  read : Stated.read f = .ok s
  accepted : (r.resolve f).1 = .ok ctx

namespace AcceptsSigned

variable {f : Fields} {s : Stated} {ctx : Context}

theorem said (h : r.AcceptsSigned f s ctx) : ∃ t : SignedTexts, t.SaidBy f ∧ t.stated = s :=
  Stated.read_eq_ok_iff.1 h.read

/-- The context is that of the fields that were read. -/
theorem context_eq (h : r.AcceptsSigned f s ctx) : s.context r.defaultBaseUri = ctx := by
  obtain ⟨s', hs', hctx⟩ := resolve_eq_ok_iff_trusted.1 h.accepted
  obtain ⟨t, ht, rfl, -⟩ := trusted_eq_ok_iff.1 hs'
  rw [← ht.stated_eq h.read]
  exact hctx

/-- The signature was verified. -/
theorem verifies (h : r.AcceptsSigned f s ctx) : r.Verifies f s.signed.message := by
  obtain ⟨s', hs', -⟩ := resolve_eq_ok_iff_trusted.1 h.accepted
  have hd := decision_trusted r f
  rw [hs'] at hd
  cases hd with
  | unsigned hs _ =>
    rw [h.not_unsigned] at hs
    cases hs
  | verified _ ht hv =>
    rw [← ht.stated_eq h.read]
    exact hv

end AcceptsSigned

/-- A verified request is accepted with the context of its fields. -/
theorem acceptsSigned_of_verifies {f : Fields} {s : Stated} (hs : r.servesUnsigned f = false)
    (hread : Stated.read f = .ok s) (hv : r.Verifies f s.signed.message) :
    r.AcceptsSigned f s (s.context r.defaultBaseUri) := by
  obtain ⟨t, ht, rfl⟩ := Stated.read_eq_ok_iff.1 hread
  exact ⟨hs, hread, resolve_eq_ok_iff_trusted.2 ⟨_, trusted_of_signature ht hv, rfl⟩⟩

/-- A signature is also one of every other request with the same message. -/
theorem AcceptsSigned.replay {f f' : Fields} {s s' : Stated} {ctx : Context}
    (h : r.AcceptsSigned f s ctx) (hs : r.servesUnsigned f' = false)
    (hread : Stated.read f' = .ok s')
    (hsig : f'.value? GatewayField.signature = f.value? GatewayField.signature)
    (hm : octets s'.signed.message = octets s.signed.message) :
    r.AcceptsSigned f' s' (s'.context r.defaultBaseUri) := by
  refine acceptsSigned_of_verifies hs hread ?_
  -- a signature is verified against the octets of the message and nothing else
  obtain ⟨key, signature, hk, hvalue, htext⟩ := h.verifies
  refine ⟨key, signature, hk, hsig.trans hvalue, ?_⟩
  rw [hm]
  exact htext

/-! ## Requests of a gateway -/

/-- The request in which a gateway states texts and signs their message; an absent text is empty. -/
def gatewayRequest (key : SigningKey) (t : SignedTexts) : Fields :=
  ⟨[(GatewayField.systemBaseUri, octets (t.systemBaseUri.getD "")),
    (GatewayField.tenantId, octets (t.tenantId.getD "")),
    (GatewayField.forwarded, octets (t.forwarded.getD "")),
    (GatewayField.xForwardedHost, octets (t.xForwardedHost.getD "")),
    (GatewayField.signature, octets (key.sign (octets t.stated.signed.message)))]⟩

theorem value?_of_first?_getD {f : Fields} {name : String} {t : Option String} (ht : t ≠ some "")
    (h : f.first? name = some (octets (t.getD ""))) : f.value? name = t.map octets := by
  cases t with
  | none => simp [Fields.value?, h, octets_empty]
  | some s =>
    refine Fields.value?_eq_some_iff.2 ⟨h, ?_⟩
    intro he
    exact ht (congrArg some (octets_eq_nil_iff.1 he))

theorem saidBy_gatewayRequest (key : SigningKey) {t : SignedTexts} (ht : t.NoneEmpty) :
    t.SaidBy (gatewayRequest key t) :=
  ⟨value?_of_first?_getD ht.systemBaseUri rfl, value?_of_first?_getD ht.tenantId rfl,
    value?_of_first?_getD ht.forwarded rfl, value?_of_first?_getD ht.xForwardedHost rfl⟩

theorem read_gatewayRequest (key : SigningKey) {t : SignedTexts} (ht : t.NoneEmpty) :
    Stated.read (gatewayRequest key t) = .ok t.stated :=
  Stated.read_eq_ok_iff.2 ⟨t, saidBy_gatewayRequest key ht, rfl⟩

theorem signature_gatewayRequest (key : SigningKey) (t : SignedTexts) :
    (gatewayRequest key t).value? GatewayField.signature =
      some (octets (key.sign (octets t.stated.signed.message))) := by
  refine Fields.value?_eq_some_iff.2 ⟨rfl, ?_⟩
  rw [Ne, octets_eq_nil_iff]
  exact key.sign_ne_empty _

/-- **What a gateway signs is accepted**, with the context of the texts. -/
theorem acceptsSigned_gatewayRequest {key : SigningKey} {t : SignedTexts} (hk : r.key = some key)
    (hoff : r.allowUnsignedDefaults = false) (ht : t.NoneEmpty) :
    r.AcceptsSigned (gatewayRequest key t) t.stated (t.stated.context r.defaultBaseUri) := by
  refine acceptsSigned_of_verifies (servesUnsigned_of_off hoff _) (read_gatewayRequest key ht) ?_
  exact ⟨key, key.sign _, hk, signature_gatewayRequest key t, key.trimmed_sign _⟩

/-! ## What a message binds -/

/-- **A message binds a context up to the cuts and the source of the host.** Requests that are
accepted through a signature of one message have one context if their fields are cut at the same
places and their hosts, where both have one, come from the same header. Nothing else is bound: a
request with the message and the signature of an accepted one is accepted, wherever it is cut. -/
theorem context_of_message_of_cuts (r : Resolver) (f₁ f₂ : Fields) (s₁ s₂ : Stated) (c₁ : Context)
    (h₁ : r.AcceptsSigned f₁ s₁ c₁)
    (hm : octets s₁.signed.message = octets s₂.signed.message) :
    (∀ c₂, r.AcceptsSigned f₂ s₂ c₂ → s₁.SameCuts s₂ → c₁ = c₂) ∧
      (r.servesUnsigned f₂ = false → Stated.read f₂ = .ok s₂ →
        f₂.value? GatewayField.signature = f₁.value? GatewayField.signature →
        r.AcceptsSigned f₂ s₂ (s₂.context r.defaultBaseUri)) := by
  constructor
  · intro c₂ h₂ hc
    -- both contexts follow from the fields as held, and these agree
    obtain ⟨t, ht, rfl⟩ := h₁.said
    obtain ⟨u, hu, rfl⟩ := h₂.said
    rw [← h₁.context_eq, ← h₂.context_eq,
      SignedTexts.stated_eq_of_message ht.noneEmpty hu.noneEmpty hm hc]
  · intro hs hread hsig
    exact h₁.replay hs hread hsig hm.symm

/-- A base URI and a tenant. -/
def baseAndTenant : SignedTexts := ⟨some "https://a.example.com", some "12", none, none⟩

/-- The same with a forwarding header that names no host, and so is not signed. -/
def withoutHost : SignedTexts := { baseAndTenant with forwarded := some "by=a" }

/-- The same message with the first digit of the tenant moved to the base URI. -/
def shifted : SignedTexts := ⟨some "https://a.example.com1", some "2", none, none⟩

/-- A header that names no host changes no context, and a request with another cut is accepted
through the same signature. -/
theorem context_of_message_of_cuts_baseAndTenant :
    baseAndTenant.stated.context none = withoutHost.stated.context none ∧
      (gatewayRequest .short shifted).value? GatewayField.signature =
        (gatewayRequest .short baseAndTenant).value? GatewayField.signature ∧
      (new "" (some .short)).AcceptsSigned (gatewayRequest .short shifted) shifted.stated
        ⟨some "2", some "https://a.example.com1", some "https://a.example.com1"⟩ := by
  have haccepted : ∀ t : SignedTexts, t.NoneEmpty →
      (new "" (some .short)).AcceptsSigned (gatewayRequest .short t) t.stated
        (t.stated.context none) := by
    intro t ht
    exact acceptsSigned_gatewayRequest rfl rfl ht
  have h₁ := haccepted baseAndTenant (by decide)
  have hsig : (gatewayRequest .short shifted).value? GatewayField.signature =
      (gatewayRequest .short baseAndTenant).value? GatewayField.signature := by
    rw [signature_gatewayRequest, signature_gatewayRequest,
      show shifted.stated.signed.message = baseAndTenant.stated.signed.message by decide]
  refine ⟨?_, hsig, ?_⟩
  · have hnone : baseAndTenant.stated.host = none := by decide
    have hcuts : baseAndTenant.stated.SameCuts withoutHost.stated := ⟨rfl, rfl, by simp [hnone]⟩
    exact (context_of_message_of_cuts _ _ _ _ _ _ h₁ (congrArg octets (by decide))).1 _
      (haccepted withoutHost (by decide)) hcuts
  · exact (context_of_message_of_cuts _ _ _ _ _ _ h₁ (congrArg octets (by decide))).2
      (servesUnsigned_of_off rfl _) (read_gatewayRequest .short (by decide)) hsig

/-! ## Messages that do not bind -/

/-- Accepted requests with one message have one context. -/
def MessageBinds (r : Resolver) (f₁ f₂ : Fields) : Prop :=
  ∀ s₁ s₂ c₁ c₂, r.AcceptsSigned f₁ s₁ c₁ → r.AcceptsSigned f₂ s₂ c₂ →
    octets s₁.signed.message = octets s₂.signed.message → c₁ = c₂

/-- Texts with one message and different contexts refute that the message binds. -/
theorem not_messageBinds {key : SigningKey} {t u : SignedTexts} (hk : r.key = some key)
    (hoff : r.allowUnsignedDefaults = false) (ht : t.NoneEmpty) (hu : u.NoneEmpty)
    (hm : t.stated.signed.message = u.stated.signed.message)
    (hc : t.stated.context r.defaultBaseUri ≠ u.stated.context r.defaultBaseUri) :
    ¬ r.MessageBinds (gatewayRequest key t) (gatewayRequest key u) := by
  intro h
  exact hc (h _ _ _ _ (acceptsSigned_gatewayRequest hk hoff ht)
    (acceptsSigned_gatewayRequest hk hoff hu) (congrArg octets hm))

/-- **A message does not bind by itself.** One message is cut between base URI and tenant in two
ways, one between tenant and forwarding header, and one is that of either forwarding header. -/
theorem message_does_not_bind :
    ¬ (new "" (some .short)).MessageBinds (gatewayRequest .short baseAndTenant)
        (gatewayRequest .short shifted) ∧
      ¬ (new "" (some .short)).MessageBinds
        (gatewayRequest .short ⟨none, some "t", some ";host=a", none⟩)
        (gatewayRequest .short ⟨none, some "t;", some "host=a", none⟩) ∧
      ¬ (new "" (some .short)).MessageBinds
        (gatewayRequest .short ⟨none, some "t", some "host=a", none⟩)
        (gatewayRequest .short ⟨none, some "t", none, some "host=a"⟩) := by
  refine ⟨?_, ?_, ?_⟩
  · exact not_messageBinds rfl rfl (by decide) (by decide) (by decide) (by decide)
  · exact not_messageBinds rfl rfl (by decide) (by decide) (by decide) (by decide)
  · exact not_messageBinds rfl rfl (by decide) (by decide) (by decide) (by decide)

end Resolver

end TenantGate

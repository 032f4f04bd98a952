import Mathlib.Logic.Relation
import TenantGate.Proofs.Decision
import TenantGate.Proofs.Received

/-!
# What a resolver depends on

A resolver looks at the first values of the five gateway fields and at nothing else of a request
(`resolve_congr_of_values`). With the switch off it depends on even less: on the base URI, the
tenant and the signature as stated, and on the header that supplied the host. `Edit` lists changes of
a request that keep these, and `unsigned_data_has_no_influence` says that no run of such changes,
made or taken back, changes the answer or the report.
-/

set_option autoImplicit false

namespace TenantGate

open TenantGate.Http TenantGate.Text TenantGate.Forwarding

/-! ## Fields with the same values -/

theorem hasValue_congr {f g : Fields} {name : String} (h : f.value? name = g.value? name) :
    hasValue f name = hasValue g name := by
  cases hf : hasValue f name with
  | false =>
    rw [hasValue_eq_false_iff, h, ← hasValue_eq_false_iff] at hf
    exact hf.symm
  | true =>
    cases hg : hasValue g name with
    | false =>
      rw [hasValue_eq_false_iff, ← h, ← hasValue_eq_false_iff, hf] at hg
      cases hg
    | true => rfl

theorem fieldText?_congr {f g : Fields} {name : String} (h : f.value? name = g.value? name) :
    fieldText? f name = fieldText? g name := by
  rcases value?_cases f name with hv | ⟨s, hv⟩ | hu
  · rw [fieldText?_of_none hv, fieldText?_of_none (h ▸ hv)]
  · rw [fieldText?_of_text hv, fieldText?_of_text (h ▸ hv)]
  · have hu' : Undecodable g name := by
      obtain ⟨bs, hv, ht⟩ := hu
      exact ⟨bs, h ▸ hv, ht⟩
    rw [fieldText?_of_undecodable hu, fieldText?_of_undecodable hu']

/-- The first values of the gateway fields are the same. -/
def SameValues (f g : Fields) : Prop := ∀ name ∈ GatewayField.all, f.value? name = g.value? name

theorem SameValues.read_eq {f g : Fields} (h : SameValues f g) : Stated.read f = Stated.read g := by
  unfold Stated.read
  rw [fieldText?_congr (h GatewayField.systemBaseUri (by decide)),
    fieldText?_congr (h GatewayField.tenantId (by decide)),
    fieldText?_congr (h GatewayField.forwarded (by decide)),
    fieldText?_congr (h GatewayField.xForwardedHost (by decide))]

namespace Resolver

variable {r : Resolver}

theorem servesUnsigned_congr (r : Resolver) {f g : Fields} (h : SameValues f g) :
    r.servesUnsigned f = r.servesUnsigned g := by
  have hany : GatewayField.signed.any (hasValue f) = GatewayField.signed.any (hasValue g) := by
    rw [Bool.eq_iff_iff, List.any_eq_true, List.any_eq_true]
    refine exists_congr fun name => and_congr_right fun hn => ?_
    rw [hasValue_congr (h name (List.mem_append_left _ hn))]
  rw [servesUnsigned, servesUnsigned, hany]

/-- **A resolver looks at the first values of the gateway fields and at nothing else.** -/
theorem resolve_congr_of_values (r : Resolver) {f g : Fields} (h : SameValues f g) :
    r.resolve f = r.resolve g := by
  refine resolve_congr rfl ?_
  unfold trusted
  rw [servesUnsigned_congr r h, h.read_eq, fieldText?_congr (h GatewayField.signature (by decide))]

end Resolver

/-! ## Texts that are signed alike -/

namespace SignedTexts

/-- What of the forwarding headers is signed, and which of them it is. -/
def supply (t : SignedTexts) : Option (Source × String) :=
  (choose t.forwarded t.xForwardedHost).map Found.supply

/-- Texts with the same base URI, tenant and supply of the host. -/
structure SignedAlike (t u : SignedTexts) : Prop where
  systemBaseUri : t.systemBaseUri = u.systemBaseUri
  tenantId : t.tenantId = u.tenantId
  supply : t.supply = u.supply

theorem SignedAlike.stated_eq {t u : SignedTexts} (h : t.SignedAlike u) : t.stated = u.stated := by
  rw [stated, stated, h.systemBaseUri, h.tenantId, choose_eq_of_supply h.supply]

end SignedTexts

/-- Requests that state the same under the same signature are answered and reported alike. -/
theorem Resolver.resolve_eq_of_signedAlike {r : Resolver} (hoff : r.allowUnsignedDefaults = false)
    {f g : Fields} {t u : SignedTexts} (ht : t.SaidBy f) (hu : u.SaidBy g) (h : t.SignedAlike u)
    (hsig : f.value? GatewayField.signature = g.value? GatewayField.signature) :
    r.resolve f = r.resolve g := by
  have hread : Stated.read f = Stated.read g := by
    rw [Stated.read_eq_ok_iff.2 ⟨t, ht, rfl⟩, Stated.read_eq_ok_iff.2 ⟨u, hu, rfl⟩, h.stated_eq]
  refine resolve_congr rfl ?_
  unfold trusted
  rw [servesUnsigned_of_off hoff, servesUnsigned_of_off hoff, hread, fieldText?_congr hsig]

/-! ## Edits of a request -/

/-- Header lines as they are received, with the fields that they make and the texts that the signed
ones of these say. -/
structure Delivery where
  lines : List (List UInt8 × List UInt8)
  fields : Fields
  texts : SignedTexts
  receiveAll_lines : Fields.receiveAll lines = .ok fields
  saidBy : texts.SaidBy fields

/-- A change of a request that keeps what a signature covers. -/
inductive Edit (a b : Delivery) : Prop where
  /-- A line of a name that no gateway field has. -/
  | foreign {front back : List (List UInt8 × List UInt8)} {line : List UInt8 × List UInt8} :
      (∀ name ∈ GatewayField.all, Fields.name? line.1 ≠ some name) →
      a.lines = front ++ back → b.lines = front ++ line :: back → Edit a b
  /-- One more value of a name that is there. -/
  | further {front back : List (List UInt8 × List UInt8)} {line : List UInt8 × List UInt8} :
      (∃ earlier ∈ front, Fields.name? earlier.1 = Fields.name? line.1) →
      a.lines = front ++ back → b.lines = front ++ line :: back → Edit a b
  /-- A name in other letter case. -/
  | respelled {front back : List (List UInt8 × List UInt8)}
      {spelling spelling' value : List UInt8} :
      spelling.map Fields.lowerOctet = spelling'.map Fields.lowerOctet →
      a.lines = front ++ (spelling, value) :: back →
      b.lines = front ++ (spelling', value) :: back → Edit a b
  /-- Any change of `X-Forwarded-Host`, while `Forwarded` names a host. -/
  | listed :
      ¬ NamesNone forwardedHost? a.texts.forwarded →
      Fields.others GatewayField.xForwardedHost a.lines =
        Fields.others GatewayField.xForwardedHost b.lines → Edit a b
  /-- Any change of `Forwarded`, as long as it names no host before and after. -/
  | hostless :
      NamesNone forwardedHost? a.texts.forwarded → NamesNone forwardedHost? b.texts.forwarded →
      Fields.others GatewayField.forwarded a.lines = Fields.others GatewayField.forwarded b.lines →
      Edit a b

/-- What both a signature covers and the signature itself are the same. -/
structure Delivery.Alike (a b : Delivery) : Prop where
  texts : a.texts.SignedAlike b.texts
  signature : a.fields.value? GatewayField.signature = b.fields.value? GatewayField.signature

namespace Delivery

variable {a b : Delivery}

/-- A value is known from the first line of its name. -/
theorem value?_eq_of_firstLine? {name : String}
    (h : Fields.firstLine? a.lines name = Fields.firstLine? b.lines name) :
    a.fields.value? name = b.fields.value? name := by
  rw [Fields.value?, Fields.value?, Fields.first?_of_receiveAll a.receiveAll_lines,
    Fields.first?_of_receiveAll b.receiveAll_lines, h]

theorem text_eq {name : String} {s t : Option String} (hs : a.fields.value? name = s.map octets)
    (ht : b.fields.value? name = t.map octets)
    (h : Fields.firstLine? a.lines name = Fields.firstLine? b.lines name) : s = t := by
  rw [← map_octets_inj, ← hs, ← ht]
  exact value?_eq_of_firstLine? h

/-- Requests with the same first lines, the forwarding headers apart, are alike if these supply the
same host. -/
theorem alike_of_firstLine?
    (hbase : Fields.firstLine? a.lines GatewayField.systemBaseUri =
      Fields.firstLine? b.lines GatewayField.systemBaseUri)
    (htenant : Fields.firstLine? a.lines GatewayField.tenantId =
      Fields.firstLine? b.lines GatewayField.tenantId)
    (hsig : Fields.firstLine? a.lines GatewayField.signature =
      Fields.firstLine? b.lines GatewayField.signature)
    (hsupply : choose a.texts.forwarded a.texts.xForwardedHost =
      choose b.texts.forwarded b.texts.xForwardedHost) : a.Alike b where
  texts :=
    { systemBaseUri := text_eq a.saidBy.systemBaseUri b.saidBy.systemBaseUri hbase
      tenantId := text_eq a.saidBy.tenantId b.saidBy.tenantId htenant
      supply := by rw [SignedTexts.supply, SignedTexts.supply, hsupply] }
  signature := value?_eq_of_firstLine? hsig

/-- Requests with the same first lines of all gateway fields are alike. -/
theorem alike_of_firstLines
    (h : ∀ name ∈ GatewayField.all,
      Fields.firstLine? a.lines name = Fields.firstLine? b.lines name) : a.Alike b := by
  have hforwarded := text_eq a.saidBy.forwarded b.saidBy.forwarded
    (h GatewayField.forwarded (by decide))
  have hlisted := text_eq a.saidBy.xForwardedHost b.saidBy.xForwardedHost
    (h GatewayField.xForwardedHost (by decide))
  refine alike_of_firstLine? (h GatewayField.systemBaseUri (by decide))
    (h GatewayField.tenantId (by decide)) (h GatewayField.signature (by decide)) ?_
  rw [hforwarded, hlisted]

/-- **An edit keeps what a signature covers.** -/
theorem alike_of_edit (h : Edit a b) : a.Alike b := by
  cases h with
  | foreign hname ha hb =>
    refine alike_of_firstLines fun name hn => ?_
    rw [ha, hb, Fields.firstLine?_insert_of_ne (hname name hn)]
  | further hname ha hb =>
    refine alike_of_firstLines fun name _ => ?_
    rw [ha, hb, Fields.firstLine?_insert_of_mem hname]
  | respelled hcase ha hb =>
    refine alike_of_firstLines fun name _ => ?_
    rw [ha, hb, Fields.firstLine?_respell (Fields.name?_eq_of_lowerOctet hcase)]
  | listed hhost hothers =>
    have hfirst : ∀ name, name ≠ GatewayField.xForwardedHost →
        Fields.firstLine? a.lines name = Fields.firstLine? b.lines name := by
      intro name hn
      exact Fields.firstLine?_of_others hn hothers
    have hforwarded := text_eq a.saidBy.forwarded b.saidBy.forwarded (hfirst _ (by decide))
    refine alike_of_firstLine? (hfirst _ (by decide)) (hfirst _ (by decide))
      (hfirst _ (by decide)) ?_
    rw [← hforwarded]
    exact choose_eq_of_not_namesNone hhost _ _
  | hostless ha hb hothers =>
    have hfirst : ∀ name, name ≠ GatewayField.forwarded →
        Fields.firstLine? a.lines name = Fields.firstLine? b.lines name := by
      intro name hn
      exact Fields.firstLine?_of_others hn hothers
    have hlisted := text_eq a.saidBy.xForwardedHost b.saidBy.xForwardedHost (hfirst _ (by decide))
    refine alike_of_firstLine? (hfirst _ (by decide)) (hfirst _ (by decide))
      (hfirst _ (by decide)) ?_
    rw [← hlisted]
    exact choose_eq_of_namesNone ha hb _

end Delivery

namespace Resolver

/-- An edit changes neither answer nor report. -/
theorem resolve_eq_of_edit {r : Resolver} (hoff : r.allowUnsignedDefaults = false) {a b : Delivery}
    (h : Edit a b) : r.resolve a.fields = r.resolve b.fields := by
  have halike := Delivery.alike_of_edit h
  exact resolve_eq_of_signedAlike hoff a.saidBy b.saidBy halike.texts halike.signature

/-- Neither does a run of edits, each of them made or taken back. -/
theorem resolve_eq_of_edits {r : Resolver} (hoff : r.allowUnsignedDefaults = false) {a b : Delivery}
    (h : Relation.EqvGen Edit a b) : r.resolve a.fields = r.resolve b.fields := by
  induction h with
  | rel _ _ hedit => exact resolve_eq_of_edit hoff hedit
  | refl _ => rfl
  | symm _ _ _ ih => exact ih.symm
  | trans _ _ _ _ _ ih ih' => exact ih.trans ih'

/-- **Unsigned header data has no influence.** With the switch off, two requests whose signed fields
are absent or texts are answered and reported alike if they agree on base URI, tenant and signature
and on the forwarding header that supplies the host. So no run of edits changes the outcome: header
lines of other names, further values, other letter case of names, an `X-Forwarded-Host` beside a
`Forwarded` that names a host, and a `Forwarded` that names none. -/
theorem unsigned_data_has_no_influence (r : Resolver) (hoff : r.allowUnsignedDefaults = false) :
    (∀ (f g : Fields) (t u : SignedTexts), t.SaidBy f → u.SaidBy g → t.SignedAlike u →
        f.value? GatewayField.signature = g.value? GatewayField.signature →
        r.resolve f = r.resolve g) ∧
      ∀ a b : Delivery, Relation.EqvGen Edit a b → r.resolve a.fields = r.resolve b.fields := by
  constructor
  · intro f g t u ht hu h hsig
    exact resolve_eq_of_signedAlike hoff ht hu h hsig
  · intro a b h
    exact resolve_eq_of_edits hoff h

/-- A request whose `Forwarded` names a host, under a signature that is no base64. -/
def hostDelivery : Delivery where
  lines := [(octets "forwarded", octets "host=a"), (octets "x-dv-sig-1", octets "!")]
  fields := ⟨[("forwarded", octets "host=a"), ("x-dv-sig-1", octets "!")]⟩
  texts := ⟨none, none, some "host=a", none⟩
  receiveAll_lines := by decide
  saidBy := ⟨by decide, by decide, by decide, by decide⟩

/-- The same request with another host listed. -/
def listedDelivery : Delivery where
  lines := hostDelivery.lines ++ [(octets "x-forwarded-host", octets "b")]
  fields := hostDelivery.fields.add "x-forwarded-host" (octets "b")
  texts := { hostDelivery.texts with xForwardedHost := some "b" }
  receiveAll_lines := by decide
  saidBy := ⟨by decide, by decide, by decide, by decide⟩

/-- The same request with another spelling of the first name. -/
def respelledDelivery : Delivery where
  lines := (octets "Forwarded", octets "host=a") :: listedDelivery.lines.tail
  fields := listedDelivery.fields
  texts := listedDelivery.texts
  receiveAll_lines := by decide
  saidBy := listedDelivery.saidBy

/-- Listing another host and spelling a name differently leaves a refused request as it is. -/
theorem unsigned_data_has_no_influence_listed :
    (new "" (some .short)).resolve hostDelivery.fields =
        (new "" (some .short)).resolve listedDelivery.fields ∧
      (new "" (some .short)).resolve hostDelivery.fields =
        (new "" (some .short)).resolve respelledDelivery.fields := by
  obtain ⟨htexts, hedits⟩ := unsigned_data_has_no_influence (new "" (some .short)) rfl
  have hhost : ¬ NamesNone forwardedHost? hostDelivery.texts.forwarded := by
    intro h
    exact absurd (h "host=a" rfl) (by decide)
  have hlisted : Edit hostDelivery listedDelivery := .listed hhost (by decide)
  have hcase : (octets "forwarded").map Fields.lowerOctet =
      (octets "Forwarded").map Fields.lowerOctet := by decide
  have hlines : listedDelivery.lines =
      [] ++ (octets "forwarded", octets "host=a") :: listedDelivery.lines.tail := rfl
  have hrespelled : Edit listedDelivery respelledDelivery := .respelled hcase hlines rfl
  constructor
  · exact htexts _ _ _ _ hostDelivery.saidBy listedDelivery.saidBy ⟨rfl, rfl, by decide⟩ rfl
  · exact hedits _ _ (.trans _ _ _ (.rel _ _ hlisted) (.rel _ _ hrespelled))

end Resolver

end TenantGate

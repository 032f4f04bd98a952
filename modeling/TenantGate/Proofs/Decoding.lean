import TenantGate.Proofs.HostChoice
import TenantGate.Proofs.Outcomes
import TenantGate.Proofs.Texts
import TenantGate.Resolver.Stated

/-!
# The texts of the gateway fields

Two notions of an absent field meet in a resolver: `hasValue` looks at the octets of the first
value, `fieldText?` at its text. Both are about `Fields.value?`, the first value with an empty one
counting as absent (`hasValue_eq_false_iff`, `fieldText?_eq_ok_iff`). A request says at most one
text for each field (`SignedTexts.SaidBy.unique`); `Stated.read` succeeds exactly if all four signed
fields say a text (`Stated.read_eq_ok_iff`), and otherwise blames the first field that does not
(`Stated.read_eq_error`).
-/

set_option autoImplicit false

namespace TenantGate

open TenantGate.Http TenantGate.Text TenantGate.Forwarding

/-! ## Values -/

/-- The first value of a name, an empty one counting as absent. -/
def Http.Fields.value? (f : Fields) (name : String) : Option (List UInt8) :=
  (f.first? name).filter fun bs => !bs.isEmpty

/-- The field has a value that is no text. -/
def Undecodable (f : Fields) (name : String) : Prop :=
  ∃ bs, f.value? name = some bs ∧ ¬ IsText bs

theorem Http.Fields.value?_eq_some_iff {f : Fields} {name : String} {bs : List UInt8} :
    f.value? name = some bs ↔ f.first? name = some bs ∧ bs ≠ [] := by
  simp [value?, Option.filter_eq_some_iff]

theorem hasValue_eq_false_iff {f : Fields} {name : String} :
    hasValue f name = false ↔ f.value? name = none := by
  unfold hasValue Http.Fields.value?
  cases f.first? name with
  | none => simp
  | some bs => simp

/-- A value is never an empty text. -/
theorem value?_ne_empty {f : Fields} {name : String} :
    f.value? name ≠ some (octets "") := by
  intro h
  exact (Http.Fields.value?_eq_some_iff.1 h).2 octets_empty

/-- A value is missing, a text, or no text. -/
theorem value?_cases (f : Fields) (name : String) :
    f.value? name = none ∨ (∃ s, f.value? name = some (octets s)) ∨ Undecodable f name := by
  cases hv : f.value? name with
  | none => exact Or.inl rfl
  | some bs =>
    by_cases ht : IsText bs
    · obtain ⟨s, rfl⟩ := ht
      exact Or.inr (Or.inl ⟨s, rfl⟩)
    · exact Or.inr (Or.inr ⟨bs, hv, ht⟩)

/-! ## Reading one field -/

theorem fieldText?_of_none {f : Fields} {name : String} (h : f.value? name = none) :
    fieldText? f name = .ok none := by
  unfold fieldText?
  cases hf : f.first? name with
  | none => rfl
  | some bs =>
    -- the value is there and empty, hence the empty text
    obtain rfl : bs = octets "" := by
      simpa [Fields.value?, hf, octets_empty] using h
    simp [ofOctets?_octets]

theorem fieldText?_of_text {f : Fields} {name s : String}
    (h : f.value? name = some (octets s)) : fieldText? f name = .ok (some s) := by
  obtain ⟨hf, hne⟩ := Fields.value?_eq_some_iff.1 h
  have hs : s ≠ "" := fun he => hne (octets_eq_nil_iff.2 he)
  simp [fieldText?, hf, ofOctets?_octets, hs]

theorem fieldText?_of_undecodable {f : Fields} {name : String} (h : Undecodable f name) :
    fieldText? f name = .error (.invalidHeader name) := by
  obtain ⟨bs, hv, ht⟩ := h
  obtain ⟨hf, -⟩ := Fields.value?_eq_some_iff.1 hv
  simp [fieldText?, hf, ofOctets?_eq_none_iff.2 ht]

/-- A field is read as a text exactly if its first value is absent, empty or this text. -/
theorem fieldText?_eq_ok_iff {f : Fields} {name : String} {t : Option String} :
    fieldText? f name = .ok t ↔ f.value? name = t.map octets := by
  constructor
  · intro h
    -- the reading is known in each case of the value, and only the right one gives `t`
    rcases value?_cases f name with hv | ⟨s, hv⟩ | hu
    · rw [fieldText?_of_none hv] at h
      cases h
      exact hv
    · rw [fieldText?_of_text hv] at h
      cases h
      exact hv
    · rw [fieldText?_of_undecodable hu] at h
      cases h
  · intro h
    cases t with
    | none => exact fieldText?_of_none h
    | some s => exact fieldText?_of_text h

/-- Reading a field fails exactly if its value is no text, and the error names the field. -/
theorem fieldText?_eq_error_iff {f : Fields} {name : String} {e : ResolveError} :
    fieldText? f name = .error e ↔ Undecodable f name ∧ e = .invalidHeader name := by
  constructor
  · intro h
    rcases value?_cases f name with hv | ⟨s, hv⟩ | hu
    · rw [fieldText?_of_none hv] at h
      cases h
    · rw [fieldText?_of_text hv] at h
      cases h
    · rw [fieldText?_of_undecodable hu] at h
      cases h
      exact ⟨hu, rfl⟩
  · rintro ⟨hu, rfl⟩
    exact fieldText?_of_undecodable hu

theorem not_undecodable_of_text {f : Fields} {name : String} {t : Option String}
    (h : f.value? name = t.map octets) : ¬ Undecodable f name := by
  intro hu
  have hok := fieldText?_eq_ok_iff.2 h
  rw [fieldText?_of_undecodable hu] at hok
  cases hok

/-! ## Requests that state a signed field -/

/-- The first value of some signed field is not empty, whether or not it is text. -/
def StatesSigned (f : Fields) : Prop :=
  ∃ name ∈ GatewayField.signed, ∃ bs, f.first? name = some bs ∧ bs ≠ []

theorem not_statesSigned_iff {f : Fields} :
    ¬ StatesSigned f ↔ ∀ name ∈ GatewayField.signed, f.value? name = none := by
  constructor
  · intro h name hn
    cases hv : f.value? name with
    | none => rfl
    | some bs => exact absurd ⟨name, hn, bs, Fields.value?_eq_some_iff.1 hv⟩ h
  · rintro h ⟨name, hn, bs, hbs⟩
    have hv := Fields.value?_eq_some_iff.2 hbs
    rw [h name hn] at hv
    cases hv

/-! ## Reading the signed fields -/

/-- The texts of the signed fields, one that is absent or empty being `none`. -/
structure SignedTexts where
  systemBaseUri : Option String
  tenantId : Option String
  forwarded : Option String
  xForwardedHost : Option String
deriving DecidableEq, Repr

namespace SignedTexts

/-- No field says anything. -/
def none : SignedTexts := ⟨.none, .none, .none, .none⟩

/-- The first values of the signed fields are these texts in UTF-8. -/
structure SaidBy (t : SignedTexts) (f : Fields) : Prop where
  systemBaseUri : f.value? "x-dv-baseuri" = t.systemBaseUri.map octets
  tenantId : f.value? "x-dv-tenant-id" = t.tenantId.map octets
  forwarded : f.value? "forwarded" = t.forwarded.map octets
  xForwardedHost : f.value? "x-forwarded-host" = t.xForwardedHost.map octets

/-- The fields as a resolver holds them. -/
def stated (t : SignedTexts) : Stated :=
  ⟨t.systemBaseUri, t.tenantId, choose t.forwarded t.xForwardedHost⟩

end SignedTexts

theorem map_octets_inj {a b : Option String} : a.map octets = b.map octets ↔ a = b :=
  Option.map_inj_right (fun _ _ h => octets_inj.1 h)

/-- A request says at most one text for each field. -/
theorem SignedTexts.SaidBy.unique {t t' : SignedTexts} {f : Fields} (h : t.SaidBy f)
    (h' : t'.SaidBy f) : t = t' := by
  have hb := h.systemBaseUri.symm.trans h'.systemBaseUri
  have ht := h.tenantId.symm.trans h'.tenantId
  have hf := h.forwarded.symm.trans h'.forwarded
  have hx := h.xForwardedHost.symm.trans h'.xForwardedHost
  rw [map_octets_inj] at hb ht hf hx
  cases t
  cases t'
  simp_all

theorem SignedTexts.saidBy_none_iff {f : Fields} :
    SignedTexts.none.SaidBy f ↔ ∀ name ∈ GatewayField.signed, f.value? name = .none := by
  constructor
  · rintro ⟨hb, ht, hf, hx⟩ name hn
    simp only [GatewayField.signed, List.mem_cons, List.not_mem_nil, or_false] at hn
    rcases hn with rfl | rfl | rfl | rfl
    · exact hb
    · exact ht
    · exact hf
    · exact hx
  · intro h
    exact ⟨h _ (by decide), h _ (by decide), h _ (by decide), h _ (by decide)⟩

/-- **All signed fields are read exactly if each of them is absent, empty or a text.** -/
theorem Stated.read_eq_ok_iff {f : Fields} {s : Stated} :
    Stated.read f = .ok s ↔ ∃ t : SignedTexts, t.SaidBy f ∧ t.stated = s := by
  unfold Stated.read
  simp only [Except.bind_eq_ok_iff, fieldText?_eq_ok_iff, Except.ok.injEq]
  constructor
  · rintro ⟨b, hb, t, ht, fw, hf, x, hx, hs⟩
    exact ⟨⟨b, t, fw, x⟩, ⟨hb, ht, hf, hx⟩, hs⟩
  · rintro ⟨⟨b, t, fw, x⟩, ⟨hb, ht, hf, hx⟩, hs⟩
    exact ⟨b, hb, t, ht, fw, hf, x, hx, hs⟩

/-- What is read is what the request says. -/
theorem SignedTexts.SaidBy.stated_eq {t : SignedTexts} {f : Fields} {s : Stated} (h : t.SaidBy f)
    (hs : Stated.read f = .ok s) : t.stated = s := by
  have hread := Stated.read_eq_ok_iff.2 ⟨t, h, rfl⟩
  rw [hs] at hread
  exact (Except.ok.inj hread).symm

/-- Once all signed fields are read, none of them is undecodable. -/
theorem SignedTexts.SaidBy.not_undecodable {t : SignedTexts} {f : Fields} (h : t.SaidBy f) :
    ∀ name ∈ GatewayField.signed, ¬ Undecodable f name := by
  intro name hn
  simp only [GatewayField.signed, List.mem_cons, List.not_mem_nil, or_false] at hn
  rcases hn with rfl | rfl | rfl | rfl
  · exact not_undecodable_of_text h.systemBaseUri
  · exact not_undecodable_of_text h.tenantId
  · exact not_undecodable_of_text h.forwarded
  · exact not_undecodable_of_text h.xForwardedHost

/-- **A reading that fails names the first signed field that is no text.** -/
theorem Stated.read_eq_error {f : Fields} {e : ResolveError} (h : Stated.read f = .error e) :
    ∃ name, First (Undecodable f) GatewayField.signed name ∧ e = .invalidHeader name := by
  unfold Stated.read at h
  simp only [Except.bind_eq_error_iff, fieldText?_eq_error_iff, fieldText?_eq_ok_iff] at h
  -- one case for each field; the fields in front of it have been read
  rcases h with ⟨hu, rfl⟩ | ⟨b, hb, h⟩
  · exact ⟨_, .here hu, rfl⟩
  have hb := not_undecodable_of_text hb
  rcases h with ⟨hu, rfl⟩ | ⟨t, ht, h⟩
  · exact ⟨_, .later hb (.here hu), rfl⟩
  have ht := not_undecodable_of_text ht
  rcases h with ⟨hu, rfl⟩ | ⟨fw, hf, h⟩
  · exact ⟨_, .later hb (.later ht (.here hu)), rfl⟩
  have hf := not_undecodable_of_text hf
  rcases h with ⟨hu, rfl⟩ | ⟨x, -, h⟩
  · exact ⟨_, .later hb (.later ht (.later hf (.here hu))), rfl⟩
  · cases h

end TenantGate

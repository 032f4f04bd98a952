import TenantGate.Proofs.Base64Text
import TenantGate.Signature

/-!
# Keys in settings

A setting states the key whose octets it writes in base64, and none if it is blank
(`ofBase64_eq_some_iff`, `ofBase64_eq_none_iff`). Every other setting is an error
(`ofBase64_eq_error_iff`), so that no setting that says something is taken for one that says nothing.
-/

set_option autoImplicit false

namespace TenantGate.SigningKey

open TenantGate.Text

theorem ofOctets?_eq_some_iff {bs : List UInt8} {key : SigningKey} :
    ofOctets? bs = some key ↔ key.octets = bs := by
  constructor
  · exact octets_of_ofOctets?
  · rintro rfl
    exact dif_neg key.octets_ne_nil

/-- A text that is not blank states the octets that it writes. -/
theorem ofBase64_of_ne_empty {setting : String} (h : trimmed setting ≠ "") :
    ofBase64 setting = (Base64.decode (Text.octets (trimmed setting))).map ofOctets? := by
  have hne : (trimmed setting).isEmpty = false := by simpa [String.isEmpty_iff] using h
  simp [ofBase64, hne]

theorem ofBase64_of_eq_empty {setting : String} (h : trimmed setting = "") :
    ofBase64 setting = .ok none := by
  simp [ofBase64, h]

/-- A setting states no key exactly if it is blank. -/
theorem ofBase64_eq_none_iff {setting : String} :
    ofBase64 setting = .ok none ↔ trimmed setting = "" := by
  constructor
  · intro h
    by_contra hne
    rw [ofBase64_of_ne_empty hne] at h
    -- what is read as no octets is the base64 of none, so it is empty
    cases hdecode : Base64.decode (Text.octets (trimmed setting)) with
    | error cause =>
      rw [hdecode] at h
      cases h
    | ok bs =>
      rw [hdecode] at h
      have hnil : bs = [] := ofOctets?_eq_none_iff.1 (Except.ok.inj h)
      rw [Base64.decode_octets_eq_ok_iff, hnil] at hdecode
      exact hne (hdecode.trans (Base64.encodeText_eq_empty_iff.2 rfl))
  · exact ofBase64_of_eq_empty

/-- A setting states a key exactly if it is the base64 of its octets, blanks around it apart. -/
theorem ofBase64_eq_some_iff {setting : String} {key : SigningKey} :
    ofBase64 setting = .ok (some key) ↔ trimmed setting = Base64.encodeText key.octets := by
  constructor
  · intro h
    have hne : trimmed setting ≠ "" := by
      intro hempty
      rw [ofBase64_of_eq_empty hempty] at h
      cases h
    rw [ofBase64_of_ne_empty hne] at h
    cases hdecode : Base64.decode (Text.octets (trimmed setting)) with
    | error cause =>
      rw [hdecode] at h
      cases h
    | ok bs =>
      rw [hdecode] at h
      have hoctets : key.octets = bs := ofOctets?_eq_some_iff.1 (Except.ok.inj h)
      rw [hoctets]
      exact Base64.decode_octets_eq_ok_iff.1 hdecode
  · intro h
    have hne : trimmed setting ≠ "" := by
      rw [h]
      exact mt Base64.encodeText_eq_empty_iff.1 key.octets_ne_nil
    rw [ofBase64_of_ne_empty hne, Base64.decode_octets_eq_ok_iff.2 h]
    exact congrArg Except.ok (ofOctets?_eq_some_iff.2 rfl)

/-- A setting is wrong exactly if it says something and this is the base64 of no key. -/
theorem ofBase64_eq_error_iff {setting : String} :
    (∃ cause, ofBase64 setting = .error cause) ↔
      trimmed setting ≠ "" ∧
        ∀ key : SigningKey, trimmed setting ≠ Base64.encodeText key.octets := by
  constructor
  · rintro ⟨cause, h⟩
    constructor
    · intro hempty
      rw [ofBase64_of_eq_empty hempty] at h
      cases h
    · intro key hkey
      rw [ofBase64_eq_some_iff.2 hkey] at h
      cases h
  · rintro ⟨hne, hkeys⟩
    -- what is read otherwise is no key, or a key
    cases h : ofBase64 setting with
    | error cause => exact ⟨cause, rfl⟩
    | ok stated =>
      cases stated with
      | none => exact absurd (ofBase64_eq_none_iff.1 h) hne
      | some key => exact absurd (ofBase64_eq_some_iff.1 h) (hkeys key)

end TenantGate.SigningKey

import TenantGate.Proofs.Base64Text
import TenantGate.Signature

/-!
# What a signature check answers

`Verdict` lists the five answers of a signature check with the condition of each, and
`verify_eq_iff` says that `verify` gives these answers and no others. A signature is accepted
exactly if it is, up to blanks around it, the text that the key itself signs the message with
(`verify_eq_ok_iff`).
-/

set_option autoImplicit false

namespace TenantGate

open TenantGate.Text

namespace SigningKey

/-- A signature has no blanks around it. -/
theorem trimmed_sign (key : SigningKey) (message : List UInt8) :
    trimmed (key.sign message) = key.sign message :=
  Base64.trimmed_encodeText _

/-- A signature is never empty, because a code has 32 octets. -/
theorem sign_ne_empty (key : SigningKey) (message : List UInt8) : key.sign message ≠ "" := by
  intro h
  have hlen := Digest.Hmac.length_code key.octets message
  -- an empty text would be the base64 of no octets
  rw [sign, Base64.encodeText_eq_empty_iff] at h
  rw [h] at hlen
  cases hlen

/-- A key of one octet. -/
def short : SigningKey := ⟨[0x6B], by decide⟩

end SigningKey

/-- The answers of a signature check, each with its condition. -/
inductive Verdict (key : Option SigningKey) (signed : SignedFields) :
    Option String → Except SignatureError Unit → Prop where
  | missingSecret {signature : Option String} :
      key = none → Verdict key signed signature (.error .missingSecret)
  | missingSignature {k : SigningKey} :
      key = some k → Verdict key signed none (.error .missingSignature)
  | illegalBase64 {k : SigningKey} {text : String} {cause : Base64.DecodeError} :
      key = some k → Base64.decode (octets (trimmed text)) = .error cause →
      Verdict key signed (some text) (.error (.illegalBase64 cause))
  | mismatch {k : SigningKey} {text : String} {code : List UInt8} :
      key = some k → trimmed text = Base64.encodeText code →
      code ≠ Digest.Hmac.code k.octets (octets signed.message) →
      Verdict key signed (some text) (.error .mismatch)
  | verified {k : SigningKey} {text : String} :
      key = some k → trimmed text = k.sign (octets signed.message) →
      Verdict key signed (some text) (.ok ())

/-- Every check has its answer among the verdicts. -/
theorem verdict_verify (key : Option SigningKey) (signed : SignedFields)
    (signature : Option String) : Verdict key signed signature (verify key signed signature) := by
  cases key with
  | none => exact .missingSecret rfl
  | some k =>
    cases signature with
    | none => exact .missingSignature rfl
    | some text =>
      simp only [verify]
      split
      · next hd => exact .illegalBase64 rfl hd
      · next hd =>
        have ht := Base64.decode_octets_eq_ok_iff.1 hd
        split
        · next hc =>
          -- the code read is the code of the message, so the text is what the key writes
          rw [hc] at ht
          exact .verified rfl ht
        · next hc => exact .mismatch rfl ht hc

/-- A check gives the answer of every verdict whose condition holds. -/
theorem Verdict.verify_eq {key : Option SigningKey} {signed : SignedFields}
    {signature : Option String} {answer : Except SignatureError Unit}
    (h : Verdict key signed signature answer) : verify key signed signature = answer := by
  cases h with
  | missingSecret hk =>
    subst hk
    rfl
  | missingSignature hk =>
    subst hk
    rfl
  | illegalBase64 hk hd =>
    subst hk
    simp [verify, hd]
  | mismatch hk ht hc =>
    subst hk
    simp [verify, Base64.decode_octets_eq_ok_iff.2 ht, hc]
  | verified hk ht =>
    subst hk
    simp [verify, Base64.decode_octets_eq_ok_iff.2 ht]

/-- **A check gives the answer whose condition holds.** -/
theorem verify_eq_iff {key : Option SigningKey} {signed : SignedFields}
    {signature : Option String} {answer : Except SignatureError Unit} :
    verify key signed signature = answer ↔ Verdict key signed signature answer := by
  constructor
  · rintro rfl
    exact verdict_verify key signed signature
  · exact Verdict.verify_eq

/-- **A signature is accepted exactly if it is what the key signs the message with.** -/
theorem verify_eq_ok_iff {key : Option SigningKey} {signed : SignedFields}
    {signature : Option String} :
    verify key signed signature = .ok () ↔
      ∃ k text, key = some k ∧ signature = some text ∧
        trimmed text = k.sign (octets signed.message) := by
  rw [verify_eq_iff]
  constructor
  · intro h
    cases h with
    | verified hk ht => exact ⟨_, _, hk, rfl, ht⟩
  · rintro ⟨k, text, hk, rfl, ht⟩
    exact .verified hk ht

-- the second vector of RFC 4231, its message cut in three
example : verify (some ⟨octets "Jefe", by decide⟩) ⟨"what do ya ", "want for ", "nothing?"⟩
    (some " W9zBRr9gdU5qBCQmCJV1x1oAPwidJzmDnexYuWTsOEM=\n") = .ok () := by
  decide +kernel

end TenantGate

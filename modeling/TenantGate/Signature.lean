import TenantGate.Base64
import TenantGate.Digest.Hmac
import TenantGate.Text.Blank
import TenantGate.Text.Octets

/-!
# Signatures over the tenant fields

The gateway signs the base URI, the tenant id and the forwarding header of a request, concatenated
in this order, and sends the code in base64. `SigningKey` is the shared secret, which is never
empty; `verify` compares the code of `SignedFields.message` with the one that a signature decodes
to.
-/

set_option autoImplicit false

namespace TenantGate

open TenantGate.Text

/-! ## The shared secret -/

/-- A secret shared with the gateway. -/
structure SigningKey where
  octets : List UInt8
  octets_ne_nil : octets ≠ []

namespace SigningKey

/-- The key with the given octets; an empty key is no key. -/
def ofOctets? (bs : List UInt8) : Option SigningKey :=
  if h : bs = [] then none else some ⟨bs, h⟩

/-- The key that a setting states in base64; a blank setting states none. -/
def ofBase64 (setting : String) : Except Base64.DecodeError (Option SigningKey) :=
  let encoded := trimmed setting
  if encoded.isEmpty then .ok none
  else (Base64.decode (Text.octets encoded)).map ofOctets?

/-- The signature of a message. -/
def sign (key : SigningKey) (message : List UInt8) : String :=
  Base64.encodeText (Digest.Hmac.code key.octets message)

/-- The key as it may be shown: its length and nothing else. -/
def shown (key : SigningKey) : String :=
  s!"SigningKey(<{key.octets.length} bytes redacted>)"

theorem ofOctets?_eq_none_iff {bs : List UInt8} : ofOctets? bs = none ↔ bs = [] := by
  unfold ofOctets?
  split <;> simp_all

theorem octets_of_ofOctets? {bs : List UInt8} {key : SigningKey} (h : ofOctets? bs = some key) :
    key.octets = bs := by
  unfold ofOctets? at h
  split at h
  · cases h
  · cases h
    rfl

end SigningKey

/-! ## What is signed -/

/-- The fields under a signature; one that the request lacks is empty. -/
structure SignedFields where
  systemBaseUri : String
  tenantId : String
  forwarded : String
deriving DecidableEq, Repr

/-- The signed text: the fields in their fixed order with nothing between them. -/
def SignedFields.message (s : SignedFields) : String :=
  s.systemBaseUri ++ s.tenantId ++ s.forwarded

/-! ## Verification -/

/-- Why a signature is not trusted. -/
inductive SignatureError where
  | missingSecret
  | invalidKey
  | missingSignature
  | illegalBase64 (cause : Base64.DecodeError)
  | mismatch
deriving DecidableEq, Repr

namespace SignatureError

/-- The wording of an error. -/
def message : SignatureError → String
  | missingSecret => "missing signature secret key: tenant headers cannot be verified"
  | invalidKey => "signature secret key rejected by hmac: Invalid Length"
  | missingSignature => "missing signature header"
  | illegalBase64 cause => s!"illegal base64 data in signature header: {cause.message}"
  | mismatch => "signature mismatch: tenant headers were not signed with the configured key"

/-- The failure lies with this service and not with the caller. -/
def isServerError : SignatureError → Bool
  | missingSecret | invalidKey => true
  | _ => false

/-- The kind of an error without its details. -/
def kind : SignatureError → String
  | missingSecret => "MissingSecret"
  | invalidKey => "InvalidKey"
  | missingSignature => "MissingSignature"
  | illegalBase64 _ => "IllegalBase64"
  | mismatch => "Mismatch"

end SignatureError

/-- Check a signature against signed fields. The whole code has to agree. -/
def verify (key : Option SigningKey) (signed : SignedFields) (signature : Option String) :
    Except SignatureError Unit :=
  match key, signature with
  | none, _ => .error .missingSecret
  | some _, none => .error .missingSignature
  | some k, some text =>
      match Base64.decode (octets (trimmed text)) with
      | .error cause => .error (.illegalBase64 cause)
      | .ok code =>
          if code = Digest.Hmac.code k.octets (octets signed.message) then .ok ()
          else .error .mismatch

end TenantGate

import TenantGate.Proofs.Acceptance

/-!
# Why a resolver rejects a request

`Check.all` lists the checks of a resolver in the order in which it makes them, and `Finds` says
what each of them finds wrong with a request, whatever the others say. Several checks can fail at
once. The main theorem, `resolve_eq_error_iff`, says that a request which the switch does not serve
is answered with the finding of the first check that fails, and with a context if none does. The
status is 500 for a missing key and 403 for anything the client sent (`Finds.status`).
-/

set_option autoImplicit false

namespace TenantGate

open TenantGate.Http TenantGate.Text TenantGate.Forwarding

namespace Resolver

/-! ## The checks and their findings -/

/-- What a resolver checks: its key, the text of a field, and the presence, the encoding and the
code of the signature. -/
inductive Check where
  | key
  | text (name : String)
  | presence
  | encoding
  | code
deriving DecidableEq, Repr

/-- The checks in the order in which they are made. -/
def Check.all : List Check := .key :: (GatewayField.all.map .text ++ [.presence, .encoding, .code])

/-- What a check finds wrong with a request. -/
inductive Finds (r : Resolver) (f : Fields) : Check → ResolveError → Prop where
  | missingSecret : r.key = none → Finds r f .key (.signature .missingSecret)
  | invalidHeader {name : String} :
      Undecodable f name → Finds r f (.text name) (.invalidHeader name)
  | missingSignature :
      f.value? GatewayField.signature = none →
      Finds r f .presence (.signature .missingSignature)
  | illegalBase64 {text : String} {cause : Base64.DecodeError} :
      f.value? GatewayField.signature = some (octets text) →
      (∀ code, trimmed text ≠ Base64.encodeText code) →
      Base64.decode (octets (trimmed text)) = .error cause →
      Finds r f .encoding (.signature (.illegalBase64 cause))
  | mismatch {key : SigningKey} {t : SignedTexts} {found : Option Found} {text : String}
      {code : List UInt8} :
      r.key = some key → t.SaidBy f → Chooses t.forwarded t.xForwardedHost found →
      f.value? GatewayField.signature = some (octets text) →
      trimmed text = Base64.encodeText code →
      code ≠ Digest.Hmac.code key.octets (octets (t.message found)) →
      Finds r f .code (.signature .mismatch)

/-- A check finds something wrong. -/
def Fails (r : Resolver) (f : Fields) (check : Check) : Prop := ∃ e, r.Finds f check e

variable {r : Resolver} {f : Fields}

theorem octets_eq_of_value? {name s t : String} (hs : f.value? name = some (octets s))
    (ht : f.value? name = some (octets t)) : s = t := by
  rw [hs] at ht
  exact octets_inj.1 (Option.some.inj ht)

/-- A check finds one thing wrong. -/
theorem Finds.unique {check : Check} {e e' : ResolveError} (h : r.Finds f check e)
    (h' : r.Finds f check e') : e = e' := by
  -- each check has one way to fail; only the encoding can fail with several causes
  cases h with
  | missingSecret _ =>
    cases h'
    rfl
  | invalidHeader _ =>
    cases h'
    rfl
  | missingSignature _ =>
    cases h'
    rfl
  | illegalBase64 hv _ hd =>
    cases h' with
    | illegalBase64 hv' _ hd' =>
      obtain rfl := octets_eq_of_value? hv hv'
      rw [hd] at hd'
      rw [Except.error.inj hd']
  | mismatch _ _ _ _ _ _ =>
    cases h'
    rfl

/-- A finding is never that the key is invalid, and the service is at fault exactly if it has no
key. -/
theorem Finds.status {check : Check} {e : ResolveError} (h : r.Finds f check e) :
    e ≠ .signature .invalidKey ∧
      e.status = if e = .signature .missingSecret then 500 else 403 := by
  cases h with
  | missingSecret _ => exact ⟨by simp, rfl⟩
  | invalidHeader _ => exact ⟨by simp, rfl⟩
  | missingSignature _ => exact ⟨by simp, rfl⟩
  | illegalBase64 _ _ _ => exact ⟨by simp, rfl⟩
  | mismatch _ _ _ _ _ _ => exact ⟨by simp, rfl⟩

/-! ## Checks that pass -/

theorem not_fails_key {key : SigningKey} (hk : r.key = some key) : ¬ r.Fails f .key := by
  rintro ⟨e, h⟩
  cases h with
  | missingSecret hn =>
    rw [hk] at hn
    cases hn

theorem fails_text_iff {name : String} : r.Fails f (.text name) ↔ Undecodable f name := by
  constructor
  · rintro ⟨e, h⟩
    cases h with
    | invalidHeader hu => exact hu
  · intro hu
    exact ⟨_, .invalidHeader hu⟩

/-- No text check fails on a request whose signed fields and signature are texts. -/
theorem not_fails_text {t : SignedTexts} {signature : Option String} (ht : t.SaidBy f)
    (hsig : f.value? GatewayField.signature = signature.map octets) :
    ∀ check ∈ GatewayField.all.map Check.text, ¬ r.Fails f check := by
  intro check hc
  obtain ⟨name, hn, rfl⟩ := List.mem_map.1 hc
  rw [fails_text_iff]
  rcases List.mem_append.1 hn with hn | hn
  · exact ht.not_undecodable name hn
  · obtain rfl := List.mem_singleton.1 hn
    exact not_undecodable_of_text hsig

theorem not_fails_presence {text : String}
    (hv : f.value? GatewayField.signature = some (octets text)) : ¬ r.Fails f .presence := by
  rintro ⟨e, h⟩
  cases h with
  | missingSignature hn =>
    rw [hv] at hn
    cases hn

theorem not_fails_encoding {text : String} {code : List UInt8}
    (hv : f.value? GatewayField.signature = some (octets text))
    (ht : trimmed text = Base64.encodeText code) : ¬ r.Fails f .encoding := by
  rintro ⟨e, h⟩
  cases h with
  | illegalBase64 hv' hn _ =>
    obtain rfl := octets_eq_of_value? hv hv'
    exact hn code ht

/-- The code check passes on a verified signature. -/
theorem not_fails_code {t : SignedTexts} (ht : t.SaidBy f)
    (hv : r.Verifies f t.stated.signed.message) : ¬ r.Fails f .code := by
  rintro ⟨e, h⟩
  obtain ⟨key, text, hk, hvalue, htext⟩ := hv
  cases h with
  | mismatch hk' ht' hfound hvalue' htext' hcode =>
    -- both sides speak of one key, one request and one signature
    rw [hk] at hk'
    cases hk'
    obtain rfl := ht.unique ht'
    obtain rfl := choose_eq_iff.2 hfound
    obtain rfl := octets_eq_of_value? hvalue hvalue'
    rw [htext, Base64.encodeText_inj, SignedTexts.message_stated] at htext'
    exact hcode htext'.symm

/-! ## From the answer to the checks -/

/-- The checks behind the texts, once the key is there and everything is text. -/
theorem first_of_texts {key : SigningKey} {t : SignedTexts} {signature : Option String}
    {check : Check} (hk : r.key = some key) (ht : t.SaidBy f)
    (hsig : f.value? GatewayField.signature = signature.map octets)
    (h : First (r.Fails f) [.presence, .encoding, .code] check) :
    First (r.Fails f) Check.all check :=
  .later (not_fails_key hk) (.behind (not_fails_text ht hsig) h)

/-- An error is what the first failing check finds. -/
theorem first_of_trusted_eq_error {e : ResolveError} (h : r.trusted f = .error e) :
    ∃ check, First (r.Fails f) Check.all check ∧ r.Finds f check e := by
  have hd := decision_trusted r f
  rw [h] at hd
  cases hd with
  | missingSecret _ hk =>
    have hfinds : r.Finds f .key (.signature .missingSecret) := .missingSecret hk
    exact ⟨_, .here ⟨_, hfinds⟩, hfinds⟩
  | @undecodable _ name _ hk hfirst =>
    have htexts : First (fun name => r.Fails f (.text name)) GatewayField.all name := by
      simpa only [fails_text_iff] using hfirst
    exact ⟨.text name, .later (not_fails_key hk) (htexts.map.append _), .invalidHeader hfirst.holds⟩
  | refused _ hk ht hsig hverdict =>
    -- the field checks have passed, and the signature check speaks for the rest
    cases hverdict with
    | missingSecret hn => cases hn
    | missingSignature _ =>
      have hfinds : r.Finds f .presence _ := .missingSignature hsig
      exact ⟨_, first_of_texts hk ht hsig (.here ⟨_, hfinds⟩), hfinds⟩
    | illegalBase64 _ hdecode =>
      have hfinds : r.Finds f .encoding _ :=
        .illegalBase64 hsig (Base64.ne_encodeText_of_decode hdecode) hdecode
      refine ⟨_, first_of_texts hk ht hsig ?_, hfinds⟩
      exact .later (not_fails_presence hsig) (.here ⟨_, hfinds⟩)
    | mismatch hkey htext hcode =>
      cases hkey
      rw [SignedTexts.message_stated] at hcode
      have hfinds : r.Finds f .code _ := .mismatch hk ht (chooses_choose _ _) hsig htext hcode
      refine ⟨_, first_of_texts hk ht hsig ?_, hfinds⟩
      exact .later (not_fails_presence hsig)
        (.later (not_fails_encoding hsig htext) (.here ⟨_, hfinds⟩))

/-- No check fails on a request that is trusted through its signature. -/
theorem not_fails_of_trusted_eq_ok {s : Stated} (hs : r.servesUnsigned f = false)
    (h : r.trusted f = .ok s) : ∀ check ∈ Check.all, ¬ r.Fails f check := by
  have hd := decision_trusted r f
  rw [h] at hd
  cases hd with
  | unsigned hserved _ =>
    rw [hs] at hserved
    cases hserved
  | verified _ ht hv =>
    obtain ⟨key, text, hk, hvalue, htext⟩ := hv
    intro check hc
    -- in the order of `Check.all`: the key, the texts, the signature
    rcases List.mem_cons.1 hc with rfl | hc
    · exact not_fails_key hk
    rcases List.mem_append.1 hc with hc | hc
    · have hsig : f.value? GatewayField.signature = (some text).map octets := hvalue
      exact not_fails_text ht hsig check hc
    simp only [List.mem_cons, List.not_mem_nil, or_false] at hc
    rcases hc with rfl | rfl | rfl
    · exact not_fails_presence hvalue
    · exact not_fails_encoding hvalue htext
    · exact not_fails_code ht ⟨key, text, hk, hvalue, htext⟩

/-- **Exact rejection.** A request that the switch does not serve is answered with the error that
the first failing check finds, and with no other; it is accepted exactly if no check fails. The
error is never an invalid key, and its status is 500 exactly if the key is missing, else 403. -/
theorem resolve_eq_error_iff (r : Resolver) (f : Fields)
    (hs : r.allowUnsignedDefaults = true → StatesSigned f) :
    (∀ e, (r.resolve f).1 = .error e ↔
        ∃ check, First (r.Fails f) Check.all check ∧ r.Finds f check e) ∧
      ((∃ ctx, (r.resolve f).1 = .ok ctx) ↔ ∀ check ∈ Check.all, ¬ r.Fails f check) ∧
      ∀ e, (r.resolve f).1 = .error e →
        e ≠ .signature .invalidKey ∧
          e.status = if e = .signature .missingSecret then 500 else 403 := by
  rw [← servesUnsigned_eq_false_iff] at hs
  have herror : ∀ e, (r.resolve f).1 = .error e →
      ∃ check, First (r.Fails f) Check.all check ∧ r.Finds f check e := by
    intro e he
    exact first_of_trusted_eq_error (resolve_eq_error_iff_trusted.1 he)
  have hok : ∀ ctx, (r.resolve f).1 = .ok ctx → ∀ check ∈ Check.all, ¬ r.Fails f check := by
    intro ctx hctx
    obtain ⟨s, htrusted, -⟩ := resolve_eq_ok_iff_trusted.1 hctx
    exact not_fails_of_trusted_eq_ok hs htrusted
  refine ⟨?_, ?_, ?_⟩
  · intro e
    constructor
    · exact herror e
    · rintro ⟨check, hfirst, hfinds⟩
      -- a context is ruled out, and of two first findings there is only one
      cases hout : (r.resolve f).1 with
      | ok ctx => exact absurd hfirst.holds (hok ctx hout check hfirst.mem)
      | error e' =>
        obtain ⟨check', hfirst', hfinds'⟩ := herror e' hout
        obtain rfl := hfirst.unique hfirst'
        rw [hfinds.unique hfinds']
  · constructor
    · rintro ⟨ctx, hctx⟩
      exact hok ctx hctx
    · intro hnone
      cases hout : (r.resolve f).1 with
      | ok ctx => exact ⟨ctx, rfl⟩
      | error e =>
        obtain ⟨check, hfirst, -⟩ := herror e hout
        exact absurd hfirst.holds (hnone check hfirst.mem)
  · intro e he
    obtain ⟨check, -, hfinds⟩ := herror e he
    exact hfinds.status

/-- A request with two faults: a header that does not supply the host is no text, and the signature
is no base64. -/
def twoFaults : Fields :=
  ⟨[(GatewayField.forwarded, octets "host=a"), (GatewayField.xForwardedHost, [0xE9]),
    (GatewayField.signature, octets "!")]⟩

/-- Without a key nothing of the request is looked at; with one the undecoded header comes first. -/
theorem resolve_eq_error_iff_twoFaults :
    (((new "" none).withUnsignedDefaults true).resolve twoFaults).1 =
        .error (.signature .missingSecret) ∧
      ((new "" (some .short)).resolve twoFaults).1 =
        .error (.invalidHeader GatewayField.xForwardedHost) := by
  have hstates : StatesSigned twoFaults :=
    ⟨GatewayField.forwarded, by decide, octets "host=a", rfl, by decide⟩
  constructor
  · refine ((resolve_eq_error_iff _ _ fun _ => hstates).1 _).2 ⟨.key, ?_, .missingSecret rfl⟩
    exact .here ⟨_, .missingSecret rfl⟩
  · have hbase : ¬ Undecodable twoFaults GatewayField.systemBaseUri :=
      not_undecodable_of_text (rfl : _ = Option.map octets none)
    have htenant : ¬ Undecodable twoFaults GatewayField.tenantId :=
      not_undecodable_of_text (rfl : _ = Option.map octets none)
    have hforwarded : ¬ Undecodable twoFaults GatewayField.forwarded :=
      not_undecodable_of_text (by decide : _ = Option.map octets (some "host=a"))
    have hlisted : Undecodable twoFaults GatewayField.xForwardedHost :=
      ⟨[0xE9], rfl, ofOctets?_eq_none_iff.1 (by decide)⟩
    refine ((resolve_eq_error_iff _ _ fun _ => hstates).1 _).2
      ⟨.text GatewayField.xForwardedHost, .later (not_fails_key rfl) ?_, .invalidHeader hlisted⟩
    rw [← fails_text_iff] at hbase htenant hforwarded hlisted
    exact .later hbase (.later htenant (.later hforwarded (.here hlisted)))

end Resolver

end TenantGate

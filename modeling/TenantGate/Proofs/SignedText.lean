import TenantGate.Proofs.SignatureCheck

/-!
# The one text that passes a signature check

Base64 is canonical and codes are compared in full, so for each key and message a signature check
accepts one text and no other, blanks around it apart: the one that the key signs the message with.
`Lookalike` lists the texts that a lenient reader might take for it, and none of them is accepted
(`Lookalike.ne_sign`). The main theorem, `verify_accepts_one_text`, also says which error each
refused signature gets.
-/

set_option autoImplicit false

namespace TenantGate

open TenantGate.Text

/-! ## Lookalikes -/

/-- Texts that resemble the base64 of a code. -/
inductive Lookalike (code : List UInt8) : String → Prop where
  /-- Only the first octets of the code. -/
  | truncated {n : Nat} : n < code.length → Lookalike code (Base64.encodeText (code.take n))
  /-- The code with more octets behind it. -/
  | extended {more : List UInt8} : more ≠ [] → Lookalike code (Base64.encodeText (code ++ more))
  /-- No pad sign at the end. -/
  | unpadded {text : String} : text.toList.getLast? ≠ some '=' → Lookalike code text
  /-- A blank among the symbols. -/
  | blankInside {text : String} {c : Char} :
      c ∈ text.toList → isBlank c = true → Lookalike code text
  /-- A symbol of the alphabet for file names and URLs. -/
  | urlSymbol {text : String} {c : Char} :
      c ∈ text.toList → c = '-' ∨ c = '_' → Lookalike code text
  /-- One pad sign, and the two unused bits of the last symbol are not zero. -/
  | twoUnusedBits {front : List Char} {v : Base64.Sextet} : v.val % 4 ≠ 0 →
      Lookalike code (String.ofList (front ++ [Base64.letter v, '=']))
  /-- Two pad signs, and the four unused bits of the last symbol are not zero. -/
  | fourUnusedBits {front : List Char} {v : Base64.Sextet} : v.val % 16 ≠ 0 →
      Lookalike code (String.ofList (front ++ [Base64.letter v, '=', '=']))

namespace Base64

theorem letter_ne_urlSymbol : ∀ v : Sextet, ¬ (letter v = '-' ∨ letter v = '_') := by decide

theorem not_mem_urlSymbol {bs : List UInt8} {c : Char} (h : c ∈ (encodeText bs).toList) :
    ¬ (c = '-' ∨ c = '_') := by
  rcases mem_toList_encodeText h with rfl | ⟨v, rfl⟩
  · decide
  · exact letter_ne_urlSymbol v

theorem isBlank_of_mem_encodeText {bs : List UInt8} {c : Char} (h : c ∈ (encodeText bs).toList) :
    isBlank c = false := by
  rcases mem_toList_encodeText h with rfl | ⟨v, rfl⟩
  · decide
  · exact isBlank_letter v

/-- A text with one pad sign has no bits set that it does not use. -/
theorem unused_of_one_pad {bs : List UInt8} (hlen : bs.length % 3 = 2) {front : List Char}
    {v : Sextet} (h : String.ofList (front ++ [letter v, '=']) = encodeText bs) :
    v.val % 4 = 0 := by
  obtain ⟨vs, u, hu, htext⟩ := toList_encodeText_of_two hlen
  rw [← h, String.toList_ofList] at htext
  obtain ⟨-, hlast⟩ := List.append_inj' htext rfl
  obtain rfl := letter_injective (List.cons.inj hlast).1
  exact hu

/-- Two octets beyond full groups leave no place for a second pad sign. -/
theorem ne_encodeText_of_two_pads {bs : List UInt8} (hlen : bs.length % 3 = 2) (front : List Char)
    (v : Sextet) : String.ofList (front ++ [letter v, '=', '=']) ≠ encodeText bs := by
  intro h
  obtain ⟨vs, u, -, htext⟩ := toList_encodeText_of_two hlen
  rw [← h, String.toList_ofList, List.append_cons] at htext
  obtain ⟨-, hlast⟩ := List.append_inj' htext rfl
  exact letter_ne_pad u (List.cons.inj hlast).1.symm

theorem getLast?_encodeText_of_two {bs : List UInt8} (hlen : bs.length % 3 = 2) :
    (encodeText bs).toList.getLast? = some '=' := by
  obtain ⟨vs, u, -, htext⟩ := toList_encodeText_of_two hlen
  rw [htext, List.getLast?_append]
  rfl

end Base64

/-- A lookalike is not the base64 of the code, if the code is written with one pad sign. -/
theorem Lookalike.ne_encodeText {code : List UInt8} {text : String} (hlen : code.length % 3 = 2)
    (h : Lookalike code text) : text ≠ Base64.encodeText code := by
  intro heq
  cases h with
  | @truncated n hn =>
    have hcode : (code.take n).length = code.length :=
      congrArg List.length (Base64.encodeText_inj.1 heq)
    rw [List.length_take] at hcode
    omega
  | extended hmore => exact hmore (List.append_right_eq_self.1 (Base64.encodeText_inj.1 heq))
  | unpadded hlast =>
    rw [heq] at hlast
    exact hlast (Base64.getLast?_encodeText_of_two hlen)
  | blankInside hc hblank =>
    rw [heq] at hc
    rw [Base64.isBlank_of_mem_encodeText hc] at hblank
    cases hblank
  | urlSymbol hc hurl =>
    rw [heq] at hc
    exact Base64.not_mem_urlSymbol hc hurl
  | twoUnusedBits hv => exact hv (Base64.unused_of_one_pad hlen heq)
  | fourUnusedBits _ => exact Base64.ne_encodeText_of_two_pads hlen _ _ heq

/-- **No lookalike is a signature**: a code has 32 octets, two beyond full groups. -/
theorem Lookalike.ne_sign {key : SigningKey} {message : List UInt8} {text : String}
    (h : Lookalike (Digest.Hmac.code key.octets message) text) : text ≠ key.sign message := by
  refine h.ne_encodeText ?_
  rw [Digest.Hmac.length_code]

/-! ## The answers of a check with a key -/

variable {key : SigningKey} {signed : SignedFields} {signature : Option String}

theorem verify_eq_missingSignature_iff :
    verify (some key) signed signature = .error .missingSignature ↔ signature = none := by
  rw [verify_eq_iff]
  constructor
  · intro h
    cases h with
    | missingSignature _ => rfl
  · rintro rfl
    exact .missingSignature rfl

theorem verify_eq_illegalBase64_iff :
    (∃ cause, verify (some key) signed signature = .error (.illegalBase64 cause)) ↔
      ∃ text, signature = some text ∧ ∀ bs, trimmed text ≠ Base64.encodeText bs := by
  constructor
  · rintro ⟨cause, h⟩
    rw [verify_eq_iff] at h
    cases h with
    | illegalBase64 _ hdecode => exact ⟨_, rfl, Base64.ne_encodeText_of_decode hdecode⟩
  · rintro ⟨text, rfl, hne⟩
    -- reading a text that is no base64 gives the cause
    cases hdecode : Base64.decode (octets (trimmed text)) with
    | ok bs => exact absurd (Base64.decode_octets_eq_ok_iff.1 hdecode) (hne bs)
    | error cause => exact ⟨cause, verify_eq_iff.2 (.illegalBase64 rfl hdecode)⟩

theorem verify_eq_mismatch_iff :
    verify (some key) signed signature = .error .mismatch ↔
      ∃ text bs, signature = some text ∧ trimmed text = Base64.encodeText bs ∧
        trimmed text ≠ key.sign (octets signed.message) := by
  rw [verify_eq_iff]
  constructor
  · intro h
    cases h with
    | mismatch hk htext hcode =>
      cases hk
      refine ⟨_, _, rfl, htext, ?_⟩
      rw [htext, SigningKey.sign, Ne, Base64.encodeText_inj]
      exact hcode
  · rintro ⟨text, bs, rfl, htext, hne⟩
    refine .mismatch rfl htext ?_
    rw [htext, SigningKey.sign, Ne, Base64.encodeText_inj] at hne
    exact hne

/-- **A signature check accepts one text.** Under a key, a signature is accepted exactly if it is
there and, without the blanks around it, the text that the key signs the message with. So every
signature made by the key is accepted, with any blanks around it, and no lookalike is. A check that
fails says that the signature is missing exactly if it is, that it is illegal base64 exactly if it
is the base64 of no octets, and else that it does not match, as it says of an empty signature. -/
theorem verify_accepts_one_text (key : SigningKey) (signed : SignedFields)
    (signature : Option String) :
    (verify (some key) signed signature = .ok () ↔
        ∃ text, signature = some text ∧ trimmed text = key.sign (octets signed.message)) ∧
      (∀ before after, AllBlank before → AllBlank after →
        verify (some key) signed (some (before ++ key.sign (octets signed.message) ++ after)) =
          .ok ()) ∧
      (∀ text, Lookalike (Digest.Hmac.code key.octets (octets signed.message)) (trimmed text) →
        verify (some key) signed (some text) ≠ .ok ()) ∧
      (verify (some key) signed signature = .error .missingSignature ↔ signature = none) ∧
      ((∃ cause, verify (some key) signed signature = .error (.illegalBase64 cause)) ↔
        ∃ text, signature = some text ∧ ∀ bs, trimmed text ≠ Base64.encodeText bs) ∧
      (verify (some key) signed signature = .error .mismatch ↔
        ∃ text bs, signature = some text ∧ trimmed text = Base64.encodeText bs ∧
          trimmed text ≠ key.sign (octets signed.message)) ∧
      verify (some key) signed (some "") = .error .mismatch := by
  have hok : ∀ signature, verify (some key) signed signature = .ok () ↔
      ∃ text, signature = some text ∧ trimmed text = key.sign (octets signed.message) := by
    intro signature
    rw [verify_eq_ok_iff]
    constructor
    · rintro ⟨k, text, hk, hs, htext⟩
      cases hk
      exact ⟨text, hs, htext⟩
    · rintro ⟨text, hs, htext⟩
      exact ⟨key, text, rfl, hs, htext⟩
  refine ⟨hok signature, ?_, ?_, verify_eq_missingSignature_iff, verify_eq_illegalBase64_iff,
    verify_eq_mismatch_iff, ?_⟩
  · intro before after hbefore hafter
    refine (hok _).2 ⟨_, rfl, ?_⟩
    rw [trimmed_surrounded hbefore hafter, key.trimmed_sign]
  · intro text hlook hverify
    obtain ⟨text', hsome, htext⟩ := (hok _).1 hverify
    cases hsome
    exact hlook.ne_sign htext
  · -- the empty text is the base64 of no octets, and no code is empty
    exact verify_eq_mismatch_iff.2 ⟨"", [], rfl, rfl, (key.sign_ne_empty _).symm⟩

/-- The fields of a request that states a tenant and nothing else. -/
def tenantOnly : SignedFields := ⟨"", "t1", ""⟩

/-- A signature between blanks is accepted, one for file names is not, and one that is cut short
does not match. -/
theorem verify_accepts_one_text_tenantOnly :
    verify (some .short) tenantOnly
        (some (" " ++ SigningKey.short.sign (octets tenantOnly.message) ++ "\t\u3000")) = .ok () ∧
      verify (some .short) tenantOnly (some " _w== ") ≠ .ok () ∧
      verify (some .short) tenantOnly (some "AA==") = .error .mismatch := by
  obtain ⟨-, hblank, hlook, -, -, hmismatch, -⟩ :=
    verify_accepts_one_text .short tenantOnly (some "AA==")
  refine ⟨?_, ?_, ?_⟩
  · have hbefore : " ".toList.all isBlank = true := by decide
    have hafter : "\t\u3000".toList.all isBlank = true := by decide
    exact hblank " " "\t\u3000" (List.all_eq_true.1 hbefore) (List.all_eq_true.1 hafter)
  · have hin : '_' ∈ (trimmed " _w== ").toList := by decide
    exact hlook _ (.urlSymbol hin (Or.inr rfl))
  · have htext : trimmed "AA==" = Base64.encodeText [0] := by decide
    refine hmismatch.2 ⟨"AA==", [0], rfl, htext, ?_⟩
    rw [htext]
    -- one octet is the code cut short
    intro h
    have hlen := congrArg List.length (Base64.encodeText_inj.1 h)
    rw [Digest.Hmac.length_code] at hlen
    cases hlen

end TenantGate

import TenantGate.Proofs.SettingsReading

/-!
# Keys are read exactly

Every key has its own text, and a setting states a key only by this text, with any blanks around it.
The main theorem, `key_is_read_exactly`, puts this together in both directions: what a setting states
is read from it, and what is read from it is all that it states. An absent key comes from a blank
setting and from no other, also where it is read with the rest of the settings
(`key_of_read`).
-/

set_option autoImplicit false

namespace TenantGate

open TenantGate.Text

namespace SigningKey

/-- Blanks around a setting do not change what it states. -/
theorem ofBase64_surrounded {before after : String} (hbefore : AllBlank before)
    (hafter : AllBlank after) (setting : String) :
    ofBase64 (before ++ setting ++ after) = ofBase64 setting := by
  rw [ofBase64, ofBase64, trimmed_surrounded hbefore hafter]

/-- What was written is read back, and no octets are no key. -/
theorem ofBase64_encodeText (bs : List UInt8) :
    ofBase64 (Base64.encodeText bs) = .ok (ofOctets? bs) := by
  by_cases hbs : bs = []
  · subst hbs
    exact ofBase64_eq_none_iff.2 rfl
  · have hkey : ofOctets? bs = some ⟨bs, hbs⟩ := ofOctets?_eq_some_iff.2 rfl
    rw [hkey, ofBase64_eq_some_iff, Base64.trimmed_encodeText]

/-- Settings that state the same key have the same text between their blanks. -/
theorem surrounds_of_ofBase64 {a b : String} {key : SigningKey}
    (ha : ofBase64 a = .ok (some key)) (hb : ofBase64 b = .ok (some key)) :
    Surrounds a (Base64.encodeText key.octets) ∧ Surrounds b (Base64.encodeText key.octets) := by
  rw [← ofBase64_eq_some_iff.1 ha]
  refine ⟨surrounds_trimmed a, ?_⟩
  rw [ofBase64_eq_some_iff.1 ha, ← ofBase64_eq_some_iff.1 hb]
  exact surrounds_trimmed b

end SigningKey

namespace Settings

/-- The key in settings is the one that its variable states. -/
theorem key_of_read {lookup : Variable → Option String} {s : Settings} {text : String}
    (h : read lookup = .ok s) (htext : lookup .signatureSecretKey = some text) :
    SigningKey.ofBase64 text = .ok s.key := by
  have hgives : Gives lookup .signatureSecretKey s.key := read_eq_ok_iff.1 h .signatureSecretKey
  exact key?_eq_some_iff.1 (reader_eq_some_iff.2 (hgives.denotes htext))

end Settings

/-- **A key is read exactly, and no key only from a blank text.** The base64 of octets states the key
with these octets, whatever blanks are around it, and no key if there are none of them. Conversely a
setting states a key only if it is the base64 of its octets between blanks, and no key exactly if it
is blank; every other setting is an error. So settings that state the same octets differ in the blanks
around them only, and the settings of a service lack a key that its variable is set to exactly if this
is blank. -/
theorem key_is_read_exactly :
    (∀ (bs : List UInt8) (before after : String), AllBlank before → AllBlank after →
        (bs = [] →
          SigningKey.ofBase64 (before ++ Base64.encodeText bs ++ after) = .ok none) ∧
        ∀ h : bs ≠ [],
          SigningKey.ofBase64 (before ++ Base64.encodeText bs ++ after) = .ok (some ⟨bs, h⟩)) ∧
      (∀ (setting : String) (key : SigningKey), SigningKey.ofBase64 setting = .ok (some key) →
        trimmed setting = Base64.encodeText key.octets) ∧
      (∀ setting : String, SigningKey.ofBase64 setting = .ok none ↔ AllBlank setting) ∧
      (∀ setting : String, (∃ cause, SigningKey.ofBase64 setting = .error cause) ↔
        ¬ AllBlank setting ∧
          ∀ key : SigningKey, trimmed setting ≠ Base64.encodeText key.octets) ∧
      (∀ (a b : String) (key key' : SigningKey), SigningKey.ofBase64 a = .ok (some key) →
        SigningKey.ofBase64 b = .ok (some key') → key.octets = key'.octets →
        ∃ core, Surrounds a core ∧ Surrounds b core) ∧
      ∀ (lookup : Variable → Option String) (s : Settings) (text : String),
        Settings.read lookup = .ok s → lookup .signatureSecretKey = some text →
        (s.key = none ↔ AllBlank text) := by
  have hblank : ∀ setting, SigningKey.ofBase64 setting = .ok none ↔ AllBlank setting := by
    intro setting
    rw [SigningKey.ofBase64_eq_none_iff, trimmed_eq_empty_iff]
  refine ⟨?_, fun _ _ => SigningKey.ofBase64_eq_some_iff.1, hblank, ?_, ?_, ?_⟩
  · intro bs before after hbefore hafter
    rw [SigningKey.ofBase64_surrounded hbefore hafter, SigningKey.ofBase64_encodeText]
    constructor
    · intro hbs
      rw [SigningKey.ofOctets?_eq_none_iff.2 hbs]
    · intro hbs
      rw [SigningKey.ofOctets?_eq_some_iff.2 (rfl : (⟨bs, hbs⟩ : SigningKey).octets = bs)]
  · intro setting
    rw [SigningKey.ofBase64_eq_error_iff, Ne, trimmed_eq_empty_iff]
  · intro a b key key' ha hb hoctets
    -- the text of a key depends on its octets alone, so `b` states the key of `a`
    have hb' := SigningKey.ofBase64_eq_some_iff.1 hb
    rw [← hoctets] at hb'
    exact ⟨_, SigningKey.surrounds_of_ofBase64 ha (SigningKey.ofBase64_eq_some_iff.2 hb')⟩
  · intro lookup s text hread htext
    rw [← hblank, Settings.key_of_read hread htext, Except.ok.injEq]

/-- A lookup that sets the signing key only. -/
def onlyKey (text : String) (v : Variable) : Option String :=
  if v = .signatureSecretKey then some text else none

/-- A key between blanks is read, blanks alone are no key, and a setting that lacks a pad sign says
something and is wrong; two settings of one key differ in their blanks, and a line end is a blank. -/
theorem key_is_read_exactly_between_blanks :
    SigningKey.ofBase64 ("\t" ++ Base64.encodeText [0x6B] ++ "\u3000\n") =
        .ok (some ⟨[0x6B], by decide⟩) ∧
      SigningKey.ofBase64 " \u3000" = .ok none ∧
      ¬ AllBlank " aw=" ∧
      (∃ core, Surrounds "\taw==" core ∧ Surrounds "aw== " core) ∧
      ∀ s, Settings.read (onlyKey "\n") = .ok s → s.key = none := by
  obtain ⟨hread, -, hnone, herror, hsame, hsettings⟩ := key_is_read_exactly
  have hkey : ∀ text, trimmed text = Base64.encodeText [0x6B] →
      SigningKey.ofBase64 text = .ok (some ⟨[0x6B], by decide⟩) := by
    intro text htext
    exact SigningKey.ofBase64_eq_some_iff.2 htext
  refine ⟨?_, ?_, ?_, ?_, ?_⟩
  · obtain ⟨-, hsome⟩ := hread [0x6B] "\t" "\u3000\n" (by decide) (by decide)
    exact hsome (by decide)
  · exact (hnone " \u3000").2 (by decide)
  · exact ((herror " aw=").1 ⟨.invalidPadding, by rfl⟩).1
  · exact hsame _ _ _ _ (hkey "\taw==" (by decide)) (hkey "aw== " (by decide)) rfl
  · intro s hs
    exact (hsettings (onlyKey "\n") s "\n" hs rfl).2 (by decide)

end TenantGate

import TenantGate.Proofs.ConfiguredKeys
import TenantGate.Proofs.LetterCase
import TenantGate.Proofs.Numerals
import TenantGate.Proofs.Outcomes
import TenantGate.Settings

/-!
# What settings mean

`Denotes` says what the text of each variable means, and `Gives` adds the default of a variable that
is unset. A variable that is set to a text without meaning is invalid (`Invalid`). The main theorem,
`read_answers_exactly`, says that reading names the first invalid variable in the order
`Variable.checked`, and that it succeeds exactly if there is none, with the settings that the
variables give. The mode is never invalid, and the address made from a port can always be read.
-/

set_option autoImplicit false

namespace TenantGate

open TenantGate.Text

/-! ## Meanings -/

/-- What the value of a variable is. -/
abbrev Variable.Meaning : Variable → Type
  | port => Nat
  | appEnv => Mode
  | defaultSystemBaseUri => String
  | signatureSecretKey => Option SigningKey
  | allowUnsignedDefaults => Bool
  | requestTimeoutSeconds => Nat
  | requestBodyLimitBytes => Nat

/-- The value of a variable in settings. -/
def Settings.field (s : Settings) : (v : Variable) → v.Meaning
  | .port => s.port
  | .appEnv => s.mode
  | .defaultSystemBaseUri => s.defaultBaseUri
  | .signatureSecretKey => s.key
  | .allowUnsignedDefaults => s.allowUnsignedDefaults
  | .requestTimeoutSeconds => s.timeoutSeconds
  | .requestBodyLimitBytes => s.bodyLimit

/-- The value of a variable that is unset. -/
def Variable.fallback : (v : Variable) → v.Meaning
  | port => (3000 : Nat)
  | appEnv => Mode.development
  | defaultSystemBaseUri => ""
  | signatureSecretKey => none
  | allowUnsignedDefaults => false
  | requestTimeoutSeconds => (30 : Nat)
  | requestBodyLimitBytes => (1048576 : Nat)

/-- The variables that can be invalid, in the order in which they are checked. -/
def Variable.checked : List Variable :=
  [port, defaultSystemBaseUri, signatureSecretKey, allowUnsignedDefaults, requestTimeoutSeconds,
    requestBodyLimitBytes]

namespace Settings

/-- The text is one of the words, in any letter case. -/
def SpellsOneOf (words : List String) (text : String) : Prop :=
  ∃ word ∈ words, Spells text.toList word.toList

/-- What the text of a variable means. -/
def Denotes : (v : Variable) → String → v.Meaning → Prop
  | .port, text, n => Numeral text n ∧ n ≤ 2 ^ 16 - 1
  | .appEnv, text, mode => mode = .production ↔ SpellsOneOf ["production", "prod"] text
  | .defaultSystemBaseUri, text, uri =>
      trimmed text = uri ∧ (uri = "" ∨ Url.isAccepted uri = true)
  | .signatureSecretKey, text, none => trimmed text = ""
  | .signatureSecretKey, text, some key => trimmed text = Base64.encodeText key.octets
  | .allowUnsignedDefaults, text, true => SpellsOneOf ["true", "1", "yes", "on"] (trimmed text)
  | .allowUnsignedDefaults, text, false =>
      SpellsOneOf ["false", "0", "no", "off", ""] (trimmed text)
  | .requestTimeoutSeconds, text, n => Numeral text n ∧ n ≤ 2 ^ 64 - 1
  | .requestBodyLimitBytes, text, n => Numeral text n ∧ n ≤ 2 ^ 64 - 1

/-- The value that a lookup gives to a variable: its default, or what its text means. -/
inductive Gives (lookup : Variable → Option String) (v : Variable) : v.Meaning → Prop where
  | unset : lookup v = none → Gives lookup v v.fallback
  | set {text : String} {m : v.Meaning} :
      lookup v = some text → Denotes v text m → Gives lookup v m

/-- The variable is set to a text without meaning. -/
def Invalid (lookup : Variable → Option String) (v : Variable) : Prop :=
  ∃ text, lookup v = some text ∧ ∀ m, ¬ Denotes v text m

/-! ## Readers of single variables -/

/-- The reader of a variable. -/
def reader : (v : Variable) → String → Option v.Meaning
  | .port => number16?
  | .appEnv => fun text => some (Mode.ofSetting text)
  | .defaultSystemBaseUri => baseUri?
  | .signatureSecretKey => key?
  | .allowUnsignedDefaults => switch?
  | .requestTimeoutSeconds => number64?
  | .requestBodyLimitBytes => number64?

theorem number16?_eq_some_iff {text : String} {n : Nat} :
    number16? text = some n ↔ Numeral text n ∧ n ≤ 2 ^ 16 - 1 := by
  rw [number16?, boundedNumber?_eq_some_iff]
  exact and_congr_right fun _ => Nat.lt_succ_iff

theorem number64?_eq_some_iff {text : String} {n : Nat} :
    number64? text = some n ↔ Numeral text n ∧ n ≤ 2 ^ 64 - 1 := by
  rw [number64?, boundedNumber?_eq_some_iff]
  exact and_congr_right fun _ => Nat.lt_succ_iff

/-- Looking a text up among words in lower case tells the texts that spell one of them. -/
theorem contains_lower_iff {words : List String} (h : ∀ word ∈ words, NoCapitals word.toList)
    {text : String} : words.contains (lower text) = true ↔ SpellsOneOf words text := by
  rw [List.contains_iff_mem]
  constructor
  · intro hmem
    exact ⟨lower text, hmem, (lower_eq_iff (h _ hmem)).1 rfl⟩
  · rintro ⟨word, hmem, hspells⟩
    rw [(lower_eq_iff (h word hmem)).2 hspells]
    exact hmem

theorem ofSetting_eq_production_iff {text : String} :
    Mode.ofSetting text = .production ↔ SpellsOneOf ["production", "prod"] text := by
  rw [← contains_lower_iff (by decide), Mode.ofSetting]
  by_cases h : (lower text == "production" || lower text == "prod") = true
  · simp_all
  · simp_all

/-- Two modes are the same if both or neither of them is production. -/
theorem mode_eq_iff {mode mode' : Mode} :
    mode = mode' ↔ (mode' = .production ↔ mode = .production) := by
  cases mode <;> cases mode' <;> decide

theorem baseUri?_eq_some_iff {text uri : String} :
    baseUri? text = some uri ↔
      trimmed text = uri ∧ (uri = "" ∨ Url.isAccepted uri = true) := by
  simp only [baseUri?, Bool.or_eq_true, String.isEmpty_iff]
  split
  · next h =>
    rw [Option.some_inj]
    constructor
    · rintro rfl
      exact ⟨rfl, h⟩
    · exact And.left
  · next h =>
    constructor
    · intro hnone
      cases hnone
    · rintro ⟨rfl, hvalid⟩
      exact absurd hvalid h

theorem switch?_eq_true_iff {text : String} :
    switch? text = some true ↔ SpellsOneOf ["true", "1", "yes", "on"] (trimmed text) := by
  rw [← contains_lower_iff (by decide), switch?]
  split
  · next h => exact ⟨fun _ => h, fun _ => rfl⟩
  · next h =>
    constructor
    · intro hswitch
      split at hswitch
      · cases hswitch
      · cases hswitch
    · intro hswitch
      exact absurd hswitch h

theorem switch?_eq_false_iff {text : String} :
    switch? text = some false ↔ SpellsOneOf ["false", "0", "no", "off", ""] (trimmed text) := by
  rw [← contains_lower_iff (by decide), switch?]
  split
  · next h =>
    -- no word is in both lists
    have hdisjoint : ∀ word ∈ ["true", "1", "yes", "on"],
        word ∉ ["false", "0", "no", "off", ""] := by decide
    constructor
    · intro hswitch
      cases hswitch
    · intro hswitch
      rw [List.contains_iff_mem] at h hswitch
      exact absurd hswitch (hdisjoint _ h)
  · split
    · next h => exact ⟨fun _ => h, fun _ => rfl⟩
    · next h =>
      constructor
      · intro hswitch
        cases hswitch
      · intro hswitch
        exact absurd hswitch h

theorem key?_eq_some_iff {text : String} {key : Option SigningKey} :
    key? text = some key ↔ SigningKey.ofBase64 text = .ok key := by
  rw [key?]
  cases SigningKey.ofBase64 text with
  | error cause => simp [Except.toOption]
  | ok key' => simp [Except.toOption]

/-- **Each variable is read as what its text means.** -/
theorem reader_eq_some_iff {v : Variable} {text : String} {m : v.Meaning} :
    reader v text = some m ↔ Denotes v text m := by
  cases v with
  | port => exact number16?_eq_some_iff
  | appEnv =>
    rw [reader, Option.some_inj, mode_eq_iff, ofSetting_eq_production_iff]
    rfl
  | defaultSystemBaseUri => exact baseUri?_eq_some_iff
  | signatureSecretKey =>
    refine key?_eq_some_iff.trans ?_
    cases m with
    | none => exact SigningKey.ofBase64_eq_none_iff
    | some key => exact SigningKey.ofBase64_eq_some_iff
  | allowUnsignedDefaults =>
    cases m with
    | true => rw [reader, Denotes, switch?_eq_true_iff]
    | false => rw [reader, Denotes, switch?_eq_false_iff]
  | requestTimeoutSeconds => exact number64?_eq_some_iff
  | requestBodyLimitBytes => exact number64?_eq_some_iff

variable {lookup lookup' : Variable → Option String} {v : Variable}

theorem value_of_unset {m : v.Meaning} (h : lookup v = none) :
    value lookup v m (reader v) = .ok m := by
  rw [value, h]

theorem value_of_denotes {fallback m : v.Meaning} {text : String} (h : lookup v = some text)
    (hm : Denotes v text m) : value lookup v fallback (reader v) = .ok m := by
  rw [← reader_eq_some_iff] at hm
  simp only [value, h, hm]

theorem value_of_invalid {fallback : v.Meaning} (h : Invalid lookup v) :
    value lookup v fallback (reader v) = .error (.invalid v) := by
  obtain ⟨text, htext, hnone⟩ := h
  cases hr : reader v text with
  | none => simp only [value, htext, hr]
  | some m => exact absurd (reader_eq_some_iff.1 hr) (hnone m)

/-- A variable is unset, or its text has a meaning, or it is invalid. -/
theorem gives_or_invalid (lookup : Variable → Option String) (v : Variable) :
    (∃ m, Gives lookup v m) ∨ Invalid lookup v := by
  cases hv : lookup v with
  | none => exact Or.inl ⟨_, .unset hv⟩
  | some text =>
    by_cases h : ∃ m, Denotes v text m
    · obtain ⟨m, hm⟩ := h
      exact Or.inl ⟨m, .set hv hm⟩
    · rw [not_exists] at h
      exact Or.inr ⟨text, hv, h⟩

theorem Gives.value_eq {m : v.Meaning} (h : Gives lookup v m) :
    value lookup v v.fallback (reader v) = .ok m := by
  cases h with
  | unset hnone => exact value_of_unset hnone
  | set htext hm => exact value_of_denotes htext hm

theorem value_eq_ok_iff {m : v.Meaning} :
    value lookup v v.fallback (reader v) = .ok m ↔ Gives lookup v m := by
  constructor
  · intro h
    rcases gives_or_invalid lookup v with ⟨m', hm'⟩ | hinvalid
    · rw [hm'.value_eq] at h
      cases h
      exact hm'
    · rw [value_of_invalid hinvalid] at h
      cases h
  · exact Gives.value_eq

theorem value_eq_error {e : SettingsError}
    (h : value lookup v v.fallback (reader v) = .error e) : Invalid lookup v ∧ e = .invalid v := by
  rcases gives_or_invalid lookup v with ⟨m, hm⟩ | hinvalid
  · rw [hm.value_eq] at h
    cases h
  · rw [value_of_invalid hinvalid] at h
    cases h
    exact ⟨hinvalid, rfl⟩

/-- A variable with a value is not invalid. -/
theorem Gives.not_invalid {m : v.Meaning} (h : Gives lookup v m) : ¬ Invalid lookup v := by
  intro hinvalid
  have hvalue := h.value_eq
  rw [value_of_invalid hinvalid] at hvalue
  cases hvalue

/-- A variable that is set gives what its text means. -/
theorem Gives.denotes {m : v.Meaning} {text : String} (h : Gives lookup v m)
    (htext : lookup v = some text) : Denotes v text m := by
  cases h with
  | unset hnone =>
    rw [hnone] at htext
    cases htext
  | set htext' hm =>
    rw [htext'] at htext
    cases htext
    exact hm

/-- The value of a variable depends on this variable only. -/
theorem Gives.unique {m m' : v.Meaning} (h : Gives lookup v m) (h' : Gives lookup' v m')
    (hv : lookup v = lookup' v) : m = m' := by
  rw [← value_eq_ok_iff] at h h'
  have hvalue : value lookup v v.fallback (reader v) = value lookup' v v.fallback (reader v) := by
    rw [value, value, hv]
  rw [hvalue, h'] at h
  exact (Except.ok.inj h).symm

/-! ## The port at work -/

/-- A port of 16 bits can be listened on. -/
theorem read?_addressText {port : Nat} (h : port < 65536) :
    SocketAddress.read? (addressText port) = some (.everywhere ⟨port, h⟩) :=
  SocketAddress.read?_everywhere ⟨port, h⟩

theorem Gives.eq_fallback_or_denotes {m : v.Meaning} (h : Gives lookup v m) :
    m = v.fallback ∨ ∃ text, Denotes v text m := by
  cases h with
  | unset _ => exact Or.inl rfl
  | set _ hm => exact Or.inr ⟨_, hm⟩

theorem Gives.port_lt {port : Nat} (h : Gives lookup .port port) : port < 65536 := by
  rcases h.eq_fallback_or_denotes with hfallback | ⟨text, -, hle⟩
  · rw [hfallback]
    decide
  · exact Nat.lt_succ_of_le hle

theorem Gives.listening_eq {port : Nat} (h : Gives lookup .port port) :
    listening port = .ok port := by
  rw [listening, read?_addressText h.port_lt]
  rfl

/-! ## All variables -/

/-- Settings are read exactly if every variable gives what they hold. -/
theorem read_eq_ok_iff {s : Settings} :
    read lookup = .ok s ↔ ∀ v, Gives lookup v (s.field v) := by
  simp only [read, Except.bind_eq_ok_iff]
  constructor
  · rintro ⟨port, hport, port', hlistening, mode, hmode, uri, huri, key, hkey, allow, hallow,
      timeout, htimeout, limit, hlimit, hs⟩
    -- the port of the address is the port that was read
    have hgives := value_eq_ok_iff.1 hport
    rw [hgives.listening_eq] at hlistening
    cases hlistening
    cases hs
    intro v
    cases v with
    | port => exact hgives
    | appEnv => exact value_eq_ok_iff.1 hmode
    | defaultSystemBaseUri => exact value_eq_ok_iff.1 huri
    | signatureSecretKey => exact value_eq_ok_iff.1 hkey
    | allowUnsignedDefaults => exact value_eq_ok_iff.1 hallow
    | requestTimeoutSeconds => exact value_eq_ok_iff.1 htimeout
    | requestBodyLimitBytes => exact value_eq_ok_iff.1 hlimit
  · intro h
    have hvalue : ∀ v, value lookup v v.fallback (reader v) = .ok (s.field v) := fun v =>
      value_eq_ok_iff.2 (h v)
    exact ⟨_, hvalue .port, _, (h .port).listening_eq, _, hvalue .appEnv, _,
      hvalue .defaultSystemBaseUri, _, hvalue .signatureSecretKey, _,
      hvalue .allowUnsignedDefaults, _, hvalue .requestTimeoutSeconds, _,
      hvalue .requestBodyLimitBytes, rfl⟩

/-- The mode can always be read. -/
theorem not_invalid_appEnv : ¬ Invalid lookup .appEnv := by
  rintro ⟨text, -, hnone⟩
  exact hnone _ (reader_eq_some_iff.1 (rfl : reader .appEnv text = some (Mode.ofSetting text)))

/-- One link of the chain: the variable is the invalid one, or it gives a value to go on with. -/
theorem value_bind_eq_error {v : Variable} {next : v.Meaning → Except SettingsError Settings}
    {e : SettingsError} (h : (value lookup v v.fallback (reader v) >>= next) = .error e) :
    (Invalid lookup v ∧ e = .invalid v) ∨
      (¬ Invalid lookup v ∧ ∃ m, Gives lookup v m ∧ next m = .error e) := by
  rcases Except.bind_eq_error_iff.1 h with h | ⟨m, hm, h⟩
  · exact Or.inl (value_eq_error h)
  · have hgives := value_eq_ok_iff.1 hm
    exact Or.inr ⟨hgives.not_invalid, m, hgives, h⟩

/-- An error names the first invalid variable. -/
theorem first_invalid_of_read {e : SettingsError} (h : read lookup = .error e) :
    ∃ v, First (Invalid lookup) Variable.checked v ∧ e = .invalid v := by
  -- link by link: the invalid variable is the first one, since those in front of it give values
  unfold read at h
  rcases value_bind_eq_error (v := .port) h with ⟨hv, rfl⟩ | ⟨hport, port, hgives, h⟩
  · exact ⟨_, .here hv, rfl⟩
  -- neither the address of the port nor the mode can be at fault
  rw [hgives.listening_eq, Except.ok_bind] at h
  rcases value_bind_eq_error (v := .appEnv) h with ⟨hv, rfl⟩ | ⟨-, mode, -, h⟩
  · exact absurd hv not_invalid_appEnv
  rcases value_bind_eq_error (v := .defaultSystemBaseUri) h with ⟨hv, rfl⟩ | ⟨huri, uri, -, h⟩
  · exact ⟨_, .later hport (.here hv), rfl⟩
  rcases value_bind_eq_error (v := .signatureSecretKey) h with ⟨hv, rfl⟩ | ⟨hkey, key, -, h⟩
  · exact ⟨_, .later hport (.later huri (.here hv)), rfl⟩
  rcases value_bind_eq_error (v := .allowUnsignedDefaults) h with ⟨hv, rfl⟩ | ⟨hallow, allow, -, h⟩
  · exact ⟨_, .later hport (.later huri (.later hkey (.here hv))), rfl⟩
  rcases value_bind_eq_error (v := .requestTimeoutSeconds) h with
    ⟨hv, rfl⟩ | ⟨htimeout, timeout, -, h⟩
  · exact ⟨_, .later hport (.later huri (.later hkey (.later hallow (.here hv)))), rfl⟩
  rcases value_bind_eq_error (v := .requestBodyLimitBytes) h with ⟨hv, rfl⟩ | ⟨-, limit, -, h⟩
  · exact ⟨_, .later hport (.later huri (.later hkey (.later hallow (.later htimeout (.here hv))))),
      rfl⟩
  cases h

theorem not_invalid_of_read {s : Settings} (h : read lookup = .ok s) (v : Variable) :
    ¬ Invalid lookup v :=
  (read_eq_ok_iff.1 h v).not_invalid

/-- **Settings are read exactly.** Reading fails with the first invalid variable of
`Variable.checked` and with no other error, and succeeds exactly if none of them is invalid. What it
reads are the settings that hold, for each variable, the meaning of its text or its default, and
each of them depends on its own variable only. The mode is never at fault, and the address made from
the port can be read for every port that the lookup gives. -/
theorem read_answers_exactly (lookup : Variable → Option String) :
    (∀ e, read lookup = .error e ↔
        ∃ v, First (Invalid lookup) Variable.checked v ∧ e = .invalid v) ∧
      ((∃ s, read lookup = .ok s) ↔ ∀ v ∈ Variable.checked, ¬ Invalid lookup v) ∧
      (∀ s, read lookup = .ok s ↔ ∀ v, Gives lookup v (s.field v)) ∧
      (∀ lookup' s s' v, read lookup = .ok s → read lookup' = .ok s' → lookup v = lookup' v →
        s.field v = s'.field v) ∧
      read lookup ≠ .error (.invalid .appEnv) ∧
      ∀ port : Nat, Gives lookup .port port → ∃ h : port < 65536,
        SocketAddress.read? (addressText port) = some (.everywhere ⟨port, h⟩) := by
  have hnamed : ∀ e, read lookup = .error e ↔
      ∃ v, First (Invalid lookup) Variable.checked v ∧ e = .invalid v := by
    intro e
    constructor
    · exact first_invalid_of_read
    · rintro ⟨v, hfirst, rfl⟩
      -- settings are ruled out, and of two first invalid variables there is only one
      cases hread : read lookup with
      | ok s => exact absurd hfirst.holds (not_invalid_of_read hread v)
      | error e =>
        obtain ⟨v', hfirst', rfl⟩ := first_invalid_of_read hread
        rw [hfirst.unique hfirst']
  refine ⟨hnamed, ?_, fun s => read_eq_ok_iff, ?_, ?_, fun port h => ⟨h.port_lt, ?_⟩⟩
  · constructor
    · rintro ⟨s, hread⟩ v -
      exact not_invalid_of_read hread v
    · intro hnone
      cases hread : read lookup with
      | ok s => exact ⟨s, rfl⟩
      | error e =>
        obtain ⟨v, hfirst, -⟩ := first_invalid_of_read hread
        exact absurd hfirst.holds (hnone v hfirst.mem)
  · intro lookup' s s' v hread hread' hv
    exact (read_eq_ok_iff.1 hread v).unique (read_eq_ok_iff.1 hread' v) hv
  · intro hread
    obtain ⟨v, hfirst, hv⟩ := (hnamed _).1 hread
    cases hv
    exact not_invalid_appEnv hfirst.holds
  · exact read?_addressText h.port_lt

-- an error names its variable as the environment does
example : Variable.checked.map (fun v => (SettingsError.invalid v).message) =
    ["invalid configuration: PORT", "invalid configuration: DEFAULT_SYSTEM_BASE_URI",
      "invalid configuration: SIGNATURE_SECRET_KEY",
      "invalid configuration: ALLOW_UNSIGNED_DEFAULTS",
      "invalid configuration: REQUEST_TIMEOUT_SECONDS",
      "invalid configuration: REQUEST_BODY_LIMIT_BYTES"] := by
  decide

end Settings

end TenantGate

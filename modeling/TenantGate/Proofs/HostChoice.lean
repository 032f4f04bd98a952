import TenantGate.Forwarding

/-!
# Which forwarding header supplies the host

`Chooses` states the rule: `Forwarded` supplies the host if it names one, else `X-Forwarded-Host`
does if its first entry is not empty, else there is no host. `choose_eq_iff` says that `choose`
follows this rule and no other. The header that supplied the host and its whole value determine the
host (`Chooses.eq_of_source_of_raw`). A header that does not supply the host has no part in the
choice (`choose_eq_of_not_namesNone`, `choose_eq_of_namesNone`).
-/

set_option autoImplicit false

namespace TenantGate.Forwarding

/-- The header names no host. -/
def NamesNone (read : List Char → Option (List Char)) (header : Option String) : Prop :=
  ∀ raw, header = some raw → read raw.toList = none

/-- The choice between the two headers: the host of `Forwarded`, else that of `X-Forwarded-Host`,
else none. -/
inductive Chooses : Option String → Option String → Option Found → Prop where
  | forwarded {raw : String} {host : List Char} {listed : Option String} :
      forwardedHost? raw.toList = some host →
      Chooses (some raw) listed (some ⟨.forwarded, String.ofList host, raw⟩)
  | listed {forwarded : Option String} {raw : String} {host : List Char} :
      NamesNone forwardedHost? forwarded → listedHost? raw.toList = some host →
      Chooses forwarded (some raw) (some ⟨.xForwardedHost, String.ofList host, raw⟩)
  | neither {forwarded listed : Option String} :
      NamesNone forwardedHost? forwarded → NamesNone listedHost? listed →
      Chooses forwarded listed none

/-- Reading one header finds nothing exactly if the header names no host. -/
theorem bind_foundIn?_eq_none_iff {source : Source} {read : List Char → Option (List Char)}
    {header : Option String} :
    header.bind (foundIn? source read) = none ↔ NamesNone read header := by
  cases header with
  | none => simp [NamesNone]
  | some raw => simp [NamesNone, foundIn?]

/-- What is found in one header is its host, with its whole value. -/
theorem bind_foundIn?_eq_some_iff {source : Source} {read : List Char → Option (List Char)}
    {header : Option String} {found : Found} :
    header.bind (foundIn? source read) = some found ↔
      ∃ raw host, header = some raw ∧ read raw.toList = some host ∧
        found = ⟨source, String.ofList host, raw⟩ := by
  constructor
  · intro h
    obtain ⟨raw, rfl, hraw⟩ := Option.bind_eq_some_iff.1 h
    obtain ⟨host, hhost, rfl⟩ := Option.map_eq_some_iff.1 hraw
    exact ⟨raw, host, rfl, hhost, rfl⟩
  · rintro ⟨raw, host, rfl, hhost, rfl⟩
    simp [foundIn?, hhost]

theorem chooses_choose (forwarded listed : Option String) :
    Chooses forwarded listed (choose forwarded listed) := by
  unfold choose
  cases hf : forwarded.bind (foundIn? .forwarded forwardedHost?) with
  | some found =>
    obtain ⟨raw, host, rfl, hhost, rfl⟩ := bind_foundIn?_eq_some_iff.1 hf
    exact .forwarded hhost
  | none =>
    have hnone := bind_foundIn?_eq_none_iff.1 hf
    cases hl : listed.bind (foundIn? .xForwardedHost listedHost?) with
    | some found =>
      obtain ⟨raw, host, rfl, hhost, rfl⟩ := bind_foundIn?_eq_some_iff.1 hl
      exact .listed hnone hhost
    | none => exact .neither hnone (bind_foundIn?_eq_none_iff.1 hl)

/-- What follows the rule is the choice. -/
theorem Chooses.choose_eq {forwarded listed : Option String} {found : Option Found}
    (h : Chooses forwarded listed found) : choose forwarded listed = found := by
  cases h with
  | forwarded h =>
    have hf : (some _).bind (foundIn? .forwarded forwardedHost?) = some _ :=
      bind_foundIn?_eq_some_iff.2 ⟨_, _, rfl, h, rfl⟩
    rw [choose, hf, Option.some_or]
  | listed hn h =>
    have hl : (some _).bind (foundIn? .xForwardedHost listedHost?) = some _ :=
      bind_foundIn?_eq_some_iff.2 ⟨_, _, rfl, h, rfl⟩
    rw [choose, bind_foundIn?_eq_none_iff.2 hn, Option.none_or, hl]
  | neither hn hl =>
    rw [choose, bind_foundIn?_eq_none_iff.2 hn, Option.none_or, bind_foundIn?_eq_none_iff.2 hl]

/-- **The choice follows the rule and no other.** -/
theorem choose_eq_iff {forwarded listed : Option String} {found : Option Found} :
    choose forwarded listed = found ↔ Chooses forwarded listed found := by
  constructor
  · rintro rfl
    exact chooses_choose forwarded listed
  · exact Chooses.choose_eq

/-- The host read from a found header. -/
def hostIn? : Source → List Char → Option (List Char)
  | .forwarded => forwardedHost?
  | .xForwardedHost => listedHost?

theorem Chooses.hostIn? {forwarded listed : Option String} {found : Found}
    (h : Chooses forwarded listed (some found)) :
    (hostIn? found.source found.raw.toList).map String.ofList = some found.host := by
  cases h with
  | forwarded h => simp [Forwarding.hostIn?, h]
  | listed _ h => simp [Forwarding.hostIn?, h]

/-- A host never comes from an empty value, if empty headers count as absent. -/
theorem Chooses.raw_ne_empty {forwarded listed : Option String} {found : Option Found}
    (h : Chooses forwarded listed found) (hf : forwarded ≠ some "") (hl : listed ≠ some "") :
    found.map (·.raw) ≠ some "" := by
  cases h with
  | forwarded _ => exact hf
  | listed _ _ => exact hl
  | neither _ _ => simp

/-- The header that supplied a host and its whole value determine the host. -/
theorem Chooses.eq_of_source_of_raw {f f' x x' : Option String} {a b : Found}
    (ha : Chooses f x (some a)) (hb : Chooses f' x' (some b)) (hs : a.source = b.source)
    (hr : a.raw = b.raw) : a = b := by
  have h := ha.hostIn?
  rw [hs, hr, hb.hostIn?] at h
  cases a
  cases b
  simp only at hs hr
  simp_all

/-- Hosts that come from the same header with the same value are the same. -/
theorem host_eq_of_raw {f f' x x' : Option String} {a b : Option Found} (ha : Chooses f x a)
    (hb : Chooses f' x' b) (hs : ∀ found ∈ a, ∀ found' ∈ b, found.source = found'.source)
    (hr : a.map (·.raw) = b.map (·.raw)) : a = b := by
  cases a with
  | none =>
    cases b with
    | none => rfl
    | some b => cases hr
  | some a =>
    cases b with
    | none => cases hr
    | some b =>
      exact congrArg some (ha.eq_of_source_of_raw hb (hs a rfl b rfl) (Option.some.inj hr))

/-- The header that supplied a host, with its whole value. -/
def Found.supply (found : Found) : Source × String := (found.source, found.raw)

/-- The choice is known once it is known which header supplied a host, with which value. -/
theorem choose_eq_of_supply {f f' x x' : Option String}
    (h : (choose f x).map Found.supply = (choose f' x').map Found.supply) :
    choose f x = choose f' x' := by
  refine host_eq_of_raw (chooses_choose f x) (chooses_choose f' x') ?_ ?_
  · intro found hfound found' hfound'
    rw [hfound, hfound'] at h
    exact congrArg Prod.fst (Option.some.inj h)
  · have hraw := congrArg (Option.map Prod.snd) h
    rw [Option.map_map, Option.map_map] at hraw
    exact hraw

/-! ## Headers that do not supply the host -/

/-- Where `Forwarded` names a host, `X-Forwarded-Host` does not count. -/
theorem choose_eq_of_not_namesNone {forwarded : Option String}
    (h : ¬ NamesNone forwardedHost? forwarded) (listed listed' : Option String) :
    choose forwarded listed = choose forwarded listed' := by
  rw [← bind_foundIn?_eq_none_iff, ← Ne, Option.ne_none_iff_exists'] at h
  obtain ⟨found, hfound⟩ := h
  rw [choose, choose, hfound, Option.some_or, Option.some_or]

/-- A `Forwarded` header that names no host does not count. -/
theorem choose_eq_of_namesNone {forwarded forwarded' : Option String}
    (h : NamesNone forwardedHost? forwarded) (h' : NamesNone forwardedHost? forwarded')
    (listed : Option String) : choose forwarded listed = choose forwarded' listed := by
  rw [choose, choose, bind_foundIn?_eq_none_iff.2 h, bind_foundIn?_eq_none_iff.2 h']

end TenantGate.Forwarding

import TenantGate.Proofs.Directives
import TenantGate.Proofs.HostChoice

/-!
# What later hops append

A proxy appends to the forwarding headers that it received, behind a separator. `StatesHost` says that
a header has a host directive. Where a scan of the received header ends outside quotes, its host
directive decides and what is appended does not count (`forwardedHost?_append_of_statesHost`), and
without a host directive it is as if the received header were not there
(`forwardedHost?_append_of_not_statesHost`). The host of an `X-Forwarded-Host` header is its first
entry without the blanks around it (`listedHost?_eq_some_iff`, `listedHost?_eq_none_iff`), which no
appended entry changes. The main theorem, `later_entries_never_override`, says so for both headers and
for the choice between them.
-/

set_option autoImplicit false

namespace TenantGate.Forwarding

open TenantGate.Text

/-! ## Appended directives -/

/-- One of the directives of a header is called `host`. -/
def StatesHost (header : List Char) : Prop :=
  ∃ directive ∈ (split header).parts, IsHostDirective directive

instance (header : List Char) : Decidable (StatesHost header) :=
  inferInstanceAs (Decidable (∃ directive ∈ (split header).parts, IsHostDirective directive))

variable {front : List Char} {separator : Char}

/-- A header has the directives of its front and those behind it. -/
theorem statesHost_append_iff (hrun : Scan.plain.run front = .plain)
    (hs : separator = ',' ∨ separator = ';') {back : List Char} :
    StatesHost (front ++ separator :: back) ↔ StatesHost front ∨ StatesHost back := by
  simp only [StatesHost, parts_split_append hrun hs, List.mem_append, or_and_right, exists_or]

theorem not_statesHost_iff {header : List Char} :
    ¬ StatesHost header ↔ ∀ directive ∈ (split header).parts, ¬ IsHostDirective directive := by
  simp only [StatesHost, not_exists, not_and]

theorem statesHost_of_forwardedHost? {header host : List Char}
    (h : forwardedHost? header = some host) : StatesHost header := by
  by_contra hnone
  rw [forwardedHost?, hostOf?_eq_none (not_statesHost_iff.1 hnone)] at h
  cases h

/-- The first host directive decides, even if its value is empty. -/
theorem forwardedHost?_append_of_statesHost (hrun : Scan.plain.run front = .plain)
    (hs : separator = ',' ∨ separator = ';') (h : StatesHost front) (back : List Char) :
    forwardedHost? (front ++ separator :: back) = forwardedHost? front := by
  rw [forwardedHost?, forwardedHost?, parts_split_append hrun hs, hostOf?_append_of_host h]

theorem forwardedHost?_append_of_not_statesHost (hrun : Scan.plain.run front = .plain)
    (hs : separator = ',' ∨ separator = ';') (h : ¬ StatesHost front) (back : List Char) :
    forwardedHost? (front ++ separator :: back) = forwardedHost? back := by
  rw [forwardedHost?, forwardedHost?, parts_split_append hrun hs,
    hostOf?_append_of_none (not_statesHost_iff.1 h)]

/-! ## List entries -/

/-- The first entry of a list reaches to its first comma, or to its end where it has none. -/
inductive FirstEntry : List Char → List Char → Prop where
  | only {entry : List Char} : ',' ∉ entry → FirstEntry entry entry
  | before {entry : List Char} (more : List Char) :
      ',' ∉ entry → FirstEntry (entry ++ ',' :: more) entry

theorem exists_firstEntry (header : List Char) : ∃ entry, FirstEntry header entry := by
  by_cases hcomma : ',' ∈ header
  · obtain ⟨entry, more, rfl, hentry⟩ := List.eq_append_cons_of_mem hcomma
    exact ⟨entry, .before more hentry⟩
  · exact ⟨header, .only hcomma⟩

theorem FirstEntry.takeWhile_eq {header entry : List Char} (h : FirstEntry header entry) :
    header.takeWhile (· != ',') = entry := by
  have hkept : ',' ∉ entry → ∀ c ∈ entry, (c != ',') = true := by
    rintro hentry c hc
    exact bne_iff_ne.2 fun hcomma => hentry (hcomma ▸ hc)
  cases h with
  | only hentry => exact List.takeWhile_eq_self_iff.2 (hkept hentry)
  | before more hentry =>
    rw [List.takeWhile_append_of_pos (hkept hentry), List.takeWhile_cons_of_neg (by decide),
      List.append_nil]

theorem takeWhile_eq_iff_firstEntry {header entry : List Char} :
    header.takeWhile (· != ',') = entry ↔ FirstEntry header entry := by
  constructor
  · rintro rfl
    obtain ⟨entry, h⟩ := exists_firstEntry header
    rwa [h.takeWhile_eq]
  · exact FirstEntry.takeWhile_eq

/-- **The host of a list is its first entry without the blanks around it.** -/
theorem listedHost?_eq_some_iff {header host : List Char} :
    listedHost? header = some host ↔
      host ≠ [] ∧ Tight host ∧ ∃ front back, (∀ c ∈ front, isBlank c = true) ∧
        (∀ c ∈ back, isBlank c = true) ∧ FirstEntry header (front ++ (host ++ back)) := by
  rw [listedHost?, nonEmpty?_eq_some_iff]
  constructor
  · rintro ⟨htrim, hne⟩
    obtain ⟨htight, front, back, hfront, hback, hentry⟩ := trim_eq_iff.1 htrim
    exact ⟨hne, htight, front, back, hfront, hback, takeWhile_eq_iff_firstEntry.1 hentry⟩
  · rintro ⟨hne, htight, front, back, hfront, hback, hentry⟩
    exact ⟨trim_eq_iff.2 ⟨htight, front, back, hfront, hback, hentry.takeWhile_eq⟩, hne⟩

/-- A list names no host exactly if its first entry is blank. -/
theorem listedHost?_eq_none_iff {header : List Char} :
    listedHost? header = none ↔
      ∃ entry, FirstEntry header entry ∧ ∀ c ∈ entry, isBlank c = true := by
  rw [listedHost?, nonEmpty?_eq_none_iff, trim_eq_nil_iff]
  constructor
  · intro h
    exact ⟨_, takeWhile_eq_iff_firstEntry.1 rfl, h⟩
  · rintro ⟨entry, hentry, h⟩
    rwa [hentry.takeWhile_eq]

/-- What stands behind a comma is beyond the first entry. -/
theorem FirstEntry.append {front entry : List Char} (h : FirstEntry front entry)
    (back : List Char) : FirstEntry (front ++ ',' :: back) entry := by
  cases h with
  | only hentry => exact .before back hentry
  | before more hentry =>
    rw [List.append_assoc, List.cons_append]
    exact .before (more ++ ',' :: back) hentry

theorem listedHost?_append (front back : List Char) :
    listedHost? (front ++ ',' :: back) = listedHost? front := by
  obtain ⟨entry, h⟩ := exists_firstEntry front
  rw [listedHost?, listedHost?, (h.append back).takeWhile_eq, h.takeWhile_eq]

/-! ## The choice -/

/-- A header with more behind a separator. -/
def appended (header : String) (separator : Char) (more : String) : String :=
  header ++ String.singleton separator ++ more

theorem toList_appended (header : String) (separator : Char) (more : String) :
    (appended header separator more).toList = header.toList ++ separator :: more.toList := by
  rw [appended, String.toList_append, String.toList_append, String.toList_singleton,
    List.append_assoc, List.singleton_append]

/-- The choice of `Forwarded` stands, whatever is appended to it. -/
theorem choose_appended {forwarded : String} {listed : Option String} {found : Found}
    (hrun : Scan.plain.run forwarded.toList = .plain) (hs : separator = ',' ∨ separator = ';')
    (h : choose (some forwarded) listed = some found) (hsource : found.source = .forwarded)
    (more : String) :
    choose (some (appended forwarded separator more)) listed =
      some { found with raw := appended forwarded separator more } := by
  cases choose_eq_iff.1 h with
  | forwarded hhost =>
    refine Chooses.choose_eq (.forwarded ?_)
    rw [toList_appended, forwardedHost?_append_of_statesHost hrun hs
      (statesHost_of_forwardedHost? hhost), hhost]
  | listed _ _ => cases hsource

/-- **Later entries never override the first host.** Let a scan of a `Forwarded` header end outside
quotes. Whatever is appended to it behind a separator, the host is the one that the header named
before, also where this is none because the value is empty, if the header states one at all, and else
the host of what is appended. Whatever is appended to an `X-Forwarded-Host` header behind a comma, its
host is the same. So a choice of `Forwarded` keeps its source and its host. -/
theorem later_entries_never_override :
    (∀ (front back : List Char) (separator : Char), Scan.plain.run front = .plain →
        separator = ',' ∨ separator = ';' →
        (StatesHost front →
          forwardedHost? (front ++ separator :: back) = forwardedHost? front) ∧
        (¬ StatesHost front →
          forwardedHost? (front ++ separator :: back) = forwardedHost? back)) ∧
      (∀ front back : List Char,
        listedHost? (front ++ ',' :: back) = listedHost? front) ∧
      ∀ (forwarded more : String) (separator : Char) (listed : Option String) (found : Found),
        Scan.plain.run forwarded.toList = .plain → separator = ',' ∨ separator = ';' →
        choose (some forwarded) listed = some found → found.source = .forwarded →
        ∃ found', choose (some (appended forwarded separator more)) listed = some found' ∧
          found'.source = found.source ∧ found'.host = found.host := by
  refine ⟨?_, listedHost?_append, ?_⟩
  · intro front back separator hrun hs
    exact ⟨fun h => forwardedHost?_append_of_statesHost hrun hs h back,
      fun h => forwardedHost?_append_of_not_statesHost hrun hs h back⟩
  · intro forwarded more separator listed found hrun hs h hsource
    exact ⟨_, choose_appended hrun hs h hsource more, rfl, rfl⟩

/-- A header whose host is empty. -/
def emptyHost : List Char := "for=\"x;y\"; HOST = \"\"".toList

/-- A header without a host, in which one stands between quotes. -/
def quotedAway : List Char := "for=\"x;host=a\"".toList

/-- An empty host is not replaced by a later one, a header without a host leaves it to what is
appended, however badly this is quoted, and the choice of the first host stands. -/
theorem later_entries_never_override_emptyHost :
    forwardedHost? (emptyHost ++ ',' :: "host=b".toList) = none ∧
      forwardedHost? (quotedAway ++ ';' :: "host=\"b\\".toList) = some "b\\".toList ∧
      listedHost? (" a ".toList ++ ',' :: "\",b".toList) = some ['a'] ∧
      ∃ found, choose (some (appended "host=\"a;\\\"\"" ',' "host=b\"")) (some "c") = some found ∧
        found.source = .forwarded ∧ found.host = "a;\\\"" := by
  obtain ⟨hforwarded, hlisted, hchoose⟩ := later_entries_never_override
  refine ⟨?_, ?_, ?_, ?_⟩
  · obtain ⟨hstates, -⟩ := hforwarded emptyHost "host=b".toList ',' (by decide) (Or.inl rfl)
    rw [hstates (by decide)]
    decide
  · obtain ⟨-, hstatesNot⟩ :=
      hforwarded quotedAway "host=\"b\\".toList ';' (by decide) (Or.inr rfl)
    rw [hstatesNot (by decide)]
    decide
  · rw [hlisted]
    decide
  · exact hchoose "host=\"a;\\\"\"" "host=b\"" ',' (some "c")
      ⟨.forwarded, "a;\\\"", "host=\"a;\\\"\""⟩ (by decide) (Or.inl rfl) (by decide) rfl

end TenantGate.Forwarding

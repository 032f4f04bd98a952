import TenantGate.Proofs.Directives
import TenantGate.Proofs.LetterCase
import TenantGate.Proofs.Outcomes

/-!
# How far an unquoted host reaches

A scan of a forwarding header opens a quoted string at any double quote outside of one, also in the
middle of a value, while only a double quote at the start of a value is taken off. So a host that is
not quoted can reach beyond a separator, if it has a double quote before it
(`unquoted_host_reaches_beyond_separator`). The main theorem, `separator_in_host_is_quoted`, says
that this is the only way: a separator in an unquoted host stands inside quotes that the host itself
opens, and quotes elsewhere in the header do not matter.
-/

set_option autoImplicit false

namespace TenantGate.Forwarding

open TenantGate.Text

/-- Name and value of the first directive of a header that is called `host`. -/
def FirstHost (header : List Char) (pair : List Char × List Char) : Prop :=
  First (fun p => isHostName p.1 = true) ((split header).parts.filterMap nameValue?) pair

/-- The value is not a quoted string, nor one without its closing quote. -/
def Unquoted (value : List Char) : Prop := (trim value).head? ≠ some '"'

theorem forwardedHost?_of_firstHost {header : List Char} {pair : List Char × List Char}
    (h : FirstHost header pair) : forwardedHost? header = nonEmpty? (unquote (trim pair.2)) := by
  rw [forwardedHost?, hostOf?, First.find?_eq_some_iff.2 h, Option.bind_some]

/-- A name of four letters and blanks has no quotes. -/
theorem ne_quote_of_isHostName {name : List Char} (h : isHostName name = true) :
    ∀ c ∈ name, c ≠ '"' := by
  have hspells := (sameLetters_iff (by decide)).1 h
  obtain ⟨front, back, hfront, hback, hname⟩ := exists_eq_blank_trim_blank name
  rw [hname]
  have hblank : ∀ c, isBlank c = true → c ≠ '"' := fun c hc => (Scan.bare_of_isBlank hc).2.2
  have hletter : ∀ c ∈ trim name, c ≠ '"' := by
    rintro _ hc rfl
    obtain ⟨letter, hmem, heq⟩ := hspells.exists_letter hc
    simp only [List.mem_cons, List.not_mem_nil, or_false] at hmem
    rcases hmem with rfl | rfl | rfl | rfl <;> revert heq <;> decide
  intro c hc
  rcases List.mem_append.1 hc with hc | hc
  · exact hblank c (hfront c hc)
  rcases List.mem_append.1 hc with hc | hc
  · exact hletter c hc
  · exact hblank c (hback c hc)

/-- The value of the first host directive is reached outside quotes, and so is its trimming. -/
theorem whole_of_firstHost {header : List Char} {pair : List Char × List Char}
    (h : FirstHost header pair) : Scan.plain.Whole (trim pair.2) := by
  obtain ⟨part, hpart, hpair⟩ := List.mem_filterMap.1 h.mem
  have hwhole : Scan.plain.Whole part := whole_of_mem_parts hpart
  rw [eq_of_nameValue? hpair] at hwhole
  -- the scan passes the name, the equals sign and the blanks in front of the value
  have hname : Scan.plain.run pair.1 = .plain := Scan.run_plain (ne_quote_of_isHostName h.holds)
  have hvalue : Scan.plain.Whole pair.2 := by
    have hrest := (Scan.whole_append_iff.1 hwhole).2
    rw [hname] at hrest
    exact hrest.2
  obtain ⟨front, back, hfront, -, heq⟩ := exists_eq_blank_trim_blank pair.2
  rw [heq, Scan.whole_append_iff,
    Scan.run_plain_of_bare fun c hc => Scan.bare_of_isBlank (hfront c hc)] at hvalue
  exact (Scan.whole_append_iff.1 hvalue.2).1

/-- **A separator in an unquoted host stands inside quotes of the host itself.** Whatever quotes and
backslashes the header has elsewhere, an unquoted host reaches beyond a separator only behind a
double quote of its own; without one it holds no separator. -/
theorem separator_in_host_is_quoted {header host : List Char} {pair : List Char × List Char}
    (hfirst : FirstHost header pair) (hunquoted : Unquoted pair.2)
    (h : forwardedHost? header = some host) :
    host = trim pair.2 ∧
      (∀ front c back, host = front ++ c :: back → c = ',' ∨ c = ';' →
        Scan.plain.run front ≠ .plain ∧ '"' ∈ front) ∧
      ('"' ∉ host → ',' ∉ host ∧ ';' ∉ host) := by
  rw [forwardedHost?_of_firstHost hfirst, unquote_of_head? hunquoted, nonEmpty?_eq_some_iff] at h
  obtain ⟨hhost, -⟩ := h
  have hwhole : Scan.plain.Whole host := hhost ▸ whole_of_firstHost hfirst
  have hquoted : ∀ front c back, host = front ++ c :: back → c = ',' ∨ c = ';' →
      Scan.plain.run front ≠ .plain ∧ '"' ∈ front := by
    intro front c back heq hc
    rw [heq] at hwhole
    have hrun := hwhole.run_ne_plain hc
    refine ⟨hrun, ?_⟩
    by_contra hquote
    refine hrun (Scan.run_plain ?_)
    rintro _ hd rfl
    exact hquote hd
  have hnone : '"' ∉ host → ∀ c, c = ',' ∨ c = ';' → c ∉ host := by
    intro hquote c hc hmem
    obtain ⟨front, back, heq⟩ := List.append_of_mem hmem
    refine hquote ?_
    rw [heq]
    exact List.mem_append_left _ (hquoted front c back heq hc).2
  exact ⟨hhost.symm, hquoted, fun hquote =>
    ⟨hnone hquote _ (Or.inl rfl), hnone hquote _ (Or.inr rfl)⟩⟩

/-- A header with quotes and backslashes around an unquoted host. -/
def quotesAround : List Char := "for=\"x,host=y\\\";\"; Host = a\\,b=\";".toList

/-- A header whose unquoted host has quotes inside. -/
def quotesInside : List Char := "host=a\"b,c\"".toList

theorem firstHost_quotesAround : FirstHost quotesAround (" Host ".toList, " a\\".toList) := by
  rw [FirstHost, ← First.find?_eq_some_iff]
  decide

theorem firstHost_quotesInside : FirstHost quotesInside ("host".toList, "a\"b,c\"".toList) := by
  rw [FirstHost, ← First.find?_eq_some_iff]
  decide

/-- Quotes around an unquoted host do not lead it beyond a separator; the comma in the other host
stands behind a quote of this host. -/
theorem separator_in_host_is_quoted_around_inside :
    (forwardedHost? quotesAround = some "a\\".toList ∧
        ',' ∉ "a\\".toList ∧ ';' ∉ "a\\".toList) ∧
      forwardedHost? quotesInside = some "a\"b,c\"".toList ∧
        Scan.plain.run "a\"b".toList ≠ .plain ∧ '"' ∈ "a\"b".toList := by
  have haround : forwardedHost? quotesAround = some "a\\".toList := by decide
  have hinside : forwardedHost? quotesInside = some "a\"b,c\"".toList := by decide
  obtain ⟨-, -, hnone⟩ :=
    separator_in_host_is_quoted firstHost_quotesAround (by unfold Unquoted; decide) haround
  obtain ⟨-, hquoted, -⟩ :=
    separator_in_host_is_quoted firstHost_quotesInside (by unfold Unquoted; decide) hinside
  exact ⟨⟨haround, hnone (by decide)⟩, hinside,
    hquoted "a\"b".toList ',' "c\"".toList (by decide) (Or.inl rfl)⟩

/-- An unquoted host can reach beyond a comma. -/
theorem unquoted_host_reaches_beyond_separator :
    ∃ pair, FirstHost quotesInside pair ∧ Unquoted pair.2 ∧
      forwardedHost? quotesInside = some "a\"b,c\"".toList ∧ ',' ∈ "a\"b,c\"".toList :=
  ⟨_, firstHost_quotesInside, by unfold Unquoted; decide, by decide, by decide⟩

end TenantGate.Forwarding

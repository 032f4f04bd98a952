import Mathlib.Data.List.Induction
import Mathlib.Data.List.Infix
import TenantGate.Proofs.LaterHops

/-!
# Hosts without a closing quote

The quotes around a host are opened and never closed if each double quote behind the first one is
shielded by a backslash (`Shielded`). A scan then ends inside quotes (`Shielded.run_ne_plain`), so the
host reaches to the end of the header. The main theorem, `unterminated_host_is_read`, gives the host
for every such header: it is what stands behind the quote, without the blanks at its end, unless this
ends in a shielded quote. Taking off the quotes does not look at backslashes, so this last quote is
lost (`shielded_quote_is_taken_off`).
-/

set_option autoImplicit false

namespace TenantGate.Forwarding

open TenantGate.Text

/-! ## Shielded quotes -/

/-- Each double quote of a text inside quotes stands behind a backslash that counts. -/
def Shielded (text : List Char) : Prop :=
  ∀ front, front ++ ['"'] <+: text → Scan.quoted.run front = .escaped

instance (text : List Char) : Decidable (Shielded text) :=
  decidable_of_iff
    (∀ front ∈ text.inits, front ++ ['"'] <+: text → Scan.quoted.run front = .escaped) (by
      constructor
      · intro h front hquote
        exact h front ((List.mem_inits _ _).2 ((List.prefix_append front ['"']).trans hquote)) hquote
      · intro h front _ hquote
        exact h front hquote)

theorem Shielded.of_prefix {front text : List Char} (h : Shielded text) (hfront : front <+: text) :
    Shielded front := by
  intro shorter hquote
  exact h shorter (hquote.trans hfront)

namespace Scan

theorem next_quoted {c : Char} (h : c ≠ '"') : quoted.next c ≠ plain := by
  rw [next, if_neg h]
  split
  · exact Scan.noConfusion
  · exact Scan.noConfusion

theorem cuts_of_ne_plain {st : Scan} (h : st ≠ plain) (c : Char) : st.cuts c = false := by
  rw [Bool.eq_false_iff]
  intro hcut
  exact h (eq_plain_of_cuts hcut)

/-- A text within which a scan is never outside quotes is whole. -/
theorem whole_of_run_ne_plain {st : Scan} {text : List Char}
    (h : ∀ front, front <+: text → st.run front ≠ plain) : st.Whole text := by
  induction text generalizing st with
  | nil => trivial
  | cons c text ih =>
    refine ⟨cuts_of_ne_plain (h [] List.nil_prefix) c, ?_⟩
    apply ih
    intro front hfront
    exact h (c :: front) ((List.prefix_cons_inj c).2 hfront)

/-- A scan that stands behind a backslash has just met one. -/
theorem exists_of_run_escaped {text : List Char} (h : quoted.run text = escaped) :
    ∃ front, text = front ++ ['\\'] := by
  induction text using List.reverseRecOn with
  | nil => cases h
  | append_singleton front c _ =>
    refine ⟨front, ?_⟩
    rw [run_append, run_cons, run_nil] at h
    cases hst : quoted.run front with
    | plain =>
      rw [hst, next] at h
      split at h <;> cases h
    | escaped =>
      rw [hst] at h
      cases h
    | quoted =>
      rw [hst, next] at h
      split at h
      · next hc => rw [hc]
      · split at h <;> cases h

end Scan

/-- Shielded quotes do not lead a scan out of quotes. -/
theorem Shielded.run_ne_plain {text : List Char} (h : Shielded text) :
    Scan.quoted.run text ≠ .plain := by
  induction text using List.reverseRecOn with
  | nil => exact Scan.noConfusion
  | append_singleton front c ih =>
    have hfront : Scan.quoted.run front ≠ .plain := ih (h.of_prefix (List.prefix_append front [c]))
    rw [Scan.run_append, Scan.run_cons, Scan.run_nil]
    -- the last character leads out of quotes only if it is a quote, and then it is shielded
    cases hst : Scan.quoted.run front with
    | plain => exact absurd hst hfront
    | escaped => exact Scan.noConfusion
    | quoted =>
      apply Scan.next_quoted
      rintro rfl
      rw [h front List.prefix_rfl] at hst
      cases hst

theorem Shielded.whole {text : List Char} (h : Shielded text) : Scan.quoted.Whole text :=
  Scan.whole_of_run_ne_plain fun _ hfront => (h.of_prefix hfront).run_ne_plain

/-! ## What stands in front of the host -/

/-- The front of a header: nothing, or directives without a host up to a separator outside quotes. -/
structure Opening (before : List Char) : Prop where
  cut : before = [] ∨ ∃ front separator, before = front ++ [separator] ∧
    (separator = ',' ∨ separator = ';') ∧ Scan.plain.run front = .plain
  hostless : ¬ StatesHost before

variable {before text : List Char}

theorem Opening.run_eq (h : Opening before) : Scan.plain.run before = .plain := by
  rcases h.cut with rfl | ⟨front, separator, rfl, hs, hrun⟩
  · rfl
  · rw [Scan.run_append, hrun, Scan.run_cons, Scan.run_nil]
    exact Scan.next_of_cuts (Scan.cuts_of_separator hs)

/-- What stands in front of the host does not count. -/
theorem Opening.forwardedHost?_append (h : Opening before) (rest : List Char) :
    forwardedHost? (before ++ rest) = forwardedHost? rest := by
  rcases h.cut with rfl | ⟨front, separator, rfl, hs, hrun⟩
  · rfl
  · have hfront : ¬ StatesHost front := by
      intro hhost
      exact h.hostless ((statesHost_append_iff hrun hs).2 (Or.inl hhost))
    rw [List.append_assoc, List.singleton_append,
      forwardedHost?_append_of_not_statesHost hrun hs hfront]

/-! ## The host -/

/-- A host directive whose value begins with a quote. -/
def quotedHost (text : List Char) : List Char := "host".toList ++ '=' :: '"' :: text

theorem run_quotedHost (text : List Char) :
    Scan.plain.run (quotedHost text) = Scan.quoted.run text := rfl

theorem whole_quotedHost (h : Scan.quoted.Whole text) : Scan.plain.Whole (quotedHost text) := by
  have hname : Scan.plain.Whole "host".toList := ⟨rfl, rfl, rfl, rfl, trivial⟩
  exact Scan.whole_append_iff.2 ⟨hname, rfl, rfl, h⟩

/-- The value between its quotes, of which the second one may be missing. -/
theorem unquote_cons_quote (text : List Char) :
    unquote ('"' :: text) = if text.getLast? = some '"' then text.dropLast else text := by
  rw [unquote, if_pos rfl]

theorem hostOf?_quotedHost (text : List Char) :
    hostOf? [quotedHost text] = nonEmpty? (unquote ('"' :: trimEnd text)) := by
  have hpair : nameValue? (quotedHost text) = some ("host".toList, '"' :: text) := rfl
  have hname : isHostName "host".toList = true := by decide
  rw [hostOf?_cons_of_host hpair hname, trim_cons (by decide)]

/-- The host of a header that ends inside the quotes around it. -/
theorem forwardedHost?_unterminated (hopening : Opening before) (htext : Shielded text) :
    forwardedHost? (before ++ quotedHost text) =
      nonEmpty? (unquote ('"' :: trimEnd text)) := by
  rw [hopening.forwardedHost?_append, forwardedHost?,
    parts_split_of_whole (whole_quotedHost htext.whole), hostOf?_quotedHost]

/-- **A host without a closing quote is read to the end of the header.** Let the value of the first
host directive begin with a double quote, and let each later one be shielded by a backslash, so that
a scan of the header ends inside quotes. The host is what stands behind the first quote, without the
blanks at its end, and there is none if this is empty. Only if it ends in a shielded quote, the host
lacks this quote and ends in its backslash. -/
theorem unterminated_host_is_read (hopening : Opening before) (htext : Shielded text) :
    Scan.plain.run (before ++ quotedHost text) ≠ .plain ∧
      ((trimEnd text).getLast? ≠ some '"' →
        forwardedHost? (before ++ quotedHost text) =
          if trimEnd text = [] then none else some (trimEnd text)) ∧
      ∀ host, trimEnd text = host ++ ['"'] →
        forwardedHost? (before ++ quotedHost text) = some host ∧ host.getLast? = some '\\' := by
  refine ⟨?_, ?_, ?_⟩
  · rw [Scan.run_append, hopening.run_eq, run_quotedHost]
    exact htext.run_ne_plain
  · intro hlast
    rw [forwardedHost?_unterminated hopening htext, unquote_cons_quote, if_neg hlast, nonEmpty?]
    simp only [List.isEmpty_iff]
  · intro host hhost
    -- the quote at the end is shielded, so the host has at least the backslash
    have hprefix : host ++ ['"'] <+: text := hhost ▸ trimEnd_prefix text
    obtain ⟨front, rfl⟩ := Scan.exists_of_run_escaped (htext host hprefix)
    have hlast : (trimEnd text).getLast? = some '"' := by rw [hhost, List.getLast?_concat]
    rw [forwardedHost?_unterminated hopening htext, unquote_cons_quote, if_pos hlast, hhost,
      List.dropLast_concat]
    exact ⟨nonEmpty?_eq_some_iff.2 ⟨rfl, by simp⟩, List.getLast?_concat⟩

/-- The front of a header in which a host stands between quotes. -/
theorem opening_quotedAway : Opening (quotedAway ++ [';']) where
  cut := Or.inr ⟨quotedAway, ';', rfl, Or.inr rfl, by decide⟩
  hostless := by decide

/-- Separators, blanks and shielded quotes belong to the host, apart from what stands at its end. -/
theorem unterminated_host_is_read_quotedAway :
    forwardedHost? (quotedAway ++ [';'] ++ quotedHost " a,\\\";host=b\u3000".toList) =
        some " a,\\\";host=b".toList ∧
      forwardedHost? (quotedAway ++ [';'] ++ quotedHost "c\\\\\\\"\t".toList) =
        some "c\\\\\\".toList := by
  obtain ⟨-, hopen, -⟩ := unterminated_host_is_read opening_quotedAway
    (by decide : Shielded " a,\\\";host=b\u3000".toList)
  obtain ⟨-, -, hquote⟩ := unterminated_host_is_read opening_quotedAway
    (by decide : Shielded "c\\\\\\\"\t".toList)
  constructor
  · rw [hopen (by decide)]
    decide
  · exact (hquote "c\\\\\\".toList (by decide)).1

/-- A shielded quote can be taken for the closing one. -/
theorem shielded_quote_is_taken_off :
    Opening [] ∧ Shielded "a\\\"".toList ∧ trimEnd "a\\\"".toList = "a\\\"".toList ∧
      forwardedHost? ([] ++ quotedHost "a\\\"".toList) = some "a\\".toList ∧
      forwardedHost? ([] ++ quotedHost "a\\\"".toList) ≠ some (trimEnd "a\\\"".toList) :=
  ⟨⟨Or.inl rfl, by decide⟩, by decide, by decide, by decide, by decide⟩

end TenantGate.Forwarding

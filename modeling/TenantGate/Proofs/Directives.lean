import TenantGate.Forwarding
import TenantGate.Proofs.LetterCase
import TenantGate.Proofs.Texts

/-!
# The directives of a forwarding header

A text is whole in a state (`Scan.Whole`) if a scan that reaches it in this state meets no separator
outside quotes. A whole text stays in one directive, whatever stands behind it
(`splitFrom_append_of_whole`). A separator that a scan reaches outside quotes parts a header into two
that are cut each on its own (`parts_split_append`), so that a header written as whole texts with
separators between them is cut at these separators (`parts_split_cons`). Conversely every directive
of a header is whole (`whole_of_mem_parts`). The last parts take one directive apart, its name, its
value and the quotes around the value, and say which directives of a list decide its host
(`hostOf?_append_of_host`, `hostOf?_append_of_none`).
-/

set_option autoImplicit false

namespace TenantGate.Forwarding

open TenantGate.Text

/-! ## Scans -/

namespace Scan

/-- No separator in the text counts for a scan that reaches the text in the given state. -/
def Whole : Scan → List Char → Prop
  | _, [] => True
  | st, c :: cs => st.cuts c = false ∧ Whole (st.next c) cs

/-- A character that does nothing to a scan outside quotes. -/
def Bare (c : Char) : Prop := c ≠ ',' ∧ c ≠ ';' ∧ c ≠ '"'

instance (c : Char) : Decidable (Bare c) :=
  inferInstanceAs (Decidable (c ≠ ',' ∧ c ≠ ';' ∧ c ≠ '"'))

@[simp] theorem run_nil (st : Scan) : st.run [] = st := rfl

@[simp] theorem run_cons (st : Scan) (c : Char) (cs : List Char) :
    st.run (c :: cs) = (st.next c).run cs := rfl

theorem run_append (st : Scan) (a b : List Char) : st.run (a ++ b) = (st.run a).run b :=
  List.foldl_append

theorem whole_append_iff {st : Scan} {a b : List Char} :
    st.Whole (a ++ b) ↔ st.Whole a ∧ (st.run a).Whole b := by
  induction a generalizing st with
  | nil => simp [Whole]
  | cons c a ih => simp [Whole, ih, and_assoc]

theorem cuts_eq_false_of_bare {st : Scan} {c : Char} (h : Bare c) : st.cuts c = false := by
  obtain ⟨hcomma, hsemicolon, -⟩ := h
  simp [cuts, hcomma, hsemicolon]

theorem cuts_eq_true_iff {st : Scan} {c : Char} :
    st.cuts c = true ↔ st = plain ∧ (c = ',' ∨ c = ';') := by
  simp [cuts]

theorem cuts_of_separator {separator : Char} (h : separator = ',' ∨ separator = ';') :
    plain.cuts separator = true :=
  cuts_eq_true_iff.2 ⟨rfl, h⟩

theorem eq_plain_of_cuts {st : Scan} {c : Char} (h : st.cuts c = true) : st = plain :=
  (cuts_eq_true_iff.1 h).1

/-- A separator leaves a scan outside quotes. -/
theorem next_of_cuts {st : Scan} {c : Char} (h : st.cuts c = true) : st.next c = plain := by
  obtain rfl := eq_plain_of_cuts h
  refine if_neg ?_
  rintro rfl
  cases h

/-- Without double quotes a scan stays outside quotes. -/
theorem run_plain {cs : List Char} (h : ∀ c ∈ cs, c ≠ '"') : plain.run cs = plain := by
  induction cs with
  | nil => rfl
  | cons c cs ih =>
    have hnext : plain.next c = plain := if_neg (h c List.mem_cons_self)
    rw [run_cons, hnext]
    exact ih fun d hd => h d (List.mem_cons_of_mem c hd)

theorem run_plain_of_bare {cs : List Char} (h : ∀ c ∈ cs, Bare c) : plain.run cs = plain :=
  run_plain fun c hc => (h c hc).2.2

theorem whole_of_bare {st : Scan} {cs : List Char} (h : ∀ c ∈ cs, Bare c) : st.Whole cs := by
  induction cs generalizing st with
  | nil => trivial
  | cons c cs ih =>
    refine ⟨cuts_eq_false_of_bare (h c List.mem_cons_self), ih ?_⟩
    intro d hd
    exact h d (List.mem_cons_of_mem c hd)

theorem bare_of_isBlank {c : Char} (h : isBlank c = true) : Bare c := by
  refine ⟨?_, ?_, ?_⟩
  all_goals
    rintro rfl
    revert h
    decide

/-- A separator in a whole text stands inside quotes. -/
theorem Whole.run_ne_plain {front back : List Char} {c : Char} {st : Scan}
    (h : st.Whole (front ++ c :: back)) (hc : c = ',' ∨ c = ';') : st.run front ≠ plain := by
  obtain ⟨-, hcut, -⟩ := whole_append_iff.1 h
  intro hplain
  rw [hplain] at hcut
  rcases hc with rfl | rfl
  · cases hcut
  · cases hcut

end Scan

/-! ## Cutting -/

namespace Split

/-- The same split with more text in front of the first directive. -/
def prepend (front : List Char) (s : Split) : Split := ⟨front ++ s.first, s.later⟩

@[simp] theorem push_prepend (c : Char) (front : List Char) (s : Split) :
    (s.prepend front).push c = s.prepend (c :: front) := rfl

theorem parts_prepend (front : List Char) (s : Split) :
    (s.prepend front).parts = (front ++ s.first) :: s.later.map Prod.snd := rfl

/-- A split with a separator and another split behind it. -/
def followedBy (s : Split) (separator : Char) (t : Split) : Split :=
  ⟨s.first, s.later ++ (separator, t.first) :: t.later⟩

theorem push_followedBy (c separator : Char) (s t : Split) :
    (s.push c).followedBy separator t = (s.followedBy separator t).push c := rfl

theorem cut_followedBy (c separator : Char) (s t : Split) :
    (s.cut c).followedBy separator t = (s.followedBy separator t).cut c := rfl

theorem parts_followedBy (s : Split) (separator : Char) (t : Split) :
    (s.followedBy separator t).parts = s.parts ++ t.parts := by
  simp [followedBy, parts]

end Split

/-- A whole text stays in one directive. -/
theorem splitFrom_append_of_whole {st : Scan} {front : List Char} (h : st.Whole front)
    (rest : List Char) :
    splitFrom st (front ++ rest) = (splitFrom (st.run front) rest).prepend front := by
  induction front generalizing st with
  | nil => rfl
  | cons c front ih =>
    obtain ⟨hcut, hfront⟩ := h
    rw [List.cons_append, splitFrom, hcut, if_neg Bool.false_ne_true, ih hfront,
      Split.push_prepend, Scan.run_cons]

/-- A text that is whole outside quotes is the only directive. -/
theorem parts_split_of_whole {cs : List Char} (h : Scan.plain.Whole cs) :
    (split cs).parts = [cs] := by
  have hsplit := splitFrom_append_of_whole h []
  rw [List.append_nil] at hsplit
  rw [split, hsplit]
  simp [splitFrom, Split.parts_prepend]

/-- Behind a text that leaves a scan outside quotes, a separator parts what is before it from what is
behind it. -/
theorem splitFrom_append {st : Scan} {front : List Char} (h : st.run front = .plain)
    {separator : Char} (hcut : Scan.plain.cuts separator = true) (rest : List Char) :
    splitFrom st (front ++ separator :: rest) =
      (splitFrom st front).followedBy separator (split rest) := by
  induction front generalizing st with
  | nil =>
    obtain rfl : st = .plain := h
    have hsplit : splitFrom .plain (separator :: rest) = (split rest).cut separator := by
      rw [splitFrom, if_pos hcut, split]
    rw [List.nil_append, hsplit]
    rfl
  | cons c front ih =>
    rw [Scan.run_cons] at h
    rw [List.cons_append, splitFrom, splitFrom]
    split
    · next hc =>
      -- a separator within the text is one more cut, behind which the scan stands outside quotes
      rw [Scan.next_of_cuts hc] at h
      rw [ih h, Split.cut_followedBy]
    · rw [ih h, Split.push_followedBy]

/-- **A separator outside quotes parts a header in two**, which are cut each on its own. -/
theorem parts_split_append {front : List Char} (h : Scan.plain.run front = .plain)
    {separator : Char} (hs : separator = ',' ∨ separator = ';') (rest : List Char) :
    (split (front ++ separator :: rest)).parts = (split front).parts ++ (split rest).parts := by
  rw [split, splitFrom_append h (Scan.cuts_of_separator hs), Split.parts_followedBy]
  rfl

/-- A whole text that ends outside quotes and has a separator behind it is the first directive. -/
theorem parts_split_cons {cs : List Char} (h : Scan.plain.Whole cs)
    (hrun : Scan.plain.run cs = .plain) {separator : Char}
    (hs : separator = ',' ∨ separator = ';') (rest : List Char) :
    (split (cs ++ separator :: rest)).parts = cs :: (split rest).parts := by
  rw [parts_split_append hrun hs, parts_split_of_whole h, List.singleton_append]

theorem whole_splitFrom (st : Scan) (cs : List Char) :
    st.Whole (splitFrom st cs).first ∧
      ∀ part ∈ (splitFrom st cs).later.map Prod.snd, Scan.plain.Whole part := by
  induction cs generalizing st with
  | nil => exact ⟨trivial, by simp [splitFrom]⟩
  | cons c cs ih =>
    unfold splitFrom
    split
    · -- behind a separator the directive so far is empty, and a new one begins outside quotes
      obtain ⟨hfirst, hlater⟩ := ih .plain
      refine ⟨trivial, ?_⟩
      intro part hpart
      rcases List.mem_cons.1 hpart with rfl | hpart
      · exact hfirst
      · exact hlater part hpart
    · next hcut =>
      obtain ⟨hfirst, hlater⟩ := ih (st.next c)
      exact ⟨⟨Bool.eq_false_iff.2 hcut, hfirst⟩, hlater⟩

/-- Every directive of a header is whole. -/
theorem whole_of_mem_parts {cs part : List Char} (h : part ∈ (split cs).parts) :
    Scan.plain.Whole part := by
  obtain ⟨hfirst, hlater⟩ := whole_splitFrom .plain cs
  rcases List.mem_cons.1 h with rfl | h
  · exact hfirst
  · exact hlater part h

/-! ## Names and values -/

theorem nameValue?_append {name : List Char} (h : ∀ c ∈ name, c ≠ '=') (value : List Char) :
    nameValue? (name ++ '=' :: value) = some (name, value) := by
  induction name with
  | nil => rfl
  | cons c name ih =>
    rw [List.cons_append, nameValue?, if_neg (h c List.mem_cons_self),
      ih fun d hd => h d (List.mem_cons_of_mem c hd), Option.map_some]

/-- Name and value stand before and after an equals sign. -/
theorem eq_of_nameValue? {cs : List Char} {pair : List Char × List Char}
    (h : nameValue? cs = some pair) : cs = pair.1 ++ '=' :: pair.2 := by
  induction cs generalizing pair with
  | nil => cases h
  | cons c cs ih =>
    unfold nameValue? at h
    split at h
    · next hc =>
      cases h
      rw [hc]
      rfl
    · obtain ⟨rest, hrest, rfl⟩ := Option.map_eq_some_iff.1 h
      rw [ih hrest]
      rfl

theorem not_mem_of_nameValue? {cs : List Char} {pair : List Char × List Char}
    (h : nameValue? cs = some pair) : '=' ∉ pair.1 := by
  induction cs generalizing pair with
  | nil => cases h
  | cons c cs ih =>
    unfold nameValue? at h
    split at h
    · cases h
      exact List.not_mem_nil
    · next hc =>
      obtain ⟨rest, hrest, rfl⟩ := Option.map_eq_some_iff.1 h
      intro hmem
      rcases List.mem_cons.1 hmem with heq | hmem
      · exact hc heq.symm
      · exact ih hrest hmem

/-- A value that does not begin with a double quote has no quotes to lose. -/
theorem unquote_of_head? {cs : List Char} (h : cs.head? ≠ some '"') : unquote cs = cs := by
  cases cs with
  | nil => rfl
  | cons c cs =>
    have hc : c ≠ '"' := by
      rintro rfl
      exact h rfl
    rw [unquote, if_neg hc]

theorem unquote_quoted (content : List Char) : unquote ('"' :: (content ++ ['"'])) = content := by
  simp [unquote]

theorem nonEmpty?_eq_some_iff {cs host : List Char} :
    nonEmpty? cs = some host ↔ cs = host ∧ host ≠ [] := by
  unfold nonEmpty?
  cases cs with
  | nil =>
    constructor
    · intro h
      cases h
    · rintro ⟨rfl, h⟩
      exact absurd rfl h
  | cons c cs =>
    constructor
    · intro h
      cases h
      exact ⟨rfl, List.cons_ne_nil c cs⟩
    · rintro ⟨rfl, -⟩
      rfl

theorem nonEmpty?_eq_none_iff {cs : List Char} : nonEmpty? cs = none ↔ cs = [] := by
  simp [nonEmpty?]

/-! ## The first host directive -/

theorem hostOf?_cons_of_host {directive : List Char} {pair : List Char × List Char}
    (h : nameValue? directive = some pair) (hname : isHostName pair.1 = true)
    (more : List (List Char)) :
    hostOf? (directive :: more) = nonEmpty? (unquote (trim pair.2)) := by
  simp [hostOf?, h, hname]

/-- A name, an equals sign and a value, where the name is `host` in any letter case, blanks around it
apart. -/
def IsHostDirective (directive : List Char) : Prop :=
  ∃ name value, directive = name ++ '=' :: value ∧ '=' ∉ name ∧
    Spells (trim name) ['h', 'o', 's', 't']

theorem isHostDirective_iff {directive : List Char} :
    IsHostDirective directive ↔
      ∃ pair, nameValue? directive = some pair ∧ isHostName pair.1 = true := by
  constructor
  · rintro ⟨name, value, rfl, hname, hspells⟩
    have hequals : ∀ c ∈ name, c ≠ '=' := by
      rintro _ hc rfl
      exact hname hc
    exact ⟨(name, value), nameValue?_append hequals value,
      (sameLetters_iff (by decide)).2 hspells⟩
  · rintro ⟨pair, hpair, hname⟩
    exact ⟨pair.1, pair.2, eq_of_nameValue? hpair, not_mem_of_nameValue? hpair,
      (sameLetters_iff (by decide)).1 hname⟩

/-- A host directive has an equals sign. -/
theorem IsHostDirective.mem {directive : List Char} (h : IsHostDirective directive) :
    '=' ∈ directive := by
  obtain ⟨name, value, rfl, -⟩ := h
  exact List.mem_append_right name List.mem_cons_self

instance (directive : List Char) : Decidable (IsHostDirective directive) :=
  decidable_of_iff (((nameValue? directive).any fun p => isHostName p.1) = true) (by
    rw [isHostDirective_iff, Option.any_eq_true])

variable {directives : List (List Char)}

/-- A search for the name `host` fails exactly if no directive has it. -/
theorem find?_isHostName_eq_none_iff :
    ((directives.filterMap nameValue?).find? fun p => isHostName p.1) = none ↔
      ∀ directive ∈ directives, ¬ IsHostDirective directive := by
  rw [List.find?_eq_none]
  constructor
  · intro h directive hmem hhost
    obtain ⟨pair, hpair, hname⟩ := isHostDirective_iff.1 hhost
    exact h pair (List.mem_filterMap.2 ⟨directive, hmem, hpair⟩) hname
  · intro h pair hmem hname
    obtain ⟨directive, hdirective, hpair⟩ := List.mem_filterMap.1 hmem
    exact h directive hdirective (isHostDirective_iff.2 ⟨pair, hpair, hname⟩)

/-- Behind a host directive nothing counts. -/
theorem hostOf?_append_of_host (h : ∃ directive ∈ directives, IsHostDirective directive)
    (more : List (List Char)) : hostOf? (directives ++ more) = hostOf? directives := by
  have hfound : ((directives.filterMap nameValue?).find? fun p => isHostName p.1) ≠ none := by
    intro hnone
    obtain ⟨directive, hmem, hhost⟩ := h
    exact find?_isHostName_eq_none_iff.1 hnone directive hmem hhost
  obtain ⟨pair, hpair⟩ := Option.ne_none_iff_exists'.1 hfound
  rw [hostOf?, hostOf?, List.filterMap_append, List.find?_append, hpair, Option.some_or]

/-- Directives that state no host do not count in front of others. -/
theorem hostOf?_append_of_none (h : ∀ directive ∈ directives, ¬ IsHostDirective directive)
    (more : List (List Char)) : hostOf? (directives ++ more) = hostOf? more := by
  rw [hostOf?, hostOf?, List.filterMap_append, List.find?_append,
    find?_isHostName_eq_none_iff.2 h, Option.none_or]

/-- A directive that states no host does not count. -/
theorem hostOf?_cons_of_other {directive : List Char} (h : ¬ IsHostDirective directive)
    (more : List (List Char)) : hostOf? (directive :: more) = hostOf? more :=
  hostOf?_append_of_none (List.forall_mem_singleton.2 h) more

/-- Without a host directive there is no host. -/
theorem hostOf?_eq_none (h : ∀ directive ∈ directives, ¬ IsHostDirective directive) :
    hostOf? directives = none := by
  rw [hostOf?, find?_isHostName_eq_none_iff.2 h, Option.bind_none]

end TenantGate.Forwarding

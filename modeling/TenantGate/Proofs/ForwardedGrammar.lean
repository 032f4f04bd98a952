import Mathlib.Data.Bool.AllAny
import TenantGate.Proofs.Directives
import TenantGate.Proofs.LetterCase
import TenantGate.Proofs.Outcomes

/-!
# Well-formed forwarding headers

`Header` is the grammar of a `Forwarded` header: fragments with separators between them, where a
fragment is a pair of a name and a value with blanks around both, or a text without an equals sign.
A value stands by itself or between double quotes, where a backslash shields the character behind
it. The types hold well-formed parts only, and `Header.written` writes a header down. The main
theorem, `forwardedHost?_written`, says that the host read from a written header is the value of the
first pair whose name is `host` in any letter case.
-/

set_option autoImplicit false

namespace TenantGate.Forwarding

open TenantGate.Text

/-! ## The grammar -/

/-- Blanks between the parts of a pair. -/
structure Blanks where
  chars : List Char
  blank : ∀ c ∈ chars, isBlank c = true

/-- The name of a pair. -/
structure Name where
  chars : List Char
  bare : ∀ c ∈ chars, Scan.Bare c ∧ c ≠ '='
  tight : Tight chars

/-- A character between double quotes: one that stands for itself, or one behind a backslash. -/
inductive QuotedChar where
  | plain (c : Char) (ne_quote : c ≠ '"') (ne_backslash : c ≠ '\\')
  | escaped (c : Char)

/-- The value of a pair. -/
inductive Value where
  | unquoted (chars : List Char) (bare : ∀ c ∈ chars, Scan.Bare c) (tight : Tight chars)
  | quoted (content : List QuotedChar)

/-- A name and a value. -/
structure Pair where
  before : Blanks
  name : Name
  behindName : Blanks
  beforeValue : Blanks
  value : Value
  behind : Blanks

/-- What stands between two separators. -/
inductive Fragment where
  | remark (chars : List Char) (bare : ∀ c ∈ chars, Scan.Bare c ∧ c ≠ '=')
  | pair (p : Pair)

/-- What stands between two fragments. -/
inductive Separator where
  | comma
  | semicolon

/-- A header: at least one fragment. -/
structure Header where
  first : Fragment
  later : List (Separator × Fragment)

/-! ## Writing a header down -/

/-- A character between quotes, with its backslash. -/
def QuotedChar.written : QuotedChar → List Char
  | plain c _ _ => [c]
  | escaped c => ['\\', c]

/-- What a value says: the text itself, or what stands between the quotes, backslashes included. -/
def Value.text : Value → List Char
  | unquoted chars _ _ => chars
  | quoted content => content.flatMap QuotedChar.written

/-- A value as it is written. -/
def Value.written : Value → List Char
  | unquoted chars _ _ => chars
  | quoted content => '"' :: (content.flatMap QuotedChar.written ++ ['"'])

/-- The name of a pair between its blanks. -/
def Pair.writtenName (p : Pair) : List Char :=
  p.before.chars ++ (p.name.chars ++ p.behindName.chars)

/-- The value of a pair between its blanks. -/
def Pair.writtenValue (p : Pair) : List Char :=
  p.beforeValue.chars ++ (p.value.written ++ p.behind.chars)

/-- A pair as it is written. -/
def Pair.written (p : Pair) : List Char := p.writtenName ++ '=' :: p.writtenValue

/-- A fragment as it is written. -/
def Fragment.written : Fragment → List Char
  | remark chars _ => chars
  | pair p => p.written

/-- The character of a separator. -/
def Separator.char : Separator → Char
  | comma => ','
  | semicolon => ';'

namespace Header

/-- The fragments in turn. -/
def fragments (h : Header) : List Fragment := h.first :: h.later.map Prod.snd

/-- A header as it is written. -/
def written (h : Header) : List Char :=
  h.first.written ++ h.later.flatMap fun p => p.1.char :: p.2.written

/-- The same header with more fragments behind it. -/
def followedBy (h : Header) (more : List (Separator × Fragment)) : Header :=
  { h with later := h.later ++ more }

end Header

/-- The pairs among fragments. -/
def pairsOf (fragments : List Fragment) : List Pair :=
  fragments.filterMap fun
    | .remark _ _ => none
    | .pair p => some p

/-- The pairs of a header in turn. -/
def Header.pairs (h : Header) : List Pair := pairsOf h.fragments

/-- The pair names a host. -/
def Pair.NamesHost (p : Pair) : Prop := Spells p.name.chars ['h', 'o', 's', 't']

/-! ## Fragments are whole -/

theorem QuotedChar.whole_written (q : QuotedChar) : Scan.quoted.Whole q.written := by
  cases q with
  | plain c _ _ => exact ⟨rfl, trivial⟩
  | escaped c => exact ⟨rfl, rfl, trivial⟩

theorem QuotedChar.run_written (q : QuotedChar) : Scan.quoted.run q.written = .quoted := by
  cases q with
  | plain c hquote hbackslash =>
    rw [written, Scan.run_cons, Scan.run_nil, Scan.next, if_neg hbackslash, if_neg hquote]
  | escaped c => rfl

/-- A scan inside quotes meets no separator in quoted characters and stays inside. -/
theorem whole_run_content (content : List QuotedChar) :
    Scan.quoted.Whole (content.flatMap QuotedChar.written) ∧
      Scan.quoted.run (content.flatMap QuotedChar.written) = .quoted := by
  induction content with
  | nil => exact ⟨trivial, rfl⟩
  | cons q content ih =>
    obtain ⟨hwhole, hrun⟩ := ih
    rw [List.flatMap_cons]
    constructor
    · rw [Scan.whole_append_iff, q.run_written]
      exact ⟨q.whole_written, hwhole⟩
    · rw [Scan.run_append, q.run_written, hrun]

/-- A text that keeps a scan outside quotes in one directive. -/
def Closed (cs : List Char) : Prop := Scan.plain.Whole cs ∧ Scan.plain.run cs = .plain

theorem closed_of_bare {cs : List Char} (h : ∀ c ∈ cs, Scan.Bare c) : Closed cs :=
  ⟨Scan.whole_of_bare h, Scan.run_plain_of_bare h⟩

theorem Closed.append {a b : List Char} (ha : Closed a) (hb : Closed b) : Closed (a ++ b) := by
  obtain ⟨hawhole, harun⟩ := ha
  obtain ⟨hbwhole, hbrun⟩ := hb
  constructor
  · rw [Scan.whole_append_iff, harun]
    exact ⟨hawhole, hbwhole⟩
  · rw [Scan.run_append, harun, hbrun]

theorem Blanks.closed (b : Blanks) : Closed b.chars :=
  closed_of_bare fun c hc => Scan.bare_of_isBlank (b.blank c hc)

theorem Name.closed (n : Name) : Closed n.chars := closed_of_bare fun c hc => (n.bare c hc).1

theorem Value.closed (v : Value) : Closed v.written := by
  cases v with
  | unquoted chars hbare _ => exact closed_of_bare hbare
  | quoted content =>
    -- the opening quote leads inside, and the closing one out again
    obtain ⟨hwhole, hrun⟩ := whole_run_content content
    constructor
    · refine ⟨rfl, Scan.whole_append_iff.2 ⟨hwhole, ?_⟩⟩
      rw [show Scan.plain.next '"' = .quoted from rfl, hrun]
      exact ⟨rfl, trivial⟩
    · rw [written, Scan.run_cons, Scan.run_append, show Scan.plain.next '"' = .quoted from rfl, hrun]
      rfl

theorem Pair.closed (p : Pair) : Closed p.written := by
  have hname : Closed p.writtenName := p.before.closed.append (p.name.closed.append p.behindName.closed)
  have hequals : Closed ['='] := closed_of_bare (List.forall_mem_singleton.2 (by decide))
  have hvalue : Closed p.writtenValue :=
    p.beforeValue.closed.append (p.value.closed.append p.behind.closed)
  exact hname.append (hequals.append hvalue)

theorem Fragment.closed (f : Fragment) : Closed f.written := by
  cases f with
  | remark chars hbare => exact closed_of_bare fun c hc => (hbare c hc).1
  | pair p => exact p.closed

theorem Separator.char_eq (s : Separator) : s.char = ',' ∨ s.char = ';' := by
  cases s with
  | comma => exact Or.inl rfl
  | semicolon => exact Or.inr rfl

/-- The directives of a written header are its fragments. -/
theorem parts_split_written (h : Header) :
    (split h.written).parts = h.fragments.map Fragment.written := by
  obtain ⟨first, later⟩ := h
  -- behind each fragment stands a separator, or nothing
  induction later generalizing first with
  | nil =>
    have hwritten : Header.written ⟨first, []⟩ = first.written := List.append_nil _
    rw [hwritten, parts_split_of_whole first.closed.1]
    rfl
  | cons next later ih =>
    obtain ⟨separator, second⟩ := next
    have hwritten : Header.written ⟨first, (separator, second) :: later⟩ =
        first.written ++ separator.char :: Header.written ⟨second, later⟩ := by
      simp [Header.written]
    rw [hwritten, parts_split_cons first.closed.1 first.closed.2 separator.char_eq, ih second]
    rfl

/-! ## Pairs are read as they are written -/

theorem Pair.nameValue?_written (p : Pair) :
    nameValue? p.written = some (p.writtenName, p.writtenValue) := by
  refine nameValue?_append ?_ _
  have hblank : ∀ (b : Blanks), ∀ c ∈ b.chars, c ≠ '=' := by
    rintro b c hc rfl
    exact absurd (b.blank _ hc) (by decide)
  intro c hc
  rw [writtenName, List.mem_append, List.mem_append] at hc
  rcases hc with hc | hc | hc
  · exact hblank _ c hc
  · exact (p.name.bare c hc).2
  · exact hblank _ c hc

theorem Pair.trim_writtenName (p : Pair) : trim p.writtenName = p.name.chars :=
  trim_eq_iff.2 ⟨p.name.tight, _, _, p.before.blank, p.behindName.blank, rfl⟩

theorem Pair.isHostName_writtenName (p : Pair) :
    isHostName p.writtenName = true ↔ p.NamesHost := by
  rw [isHostName, p.trim_writtenName, sameLetters_iff (by decide), NamesHost]

/-- A pair is a host directive exactly if it names a host. -/
theorem Pair.isHostDirective_written (p : Pair) : IsHostDirective p.written ↔ p.NamesHost := by
  rw [isHostDirective_iff, p.nameValue?_written, ← p.isHostName_writtenName]
  simp only [Option.some.injEq, exists_eq_left']

/-- A remark has no equals sign, so it is no host directive. -/
theorem not_isHostDirective_remark {chars : List Char} (h : ∀ c ∈ chars, Scan.Bare c ∧ c ≠ '=') :
    ¬ IsHostDirective (Fragment.remark chars h).written := by
  intro hhost
  exact (h _ hhost.mem).2 rfl

theorem Value.tight_written (v : Value) : Tight v.written := by
  cases v with
  | unquoted chars _ htight => exact htight
  | quoted content =>
    -- a quote at either end
    have hquote : isBlank '"' = false := by decide
    constructor
    · intro c hc
      cases hc
      exact hquote
    · intro c hc
      rw [written, ← List.cons_append, List.getLast?_append] at hc
      cases hc
      exact hquote

theorem Value.unquote_written (v : Value) : unquote v.written = v.text := by
  cases v with
  | unquoted chars hbare _ =>
    refine unquote_of_head? ?_
    intro hhead
    exact (hbare '"' (List.mem_of_mem_head? hhead)).2.2 rfl
  | quoted content => exact unquote_quoted _

theorem Pair.unquote_trim_writtenValue (p : Pair) :
    unquote (trim p.writtenValue) = p.value.text := by
  have htrim : trim p.writtenValue = p.value.written :=
    trim_eq_iff.2 ⟨p.value.tight_written, _, _, p.beforeValue.blank, p.behind.blank, rfl⟩
  rw [htrim, p.value.unquote_written]

/-! ## The host of a written header -/

theorem hostOf?_pair_cons {p : Pair} (h : p.NamesHost) (more : List (List Char)) :
    hostOf? (p.written :: more) = nonEmpty? p.value.text := by
  rw [← p.unquote_trim_writtenValue]
  exact hostOf?_cons_of_host p.nameValue?_written (p.isHostName_writtenName.2 h) more

/-- The first pair that names a host decides. -/
theorem hostOf?_of_first {fragments : List Fragment} {p : Pair}
    (h : First Pair.NamesHost (pairsOf fragments) p) :
    hostOf? (fragments.map Fragment.written) = nonEmpty? p.value.text := by
  induction fragments with
  | nil => cases h
  | cons f fragments ih =>
    rw [List.map_cons]
    cases f with
    | remark chars hbare =>
      rw [hostOf?_cons_of_other (not_isHostDirective_remark hbare)]
      exact ih h
    | pair q =>
      rw [Fragment.written]
      cases h with
      | here hq => rw [hostOf?_pair_cons hq]
      | later hq h =>
        rw [hostOf?_cons_of_other (mt q.isHostDirective_written.1 hq)]
        exact ih h

/-- Without a pair that names a host there is none. -/
theorem hostOf?_of_none {fragments : List Fragment}
    (h : ∀ p ∈ pairsOf fragments, ¬ p.NamesHost) :
    hostOf? (fragments.map Fragment.written) = none := by
  apply hostOf?_eq_none
  intro directive hmem hhost
  obtain ⟨f, hf, rfl⟩ := List.mem_map.1 hmem
  cases f with
  | remark chars hbare => exact not_isHostDirective_remark hbare hhost
  | pair p =>
    have hp : p ∈ pairsOf fragments := List.mem_filterMap.2 ⟨.pair p, hf, rfl⟩
    exact h p hp (p.isHostDirective_written.1 hhost)

theorem Header.pairs_followedBy (h : Header) (more : List (Separator × Fragment)) :
    (h.followedBy more).pairs = h.pairs ++ pairsOf (more.map Prod.snd) := by
  have hfragments : (h.followedBy more).fragments = h.fragments ++ more.map Prod.snd := by
    simp [fragments, followedBy]
  rw [pairs, hfragments, pairsOf, List.filterMap_append]
  rfl

/-- **Well-formed headers are read correctly.** The host of a written header is what the value of
the first pair named `host`, in any letter case, says; there is none if this value is empty, or if
no pair is named so. Fragments behind that pair do not matter. -/
theorem forwardedHost?_written (h : Header) :
    (∀ p, First Pair.NamesHost h.pairs p →
        forwardedHost? h.written = (if p.value.text = [] then none else some p.value.text) ∧
          ∀ more, forwardedHost? (h.followedBy more).written = forwardedHost? h.written) ∧
      ((∀ p ∈ h.pairs, ¬ p.NamesHost) → forwardedHost? h.written = none) := by
  have hfirst : ∀ (h : Header) (p : Pair), First Pair.NamesHost h.pairs p →
      forwardedHost? h.written = nonEmpty? p.value.text := by
    intro h p hp
    rw [forwardedHost?, parts_split_written]
    exact hostOf?_of_first hp
  constructor
  · intro p hp
    constructor
    · rw [hfirst h p hp, nonEmpty?]
      simp only [List.isEmpty_iff]
    · intro more
      have hmore : First Pair.NamesHost (h.followedBy more).pairs p := by
        rw [h.pairs_followedBy]
        exact hp.append _
      rw [hfirst _ p hmore, hfirst h p hp]
  · intro hnone
    rw [forwardedHost?, parts_split_written]
    exact hostOf?_of_none hnone

/-- The host pair of a header that gives every reason to misread it: the name is in capitals, and
the quoted value holds separators, an equals sign and a shielded quote next to the closing one. -/
def trickyPair : Pair where
  before := ⟨[' '], List.forall_mem_singleton.2 rfl⟩
  name := ⟨['H', 'O', 'S', 'T'], List.all_iff_forall_prop.1 rfl, by decide⟩
  behindName := ⟨[' '], List.forall_mem_singleton.2 rfl⟩
  beforeValue := ⟨['\t'], List.forall_mem_singleton.2 rfl⟩
  value := .quoted [.plain 'a' (by decide) (by decide), .plain ',' (by decide) (by decide),
    .plain '=' (by decide) (by decide), .escaped '"']
  behind := ⟨[], List.forall_mem_nil _⟩

/-- A remark, a host pair that gives every reason to misread it, and a second host pair. -/
def trickyHeader : Header where
  first := .remark "host".toList (List.all_iff_forall_prop.1 rfl)
  later := [(.semicolon, .pair trickyPair), (.comma, .pair
    { before := ⟨[], List.forall_mem_nil _⟩
      name := ⟨['h', 'o', 's', 't'], List.all_iff_forall_prop.1 rfl, by decide⟩
      behindName := ⟨[], List.forall_mem_nil _⟩
      beforeValue := ⟨[], List.forall_mem_nil _⟩
      value := .unquoted ['b'] (List.all_iff_forall_prop.1 rfl) (by decide)
      behind := ⟨[], List.forall_mem_nil _⟩ })]

/-- The first host pair is read, with its escapes. -/
theorem forwardedHost?_written_tricky :
    trickyHeader.written = "host; HOST =\t\"a,=\\\"\",host=b".toList ∧
      forwardedHost? trickyHeader.written = some "a,=\\\"".toList := by
  have hfirst : First Pair.NamesHost trickyHeader.pairs trickyPair :=
    .here (.cons (Or.inr rfl) (.cons (Or.inr rfl) (.cons (Or.inr rfl) (.cons (Or.inr rfl) .nil))))
  exact ⟨by decide, ((forwardedHost?_written trickyHeader).1 trickyPair hfirst).1⟩

end TenantGate.Forwarding

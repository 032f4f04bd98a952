import TenantGate.Forwarding.Spans
import TenantGate.Proofs.Directives
import Mathlib.Data.String.Basic

/-!
# A forwarding header is cut without loss

A header is cut by a walk over its characters that keeps octet offsets and two marks, and the
directives are read between these offsets. The walk stands where a scan does (`Walk.ofScan`,
`spansFrom_cons`), so it cuts at the separators that the scan reaches outside quotes
(`mem_cutsFrom_iff`), and begins and ends directives there (`spansFrom_eq_zipWith`). Since a
separator has one octet, no offset falls into a character, and every span reads the directive in its
place (`forall₂_spansFrom`). The main theorem, `header_is_cut_at_its_separators`, says for every
header that its directives can be read, that they and the separators between them are the whole
header, and which separators these are.
-/

set_option autoImplicit false

namespace TenantGate.Forwarding

open String (utf8Len)

/-! ## Reading a span -/

namespace Span

variable {text : String} {front part back : List Char}

/-- Characters in the middle of a text are a part of it. -/
theorem isIn_of_append (h : text.toList = front ++ part ++ back) :
    (⟨utf8Len front, utf8Len (front ++ part)⟩ : Span).IsIn text := by
  have htext : text = String.ofList (front ++ part ++ back) := by
    rw [← h, String.ofList_toList]
  refine ⟨?_, ?_, ?_⟩
  · apply String.Pos.Raw.isValid_iff_exists_append.2
    refine ⟨String.ofList front, String.ofList (part ++ back), ?_, ?_⟩
    · rw [htext, List.append_assoc, String.ofList_append]
    · rw [String.rawEndPos_ofList]
  · apply String.Pos.Raw.isValid_iff_exists_append.2
    refine ⟨String.ofList (front ++ part), String.ofList back, ?_, ?_⟩
    · rw [htext, String.ofList_append]
    · rw [String.rawEndPos_ofList]
  · rw [String.utf8Len_append]
    exact Nat.le_add_right _ _

/-- Between the offsets of characters in the middle of a text one reads these characters. -/
theorem read?_of_append (h : text.toList = front ++ part ++ back) :
    read? text ⟨utf8Len front, utf8Len (front ++ part)⟩ = some (String.ofList part) := by
  have hoctets : text.toByteArray = (String.ofList front).toByteArray ++
      ((String.ofList part).toByteArray ++ (String.ofList back).toByteArray) := by
    rw [← String.toByteArray_append, ← String.toByteArray_append, ← String.ofList_append,
      ← String.ofList_append, ← List.append_assoc, ← h, String.ofList_toList]
  have hstop : utf8Len (front ++ part) =
      utf8Len front + (String.ofList part).toByteArray.size := by
    rw [String.utf8Len_append, String.size_toByteArray, String.utf8ByteSize_ofList]
  have hfront : utf8Len front = (String.ofList front).toByteArray.size := by
    rw [String.size_toByteArray, String.utf8ByteSize_ofList]
  rw [read?, dif_pos (isIn_of_append h), Option.some.injEq, ← String.toByteArray_inj,
    String.toByteArray_extract]
  show text.toByteArray.extract (utf8Len front + 0) (utf8Len (front ++ part)) = _
  rw [hoctets, hstop, ByteArray.extract_append_size_add' hfront,
    ByteArray.extract_append_eq_left rfl]

end Span

/-! ## The walk and the scan -/

/-- The walk that stands where a scan does. -/
def Walk.ofScan (start : Nat) : Scan → Walk
  | .plain => ⟨start, false, false⟩
  | .quoted => ⟨start, true, false⟩
  | .escaped => ⟨start, true, true⟩

theorem spansFrom_nil (stop start : Nat) (st : Scan) :
    spansFrom stop (.ofScan start st) [] = [⟨start, stop⟩] := by
  cases st <;> rfl

/-- The marks of a walk change as the scan does, and the walk cuts where the scan does. -/
theorem spansFrom_cons (stop start i : Nat) (st : Scan) (c : Char) (rest : List (Nat × Char)) :
    spansFrom stop (.ofScan start st) ((i, c) :: rest) =
      if st.cuts c then ⟨start, i⟩ :: spansFrom stop (.ofScan (i + 1) .plain) rest
      else spansFrom stop (.ofScan start (st.next c)) rest := by
  cases st with
  | plain =>
    by_cases hquote : c = '"'
    · subst hquote
      rfl
    · by_cases hseparator : c = ',' ∨ c = ';'
      · have hcuts : Scan.plain.cuts c = true := Scan.cuts_of_separator hseparator
        simp [spansFrom, Walk.ofScan, hquote, hseparator, hcuts]
      · have hcuts : Scan.plain.cuts c = false := by simpa [Scan.cuts] using hseparator
        simp [spansFrom, Walk.ofScan, Scan.next, hquote, hseparator, hcuts]
  | quoted =>
    have hcuts : Scan.quoted.cuts c = false := rfl
    by_cases hbackslash : c = '\\'
    · subst hbackslash
      rfl
    · by_cases hquote : c = '"'
      · subst hquote
        rfl
      · simp [spansFrom, Walk.ofScan, Scan.next, hbackslash, hquote, hcuts]
  | escaped => rfl

theorem spans_eq (text : String) :
    spans text =
      spansFrom text.utf8ByteSize (.ofScan 0 .plain) (withOffsets 0 text.toList) := rfl

/-! ## Cuts -/

namespace Scan

/-- In a text that begins at the given offset, a scan reaches the separator `c` at offset `i` and
outside quotes. -/
def Reaches (st : Scan) (offset : Nat) (cs : List Char) (i : Nat) (c : Char) : Prop :=
  ∃ front back, cs = front ++ c :: back ∧ offset + utf8Len front = i ∧
    st.run front = .plain ∧ (c = ',' ∨ c = ';')

theorem reaches_cons_iff {st : Scan} {offset i : Nat} {c d : Char} {cs : List Char} :
    st.Reaches offset (d :: cs) i c ↔
      (st.cuts d = true ∧ offset = i ∧ d = c) ∨
        (st.next d).Reaches (offset + d.utf8Size) cs i c := by
  constructor
  · rintro ⟨front, back, heq, hi, hrun, hc⟩
    cases front with
    | nil =>
      obtain ⟨rfl, rfl⟩ := List.cons.inj heq
      exact Or.inl ⟨cuts_eq_true_iff.2 ⟨hrun, hc⟩, hi, rfl⟩
    | cons e front =>
      obtain ⟨rfl, rfl⟩ := List.cons.inj heq
      refine Or.inr ⟨front, back, rfl, ?_, hrun, hc⟩
      rw [← hi, String.utf8Len_cons]
      omega
  · rintro (⟨hcuts, rfl, rfl⟩ | ⟨front, back, rfl, rfl, hrun, hc⟩)
    · obtain ⟨hplain, hc⟩ := cuts_eq_true_iff.1 hcuts
      exact ⟨[], cs, rfl, rfl, hplain, hc⟩
    · refine ⟨d :: front, back, rfl, ?_, hrun, hc⟩
      rw [String.utf8Len_cons]
      omega

end Scan

/-- The separators that a scan reaches outside quotes, each with its offset. -/
def cutsFrom (st : Scan) (offset : Nat) : List Char → List (Nat × Char)
  | [] => []
  | c :: cs =>
      if st.cuts c then (offset, c) :: cutsFrom .plain (offset + c.utf8Size) cs
      else cutsFrom (st.next c) (offset + c.utf8Size) cs

theorem mem_cutsFrom_iff {st : Scan} {offset i : Nat} {c : Char} {cs : List Char} :
    (i, c) ∈ cutsFrom st offset cs ↔ st.Reaches offset cs i c := by
  induction cs generalizing st offset with
  | nil => simp [cutsFrom, Scan.Reaches]
  | cons d cs ih =>
    rw [Scan.reaches_cons_iff, cutsFrom]
    split
    · next hcut =>
      rw [List.mem_cons, ih, Scan.next_of_cuts hcut, Prod.mk.injEq, eq_comm (a := i),
        eq_comm (a := c)]
      simp [hcut]
    · next hcut => simp [ih, hcut]

theorem pairwise_cutsFrom (st : Scan) (offset : Nat) (cs : List Char) :
    (cutsFrom st offset cs).Pairwise fun a b => a.1 < b.1 := by
  induction cs generalizing st offset with
  | nil => exact List.Pairwise.nil
  | cons c cs ih =>
    rw [cutsFrom]
    split
    · refine List.pairwise_cons.2 ⟨?_, ih _ _⟩
      -- what comes behind a character has an offset beyond this character
      rintro ⟨i, d⟩ hmem
      obtain ⟨front, back, -, rfl, -⟩ := mem_cutsFrom_iff.1 hmem
      have hpos := c.utf8Size_pos
      show offset < offset + c.utf8Size + utf8Len front
      omega
    · exact ih _ _

theorem map_snd_cutsFrom (st : Scan) (offset : Nat) (cs : List Char) :
    (cutsFrom st offset cs).map Prod.snd = (splitFrom st cs).later.map Prod.fst := by
  induction cs generalizing st offset with
  | nil => rfl
  | cons c cs ih =>
    rw [cutsFrom, splitFrom]
    split
    · rw [List.map_cons, ih]
      rfl
    · rw [ih]
      rfl

/-- The first directive begins where the walk says and each later one behind a cut; each directive
but the last ends at a cut, and the last one at the end of the header. -/
theorem spansFrom_eq_zipWith (stop start offset : Nat) (st : Scan) (cs : List Char) :
    spansFrom stop (.ofScan start st) (withOffsets offset cs) =
      List.zipWith Span.mk (start :: (cutsFrom st offset cs).map fun cut => cut.1 + 1)
        ((cutsFrom st offset cs).map Prod.fst ++ [stop]) := by
  induction cs generalizing start offset st with
  | nil => exact spansFrom_nil stop start st
  | cons c cs ih =>
    rw [withOffsets, spansFrom_cons, cutsFrom]
    split
    · rw [ih]
      rfl
    · exact ih _ _ _

/-! ## The directives at their spans -/

/-- A separator has one octet. -/
theorem utf8Size_of_cuts {st : Scan} {c : Char} (h : st.cuts c = true) : c.utf8Size = 1 := by
  obtain ⟨-, rfl | rfl⟩ := Scan.cuts_eq_true_iff.1 h
  · rfl
  · rfl

/-- The invariant of the walk: it stands behind `front`, whose directives are read, and behind the
first characters of the next directive. Then the spans to come give that directive and the ones that
are cut from the rest. -/
theorem forall₂_spansFrom {text : String} {front directive rest : List Char} (st : Scan)
    (h : text.toList = front ++ directive ++ rest) :
    List.Forall₂
      (fun span part => span.IsIn text ∧ span.read? text = some (String.ofList part))
      (spansFrom text.utf8ByteSize (.ofScan (utf8Len front) st)
        (withOffsets (utf8Len (front ++ directive)) rest))
      ((splitFrom st rest).prepend directive).parts := by
  induction rest generalizing front directive st with
  | nil =>
    -- the last directive goes up to the end of the header
    have hstop : text.utf8ByteSize = utf8Len (front ++ directive) := by
      rw [← String.utf8Len_toList, h, List.append_nil]
    have hparts : ((splitFrom st []).prepend directive).parts = [directive] := by
      rw [Split.parts_prepend, splitFrom, List.append_nil, List.map_nil]
    rw [withOffsets, spansFrom_nil, hstop, hparts]
    exact .cons ⟨Span.isIn_of_append h, Span.read?_of_append h⟩ .nil
  | cons c rest ih =>
    have hnext : utf8Len (front ++ directive) + c.utf8Size =
        utf8Len (front ++ (directive ++ [c])) := by
      simp [Nat.add_assoc]
    rw [withOffsets, spansFrom_cons, splitFrom, hnext]
    split
    · next hcut =>
      -- the directive ends here, and an empty one begins behind the separator
      have hstart : utf8Len (front ++ directive) + 1 = utf8Len (front ++ (directive ++ [c])) := by
        rw [← hnext, utf8Size_of_cuts hcut]
      have hrest : text.toList = (front ++ (directive ++ [c])) ++ [] ++ rest := by
        simp [h]
      have hlater := ih .plain hrest
      rw [List.append_nil] at hlater
      rw [hstart]
      simp only [Split.parts_prepend, Split.cut, List.append_nil, List.map_cons,
        List.nil_append] at hlater ⊢
      exact .cons ⟨Span.isIn_of_append h, Span.read?_of_append h⟩ hlater
    · have hrest : text.toList = front ++ (directive ++ [c]) ++ rest := by
        simp [h]
      have hlater := ih (st.next c) hrest
      simp only [Split.parts_prepend, Split.push, List.append_assoc,
        List.singleton_append] at hlater ⊢
      exact hlater

/-- Every span of a header reads the directive in its place. -/
theorem forall₂_spans (text : String) :
    List.Forall₂ (fun span part => span.IsIn text ∧ span.read? text = some (String.ofList part))
      (spans text) (split text.toList).parts :=
  @forall₂_spansFrom text [] [] text.toList .plain rfl

theorem mapM_eq_some_of_forall₂ {α β : Type} {f : α → Option β} {xs : List α} {ys : List β}
    (h : List.Forall₂ (fun x y => f x = some y) xs ys) : xs.mapM f = some ys := by
  induction h with
  | nil => rfl
  | cons hx _ ih => simp [hx, ih]

/-- The directives that are read at their spans are those that the header is cut into. -/
theorem directives?_eq (text : String) :
    directives? text = some ((split text.toList).parts.map String.ofList) := by
  apply mapM_eq_some_of_forall₂
  rw [List.forall₂_map_right_iff]
  exact ((List.forall₂_and_left _ _).1 (forall₂_spans text)).2

/-! ## Directives on their own -/

theorem mem_dropLast_cons_iff {α : Type} {x a : α} {xs : List α} :
    x ∈ (a :: xs).dropLast ↔ (xs ≠ [] ∧ x = a) ∨ x ∈ xs.dropLast := by
  cases xs with
  | nil => simp
  | cons b xs => simp

/-- Behind a directive that another one follows, the scan stands outside quotes. -/
theorem run_splitFrom (st : Scan) (cs : List Char) :
    ((splitFrom st cs).later.map Prod.snd ≠ [] → st.run (splitFrom st cs).first = .plain) ∧
      ∀ part ∈ ((splitFrom st cs).later.map Prod.snd).dropLast, Scan.plain.run part = .plain := by
  induction cs generalizing st with
  | nil =>
    refine ⟨fun h => absurd rfl h, ?_⟩
    intro part hpart
    cases hpart
  | cons c cs ih =>
    rw [splitFrom]
    split
    · next hcut =>
      obtain ⟨hfirst, hlater⟩ := ih .plain
      refine ⟨fun _ => Scan.eq_plain_of_cuts hcut, ?_⟩
      intro part hpart
      rcases mem_dropLast_cons_iff.1 hpart with ⟨hmore, rfl⟩ | hpart
      · exact hfirst hmore
      · exact hlater part hpart
    · exact ih _

theorem run_of_mem_dropLast {cs part : List Char} (h : part ∈ (split cs).parts.dropLast) :
    Scan.plain.run part = .plain := by
  obtain ⟨hfirst, hlater⟩ := run_splitFrom .plain cs
  rcases mem_dropLast_cons_iff.1 h with ⟨hmore, rfl⟩ | h
  · exact hfirst hmore
  · exact hlater part h

/-- A directive holds no separator that a scan of it would reach outside quotes. -/
theorem not_reaches_of_mem_parts {cs part : List Char} (h : part ∈ (split cs).parts)
    (offset i : Nat) (c : Char) : ¬ Scan.plain.Reaches offset part i c := by
  rintro ⟨front, back, rfl, -, hrun, hc⟩
  exact (whole_of_mem_parts h).run_ne_plain hc hrun

/-! ## Lossless cuts -/

/-- Texts in one, with a separator between each and the next. -/
def interleave : List String → List Char → String
  | [], separators => String.ofList separators
  | part :: parts, [] => part ++ interleave parts []
  | part :: parts, c :: separators => part ++ String.singleton c ++ interleave parts separators

theorem interleave_parts (s : Split) :
    interleave (s.parts.map String.ofList) (s.later.map Prod.fst) = String.ofList s.join := by
  obtain ⟨first, later⟩ := s
  induction later generalizing first with
  | nil =>
    show String.ofList first ++ String.ofList [] = String.ofList (first ++ [])
    rw [String.ofList_append]
  | cons cut later ih =>
    have hparts : interleave ((Split.mk first (cut :: later)).parts.map String.ofList)
          ((cut :: later).map Prod.fst) =
        String.ofList first ++ String.singleton cut.1 ++
          interleave ((Split.mk cut.2 later).parts.map String.ofList) (later.map Prod.fst) := rfl
    have hjoin : (Split.mk first (cut :: later)).join =
        first ++ [cut.1] ++ (Split.mk cut.2 later).join := by
      simp [Split.join]
    rw [hparts, ih, hjoin, String.singleton_eq_ofList, String.ofList_append, String.ofList_append]

/-- **A header is cut at its separators, and nothing is lost.** For every header there are its
directives and its cuts, which are the separators with their offsets, in ascending order. The cuts
are exactly the separators that a scan of the header reaches outside quotes. The spans begin at the
start of the header and behind each cut, they end at each cut and at the end of the header, and all
these offsets are boundaries between characters. So every directive can be read, and the directives
are those among which a host is looked for. There is at least one, and one more than there are cuts;
with the separators between them they are the header again. Each directive but the last, when it is
scanned on its own, ends outside quotes, and none has a separator that such a scan reaches outside
quotes. -/
theorem header_is_cut_at_its_separators (text : String) :
    ∃ (parts : List String) (cuts : List (Nat × Char)),
      (cuts.Pairwise fun a b => a.1 < b.1) ∧
        (∀ i c, (i, c) ∈ cuts ↔ Scan.plain.Reaches 0 text.toList i c) ∧
        spans text =
          List.zipWith Span.mk (0 :: cuts.map fun cut => cut.1 + 1)
            (cuts.map Prod.fst ++ [text.utf8ByteSize]) ∧
        (∀ span ∈ spans text, span.IsIn text) ∧
        directives? text = some parts ∧
        parts.map String.toList = (split text.toList).parts ∧
        parts ≠ [] ∧ parts.length = cuts.length + 1 ∧
        interleave parts (cuts.map Prod.snd) = text ∧
        (∀ part ∈ parts.dropLast, Scan.plain.run part.toList = .plain) ∧
        ∀ part ∈ parts, ∀ i c, ¬ Scan.plain.Reaches 0 part.toList i c := by
  have hin : ∀ span ∈ spans text, span.IsIn text :=
    ((List.forall₂_and_left _ _).1 (forall₂_spans text)).1
  have htoList : ((split text.toList).parts.map String.ofList).map String.toList =
      (split text.toList).parts := by
    simp
  have hseparators : (cutsFrom .plain 0 text.toList).map Prod.snd =
      (split text.toList).later.map Prod.fst := map_snd_cutsFrom _ _ _
  refine ⟨(split text.toList).parts.map String.ofList, cutsFrom .plain 0 text.toList,
    pairwise_cutsFrom _ _ _, fun i c => mem_cutsFrom_iff, ?_, hin, directives?_eq text,
    htoList, ?_, ?_, ?_, ?_, ?_⟩
  · rw [spans_eq, spansFrom_eq_zipWith]
  · simp [Split.parts]
  · have hlength := congrArg List.length hseparators
    simpa [Split.parts] using hlength.symm
  · rw [hseparators, interleave_parts, join_split, String.ofList_toList]
  · intro part hpart
    rw [← List.map_dropLast] at hpart
    obtain ⟨cs, hcs, rfl⟩ := List.mem_map.1 hpart
    rw [String.toList_ofList]
    exact run_of_mem_dropLast hcs
  · intro part hpart i c
    obtain ⟨cs, hcs, rfl⟩ := List.mem_map.1 hpart
    rw [String.toList_ofList]
    exact not_reaches_of_mem_parts hcs 0 i c

/-- Separators inside quotes and a shielded quote do not cut, and characters of several octets shift
the offsets behind them. -/
example : spans "é=\"ü;\\\"\",😀;a" = [⟨0, 10⟩, ⟨11, 15⟩, ⟨16, 17⟩] := by decide

end TenantGate.Forwarding

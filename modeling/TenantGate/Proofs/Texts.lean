import Mathlib.Data.List.TakeWhile
import TenantGate.Text.Blank
import TenantGate.Text.Octets

/-!
# Octets and blanks of a text

The UTF-8 octets of a text determine the text (`octets_inj`), follow concatenation
(`octets_append`) and are the code points themselves where the text is ASCII (`octets_ofAscii`). An
octet sequence is a text (`IsText`) exactly where it can be read back (`ofOctets?_eq_none_iff`).
A text without blanks is its own trimming (`trimmed_eq_self`), as is one without blanks at its ends
(`Tight.trim_eq`); blanks around a text do not change its trimming (`trimmed_surrounded`), and these
are all that trimming takes away (`exists_eq_blank_trim_blank`). So the trimming of a text is its one
core without blanks at the ends (`trim_eq_iff`), and nothing is left of a text exactly if it is blank
(`trimmed_eq_empty_iff`).
-/

set_option autoImplicit false

namespace TenantGate.Text

/-! ## Octets -/

theorem ofOctets?_eq_some_iff {bs : List UInt8} {s : String} :
    ofOctets? bs = some s ↔ octets s = bs := by
  constructor
  · exact octets_of_ofOctets?
  · intro h
    rw [← h]
    exact ofOctets?_octets s

/-- The octets are the UTF-8 octets of some text. -/
def IsText (bs : List UInt8) : Prop := ∃ s, octets s = bs

theorem ofOctets?_eq_none_iff {bs : List UInt8} : ofOctets? bs = none ↔ ¬ IsText bs := by
  constructor
  · rintro h ⟨s, hs⟩
    rw [ofOctets?_eq_some_iff.2 hs] at h
    cases h
  · intro h
    cases hs : ofOctets? bs with
    | none => rfl
    | some s => exact absurd ⟨s, ofOctets?_eq_some_iff.1 hs⟩ h

theorem octets_inj {s t : String} : octets s = octets t ↔ s = t := by
  constructor
  · intro h
    have hs := ofOctets?_octets s
    rw [h, ofOctets?_octets t] at hs
    exact (Option.some.inj hs).symm
  · exact congrArg octets

theorem octets_empty : octets "" = [] := rfl

theorem octets_eq_nil_iff {s : String} : octets s = [] ↔ s = "" := by
  rw [← octets_empty, octets_inj]

theorem octets_append (s t : String) : octets (s ++ t) = octets s ++ octets t := by
  simp [octets]

/-- The octets of a text are those of its characters in turn. -/
theorem octets_ofList (cs : List Char) :
    octets (String.ofList cs) = cs.flatMap String.utf8EncodeChar := by
  simp [octets, List.utf8Encode]

/-- An ASCII character is one octet. -/
theorem utf8EncodeChar_ofNat {b : UInt8} (h : b < 128) :
    String.utf8EncodeChar (Char.ofNat b.toNat) = [b] := by
  have hb : b.toNat < 128 := h
  -- below the surrogates `Char.ofNat` keeps the number
  have hv : (Char.ofNat b.toNat).val.toNat = b.toNat := by
    have hc : b.toNat.isValidChar := Or.inl (by omega)
    rw [Char.ofNat, dif_pos hc]
    rfl
  simp only [String.utf8EncodeChar, hv]
  rw [if_pos (by omega), UInt8.ofNat_toNat]

/-- ASCII octets are the octets of the text with these code points. -/
theorem octets_ofAscii {bs : List UInt8} (h : ∀ b ∈ bs, b < 128) :
    octets (String.ofList (bs.map fun b => Char.ofNat b.toNat)) = bs := by
  rw [octets_ofList]
  induction bs with
  | nil => rfl
  | cons b bs ih =>
    rw [List.map_cons, List.flatMap_cons, utf8EncodeChar_ofNat (h b List.mem_cons_self),
      ih fun c hc => h c (List.mem_cons_of_mem b hc)]
    rfl

/-! ## Blanks -/

theorem trimStart_eq_self {cs : List Char} (h : ∀ c ∈ cs, isBlank c = false) :
    trimStart cs = cs := by
  cases cs with
  | nil => rfl
  | cons c cs => simp [trimStart, h c List.mem_cons_self]

theorem trim_eq_self {cs : List Char} (h : ∀ c ∈ cs, isBlank c = false) : trim cs = cs := by
  have hr : trimStart cs.reverse = cs.reverse :=
    trimStart_eq_self fun c hc => h c (List.mem_reverse.1 hc)
  rw [trim, trimStart_eq_self h, trimEnd]
  -- the end is trimmed as the start of the reverse
  rw [trimStart] at hr
  rw [hr, List.reverse_reverse]

/-- A text without blanks is its own trimming. -/
theorem trimmed_eq_self {s : String} (h : ∀ c ∈ s.toList, isBlank c = false) : trimmed s = s := by
  rw [trimmed, trim_eq_self h, String.ofList_toList]

/-- The text has no blank at either end. -/
def Tight (cs : List Char) : Prop :=
  (∀ c ∈ cs.head?, isBlank c = false) ∧ ∀ c ∈ cs.getLast?, isBlank c = false

instance (cs : List Char) : Decidable (Tight cs) :=
  decidable_of_iff
    ((cs.head?.all fun c => !isBlank c) = true ∧ (cs.getLast?.all fun c => !isBlank c) = true)
    (by simp only [Tight, Option.all_eq_true, Bool.not_eq_true', Option.mem_def])

theorem dropWhile_isBlank_of_head? {cs : List Char} (h : ∀ c ∈ cs.head?, isBlank c = false) :
    cs.dropWhile isBlank = cs := by
  cases cs with
  | nil => rfl
  | cons c cs => simp [h c rfl]

/-- A text without blanks at its ends is its own trimming. -/
theorem Tight.trim_eq {cs : List Char} (h : Tight cs) : trim cs = cs := by
  obtain ⟨hhead, hlast⟩ := h
  have hreverse : ∀ c ∈ cs.reverse.head?, isBlank c = false := by
    rw [List.head?_reverse]
    exact hlast
  rw [trim, trimStart, dropWhile_isBlank_of_head? hhead, trimEnd,
    dropWhile_isBlank_of_head? hreverse, List.reverse_reverse]

/-- A text is its trimming between blanks. -/
theorem exists_eq_blank_trim_blank (cs : List Char) :
    ∃ front back, (∀ c ∈ front, isBlank c = true) ∧ (∀ c ∈ back, isBlank c = true) ∧
      cs = front ++ (trim cs ++ back) := by
  have hsplit : trimStart cs =
      trim cs ++ ((trimStart cs).reverse.takeWhile isBlank).reverse := by
    rw [trim, trimEnd, ← List.reverse_append, List.takeWhile_append_dropWhile, List.reverse_reverse]
  refine ⟨cs.takeWhile isBlank, ((trimStart cs).reverse.takeWhile isBlank).reverse, ?_, ?_, ?_⟩
  · intro c hc
    exact List.mem_takeWhile_imp hc
  · intro c hc
    exact List.mem_takeWhile_imp (List.mem_reverse.1 hc)
  · rw [← hsplit, trimStart, List.takeWhile_append_dropWhile]

/-- In front of the end that is trimmed, a character that is no blank stays. -/
theorem trimEnd_cons {c : Char} (h : isBlank c = false) (cs : List Char) :
    trimEnd (c :: cs) = c :: trimEnd cs := by
  rw [trimEnd, trimEnd, List.reverse_cons, List.dropWhile_append]
  split
  · next hcs =>
    -- all that stands behind the character is blank
    rw [List.isEmpty_iff.1 hcs, List.dropWhile_cons_of_neg (by simp [h])]
    rfl
  · rw [List.reverse_append]
    rfl

theorem trim_cons {c : Char} (h : isBlank c = false) (cs : List Char) :
    trim (c :: cs) = c :: trimEnd cs := by
  rw [trim, trimStart, List.dropWhile_cons_of_neg (by simp [h]), trimEnd_cons h]

/-- Trimming its end leaves the front of a text. -/
theorem trimEnd_prefix (cs : List Char) : trimEnd cs <+: cs := by
  rw [trimEnd, ← List.reverse_suffix, List.reverse_reverse]
  exact List.dropWhile_suffix isBlank

/-- Every character of the text is a blank. -/
def AllBlank (s : String) : Prop := ∀ c ∈ s.toList, isBlank c = true

instance (s : String) : Decidable (AllBlank s) :=
  List.decidableBAll (fun c => isBlank c = true) s.toList

theorem trim_blank_append {front cs : List Char} (h : ∀ c ∈ front, isBlank c = true) :
    trim (front ++ cs) = trim cs := by
  rw [trim, trim, trimStart, List.dropWhile_append_of_pos h, trimStart]

theorem trimEnd_append_blank {cs back : List Char} (h : ∀ c ∈ back, isBlank c = true) :
    trimEnd (cs ++ back) = trimEnd cs := by
  have hr : ∀ c ∈ back.reverse, isBlank c = true := by
    intro c hc
    exact h c (List.mem_reverse.1 hc)
  rw [trimEnd, trimEnd, List.reverse_append, List.dropWhile_append_of_pos hr]

theorem trim_append_blank {cs back : List Char} (h : ∀ c ∈ back, isBlank c = true) :
    trim (cs ++ back) = trim cs := by
  rw [trim, trim, trimStart, trimStart, List.dropWhile_append]
  split
  · next hcs =>
    -- the text itself is blank, so that nothing is left of either
    rw [List.isEmpty_iff.1 hcs, List.dropWhile_eq_nil_iff.2 h]
  · exact trimEnd_append_blank h

theorem isBlank_of_head?_dropWhile {c : Char} {cs : List Char}
    (h : c ∈ (cs.dropWhile isBlank).head?) : isBlank c = false := by
  have hnot := List.head?_dropWhile_not isBlank cs
  rw [Option.mem_def.1 h] at hnot
  exact hnot

/-- What trimming leaves has no blank at either end. -/
theorem tight_trim (cs : List Char) : Tight (trim cs) := by
  refine ⟨fun c hc => ?_, fun c hc => ?_⟩
  · -- trimming the end leaves the first character where it is
    obtain ⟨rest, hrest⟩ := trimEnd_prefix (trimStart cs)
    have hstart : c ∈ (trimStart cs).head? := by
      rw [trim] at hc
      rw [← hrest, List.head?_append, Option.mem_def.1 hc]
      rfl
    exact isBlank_of_head?_dropWhile hstart
  · rw [trim, trimEnd, List.getLast?_reverse] at hc
    exact isBlank_of_head?_dropWhile hc

/-- The trimming of a text is its core between blanks, without blanks at the ends. -/
theorem trim_eq_iff {cs core : List Char} :
    trim cs = core ↔
      Tight core ∧ ∃ front back, (∀ c ∈ front, isBlank c = true) ∧
        (∀ c ∈ back, isBlank c = true) ∧ cs = front ++ (core ++ back) := by
  constructor
  · rintro rfl
    exact ⟨tight_trim cs, exists_eq_blank_trim_blank cs⟩
  · rintro ⟨htight, front, back, hfront, hback, rfl⟩
    rw [trim_blank_append hfront, trim_append_blank hback, htight.trim_eq]

theorem trim_eq_nil_iff {cs : List Char} : trim cs = [] ↔ ∀ c ∈ cs, isBlank c = true := by
  constructor
  · intro h c hc
    obtain ⟨-, front, back, hfront, hback, rfl⟩ := trim_eq_iff.1 h
    rw [List.nil_append, List.mem_append] at hc
    rcases hc with hc | hc
    · exact hfront c hc
    · exact hback c hc
  · intro h
    rw [trim, trimStart, List.dropWhile_eq_nil_iff.2 h]
    rfl

/-- Nothing is left of a text exactly if it is blank. -/
theorem trimmed_eq_empty_iff {s : String} : trimmed s = "" ↔ AllBlank s := by
  rw [trimmed, ← String.toList_inj, String.toList_ofList, String.toList_empty, trim_eq_nil_iff,
    AllBlank]

/-- The text has a core, and blanks around it. -/
def Surrounds (s core : String) : Prop :=
  ∃ before after, AllBlank before ∧ AllBlank after ∧ s = before ++ core ++ after

theorem surrounds_trimmed (s : String) : Surrounds s (trimmed s) := by
  obtain ⟨front, back, hfront, hback, hs⟩ := exists_eq_blank_trim_blank s.toList
  refine ⟨String.ofList front, String.ofList back, ?_, ?_, ?_⟩
  · rwa [AllBlank, String.toList_ofList]
  · rwa [AllBlank, String.toList_ofList]
  · rw [← String.toList_inj, String.toList_append, String.toList_append, trimmed,
      String.toList_ofList, String.toList_ofList, String.toList_ofList, List.append_assoc]
    exact hs

/-- Blanks around a text are trimmed off. -/
theorem trimmed_surrounded {before after : String} (hb : AllBlank before) (ha : AllBlank after)
    (s : String) : trimmed (before ++ s ++ after) = trimmed s := by
  rw [trimmed, trimmed, String.toList_append, String.toList_append, trim_append_blank ha,
    trim_blank_append hb]

end TenantGate.Text

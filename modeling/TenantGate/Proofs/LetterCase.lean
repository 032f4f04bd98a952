import Mathlib.Data.List.Forall2
import TenantGate.Text.Letters

/-!
# Words in any letter case

A text spells a word (`Spells`) if it is the word with some of the letters `a` to `z` in upper case.
Comparing in lower case, or up to letter case, tells exactly the texts that spell a word
(`lower_eq_iff`, `sameLetters_iff`).
-/

set_option autoImplicit false

namespace TenantGate.Text

/-- The text is the word, each letter in either case. -/
def Spells (text word : List Char) : Prop :=
  List.Forall₂ (fun c letter => c = letter ∨ c = letter.toUpper) text word

/-- The word has none of the letters `A` to `Z`. -/
def NoCapitals (word : List Char) : Prop := ∀ c ∈ word, ¬ (65 ≤ c.toNat ∧ c.toNat ≤ 90)

instance (word : List Char) : Decidable (NoCapitals word) :=
  List.decidableBAll (fun c : Char => ¬ (65 ≤ c.toNat ∧ c.toNat ≤ 90)) word

theorem toNat_toLower (c : Char) :
    c.toLower.toNat = if 65 ≤ c.toNat ∧ c.toNat ≤ 90 then c.toNat + 32 else c.toNat := by
  have hc : (c.val ≥ 'A'.val ∧ c.val ≤ 'Z'.val) ↔ 65 ≤ c.toNat ∧ c.toNat ≤ 90 := Iff.rfl
  unfold Char.toLower
  split
  · next h =>
    have hbounds := hc.1 h
    have hsum : (c.val + ('a'.val - 'A'.val)).toNat = (c.toNat + 32) % 2 ^ 32 := by simp
    rw [if_pos hbounds]
    show (c.val + ('a'.val - 'A'.val)).toNat = c.toNat + 32
    omega
  · next h => rw [if_neg (mt hc.2 h)]

theorem toNat_toUpper (c : Char) :
    c.toUpper.toNat = if 97 ≤ c.toNat ∧ c.toNat ≤ 122 then c.toNat - 32 else c.toNat := by
  have hc : ('a'.val ≤ c.val ∧ c.val ≤ 'z'.val) ↔ 97 ≤ c.toNat ∧ c.toNat ≤ 122 := Iff.rfl
  unfold Char.toUpper
  split
  · next h =>
    have hbounds := hc.1 h
    -- the difference of the two cases is negative, so the sum wraps around
    have hsum : (c.val + ('A'.val - 'a'.val)).toNat = (c.toNat + 4294967264) % 2 ^ 32 := by simp
    rw [if_pos hbounds]
    show (c.val + ('A'.val - 'a'.val)).toNat = c.toNat - 32
    omega
  · next h => rw [if_neg (mt hc.2 h)]

/-- What is not a capital is the lower case of itself and of its capital. -/
theorem toLower_eq_iff {c letter : Char} (h : ¬ (65 ≤ letter.toNat ∧ letter.toNat ≤ 90)) :
    c.toLower = letter ↔ c = letter ∨ c = letter.toUpper := by
  rw [← Char.toNat_inj, ← Char.toNat_inj, ← Char.toNat_inj, toNat_toLower, toNat_toUpper]
  split <;> split <;> omega

theorem map_toLower_eq_iff {text word : List Char} (h : NoCapitals word) :
    text.map Char.toLower = word ↔ Spells text word := by
  induction text generalizing word with
  | nil =>
    cases word with
    | nil => simp [Spells]
    | cons letter word => simp [Spells]
  | cons c text ih =>
    cases word with
    | nil => simp [Spells]
    | cons letter word =>
      have hword : NoCapitals word := fun d hd => h d (List.mem_cons_of_mem letter hd)
      rw [List.map_cons, List.cons.injEq, toLower_eq_iff (h letter List.mem_cons_self), ih hword,
        Spells, Spells, List.forall₂_cons]

theorem Spells.self (word : List Char) : Spells word word := by
  induction word with
  | nil => exact .nil
  | cons letter word ih => exact .cons (Or.inl rfl) ih

/-- Every character of the text is a letter of the word in one case or the other. -/
theorem Spells.exists_letter {text word : List Char} (h : Spells text word) {c : Char}
    (hc : c ∈ text) : ∃ letter ∈ word, c = letter ∨ c = letter.toUpper := by
  induction h with
  | nil => cases hc
  | @cons d letter text word hd _ ih =>
    rcases List.mem_cons.1 hc with rfl | hc
    · exact ⟨letter, List.mem_cons_self, hd⟩
    · obtain ⟨letter', hmem, heq⟩ := ih hc
      exact ⟨letter', List.mem_cons_of_mem letter hmem, heq⟩

theorem sameLetters_iff {text word : List Char} (h : NoCapitals word) :
    sameLetters text word = true ↔ Spells text word := by
  have hword : word.map Char.toLower = word := (map_toLower_eq_iff h).2 (Spells.self word)
  rw [sameLetters, beq_iff_eq, hword, map_toLower_eq_iff h]

theorem lower_eq_iff {s word : String} (h : NoCapitals word.toList) :
    lower s = word ↔ Spells s.toList word.toList := by
  rw [← map_toLower_eq_iff h, lower, ← String.toList_inj, String.toList_ofList]

end TenantGate.Text

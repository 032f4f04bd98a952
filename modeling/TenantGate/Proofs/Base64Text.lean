import TenantGate.Base64.Canonical
import TenantGate.Proofs.Texts

/-!
# Base64 as text

`encodeText` writes ASCII symbols and pad signs only (`mem_encode`), so its octets are those of
`encode` (`octets_encodeText`) and trimming leaves it alone (`trimmed_encodeText`). Reading a text
succeeds exactly on what `encodeText` writes (`decode_octets_eq_ok_iff`). How a text ends follows
from the number of octets: `Written` lists the three ways, and `written_encode` says that there are
no others.
-/

set_option autoImplicit false

namespace TenantGate.Base64

open TenantGate.Text

/-- Every octet of a base64 text is a symbol or the pad sign. -/
theorem mem_encode {bs : List UInt8} {b : UInt8} (h : b ∈ encode bs) :
    b = pad ∨ ∃ v, b = symbol v := by
  -- one case for each last group: none, of one octet, of two octets; then a full group
  fun_induction encode bs with
  | case1 => cases h
  | case2 a s t _ _ _ =>
    simp only [List.mem_cons, List.not_mem_nil, or_false] at h
    rcases h with rfl | rfl | rfl | rfl
    · exact Or.inr ⟨s, rfl⟩
    · exact Or.inr ⟨t, rfl⟩
    · exact Or.inl rfl
    · exact Or.inl rfl
  | case3 a b s t u _ _ =>
    simp only [List.mem_cons, List.not_mem_nil, or_false] at h
    rcases h with rfl | rfl | rfl | rfl
    · exact Or.inr ⟨s, rfl⟩
    · exact Or.inr ⟨t, rfl⟩
    · exact Or.inr ⟨u, rfl⟩
    · exact Or.inl rfl
  | case4 a b c rest s t u v _ ih =>
    simp only [List.mem_cons] at h
    rcases h with rfl | rfl | rfl | rfl | h
    · exact Or.inr ⟨s, rfl⟩
    · exact Or.inr ⟨t, rfl⟩
    · exact Or.inr ⟨u, rfl⟩
    · exact Or.inr ⟨v, rfl⟩
    · exact ih h

theorem symbol_lt : ∀ v : Sextet, symbol v < 128 := by decide

theorem lt_of_mem_encode {bs : List UInt8} {b : UInt8} (h : b ∈ encode bs) : b < 128 := by
  rcases mem_encode h with rfl | ⟨v, rfl⟩
  · decide
  · exact symbol_lt v

/-- A base64 text is ASCII. -/
theorem octets_encodeText (bs : List UInt8) : octets (encodeText bs) = encode bs :=
  octets_ofAscii fun _ => lt_of_mem_encode

/-- The character of a sextet. -/
def letter (v : Sextet) : Char := Char.ofNat (symbol v).toNat

/-- A letter is read back as its sextet. -/
theorem sextet?_letter : ∀ v : Sextet, sextet? (UInt8.ofNat (letter v).toNat) = some v := by decide

theorem letter_injective : Function.Injective letter := by
  intro v w h
  apply Option.some.inj
  rw [← sextet?_letter v, ← sextet?_letter w, h]

theorem letter_ne_pad : ∀ v : Sextet, letter v ≠ '=' := by decide

theorem isBlank_letter : ∀ v : Sextet, isBlank (letter v) = false := by decide

/-- A base64 text consists of letters and pad signs. -/
theorem mem_toList_encodeText {bs : List UInt8} {c : Char} (h : c ∈ (encodeText bs).toList) :
    c = '=' ∨ ∃ v, c = letter v := by
  rw [encodeText, String.toList_ofList, List.mem_map] at h
  obtain ⟨b, hb, rfl⟩ := h
  rcases mem_encode hb with rfl | ⟨v, rfl⟩
  · exact Or.inl rfl
  · exact Or.inr ⟨v, rfl⟩

/-- A base64 text has no blanks. -/
theorem trimmed_encodeText (bs : List UInt8) : trimmed (encodeText bs) = encodeText bs := by
  refine trimmed_eq_self fun c hc => ?_
  rcases mem_toList_encodeText hc with rfl | ⟨v, rfl⟩
  · decide
  · exact isBlank_letter v

/-- **A text is read as octets exactly if it is the base64 of these octets.** -/
theorem decode_octets_eq_ok_iff {s : String} {bs : List UInt8} :
    decode (octets s) = .ok bs ↔ s = encodeText bs := by
  rw [decode_eq_ok_iff, ← octets_encodeText, octets_inj]

/-- What is read with an error is no base64. -/
theorem ne_encodeText_of_decode {s : String} {cause : DecodeError}
    (h : decode (octets s) = .error cause) (bs : List UInt8) : s ≠ encodeText bs := by
  intro hs
  rw [decode_octets_eq_ok_iff.2 hs] at h
  cases h

theorem encodeText_inj {bs cs : List UInt8} : encodeText bs = encodeText cs ↔ bs = cs := by
  constructor
  · intro h
    have hb := decode_octets_eq_ok_iff.2 (rfl : encodeText bs = encodeText bs)
    rw [h, decode_octets_eq_ok_iff.2 rfl] at hb
    exact (Except.ok.inj hb).symm
  · exact congrArg encodeText

theorem encodeText_eq_empty_iff {bs : List UInt8} : encodeText bs = "" ↔ bs = [] := by
  rw [← octets_eq_nil_iff, octets_encodeText, encode_eq_nil_iff]

/-! ## How a text ends -/

/-- The written forms of octets, by the number of octets beyond full groups: symbols, and behind
them the pad signs that fill the last group, whose unused bits are zero. -/
inductive Written : Nat → List UInt8 → Prop where
  | whole (vs : List Sextet) : Written 0 (vs.map symbol)
  | one (vs : List Sextet) {t : Sextet} :
      t.val % 16 = 0 → Written 1 (vs.map symbol ++ [symbol t, pad, pad])
  | two (vs : List Sextet) {u : Sextet} :
      u.val % 4 = 0 → Written 2 (vs.map symbol ++ [symbol u, pad])

/-- A full group in front does not change how a text ends. -/
theorem Written.group {n : Nat} {text : List UInt8} (s t u v : Sextet) (h : Written n text) :
    Written n (symbol s :: symbol t :: symbol u :: symbol v :: text) := by
  cases h with
  | whole vs => exact .whole (s :: t :: u :: v :: vs)
  | one vs h => exact .one (s :: t :: u :: v :: vs) h
  | two vs h => exact .two (s :: t :: u :: v :: vs) h

theorem written_encode (bs : List UInt8) : Written (bs.length % 3) (encode bs) := by
  fun_induction encode bs with
  | case1 => exact .whole []
  | case2 a s t u v h =>
    have ht := unused_of_one a 0
    rw [h] at ht
    exact .one [s] ht
  | case3 a b s t u v h =>
    have hu := unused_of_two a b
    rw [h] at hu
    exact .two [s, t] hu
  | case4 a b c rest s t u v _ ih =>
    have hlen : (a :: b :: c :: rest).length % 3 = rest.length % 3 := by
      simp only [List.length_cons]
      omega
    rw [hlen]
    exact ih.group s t u v

/-- Two octets beyond full groups are written with one pad sign. -/
theorem toList_encodeText_of_two {bs : List UInt8} (h : bs.length % 3 = 2) :
    ∃ (vs : List Sextet) (u : Sextet), u.val % 4 = 0 ∧
      (encodeText bs).toList = vs.map letter ++ [letter u, '='] := by
  have hw := written_encode bs
  rw [h] at hw
  rw [encodeText, String.toList_ofList]
  generalize encode bs = text at hw
  cases hw with
  | two vs hu =>
    refine ⟨vs, _, hu, ?_⟩
    rw [List.map_append, List.map_map]
    rfl

end TenantGate.Base64

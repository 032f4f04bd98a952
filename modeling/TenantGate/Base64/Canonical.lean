import TenantGate.Base64

/-!
# Each octet sequence has one base64 text

Reading accepts exactly what writing produces (`decode_eq_ok_iff`): what was written is read back
(`decode_encode`), and only what writing produces is read (`eq_encode_of_decode`). Both follow from
the same fact about one group: four sextets and three octets determine each other, and in a short
group the unused bits are zero.
-/

set_option autoImplicit false

namespace TenantGate.Base64

/-! ## Symbols -/

/-- Every symbol is read as its sextet. -/
theorem sextet?_symbol : ∀ v : Sextet, sextet? (symbol v) = some v := by decide

/-- The pad sign is no symbol. -/
theorem symbol_ne_pad : ∀ v : Sextet, symbol v ≠ pad := by decide

set_option maxRecDepth 2000 in
/-- Only its own symbol is read as a sextet. -/
theorem symbol_of_sextet? {b : UInt8} {v : Sextet} (h : sextet? b = some v) : symbol v = b := by
  have all : ∀ n : Fin 256, ∀ v ∈ sextet? (UInt8.ofNat n.val), symbol v = UInt8.ofNat n.val := by
    decide
  have hb : UInt8.ofNat b.toNat = b := UInt8.ofNat_toNat
  have := all ⟨b.toNat, b.toNat_lt⟩ v
  simp only [hb] at this
  exact this h

@[simp] theorem sextetAt_symbol (offset : Nat) (v : Sextet) :
    sextetAt offset (symbol v) = .ok v := by
  simp [sextetAt, sextet?_symbol]

/-- A reader that goes on behind an octet has read a symbol. -/
theorem exists_symbol_of_bind {α : Type} {offset : Nat} {b : UInt8}
    {next : Sextet → Except DecodeError α} {a : α}
    (h : (sextetAt offset b >>= next) = .ok a) : ∃ v, b = symbol v ∧ next v = .ok a := by
  unfold sextetAt at h
  split at h
  · next v hv => exact ⟨v, (symbol_of_sextet? hv).symm, h⟩
  · cases h

/-! ## Groups -/

theorem octet1_sextets (a b c : UInt8) : octet1 (sextets a b c).1 (sextets a b c).2.1 = a := by
  have ha := a.toNat_lt
  have hb := b.toNat_lt
  apply UInt8.toNat.inj
  simp [octet1, sextets, Fin.ofNat]
  omega

theorem octet2_sextets (a b c : UInt8) :
    octet2 (sextets a b c).2.1 (sextets a b c).2.2.1 = b := by
  have hb := b.toNat_lt
  have hc := c.toNat_lt
  apply UInt8.toNat.inj
  simp [octet2, sextets, Fin.ofNat]
  omega

theorem octet3_sextets (a b c : UInt8) :
    octet3 (sextets a b c).2.2.1 (sextets a b c).2.2.2 = c := by
  have hc := c.toNat_lt
  apply UInt8.toNat.inj
  simp [octet3, sextets, Fin.ofNat]
  omega

/-- The octets of four sextets have these sextets. -/
theorem sextets_octets (s t u v : Sextet) :
    sextets (octet1 s t) (octet2 t u) (octet3 u v) = (s, t, u, v) := by
  have hs := s.isLt
  have ht := t.isLt
  have hu := u.isLt
  have hv := v.isLt
  simp [sextets, octet1, octet2, octet3, Fin.ext_iff, Fin.ofNat]
  omega

/-- The unused bits of a group of one octet are zero. -/
theorem unused_of_one (a c : UInt8) : (sextets a 0 c).2.1.val % 16 = 0 := by
  simp [sextets, Fin.ofNat]

/-- The unused bits of a group of two octets are zero. -/
theorem unused_of_two (a b : UInt8) : (sextets a b 0).2.2.1.val % 4 = 0 := by
  simp [sextets, Fin.ofNat]

/-! ## Reading what was written -/

/-- Writing fills the last group. -/
theorem length_encode_mod (bs : List UInt8) : (encode bs).length % 4 = 0 := by
  fun_induction encode bs with
  | case1 => rfl
  | case2 => simp
  | case3 => simp
  | case4 a b c rest s t u v _ ih =>
    simp only [List.length_cons]
    omega

theorem encode_eq_nil_iff {bs : List UInt8} : encode bs = [] ↔ bs = [] := by
  fun_cases encode bs <;> simp_all

theorem strayLast?_encode (bs : List UInt8) : strayLast? (encode bs) = none := by
  unfold strayLast?
  split
  · simp [length_encode_mod]
  · rfl

theorem decodeFrom_encode (bs : List UInt8) (offset : Nat) :
    decodeFrom offset (encode bs) = .ok bs := by
  fun_induction encode bs generalizing offset with
  | case1 => simp [decodeFrom, decodeLast]
  | case2 a s t _ _ h =>
    have ha := octet1_sextets a 0 0
    have ht := unused_of_one a 0
    rw [h] at ha ht
    simp [decodeFrom, decodeLast, ha, ht, bind, Except.bind]
  | case3 a b s t u _ h =>
    have ha := octet1_sextets a b 0
    have hb := octet2_sextets a b 0
    have hu := unused_of_two a b
    rw [h] at ha hb hu
    simp [decodeFrom, decodeLast, symbol_ne_pad, ha, hb, hu, bind, Except.bind]
  | case4 a b c rest s t u v h ih =>
    have ha := octet1_sextets a b c
    have hb := octet2_sextets a b c
    have hc := octet3_sextets a b c
    rw [h] at ha hb hc
    cases hr : encode rest with
    | nil =>
      obtain rfl := encode_eq_nil_iff.1 hr
      simp [decodeFrom, decodeLast, symbol_ne_pad, ha, hb, hc, bind, Except.bind]
    | cons e more =>
      rw [hr] at ih
      simp [decodeFrom, ih, ha, hb, hc, bind, Except.bind]

/-- What was written is read back. -/
theorem decode_encode (bs : List UInt8) : decode (encode bs) = .ok bs := by
  simp [decode, strayLast?_encode, decodeFrom_encode]

/-! ## Writing what was read -/

/-- A group of one octet without unused bits is written as it was read. -/
theorem encode_one {s t : Sextet} (h : t.val % 16 = 0) :
    encode [octet1 s t] = [symbol s, symbol t, pad, pad] := by
  have hs := s.isLt
  have ht := t.isLt
  have e : sextets (octet1 s t) 0 0 = (s, t, 0, 0) := by
    simp [sextets, octet1, Fin.ext_iff, Fin.ofNat]
    omega
  simp [encode, e]

/-- A group of two octets without unused bits is written as it was read. -/
theorem encode_two {s t u : Sextet} (h : u.val % 4 = 0) :
    encode [octet1 s t, octet2 t u] = [symbol s, symbol t, symbol u, pad] := by
  have hs := s.isLt
  have ht := t.isLt
  have hu := u.isLt
  have e : sextets (octet1 s t) (octet2 t u) 0 = (s, t, u, 0) := by
    simp [sextets, octet1, octet2, Fin.ext_iff, Fin.ofNat]
    omega
  simp [encode, e]

theorem encode_cons (s t u v : Sextet) (bs : List UInt8) :
    encode (octet1 s t :: octet2 t u :: octet3 u v :: bs) =
      symbol s :: symbol t :: symbol u :: symbol v :: encode bs := by
  simp [encode, sextets_octets]

theorem eq_encode_of_decodeLast {offset : Nat} {text bs : List UInt8} (hl : text.length < 5)
    (h : decodeLast offset text = .ok bs) : text = encode bs := by
  fun_cases decodeLast offset text with
  | case1 =>
    cases h
    rfl
  | case2 a =>
    obtain ⟨_, _, h⟩ := exists_symbol_of_bind h
    cases h
  | case3 a b =>
    obtain ⟨_, _, h⟩ := exists_symbol_of_bind h
    obtain ⟨_, _, h⟩ := exists_symbol_of_bind h
    cases h
  | case4 a b c =>
    obtain ⟨_, _, h⟩ := exists_symbol_of_bind h
    obtain ⟨_, _, h⟩ := exists_symbol_of_bind h
    split at h
    · obtain ⟨_, _, h⟩ := exists_symbol_of_bind h
      cases h
    · cases h
  | case5 a b c d rest =>
    obtain rfl : rest = [] := by
      simp only [List.length_cons] at hl
      exact List.eq_nil_of_length_eq_zero (by omega)
    obtain ⟨s, ha, h⟩ := exists_symbol_of_bind h
    obtain ⟨t, hb, h⟩ := exists_symbol_of_bind h
    split at h
    · next hc =>
      split at h
      · cases h
      · next hd =>
        split at h
        · cases h
        · next ht =>
          cases h
          rw [encode_one (Decidable.not_not.1 ht), ha, hb, hc, Decidable.not_not.1 hd]
    · obtain ⟨u, hc, h⟩ := exists_symbol_of_bind h
      split at h
      · next hd =>
        split at h
        · cases h
        · next hu =>
          cases h
          rw [encode_two (Decidable.not_not.1 hu), ha, hb, hc, hd]
      · obtain ⟨v, hd, h⟩ := exists_symbol_of_bind h
        cases h
        rw [encode_cons, ha, hb, hc, hd]
        rfl

theorem eq_encode_of_decodeFrom {offset : Nat} {text bs : List UInt8}
    (h : decodeFrom offset text = .ok bs) : text = encode bs := by
  fun_induction decodeFrom offset text generalizing bs with
  | case1 offset a b c d e rest ih =>
    obtain ⟨s, ha, h⟩ := exists_symbol_of_bind h
    obtain ⟨t, hb, h⟩ := exists_symbol_of_bind h
    obtain ⟨u, hc, h⟩ := exists_symbol_of_bind h
    obtain ⟨v, hd, h⟩ := exists_symbol_of_bind h
    cases hr : decodeFrom (offset + 4) (e :: rest) with
    | error e => simp [hr, bind, Except.bind] at h
    | ok more =>
      simp only [hr, bind, Except.bind, Except.ok.injEq] at h
      rw [← h, encode_cons, ← ih hr, ha, hb, hc, hd]
  | case2 offset last hl =>
    refine eq_encode_of_decodeLast ?_ h
    rcases last with _ | ⟨a, _ | ⟨b, _ | ⟨c, _ | ⟨d, _ | ⟨e, rest⟩⟩⟩⟩⟩
    case cons.cons.cons.cons.cons => exact absurd rfl (hl a b c d e rest)
    all_goals simp

/-- Only what writing produces is read. -/
theorem eq_encode_of_decode {text bs : List UInt8} (h : decode text = .ok bs) :
    text = encode bs := by
  unfold decode at h
  split at h
  · cases h
  · exact eq_encode_of_decodeFrom h

/-- Reading accepts exactly what writing produces. -/
theorem decode_eq_ok_iff {text bs : List UInt8} : decode text = .ok bs ↔ text = encode bs :=
  ⟨eq_encode_of_decode, fun h => h ▸ decode_encode bs⟩

end TenantGate.Base64

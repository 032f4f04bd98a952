import TenantGate.Proofs.Outcomes
import TenantGate.Service.TenantAnswer

/-!
# Answers read back

What is written about a tenant context is read back as it was. A character's escape is read as this
character (`Json.readStringFrom_escaped`), so a written text is read whole, whatever follows it
(`Json.readText_writeString`), and the reader of an object takes one written member at a time
(`TenantAnswer.readMembers_member`). `TenantAnswer.read_write` is the round trip.
-/

set_option autoImplicit false

namespace TenantGate

namespace Json

open TenantGate.Unicode

/-! ## Escapes by code -/

theorem hexDigit?_hexChar {n : Nat} (h : n < 16) : hexDigit? (hexChar n) = some n := by
  have all : ∀ m : Fin 16, hexDigit? (hexChar m.val) = some m.val := by decide
  exact all ⟨n, h⟩

/-- Four characters take four octets at least. -/
theorem hasUnit_four (a b c d : Char) (cs : List Char) :
    hasUnit (a :: b :: c :: d :: cs) = true := by
  have ha := a.utf8Size_pos
  have hb := b.utf8Size_pos
  have hc := c.utf8Size_pos
  have hd := d.utf8Size_pos
  refine decide_eq_true ?_
  simp only [octetCount, List.take_succ_cons, List.take_zero, List.foldl_cons, List.foldl_nil]
  omega

/-- Another digit of a unit, which is not the last one. -/
theorem readStringFrom_digit {n left value : Nat} (hn : n < 16) (hleft : 1 < left)
    (taken cs : List Char) :
    readStringFrom false (.unit none left value) taken (hexChar n :: cs) =
      readStringFrom false (.unit none (left - 1) (16 * value + n)) taken cs := by
  rw [readStringFrom]
  simp only [hexDigit?_hexChar hn, if_pos hleft]

/-- The last digit of a unit that stands for a character. -/
theorem readStringFrom_lastDigit {n value : Nat} (hn : n < 16) (hvalue : 16 * value + n < 0xD800)
    (taken cs : List Char) :
    readStringFrom false (.unit none 1 value) taken (hexChar n :: cs) =
      readStringFrom false .plain (Char.ofNat (16 * value + n) :: taken) cs := by
  have hlead : isLead (16 * value + n) = false := by
    rw [isLead, decide_eq_false (by omega), Bool.false_and]
  have htrail : isTrail (16 * value + n) = false := by
    rw [isTrail, decide_eq_false (by omega), Bool.false_and]
  rw [readStringFrom]
  simp [hexDigit?_hexChar hn, hlead, htrail]

/-- The code of a control is read as this control. -/
theorem readStringFrom_code {c : Char} (hc : c.toNat < 0x20) (taken cs : List Char) :
    readStringFrom false .plain taken
        ('\\' :: 'u' :: '0' :: '0' :: hexChar (c.toNat / 16) :: hexChar (c.toNat % 16) :: cs) =
      readStringFrom false .plain (c :: taken) cs := by
  have hzero : '0' = hexChar 0 := by decide
  have hopen : ∀ rest, hasUnit rest = true →
      readStringFrom false .plain taken ('\\' :: 'u' :: rest) =
        readStringFrom false (.unit none 4 0) taken rest := by
    intro rest hrest
    simp [readStringFrom, shortEscape?, hrest]
  have hvalue : 16 * (16 * (16 * (16 * 0 + 0) + 0) + c.toNat / 16) + c.toNat % 16 = c.toNat := by
    omega
  rw [hopen _ (hasUnit_four ..), hzero, readStringFrom_digit (by omega) (by omega),
    readStringFrom_digit (by omega) (by omega), readStringFrom_digit (by omega) (by omega),
    readStringFrom_lastDigit (by omega) (by omega), hvalue, Char.ofNat_toNat]

/-- A short escape is read as its character. -/
theorem readStringFrom_short {c letter : Char} (h : shortEscape? letter = some c)
    (taken cs : List Char) :
    readStringFrom false .plain taken ('\\' :: letter :: cs) =
      readStringFrom false .plain (c :: taken) cs := by
  rw [readStringFrom, if_neg (by decide), if_pos rfl, readStringFrom]
  simp only [h]

/-- **The escape of a character is read as this character.** -/
theorem readStringFrom_escaped (c : Char) (taken cs : List Char) :
    readStringFrom false .plain taken (escaped c ++ cs) =
      readStringFrom false .plain (c :: taken) cs := by
  unfold escaped
  -- the cases are those of the writer, and the first seven have a short escape each
  split
  · next hc =>
    subst hc
    exact readStringFrom_short rfl taken cs
  split
  · next hc =>
    subst hc
    exact readStringFrom_short rfl taken cs
  split
  · next hc =>
    subst hc
    exact readStringFrom_short rfl taken cs
  split
  · next hc =>
    subst hc
    exact readStringFrom_short rfl taken cs
  split
  · next hc =>
    subst hc
    exact readStringFrom_short rfl taken cs
  split
  · next hc =>
    subst hc
    exact readStringFrom_short rfl taken cs
  split
  · next hc =>
    subst hc
    exact readStringFrom_short rfl taken cs
  split
  · next hc => exact readStringFrom_code hc taken cs
  · next hquote hslash _ _ _ _ _ hc =>
    rw [List.singleton_append, readStringFrom, if_neg hquote, if_neg hslash, if_neg hc]

theorem readStringFrom_flatMap_escaped (text taken cs : List Char) :
    readStringFrom false .plain taken (text.flatMap escaped ++ '"' :: cs) =
      .ok (taken.reverse ++ text, cs) := by
  induction text generalizing taken with
  | nil => simp [readStringFrom]
  | cons c text ih =>
    rw [List.flatMap_cons, List.append_assoc, readStringFrom_escaped, ih, List.reverse_cons,
      List.append_assoc, List.singleton_append]

theorem writeString_append (s : String) (cs : List Char) :
    writeString s ++ cs = '"' :: (s.toList.flatMap escaped ++ '"' :: cs) := by
  rw [writeString, List.append_assoc, List.singleton_append, List.cons_append]

theorem readString_written (s : String) (cs : List Char) :
    readString (s.toList.flatMap escaped ++ '"' :: cs) = .ok (s, cs) := by
  rw [readString, readStringFrom_flatMap_escaped, List.reverse_nil, List.nil_append, Except.map,
    String.ofList_toList]

/-- **A text that was written is read back, whatever follows it.** -/
theorem readText_writeString (s : String) (cs : List Char) :
    readText (writeString s ++ cs) = .ok (s, cs) := by
  rw [writeString_append]
  exact readString_written s cs

end Json

namespace TenantAnswer

open TenantGate.Json

/-! ## Members -/

theorem Member.ofKey?_key (m : Member) : Member.ofKey? m.key = some m := by
  cases m <;> rfl

/-- The written value of a member, as a reader takes it up. -/
structure ReadsAs (p : Partial) (m : Member) (value : List Char) (p' : Partial) : Prop where
  fresh : p.has m = false
  readInto : ∀ cs, p.readInto m (value ++ cs) = .ok (p', cs)

theorem readTextOrNull_writeOptional (text : Option String) (cs : List Char) :
    readTextOrNull (writeOptional text ++ cs) = .ok (text, cs) := by
  cases text with
  | none => rfl
  | some s =>
    have hread := readText_writeString s cs
    rw [writeString_append] at hread
    rw [writeOptional, writeString_append]
    show (readText _).map _ = _
    rw [hread]
    rfl

theorem nextKey_first (key : String) (cs : List Char) :
    nextKey true (writeString key ++ cs) = .ok (.inl (key, cs)) := by
  rw [writeString_append]
  show (readString _).map Sum.inl = _
  rw [readString_written]
  rfl

theorem nextKey_later (key : String) (cs : List Char) :
    nextKey false (',' :: (writeString key ++ cs)) = .ok (.inl (key, cs)) := by
  rw [writeString_append]
  show (readString _).map Sum.inl = _
  rw [readString_written]
  rfl

/-- One member is read at a time, behind a comma if it is not the first one. -/
theorem readMembers_member {first : Bool} {p p' : Partial} {m : Member}
    {cs value rest : List Char} (h : ReadsAs p m value p')
    (hkey : nextKey first cs = .ok (.inl (m.key, ':' :: (value ++ rest)))) (steps : Nat) :
    readMembers (steps + 1) first p cs = readMembers steps false p' rest := by
  rw [readMembers, hkey, Except.ok_bind]
  simp only [Member.ofKey?_key, h.fresh]
  show (p.readInto m (value ++ rest) >>= _) = _
  rw [h.readInto, Except.ok_bind]

theorem readMembers_end (steps : Nat) (p : Partial) (cs : List Char) :
    readMembers (steps + 1) false p ('\x7d' :: cs) = .ok (p, '\x7d' :: cs) :=
  rfl

/-! ## Objects -/

/-- A member in front of others. -/
theorem writeMember_append (m : Member) (value rest : List Char) :
    writeMember m value ++ rest = writeString m.key ++ ':' :: (value ++ rest) := by
  rw [writeMember, List.append_assoc, List.cons_append]

/-- The members of a written answer and the closing brace. -/
def writeMembers (a : TenantAnswer) : List Char :=
  writeMember .tenantId (writeString a.tenantId) ++
    ',' :: (writeMember .systemBaseUri (writeOptional a.systemBaseUri) ++
      ',' :: (writeMember .initiatorSystemBaseUri (writeString a.initiatorSystemBaseUri) ++
        ['\x7d']))

theorem toList_write (a : TenantAnswer) : a.write.toList = '\x7b' :: a.writeMembers := by
  rw [write, writeMembers, String.toList_ofList]
  simp only [List.append_assoc, List.cons_append]

/-- The members bring enough characters for a step each. -/
theorem exists_length_writeMembers (a : TenantAnswer) : ∃ n, a.writeMembers.length = n + 3 := by
  refine ⟨a.writeMembers.length - 3, ?_⟩
  have hlong : 3 ≤ a.writeMembers.length := by
    simp only [writeMembers, List.length_append, List.length_cons]
    omega
  omega

theorem readMembers_writeMembers (a : TenantAnswer) (steps : Nat) :
    readMembers (steps + 4) true Partial.empty a.writeMembers =
      .ok (⟨some a.tenantId, some a.systemBaseUri, some a.initiatorSystemBaseUri⟩, ['\x7d']) := by
  have htenant : ReadsAs Partial.empty .tenantId (writeString a.tenantId)
      ⟨some a.tenantId, none, none⟩ := by
    refine ⟨rfl, fun cs => ?_⟩
    rw [Partial.readInto, readText_writeString]
    rfl
  have hbase : ReadsAs ⟨some a.tenantId, none, none⟩ .systemBaseUri (writeOptional a.systemBaseUri)
      ⟨some a.tenantId, some a.systemBaseUri, none⟩ := by
    refine ⟨rfl, fun cs => ?_⟩
    rw [Partial.readInto, readTextOrNull_writeOptional]
    rfl
  have hinitiator : ReadsAs ⟨some a.tenantId, some a.systemBaseUri, none⟩ .initiatorSystemBaseUri
      (writeString a.initiatorSystemBaseUri)
      ⟨some a.tenantId, some a.systemBaseUri, some a.initiatorSystemBaseUri⟩ := by
    refine ⟨rfl, fun cs => ?_⟩
    rw [Partial.readInto, readText_writeString]
    rfl
  rw [writeMembers, writeMember_append, writeMember_append, writeMember_append,
    readMembers_member htenant (nextKey_first _ _), readMembers_member hbase (nextKey_later _ _),
    readMembers_member hinitiator (nextKey_later _ _)]
  exact readMembers_end steps _ []

/-- **A written answer is read back.** -/
theorem read_write (a : TenantAnswer) : read a.write = .ok a := by
  obtain ⟨n, hn⟩ := exists_length_writeMembers a
  have hobject : readObject a.writeMembers = .ok (a, []) := by
    rw [readObject, hn, readMembers_writeMembers, Except.ok_bind]
    rfl
  rw [read, toList_write]
  show (readObject a.writeMembers >>= _) = _
  rw [hobject]
  rfl

example : write ⟨"t1", none, "a\"b"⟩ =
    "\x7b\"tenant_id\":\"t1\",\"system_base_uri\":null," ++
      "\"initiator_system_base_uri\":\"a\\\"b\"\x7d" := by
  decide

end TenantAnswer

end TenantGate

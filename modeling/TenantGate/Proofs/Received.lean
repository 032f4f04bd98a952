import TenantGate.Http.Fields
import TenantGate.Proofs.Outcomes
import TenantGate.Proofs.Texts

/-!
# Header lines as they are received

A header line is a name and a value in octets, and `Fields.receiveAll` makes fields of them. All
that readers see of the lines is the first value of each name: `firstLine?` says what this is in
terms of the lines (`first?_of_receiveAll`), and the other lemmas say which changes of the lines
leave it as it is. The letter case of a name does not count (`name?_eq_of_lowerOctet`).
-/

set_option autoImplicit false

namespace TenantGate.Http.Fields

open TenantGate.Text

/-! ## Reading lines -/

theorem first?_add (f : Fields) (name other : String) (value : List UInt8) :
    (f.add name value).first? other =
      (f.first? other).or (if name = other then some value else none) := by
  rw [first?, add, List.find?_append, first?]
  by_cases h : name = other
  · cases hf : f.entries.find? fun e => e.1 == other <;> simp [h]
  · cases hf : f.entries.find? fun e => e.1 == other <;> simp [h]

theorem first?_addMissing_of_ne {name other : String} (h : other ≠ name) (f : Fields)
    (value : List UInt8) : (f.addMissing name value).first? other = f.first? other := by
  unfold addMissing
  split
  · rfl
  · rw [first?_add, if_neg h.symm, Option.or_none]

/-- The first value of a name is kept; only where there is none, the new one is the first. -/
theorem first?_addMissing_self (f : Fields) (name : String) (value : List UInt8) :
    (f.addMissing name value).first? name = some ((f.first? name).getD value) := by
  unfold addMissing
  cases hf : f.first? name with
  | some bs => exact hf
  | none =>
    show (f.add name value).first? name = some value
    rw [first?_add, hf, if_pos rfl, Option.none_or]

theorem receive_eq_ok_iff {f g : Fields} {name value : List UInt8} :
    f.receive name value = .ok g ↔
      ∃ n, name? name = some n ∧ value.all isValueOctet = true ∧ f.add n value = g := by
  unfold receive
  cases name? name with
  | none => simp
  | some n => by_cases hv : value.all isValueOctet = true <;> simp [hv]

/-- The value of the first line with a name. -/
def firstLine? (lines : List (List UInt8 × List UInt8)) (name : String) : Option (List UInt8) :=
  (lines.find? fun line => name? line.1 == some name).map Prod.snd

theorem firstLine?_cons (line : List UInt8 × List UInt8) (lines : List (List UInt8 × List UInt8))
    (name : String) :
    firstLine? (line :: lines) name =
      if name? line.1 = some name then some line.2 else firstLine? lines name := by
  rw [firstLine?, List.find?_cons]
  by_cases h : name? line.1 = some name
  · simp [h]
  · rw [if_neg h, beq_eq_false_iff_ne.2 h, firstLine?]

theorem first?_of_foldlM {lines : List (List UInt8 × List UInt8)} {f g : Fields}
    (h : lines.foldlM (fun f line => f.receive line.1 line.2) f = .ok g) (name : String) :
    g.first? name = (f.first? name).or (firstLine? lines name) := by
  induction lines generalizing f with
  | nil =>
    cases h
    rw [firstLine?, List.find?_nil, Option.map_none, Option.or_none]
  | cons line lines ih =>
    rw [List.foldlM_cons, Except.bind_eq_ok_iff] at h
    obtain ⟨f', hf', hrest⟩ := h
    obtain ⟨n, hn, -, rfl⟩ := receive_eq_ok_iff.1 hf'
    rw [ih hrest, first?_add, Option.or_assoc, firstLine?_cons, hn]
    by_cases hname : n = name <;> simp [hname]

/-- **The first value of a name is that of the first line with this name.** -/
theorem first?_of_receiveAll {lines : List (List UInt8 × List UInt8)} {f : Fields}
    (h : receiveAll lines = .ok f) (name : String) : f.first? name = firstLine? lines name := by
  rw [first?_of_foldlM h name]
  rfl

/-! ## Changes of lines that keep the first ones -/

theorem firstLine?_append (front back : List (List UInt8 × List UInt8)) (name : String) :
    firstLine? (front ++ back) name = (firstLine? front name).or (firstLine? back name) := by
  rw [firstLine?, firstLine?, firstLine?, List.find?_append, Option.map_or]

/-- A line of another name does not count. -/
theorem firstLine?_insert_of_ne {line : List UInt8 × List UInt8} {name : String}
    (h : name? line.1 ≠ some name) (front back : List (List UInt8 × List UInt8)) :
    firstLine? (front ++ line :: back) name = firstLine? (front ++ back) name := by
  rw [firstLine?_append, firstLine?_append, firstLine?_cons, if_neg h]

theorem firstLine?_ne_none {line : List UInt8 × List UInt8} {name : String}
    {lines : List (List UInt8 × List UInt8)} (hl : line ∈ lines) (h : name? line.1 = some name) :
    firstLine? lines name ≠ none := by
  rw [firstLine?, Ne, Option.map_eq_none_iff, List.find?_eq_none]
  intro hnone
  exact hnone line hl (beq_iff_eq.2 h)

/-- A line behind another one of the same name does not count. -/
theorem firstLine?_insert_of_mem {line : List UInt8 × List UInt8}
    {front : List (List UInt8 × List UInt8)} (h : ∃ earlier ∈ front, name? earlier.1 = name? line.1)
    (back : List (List UInt8 × List UInt8)) (name : String) :
    firstLine? (front ++ line :: back) name = firstLine? (front ++ back) name := by
  by_cases hname : name? line.1 = some name
  · obtain ⟨earlier, hmem, he⟩ := h
    obtain ⟨value, hvalue⟩ :=
      Option.ne_none_iff_exists'.1 (firstLine?_ne_none hmem (he.trans hname))
    rw [firstLine?_append, firstLine?_append, hvalue, Option.some_or, Option.some_or]
  · exact firstLine?_insert_of_ne hname front back

/-- The spelling of a name does not count. -/
theorem firstLine?_respell {spelling spelling' : List UInt8}
    (h : name? spelling = name? spelling') (value : List UInt8)
    (front back : List (List UInt8 × List UInt8)) (name : String) :
    firstLine? (front ++ (spelling, value) :: back) name =
      firstLine? (front ++ (spelling', value) :: back) name := by
  rw [firstLine?_append, firstLine?_append, firstLine?_cons, firstLine?_cons, h]

/-- The lines of all names but one. -/
def others (name : String) (lines : List (List UInt8 × List UInt8)) :
    List (List UInt8 × List UInt8) :=
  lines.filter fun line => name? line.1 != some name

theorem firstLine?_others {name other : String} (h : name ≠ other)
    (lines : List (List UInt8 × List UInt8)) :
    firstLine? (others other lines) name = firstLine? lines name := by
  induction lines with
  | nil => rfl
  | cons line lines ih =>
    by_cases hother : name? line.1 = some other
    · -- the line is left out, and it does not have the name asked for
      have hline : name? line.1 ≠ some name := by
        rw [hother]
        intro heq
        exact h (Option.some.inj heq).symm
      rw [others, List.filter_cons_of_neg (by simp [hother]), firstLine?_cons, if_neg hline]
      exact ih
    · rw [others, List.filter_cons_of_pos (by simp [hother]), firstLine?_cons, firstLine?_cons]
      exact if_congr Iff.rfl rfl ih

/-- Lines that differ in one name have the same first values for the other names. -/
theorem firstLine?_of_others {name other : String} (h : name ≠ other)
    {lines lines' : List (List UInt8 × List UInt8)}
    (ho : others other lines = others other lines') :
    firstLine? lines name = firstLine? lines' name := by
  rw [← firstLine?_others h, ho, firstLine?_others h]

/-! ## The letter case of names -/

/-- The octet of a letter in lower case. -/
def lowerOctet (b : UInt8) : UInt8 := if 0x41 ≤ b ∧ b ≤ 0x5A then b + 0x20 else b

/-- Lower case keeps tokens, which are ASCII, and means the same letter. -/
structure LowersWell (b : UInt8) : Prop where
  token : isTokenOctet (lowerOctet b) = isTokenOctet b
  ascii : isTokenOctet b = true → b < 128
  letter : isTokenOctet b = true →
    (Char.ofNat (lowerOctet b).toNat).toLower = (Char.ofNat b.toNat).toLower

instance (b : UInt8) : Decidable (LowersWell b) :=
  decidable_of_iff
    (isTokenOctet (lowerOctet b) = isTokenOctet b ∧ (isTokenOctet b = true → b < 128) ∧
      (isTokenOctet b = true →
        (Char.ofNat (lowerOctet b).toNat).toLower = (Char.ofNat b.toNat).toLower))
    ⟨fun ⟨ht, ha, hl⟩ => ⟨ht, ha, hl⟩, fun ⟨ht, ha, hl⟩ => ⟨ht, ha, hl⟩⟩

set_option maxRecDepth 4000 in
theorem lowersWell (b : UInt8) : LowersWell b := by
  have all : ∀ n : Fin 256, LowersWell (UInt8.ofNat n.val) := by decide
  have hb := all ⟨b.toNat, b.toNat_lt⟩
  rw [UInt8.ofNat_toNat] at hb
  exact hb

theorem all_isTokenOctet_lowerOctet (bs : List UInt8) :
    (bs.map lowerOctet).all isTokenOctet = bs.all isTokenOctet := by
  induction bs with
  | nil => rfl
  | cons b bs ih => rw [List.map_cons, List.all_cons, List.all_cons, ih, (lowersWell b).token]

/-- The text of a token, in lower case. -/
theorem map_lower_ofOctets? {bs : List UInt8} (h : bs.all isTokenOctet = true) :
    (ofOctets? bs).map lower =
      some (String.ofList (bs.map fun b => (Char.ofNat b.toNat).toLower)) := by
  have hascii : ∀ b ∈ bs, b < 128 := by
    intro b hb
    exact (lowersWell b).ascii (List.all_eq_true.1 h b hb)
  rw [ofOctets?_eq_some_iff.2 (octets_ofAscii hascii), Option.map_some, lower, String.toList_ofList,
    List.map_map]
  rfl

theorem name?_lowerOctet (bs : List UInt8) : name? (bs.map lowerOctet) = name? bs := by
  cases hall : bs.all isTokenOctet with
  | false =>
    rw [name?, name?, all_isTokenOctet_lowerOctet, hall, Bool.not_false, Bool.or_true, Bool.or_true]
    rfl
  | true =>
    have hlower := all_isTokenOctet_lowerOctet bs
    have hletters : (bs.map lowerOctet).map (fun b => (Char.ofNat b.toNat).toLower) =
        bs.map fun b => (Char.ofNat b.toNat).toLower := by
      rw [List.map_map]
      refine List.map_congr_left fun b hb => ?_
      exact (lowersWell b).letter (List.all_eq_true.1 hall b hb)
    rw [hall] at hlower
    rw [name?, name?, map_lower_ofOctets? hlower, map_lower_ofOctets? hall, hletters, hlower, hall,
      List.isEmpty_map, List.length_map]

/-- **The letter case of a name does not count.** -/
theorem name?_eq_of_lowerOctet {spelling spelling' : List UInt8}
    (h : spelling.map lowerOctet = spelling'.map lowerOctet) :
    name? spelling = name? spelling' := by
  rw [← name?_lowerOctet spelling, h, name?_lowerOctet]

end TenantGate.Http.Fields

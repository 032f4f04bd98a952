import TenantGate.Proofs.Outcomes
import TenantGate.Proofs.Texts
import TenantGate.SettingsFile.Assignments

/-!
# What a settings file assigns

`assignments` lists what the entries of a file assign, up to the first malformed one, and `merged`
puts these values behind those that are known before, so that the first value of a name counts. Each
value may refer to what is known at its own entry, which is a merged lookup again.

`loads_loadEntries` compares loading with this list: a loaded environment is the merged lookup, and
loading ends early only at an assignment that `Spoils` it, one that gives its variable a value with
a NUL. Entries behind a malformed one and repeated assignments have no part in it
(`assignments_append_of_broken`, `loadEntries_of_repeated`).
-/

set_option autoImplicit false

namespace TenantGate

namespace SettingsFile

open TenantGate.Text

/-! ## Merged values -/

/-- The values that are known, and behind them those of assignments. -/
def merged (known : String → Option String) (as : List (String × String)) (name : String) :
    Option String :=
  (known name).or (as.lookup name)

/-- What entries assign up to the first malformed one. Each of them is read with the values that are
known there. -/
def assignments (known : String → Option String) : List (List Char) → List (String × String)
  | [] => []
  | e :: es =>
      match Entry.read known e with
      | .nothing => assignments known es
      | .assignment name value => (name, value) :: assignments (merged known [(name, value)]) es
      | .malformed => []

/-- One of the entries is malformed. -/
def Broken (known : String → Option String) : List (List Char) → Prop
  | [] => False
  | e :: es =>
      match Entry.read known e with
      | .nothing => Broken known es
      | .assignment name value => Broken (merged known [(name, value)]) es
      | .malformed => True

/-- The assignment gives its variable a value, and no environment can hold this value. -/
structure Spoils (known : String → Option String) (as : List (String × String))
    (a : String × String) : Prop where
  unset : known a.1 = none
  first : as.lookup a.1 = some a.2
  nul : '\x00' ∈ a.2.toList

variable {known : String → Option String} {as : List (String × String)} {a b : String × String}

theorem merged_nil : merged known [] = known := by
  funext name
  exact Option.or_none

theorem merged_singleton_self : merged known [a] a.1 = (known a.1).or (some a.2) := by
  rw [merged, List.lookup_cons_self]

theorem merged_singleton_of_ne {name : String} (h : name ≠ a.1) :
    merged known [a] name = known name := by
  have hbeq : (name == a.1) = false := beq_false_of_ne h
  rw [merged, List.lookup_cons, hbeq]
  exact Option.or_none

/-- Assignments are merged one after another. -/
theorem merged_cons : merged known (a :: as) = merged (merged known [a]) as := by
  funext name
  have hsplit : ([a] ++ as).lookup name = ([a].lookup name).or (as.lookup name) :=
    List.lookup_append
  rw [List.singleton_append] at hsplit
  rw [merged, merged, merged, hsplit, Option.or_assoc]

/-- **A value that is known stays.** -/
theorem merged_of_isSome {name : String} (h : (known name).isSome) :
    merged known as name = known name := by
  obtain ⟨value, hvalue⟩ := Option.isSome_iff_exists.1 h
  rw [merged, hvalue, Option.some_or]

theorem spoils_head_iff :
    Spoils known (a :: as) a ↔ known a.1 = none ∧ '\x00' ∈ a.2.toList := by
  constructor
  · rintro ⟨hunset, -, hnul⟩
    exact ⟨hunset, hnul⟩
  · rintro ⟨hunset, hnul⟩
    exact ⟨hunset, List.lookup_cons_self, hnul⟩

/-- Behind an assignment that can be stored, the same assignments spoil as with its value known. -/
theorem spoils_cons_iff (ha : ¬ Spoils known (a :: as) a) :
    Spoils known (a :: as) b ↔ Spoils (merged known [a]) as b := by
  by_cases hname : b.1 = a.1
  · -- a second assignment to the name never gives it a value
    constructor
    · intro hb
      have hlookup := hb.first
      rw [hname, List.lookup_cons_self] at hlookup
      have heq : b = a := Prod.ext hname (Option.some.inj hlookup).symm
      rw [heq] at hb
      exact absurd hb ha
    · intro hb
      have hunset := hb.unset
      rw [hname, merged_singleton_self, Option.or_eq_none_iff] at hunset
      cases hunset.2
  · have hbeq : (b.1 == a.1) = false := beq_false_of_ne hname
    constructor
    · rintro ⟨hunset, hfirst, hnul⟩
      rw [List.lookup_cons, hbeq] at hfirst
      exact ⟨(merged_singleton_of_ne hname).trans hunset, hfirst, hnul⟩
    · rintro ⟨hunset, hfirst, hnul⟩
      rw [merged_singleton_of_ne hname] at hunset
      exact ⟨hunset, by rw [List.lookup_cons, hbeq]; exact hfirst, hnul⟩

end SettingsFile

/-! ## Loading -/

namespace Environment

open TenantGate.Text SettingsFile

variable {env : Environment} {name value : String}

theorem get?_stored :
    (⟨(name, octets value) :: env.bindings⟩ : Environment).get? name = some value := by
  simp only [get?, List.find?_cons, BEq.rfl, Option.bind_some, ofOctets?_octets]

theorem get?_cons_of_ne {bs : List UInt8} {other : String} (h : other ≠ name) :
    (⟨(name, bs) :: env.bindings⟩ : Environment).get? other = env.get? other := by
  have hbeq : (name == other) = false := beq_false_of_ne (Ne.symm h)
  simp only [get?, List.find?_cons, hbeq]

/-- A value is put behind what is known, unless it gives a variable what cannot be stored. -/
theorem setMissing_cases (env : Environment) (name value : String) :
    (env.get? name = none ∧ '\x00' ∈ value.toList ∧
        env.setMissing name value = .error ⟨name, value⟩) ∨
      (¬ (env.get? name = none ∧ '\x00' ∈ value.toList) ∧
        ∃ env', env.setMissing name value = .ok env' ∧
          env'.get? = merged env.get? [(name, value)]) := by
  unfold setMissing
  by_cases hset : (env.get? name).isSome = true
  · refine Or.inr ⟨?_, env, if_pos hset, ?_⟩
    · rintro ⟨hnone, -⟩
      rw [hnone] at hset
      cases hset
    · funext other
      by_cases hname : other = name
      · subst hname
        exact (merged_of_isSome hset).symm
      · exact (merged_singleton_of_ne hname).symm
  · -- the new binding hides one that is not text
    rw [if_neg hset]
    have hnone : env.get? name = none := Option.not_isSome_iff_eq_none.1 hset
    by_cases hnul : '\x00' ∈ value.toList
    · exact Or.inl ⟨hnone, hnul, if_pos (List.contains_iff_mem.2 hnul)⟩
    · refine Or.inr ⟨fun h => hnul h.2, _, if_neg (mt List.contains_iff_mem.1 hnul), ?_⟩
      funext other
      by_cases hname : other = name
      · subst hname
        rw [get?_stored, merged_singleton_self, hnone, Option.none_or]
      · rw [get?_cons_of_ne hname, merged_singleton_of_ne hname]

theorem setMissing_of_isSome (h : (env.get? name).isSome) : env.setMissing name value = .ok env :=
  if_pos h

end Environment

namespace SettingsFile

variable {known : String → Option String} {as : List (String × String)} {a : String × String}

/-- What loading assignments on top of known values can come to. -/
inductive Loads (known : String → Option String) (as : List (String × String)) :
    Except Unstorable Environment → Prop where
  | stored {env : Environment} :
      (∀ a, ¬ Spoils known as a) → env.get? = merged known as → Loads known as (.ok env)
  | ended {u : Unstorable} :
      First (Spoils known as) as (u.name, u.value) → Loads known as (.error u)

theorem Loads.nil (env : Environment) : Loads env.get? [] (.ok env) := by
  refine .stored ?_ merged_nil.symm
  rintro a ⟨-, hfirst, -⟩
  cases hfirst

theorem Loads.cons {r : Except Unstorable Environment} (ha : ¬ Spoils known (a :: as) a)
    (h : Loads (merged known [a]) as r) : Loads known (a :: as) r := by
  have hspoils : Spoils known (a :: as) = Spoils (merged known [a]) as := by
    funext b
    exact propext (spoils_cons_iff ha)
  cases h with
  | stored hnone hget =>
    refine .stored ?_ (hget.trans merged_cons.symm)
    intro b
    rw [hspoils]
    exact hnone b
  | ended hfirst =>
    refine .ended ?_
    refine .later ha ?_
    rw [hspoils]
    exact hfirst

/-- **Loading entries comes to what their assignments say.** -/
theorem loads_loadEntries (env : Environment) (es : List (List Char)) :
    Loads env.get? (assignments env.get? es) (loadEntries env es) := by
  -- along the entries; the environment grows with every assignment
  induction es generalizing env with
  | nil => exact Loads.nil env
  | cons e es ih =>
    rw [assignments, loadEntries]
    cases Entry.read env.get? e with
    | nothing => exact ih env
    | malformed => exact Loads.nil env
    | assignment name value =>
      rcases env.setMissing_cases name value with ⟨hunset, hnul, hset⟩ | ⟨hspoils, env', hset, hget⟩
      · simp only [hset, Except.error_bind]
        exact .ended (.here (spoils_head_iff.2 ⟨hunset, hnul⟩))
      · simp only [hset, Except.ok_bind]
        refine Loads.cons (mt spoils_head_iff.1 hspoils) ?_
        rw [← hget]
        exact ih env'

/-! ## Entries without a part -/

/-- Entries behind a malformed one assign nothing. -/
theorem assignments_append_of_broken {es : List (List Char)} (h : Broken known es)
    (more : List (List Char)) : assignments known (es ++ more) = assignments known es := by
  induction es generalizing known with
  | nil => cases h
  | cons e es ih =>
    rw [Broken] at h
    rw [List.cons_append, assignments, assignments]
    cases hread : Entry.read known e with
    | nothing =>
      rw [hread] at h
      exact ih h
    | malformed => rfl
    | assignment name value =>
      rw [hread] at h
      exact congrArg _ (ih h)

/-- An assignment to a name with a value is loaded as if it were not there. -/
theorem loadEntries_of_repeated {env : Environment} {e : List Char} {name value : String}
    {front back : List (List Char)}
    (hread : Entry.read (merged env.get? (assignments env.get? front)) e = .assignment name value)
    (hset : (merged env.get? (assignments env.get? front) name).isSome) :
    loadEntries env (front ++ e :: back) = loadEntries env (front ++ back) := by
  -- on the entries in front, which both lists load in the same way
  induction front generalizing env with
  | nil =>
    rw [assignments, merged_nil] at hread hset
    rw [List.nil_append, List.nil_append, loadEntries, hread]
    simp only [Environment.setMissing_of_isSome hset, Except.ok_bind]
  | cons f front ih =>
    rw [assignments] at hread hset
    rw [List.cons_append, List.cons_append, loadEntries, loadEntries]
    cases hf : Entry.read env.get? f with
    | nothing =>
      rw [hf] at hread hset
      exact ih hread hset
    | malformed => rfl
    | assignment name' value' =>
      rw [hf] at hread hset
      simp only at hread hset
      rcases env.setMissing_cases name' value' with ⟨-, -, hstep⟩ | ⟨-, env', hstep, hget⟩
      · simp only [hstep, Except.error_bind]
      · simp only [hstep, Except.ok_bind]
        rw [merged_cons, ← hget] at hread hset
        exact ih hread hset

end SettingsFile

end TenantGate

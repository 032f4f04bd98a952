import TenantGate.Proofs.FileAssignments
import TenantGate.Proofs.SettingsReading

/-!
# The environment and the settings file

Settings are read from an environment on top of a settings file. `environment_wins_over_file` says from
which values: those of the environment where it has them, and otherwise those of the first
assignments in front of the first malformed entry. So no file changes what the environment sets, and
neither a missing file, nor the text behind a malformed line, nor a second assignment matters.

Reading ends the program exactly at an assignment whose value has a NUL and is to be stored. Apart
from that a file is never an error; `nul_in_file_is_fatal` is such a file.
-/

set_option autoImplicit false

namespace TenantGate

open TenantGate.Text

/-! ## Texts of files -/

namespace SettingsFile

theorem lines_ne_nil (c : Char) (cs : List Char) : lines (c :: cs) ≠ [] := by
  rw [lines]
  split
  · exact List.cons_ne_nil _ _
  · split
    · exact List.cons_ne_nil _ _
    · exact List.cons_ne_nil _ _

/-- A text is cut into lines behind a line feed as it is cut without the text in front. -/
theorem lines_append_lineFeed (cs more : List Char) :
    lines (cs ++ '\n' :: more) = lines (cs ++ ['\n']) ++ lines more := by
  induction cs with
  | nil => rfl
  | cons c cs ih =>
    rw [List.cons_append, List.cons_append, lines, lines, ih]
    by_cases hc : c = '\n'
    · rw [if_pos hc, if_pos hc, List.cons_append]
    · rw [if_neg hc, if_neg hc]
      -- there is a line for the character to join, since one ends at the line feed
      cases hlines : lines (cs ++ ['\n']) with
      | nil =>
        cases cs with
        | nil => exact absurd hlines (lines_ne_nil _ _)
        | cons c' cs => exact absurd hlines (lines_ne_nil _ _)
      | cons l ls => rfl

/-- More lines add entries behind those that are complete. -/
theorem exists_entriesFrom_append (st : Scan) (begun : List Char) (ls more : List (List Char)) :
    ∃ es, entriesFrom st begun (ls ++ more) = entriesFrom st begun ls ++ es := by
  induction ls generalizing st begun with
  | nil => exact ⟨_, rfl⟩
  | cons l ls ih =>
    rw [List.cons_append, entriesFrom, entriesFrom]
    split
    · exact ih .plain []
    · split
      · obtain ⟨es, hes⟩ := ih .plain []
        exact ⟨es, by rw [hes, List.cons_append]⟩
      · obtain ⟨es, hes⟩ := ih .plain []
        exact ⟨es, by rw [hes, List.cons_append]⟩
      · exact ih _ _

theorem entries_of_toList_cons {text : String} {c : Char} {cs : List Char}
    (h : text.toList = c :: cs) :
    entries text = entriesFrom .plain [] (lines (if c = '\uFEFF' then cs else c :: cs)) := by
  by_cases hc : c = '\uFEFF'
  · simp [entries, h, hc]
  · simp [entries, h, hc]

/-- A byte order mark stands at the start of the text in front, so both texts lose it or none. -/
theorem exists_entries_eq (cs more : List Char) : ∃ cs',
    (∀ text : String, text.toList = cs ++ '\n' :: more →
      entries text = entriesFrom .plain [] (lines (cs' ++ '\n' :: more))) ∧
    ∀ text : String, text.toList = cs ++ ['\n'] →
      entries text = entriesFrom .plain [] (lines (cs' ++ ['\n'])) := by
  cases cs with
  | nil =>
    have hmark : ¬ '\n' = '\uFEFF' := by decide
    refine ⟨[], fun text h => ?_, fun text h => ?_⟩
    · rw [entries_of_toList_cons h, if_neg hmark, List.nil_append]
    · rw [entries_of_toList_cons h, if_neg hmark, List.nil_append]
  | cons c cs =>
    simp only [List.cons_append]
    by_cases hc : c = '\uFEFF'
    · refine ⟨cs, fun text h => ?_, fun text h => ?_⟩
      · rw [entries_of_toList_cons h, if_pos hc]
      · rw [entries_of_toList_cons h, if_pos hc]
    · refine ⟨c :: cs, fun text h => ?_, fun text h => ?_⟩
      · rw [entries_of_toList_cons h, if_neg hc, List.cons_append]
      · rw [entries_of_toList_cons h, if_neg hc, List.cons_append]

/-- Text behind a line feed adds entries behind those that are complete there. -/
theorem exists_entries_append {front : String} (h : front.toList.getLast? = some '\n')
    (rest : String) : ∃ es, entries (front ++ rest) = entries front ++ es := by
  obtain ⟨cs, hcs⟩ := List.getLast?_eq_some_iff.1 h
  have happend : (front ++ rest).toList = cs ++ '\n' :: rest.toList := by
    rw [String.toList_append, hcs, List.append_assoc, List.singleton_append]
  obtain ⟨cs', hlong, hshort⟩ := exists_entries_eq cs rest.toList
  rw [hlong _ happend, hshort _ hcs, lines_append_lineFeed]
  exact exists_entriesFrom_append .plain [] _ _

/-- The entries of a file, if there is one. -/
def entriesOf : Option String → List (List Char)
  | some text => entries text
  | none => []

end SettingsFile

/-! ## Settings -/

namespace Settings

open SettingsFile

/-- What a file assigns on top of an environment. -/
def assigned (env : Environment) (file : Option String) : List (String × String) :=
  assignments env.get? (entriesOf file)

/-- The value of a variable in an environment and in a file. -/
def mergedLookup (env : Environment) (file : Option String) (v : Variable) : Option String :=
  merged env.get? (assigned env file) v.name

variable {env env' : Environment} {file file' : Option String}

theorem ofEnvironment_eq_map : ofEnvironment env file =
    (loadEntries env (entriesOf file)).map fun loaded => read (lookupIn loaded) := by
  cases file with
  | none => rfl
  | some text =>
    rw [ofEnvironment, SettingsFile.load, entriesOf]
    cases loadEntries env (entries text) with
    | error u => rfl
    | ok loaded => rfl

/-- What reading from an environment and a file comes to. -/
theorem ofEnvironment_cases (env : Environment) (file : Option String) :
    ((∀ a, ¬ Spoils env.get? (assigned env file) a) ∧
        ofEnvironment env file = .ok (read (mergedLookup env file))) ∨
      ∃ u : Unstorable,
        First (Spoils env.get? (assigned env file)) (assigned env file) (u.name, u.value) ∧
          ofEnvironment env file = .error u := by
  rw [ofEnvironment_eq_map]
  have hloads := loads_loadEntries env (entriesOf file)
  cases hr : loadEntries env (entriesOf file) with
  | error u =>
    rw [hr] at hloads
    cases hloads with
    | ended hfirst => exact Or.inr ⟨u, hfirst, rfl⟩
  | ok loaded =>
    rw [hr] at hloads
    cases hloads with
    | stored hnone hget =>
      refine Or.inl ⟨hnone, ?_⟩
      have hlookup : lookupIn loaded = mergedLookup env file := by
        funext v
        rw [lookupIn, hget]
        rfl
      rw [Except.map, hlookup]

theorem ofEnvironment_eq_ok_iff {r : Except SettingsError Settings} :
    ofEnvironment env file = .ok r ↔
      (∀ a, ¬ Spoils env.get? (assigned env file) a) ∧ r = read (mergedLookup env file) := by
  rcases ofEnvironment_cases env file with ⟨hnone, hof⟩ | ⟨u, hfirst, hof⟩
  · rw [hof]
    constructor
    · intro hr
      exact ⟨hnone, (Except.ok.inj hr).symm⟩
    · rintro ⟨-, rfl⟩
      rfl
  · rw [hof]
    constructor
    · intro hr
      cases hr
    · rintro ⟨hnone, -⟩
      exact absurd hfirst.holds (hnone _)

theorem ofEnvironment_eq_error_iff {u : Unstorable} :
    ofEnvironment env file = .error u ↔
      First (Spoils env.get? (assigned env file)) (assigned env file) (u.name, u.value) := by
  rcases ofEnvironment_cases env file with ⟨hnone, hof⟩ | ⟨u', hfirst, hof⟩
  · rw [hof]
    constructor
    · intro hu
      cases hu
    · intro hfirst
      exact absurd hfirst.holds (hnone _)
  · rw [hof]
    constructor
    · intro hu
      cases hu
      exact hfirst
    · intro hfirst'
      obtain ⟨hname, hvalue⟩ := Prod.ext_iff.1 (hfirst.unique hfirst')
      cases u
      cases u'
      cases hname
      cases hvalue
      rfl

/-- Only the known values and the assignments matter. -/
theorem ofEnvironment_congr (hget : env.get? = env'.get?)
    (hassigned : assigned env file = assigned env' file') :
    ofEnvironment env file = ofEnvironment env' file' := by
  have hlookup : mergedLookup env file = mergedLookup env' file' := by
    funext v
    rw [mergedLookup, mergedLookup, hget, hassigned]
  rcases ofEnvironment_cases env' file' with ⟨hnone, hof⟩ | ⟨u, hfirst, hof⟩
  · rw [hof, ofEnvironment_eq_ok_iff, hget, hassigned, hlookup]
    exact ⟨hnone, rfl⟩
  · rw [hof, ofEnvironment_eq_error_iff, hget, hassigned]
    exact hfirst

/-- The environment matters only in the variables that can be read. -/
theorem ofEnvironment_eq_of_get? (hget : env.get? = env'.get?) :
    ofEnvironment env file = ofEnvironment env' file := by
  refine ofEnvironment_congr hget ?_
  rw [assigned, assigned, hget]

/-- A binding that is not text leaves its variable unset. -/
theorem get?_undecodable {name : String} {bs : List UInt8} (hbs : ofOctets? bs = none)
    (hunset : env.get? name = none) :
    (⟨(name, bs) :: env.bindings⟩ : Environment).get? = env.get? := by
  funext other
  by_cases hname : other = name
  · subst hname
    simp only [Environment.get?, List.find?_cons, BEq.rfl, Option.bind_some, hbs]
    exact hunset.symm
  · exact Environment.get?_cons_of_ne hname

/-- What the environment sets is read from it, whatever the file. -/
theorem mergedLookup_of_isSome {v : Variable} (hset : (env.get? v.name).isSome) :
    mergedLookup env file v = lookupIn env v :=
  merged_of_isSome hset

/-- No file changes what the environment sets. -/
theorem field_eq_of_isSome {s s' : Settings} {v : Variable} (hset : (env.get? v.name).isSome)
    (hs : ofEnvironment env file = .ok (.ok s)) (hs' : ofEnvironment env file' = .ok (.ok s')) :
    s.field v = s'.field v := by
  have hread := (ofEnvironment_eq_ok_iff.1 hs).2
  have hread' := (ofEnvironment_eq_ok_iff.1 hs').2
  have hgives := read_eq_ok_iff.1 hread.symm v
  have hgives' := read_eq_ok_iff.1 hread'.symm v
  refine hgives.unique hgives' ?_
  rw [mergedLookup_of_isSome hset, mergedLookup_of_isSome hset]

/-- Text behind a malformed line does not matter. -/
theorem ofEnvironment_append_of_broken {front : String}
    (hline : front.toList.getLast? = some '\n') (hbroken : Broken env.get? (entries front))
    (rest : String) : ofEnvironment env (some (front ++ rest)) = ofEnvironment env (some front) := by
  obtain ⟨es, hes⟩ := exists_entries_append hline rest
  refine ofEnvironment_congr rfl ?_
  rw [assigned, assigned, entriesOf, entriesOf, hes]
  exact assignments_append_of_broken hbroken es

/-- An assignment to a name with a value does not matter. -/
theorem ofEnvironment_of_repeated {text text' : String} {front back : List (List Char)}
    {e : List Char} {name value : String} (htext : entries text = front ++ e :: back)
    (htext' : entries text' = front ++ back)
    (hread : Entry.read (merged env.get? (assignments env.get? front)) e = .assignment name value)
    (hset : (merged env.get? (assignments env.get? front) name).isSome) :
    ofEnvironment env (some text) = ofEnvironment env (some text') := by
  rw [ofEnvironment_eq_map, ofEnvironment_eq_map, entriesOf, entriesOf, htext, htext',
    loadEntries_of_repeated hread hset]

/-- **The environment wins over the file.** Reading from an environment and a file reads the merged
lookup, unless an assignment in the file gives a variable a value with a NUL; the first of these
ends the program, and nothing else in a file does. So no file changes the field of a variable that
the environment sets, and what comes behind a malformed line, a repeated assignment, a missing file
and a variable that is not text are as if they were not there. -/
theorem environment_wins_over_file (env : Environment) (file : Option String) :
    (∀ r, ofEnvironment env file = .ok r ↔
        (∀ a, ¬ Spoils env.get? (assigned env file) a) ∧ r = read (mergedLookup env file)) ∧
      (∀ u : Unstorable, ofEnvironment env file = .error u ↔
        First (Spoils env.get? (assigned env file)) (assigned env file) (u.name, u.value)) ∧
      (∀ v : Variable, (env.get? v.name).isSome → mergedLookup env file v = lookupIn env v ∧
        ∀ file' s s', ofEnvironment env file = .ok (.ok s) →
          ofEnvironment env file' = .ok (.ok s') → s.field v = s'.field v) ∧
      (∀ front rest : String, front.toList.getLast? = some '\n' →
        Broken env.get? (entries front) →
          ofEnvironment env (some (front ++ rest)) = ofEnvironment env (some front)) ∧
      (∀ text text' front back e name value, entries text = front ++ e :: back →
        entries text' = front ++ back →
        Entry.read (merged env.get? (assignments env.get? front)) e = .assignment name value →
        (merged env.get? (assignments env.get? front) name).isSome →
          ofEnvironment env (some text) = ofEnvironment env (some text')) ∧
      ofEnvironment env none = .ok (read (lookupIn env)) ∧
      ∀ name bs, ofOctets? bs = none → env.get? name = none →
        ofEnvironment ⟨(name, bs) :: env.bindings⟩ file = ofEnvironment env file := by
  refine ⟨fun r => ofEnvironment_eq_ok_iff, fun u => ofEnvironment_eq_error_iff, ?_, ?_, ?_, rfl,
    ?_⟩
  · intro v hset
    refine ⟨mergedLookup_of_isSome hset, ?_⟩
    intro file' s s' hs hs'
    exact field_eq_of_isSome hset hs hs'
  · intro front rest hline hbroken
    exact ofEnvironment_append_of_broken hline hbroken rest
  · intro text text' front back e name value htext htext' hread hset
    exact ofEnvironment_of_repeated htext htext' hread hset
  · intro name bs hbs hunset
    exact ofEnvironment_eq_of_get? (get?_undecodable hbs hunset)

/-- A port that is set, against a file with another port and text behind a malformed line. -/
theorem environment_wins_over_file_port :
    (∀ a, ¬ Spoils (Environment.get? ⟨[("PORT", octets "1")]⟩)
        (assigned ⟨[("PORT", octets "1")]⟩ (some "PORT=2\nAPP_ENV=prod\n=\n")) a) ∧
      ofEnvironment ⟨[("PORT", octets "1")]⟩
          (some ("PORT=2\nAPP_ENV=prod\n=\n" ++ "REQUEST_TIMEOUT_SECONDS=5\n")) =
        .ok (.ok ⟨1, .production, "", none, false, 30, 1024 * 1024⟩) := by
  have hfront : ofEnvironment ⟨[("PORT", octets "1")]⟩ (some "PORT=2\nAPP_ENV=prod\n=\n") =
      .ok (.ok ⟨1, .production, "", none, false, 30, 1024 * 1024⟩) := by rfl
  constructor
  · exact (((environment_wins_over_file _ _).1 _).1 hfront).1
  · have hbehind := (environment_wins_over_file ⟨[("PORT", octets "1")]⟩ none).2.2.2.1
    rw [hbehind "PORT=2\nAPP_ENV=prod\n=\n" "REQUEST_TIMEOUT_SECONDS=5\n" rfl trivial]
    exact hfront

/-- A file whose first line assigns a NUL ends the program, though its values could all be read. -/
theorem nul_in_file_is_fatal :
    ofEnvironment ⟨[]⟩ (some "APP_ENV=\x00\nPORT=8081\n") = .error ⟨"APP_ENV", "\x00"⟩ ∧
      read (mergedLookup ⟨[]⟩ (some "APP_ENV=\x00\nPORT=8081\n")) =
        .ok ⟨8081, .development, "", none, false, 30, 1024 * 1024⟩ := by
  constructor
  · rfl
  · rfl

end Settings

end TenantGate

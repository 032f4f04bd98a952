/-!
# Chains of fallible steps

A chain of fallible steps succeeds if every step does, and fails with the error of its first failing
step. The lemmas on `Except` say so for one link of a chain, so that a reader of several fields is
taken apart link by link. `First` says which element of a list is the first one with a property; at
most one is (`First.unique`).
-/

set_option autoImplicit false

namespace Except

variable {ε ε' α β : Type}

theorem bind_eq_ok_iff {x : Except ε α} {next : α → Except ε β} {b : β} :
    (x >>= next) = .ok b ↔ ∃ a, x = .ok a ∧ next a = .ok b := by
  cases x with
  | error e => simp [bind, Except.bind]
  | ok a => simp [bind, Except.bind]

theorem bind_eq_error_iff {x : Except ε α} {next : α → Except ε β} {e : ε} :
    (x >>= next) = .error e ↔ x = .error e ∨ ∃ a, x = .ok a ∧ next a = .error e := by
  cases x with
  | error e' => simp [bind, Except.bind]
  | ok a => simp [bind, Except.bind]

theorem map_eq_ok_iff {x : Except ε α} {g : α → β} {b : β} :
    x.map g = .ok b ↔ ∃ a, x = .ok a ∧ g a = b := by
  cases x with
  | error e => simp [Except.map]
  | ok a => simp [Except.map]

theorem map_eq_error_iff {x : Except ε α} {g : α → β} {e : ε} :
    x.map g = .error e ↔ x = .error e := by
  cases x with
  | error e' => simp [Except.map]
  | ok a => simp [Except.map]

theorem mapError_eq_ok_iff {x : Except ε α} {g : ε → ε'} {a : α} :
    x.mapError g = .ok a ↔ x = .ok a := by
  cases x with
  | error e =>
    have he : (Except.error e : Except ε α).mapError g = .error (g e) := rfl
    simp [he]
  | ok a' =>
    have ha : (Except.ok a' : Except ε α).mapError g = .ok a' := rfl
    simp [ha]

theorem mapError_eq_error_iff {x : Except ε α} {g : ε → ε'} {e : ε'} :
    x.mapError g = .error e ↔ ∃ e', x = .error e' ∧ g e' = e := by
  cases x with
  | error e' =>
    have he : (Except.error e' : Except ε α).mapError g = .error (g e') := rfl
    simp [he]
  | ok a =>
    have ha : (Except.ok a : Except ε α).mapError g = .ok a := rfl
    simp [ha]

theorem ok_bind (a : α) (next : α → Except ε β) : (.ok a >>= next) = next a := rfl

theorem error_bind (e : ε) (next : α → Except ε β) : (.error e >>= next) = .error e := rfl

/-- A chain whose last step is a check succeeds exactly if the check does. -/
theorem isOk_mapError_bind (check : Except ε Unit) (g : ε → ε') (a : α) :
    (check.mapError g >>= fun _ => .ok a).isOk = check.isOk := by
  cases check with
  | error e => rfl
  | ok u => rfl

end Except

namespace TenantGate

/-- The element is the first one of a list with a property. -/
inductive First {α : Type} (p : α → Prop) : List α → α → Prop where
  | here {a : α} {rest : List α} : p a → First p (a :: rest) a
  | later {a b : α} {rest : List α} : ¬ p b → First p rest a → First p (b :: rest) a

namespace First

variable {α β : Type} {p : α → Prop} {l : List α} {a b : α}

theorem holds (h : First p l a) : p a := by
  induction h with
  | here ha => exact ha
  | later _ _ ih => exact ih

theorem mem (h : First p l a) : a ∈ l := by
  induction h with
  | here _ => exact List.mem_cons_self
  | later _ _ ih => exact List.mem_cons_of_mem _ ih

/-- At most one element is the first. -/
theorem unique (ha : First p l a) (hb : First p l b) : a = b := by
  -- along one derivation; the other takes the same way, since a head has the property or not
  induction ha with
  | here h =>
    cases hb with
    | here _ => rfl
    | later hn _ => exact absurd h hn
  | later hn _ ih =>
    cases hb with
    | here h => exact absurd h hn
    | later _ hb => exact ih hb

/-- Elements behind the first one do not matter. -/
theorem append (h : First p l a) (more : List α) : First p (l ++ more) a := by
  induction h with
  | here ha => exact .here ha
  | later hn _ ih => exact .later hn ih

/-- Neither do elements without the property in front of it. -/
theorem behind {front : List α} (hf : ∀ b ∈ front, ¬ p b) (h : First p l a) :
    First p (front ++ l) a := by
  induction front with
  | nil => exact h
  | cons b front ih =>
    refine .later (hf b List.mem_cons_self) (ih ?_)
    intro c hc
    exact hf c (List.mem_cons_of_mem b hc)

theorem map {q : β → Prop} {g : α → β} (h : First (fun a => q (g a)) l a) :
    First q (l.map g) (g a) := by
  induction h with
  | here ha => exact .here ha
  | later hn _ ih => exact .later hn ih

/-- A search finds the first element that it is for. -/
theorem find?_eq_some_iff {test : α → Bool} :
    l.find? test = some a ↔ First (fun b => test b = true) l a := by
  constructor
  · intro h
    induction l with
    | nil => cases h
    | cons b l ih =>
      by_cases hb : test b = true
      · rw [List.find?_cons_of_pos hb] at h
        cases h
        exact .here hb
      · rw [List.find?_cons_of_neg hb] at h
        exact .later hb (ih h)
  · intro h
    induction h with
    | here hb => exact List.find?_cons_of_pos hb
    | later hb _ ih =>
      rw [List.find?_cons_of_neg hb]
      exact ih

end First

end TenantGate

import TenantGate.Context

/-!
# Histories of derived contexts

A history creates contexts and derives new ones from any earlier one; contexts are numbered in the
order of their creation. `Derivation.run` gives all contexts of a history. A step that refers to a
context that does not exist ends the history. `length_step` and `getElem?_step` say that a step adds
one context and changes none.
-/

set_option autoImplicit false

namespace TenantGate

/-- A step of a history: an empty context, or the context `source` with one fact set. -/
inductive Derivation where
  | create
  | derive (source : Nat) (key : ContextKey) (value : String)
deriving DecidableEq, Repr

namespace Derivation

/-- The context that a step makes. -/
def made? (contexts : List Context) : Derivation → Option Context
  | create => some Context.empty
  | derive source key value => contexts[source]?.map fun ctx => ctx.set key value

/-- The contexts after one more step. -/
def step (contexts : List Context) (d : Derivation) : Option (List Context) :=
  (d.made? contexts).map fun ctx => contexts ++ [ctx]

/-- The contexts after all steps of a history. -/
def run (contexts : List Context) (history : List Derivation) : Option (List Context) :=
  history.foldlM step contexts

theorem length_step {contexts after : List Context} {d : Derivation}
    (h : d.step contexts = some after) : after.length = contexts.length + 1 := by
  obtain ⟨ctx, _, rfl⟩ := Option.map_eq_some_iff.1 h
  simp

theorem getElem?_step {contexts after : List Context} {d : Derivation}
    (h : d.step contexts = some after) {i : Nat} (hi : i < contexts.length) :
    after[i]? = contexts[i]? := by
  obtain ⟨ctx, _, rfl⟩ := Option.map_eq_some_iff.1 h
  exact List.getElem?_append_left hi

end Derivation

end TenantGate

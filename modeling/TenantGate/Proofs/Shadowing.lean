import TenantGate.Derivation
import Mathlib.Data.List.Induction

/-!
# What is read of derived contexts

The contexts of a history form trees: a context that is derived hangs below the context it is
derived from. `Chain` is the way from a context up to the empty context at the root of its tree, and
`ReadsAs` says what one reads of a context with a given chain: of a fact the value that the nearest
step on the chain gave it, or that it is missing if no step gave it one. A run changes no context
that is there (`getElem?_run`), so each context stays the one that its step made
(`getElem?_eq_made?`), and its facts follow by induction on its chain (`Context.get?_of_chain`). The
main theorem, `nearest_setting_is_read`, says so of every history and every point of it, and that
contexts are equal exactly if their readings are.
-/

set_option autoImplicit false

namespace TenantGate

namespace Derivation

/-! ## Chains -/

/-- The value that a step gives a fact. -/
def value? (key : ContextKey) : Derivation → Option String
  | create => none
  | derive _ other value => if key = other then some value else none

/-- The derivation chain of a context, the nearest step first: the step that made the context, and
above it the chain of the context it is derived from. -/
inductive Chain (history : List Derivation) : Nat → List Derivation → Prop where
  | root {i : Nat} : history[i]? = some create → Chain history i [create]
  | child {i source : Nat} {key : ContextKey} {value : String} {above : List Derivation} :
      history[i]? = some (derive source key value) → Chain history source above →
      Chain history i (derive source key value :: above)

/-- A step that derives a context derives it from one of the first `count` contexts. -/
def DerivesWithin (count : Nat) : Derivation → Prop
  | create => True
  | derive source _ _ => source < count

instance (count : Nat) (d : Derivation) : Decidable (d.DerivesWithin count) :=
  match d with
  | create => inferInstanceAs (Decidable True)
  | derive source _ _ => inferInstanceAs (Decidable (source < count))

/-- Every step of a history derives from earlier contexts only. -/
def Grounded (history : List Derivation) : Prop :=
  ∀ (i : Nat) (h : i < history.length), history[i].DerivesWithin i

instance (history : List Derivation) : Decidable (Grounded history) :=
  inferInstanceAs (Decidable (∀ (i : Nat) (h : i < history.length), history[i].DerivesWithin i))

theorem Grounded.of_append {past future : List Derivation} (h : Grounded (past ++ future)) :
    Grounded past := by
  intro i hi
  have hstep := h i (by rw [List.length_append]; omega)
  rwa [List.getElem_append_left hi] at hstep

theorem Grounded.last {past : List Derivation} {d : Derivation} (h : Grounded (past ++ [d])) :
    d.DerivesWithin past.length := by
  have hstep := h past.length (by simp)
  rwa [List.getElem_concat_length rfl] at hstep

/-- In a history that derives from earlier contexts only, every context has a chain. -/
theorem Grounded.exists_chain {history : List Derivation} (h : Grounded history) {i : Nat}
    (hi : i < history.length) : ∃ chain, Chain history i chain := by
  -- the induction is on the number of the context, since a chain leads to smaller numbers
  induction i using Nat.strongRecOn with
  | ind i ih =>
    have hmem : history[i]? = some history[i] := List.getElem?_eq_getElem hi
    have hwithin := h i hi
    cases hd : history[i] with
    | create =>
      rw [hd] at hmem
      exact ⟨_, .root hmem⟩
    | derive source key value =>
      rw [hd] at hmem hwithin
      have hsource : source < i := hwithin
      obtain ⟨above, habove⟩ := ih source hsource (Nat.lt_trans hsource hi)
      exact ⟨_, .child hmem habove⟩

theorem Chain.unique {history a b : List Derivation} {i : Nat} (ha : Chain history i a)
    (hb : Chain history i b) : a = b := by
  induction ha generalizing b with
  | root hcreate =>
    cases hb with
    | root => rfl
    | child hderive => cases hcreate.symm.trans hderive
  | child hderive _ ih =>
    cases hb with
    | root hcreate => cases hcreate.symm.trans hderive
    | child hother habove =>
      cases hderive.symm.trans hother
      rw [ih habove]

/-! ## Runs -/

theorem run_append (contexts : List Context) (past future : List Derivation) :
    run contexts (past ++ future) = (run contexts past).bind fun before => run before future :=
  List.foldlM_append

theorem run_cons (contexts : List Context) (d : Derivation) (history : List Derivation) :
    run contexts (d :: history) = (d.step contexts).bind fun after => run after history :=
  List.foldlM_cons

/-- A run adds one context for each step. -/
theorem length_run {before after : List Context} {future : List Derivation}
    (h : run before future = some after) : after.length = before.length + future.length := by
  induction future generalizing before with
  | nil =>
    cases h
    rfl
  | cons d future ih =>
    rw [run_cons] at h
    obtain ⟨next, hstep, hrun⟩ := Option.bind_eq_some_iff.1 h
    rw [ih hrun, length_step hstep, List.length_cons]
    omega

theorem length_run_nil {past : List Derivation} {before : List Context}
    (h : run [] past = some before) : before.length = past.length := by
  rw [length_run h, List.length_nil, Nat.zero_add]

/-- A run changes no context that is there. -/
theorem getElem?_run {before after : List Context} {future : List Derivation}
    (h : run before future = some after) {i : Nat} (hi : i < before.length) :
    after[i]? = before[i]? := by
  induction future generalizing before with
  | nil =>
    cases h
    rfl
  | cons d future ih =>
    rw [run_cons] at h
    obtain ⟨next, hstep, hrun⟩ := Option.bind_eq_some_iff.1 h
    have hnext : i < next.length := by
      rw [length_step hstep]
      omega
    rw [ih hrun hnext, getElem?_step hstep hi]

theorem exists_step {contexts : List Context} {d : Derivation}
    (h : d.DerivesWithin contexts.length) : ∃ after, d.step contexts = some after := by
  cases d with
  | create => exact ⟨_, rfl⟩
  | derive source key value =>
    have hsource : contexts[source]? = some contexts[source] := List.getElem?_eq_getElem h
    refine ⟨contexts ++ [contexts[source].set key value], ?_⟩
    rw [step, made?, hsource]
    rfl

/-- A history that derives from earlier contexts only is run to its end. -/
theorem Grounded.exists_run {history : List Derivation} (h : Grounded history) :
    ∃ contexts, run [] history = some contexts := by
  induction history using List.reverseRecOn with
  | nil => exact ⟨[], rfl⟩
  | append_singleton past d ih =>
    obtain ⟨before, hbefore⟩ := ih h.of_append
    have hlast := h.last
    rw [← length_run_nil hbefore] at hlast
    obtain ⟨after, hafter⟩ := exists_step hlast
    refine ⟨after, ?_⟩
    rw [run_append, hbefore, Option.bind_some, run_cons, hafter]
    rfl

/-- A step makes the same context when more contexts are there. -/
theorem made?_of_made? {contexts more : List Context} {d : Derivation} {ctx : Context}
    (h : d.made? contexts = some ctx)
    (hmore : ∀ i, i < contexts.length → more[i]? = contexts[i]?) : d.made? more = some ctx := by
  cases d with
  | create => exact h
  | derive source key value =>
    obtain ⟨parent, hparent, -⟩ := Option.map_eq_some_iff.1 h
    have hsource : source < contexts.length := (List.getElem?_eq_some_iff.1 hparent).1
    rw [made?, hmore source hsource]
    exact h

/-- Every context of a history is the one that its step makes. -/
theorem getElem?_eq_made? {history : List Derivation} {contexts : List Context}
    (h : run [] history = some contexts) {i : Nat} {d : Derivation} (hd : history[i]? = some d) :
    contexts[i]? = d.made? contexts := by
  obtain ⟨hi, rfl⟩ := List.getElem?_eq_some_iff.1 hd
  -- the run up to the step, the step, and the run behind it
  have hsplit : history = history.take i ++ history[i] :: history.drop (i + 1) := by
    rw [← List.drop_eq_getElem_cons hi, List.take_append_drop]
  rw [hsplit, run_append] at h
  obtain ⟨before, hbefore, hrest⟩ := Option.bind_eq_some_iff.1 h
  rw [run_cons] at hrest
  obtain ⟨next, hstep, hafter⟩ := Option.bind_eq_some_iff.1 hrest
  obtain ⟨ctx, hmade, rfl⟩ := Option.map_eq_some_iff.1 hstep
  have hlength : before.length = i := by
    rw [length_run_nil hbefore, List.length_take_of_le (Nat.le_of_lt hi)]
  have hctx : contexts[i]? = some ctx := by
    rw [getElem?_run hafter (by simp [hlength]), ← hlength, List.getElem?_concat_length]
  have hmore : ∀ j, j < before.length → contexts[j]? = before[j]? := by
    intro j hj
    rw [getElem?_run hafter (by simp; omega), List.getElem?_append_left hj]
  rw [hctx, made?_of_made? hmade hmore]

end Derivation

/-! ## Readings -/

namespace Context

/-- A context reads as a chain of steps says: of a fact one reads the value that the nearest step
gave it, and it is missing exactly if no step gave it one. -/
structure ReadsAs (ctx : Context) (chain : List Derivation) : Prop where
  present : ∀ (key : ContextKey) (value : String),
    ctx.read key = .ok value ↔
      ∃ near step far, chain = near ++ step :: far ∧ step.value? key = some value ∧
        ∀ nearer ∈ near, nearer.value? key = none
  missing : ∀ key : ContextKey,
    ctx.read key = .error (.notPresent key) ↔ ∀ step ∈ chain, step.value? key = none

/-- A context whose facts are the first values along a chain reads as the chain says. -/
theorem readsAs_of_get? {ctx : Context} {chain : List Derivation}
    (h : ∀ key, ctx.get? key = chain.findSome? (Derivation.value? key)) : ctx.ReadsAs chain where
  present key value := by
    rw [read_eq_ok_iff, h, List.findSome?_eq_some_iff]
  missing key := by
    rw [read_eq_error_iff, h, List.findSome?_eq_none_iff]

/-- The facts of a context are the first values along its chain. -/
theorem get?_of_chain {history chain : List Derivation} {contexts : List Context}
    (h : Derivation.run [] history = some contexts) {i : Nat}
    (hchain : Derivation.Chain history i chain) {ctx : Context} (hctx : contexts[i]? = some ctx)
    (key : ContextKey) : ctx.get? key = chain.findSome? (Derivation.value? key) := by
  -- along the chain, each step sets one fact and keeps what was read above it
  induction hchain generalizing ctx with
  | root hcreate =>
    rw [Derivation.getElem?_eq_made? h hcreate] at hctx
    cases hctx
    rw [get?_empty]
    rfl
  | @child i source other value above hderive _ ih =>
    rw [Derivation.getElem?_eq_made? h hderive] at hctx
    obtain ⟨parent, hparent, rfl⟩ := Option.map_eq_some_iff.1 hctx
    rw [get?_set, List.findSome?_cons, ih hparent, Derivation.value?]
    split <;> rfl

/-- Contexts are equal exactly if their readings are. -/
theorem beq_iff_read {a b : Context} : (a == b) = true ↔ ∀ key, a.read key = b.read key := by
  rw [beq_iff_eq]
  constructor
  · rintro rfl key
    rfl
  · exact ext_read

end Context

namespace Derivation

/-- **The nearest setting is read.** Take any history whose steps create contexts or derive them
from earlier ones, and any point of it. The history is run to its end, and each of its steps makes
one context. At the point, every context that is there has one derivation chain. Of a fact one reads
the value that the nearest step on this chain gave it, and it is missing exactly if no step on the
chain gave it one. The rest of the history changes none of these contexts. Any two contexts are
equal exactly if their readings are, so that different facts can be set in either order, and of two
values of one fact the later one counts. -/
theorem nearest_setting_is_read :
    (∀ past future : List Derivation, Grounded (past ++ future) →
      ∃ before after : List Context,
        run [] past = some before ∧ before.length = past.length ∧
          run before future = some after ∧ after.length = past.length + future.length ∧
          ∀ i < past.length, ∃ (ctx : Context) (chain : List Derivation),
            before[i]? = some ctx ∧ after[i]? = some ctx ∧
              (∀ other, Chain past i other ↔ other = chain) ∧ ctx.ReadsAs chain) ∧
      (∀ a b : Context, (a == b) = true ↔ ∀ key, a.read key = b.read key) ∧
      (∀ (ctx : Context) (key other : ContextKey) (value otherValue : String), key ≠ other →
        ((ctx.set key value).set other otherValue == (ctx.set other otherValue).set key value) =
          true) ∧
      ∀ (ctx : Context) (key : ContextKey) (value later : String),
        ((ctx.set key value).set key later == ctx.set key later) = true := by
  refine ⟨?_, fun a b => Context.beq_iff_read, ?_, ?_⟩
  · intro past future hgrounded
    obtain ⟨after, hrun⟩ := hgrounded.exists_run
    rw [run_append] at hrun
    obtain ⟨before, hbefore, hafter⟩ := Option.bind_eq_some_iff.1 hrun
    have hlength : before.length = past.length := length_run_nil hbefore
    refine ⟨before, after, hbefore, hlength, hafter, ?_, ?_⟩
    · rw [length_run hafter, hlength]
    intro i hi
    obtain ⟨chain, hchain⟩ := hgrounded.of_append.exists_chain hi
    have hbound : i < before.length := hlength ▸ hi
    have hctx : before[i]? = some before[i] := List.getElem?_eq_getElem hbound
    refine ⟨before[i], chain, hctx, ?_, ?_, ?_⟩
    · rw [getElem?_run hafter hbound, hctx]
    · intro other
      constructor
      · intro hother
        exact hother.unique hchain
      · rintro rfl
        exact hchain
    · exact Context.readsAs_of_get? (Context.get?_of_chain hbefore hchain hctx)
  · intro ctx key other value otherValue h
    rw [beq_iff_eq, ctx.set_comm h]
  · intro ctx key value later
    rw [beq_iff_eq, ctx.set_set]

/-- Two children of an empty context, of which one has an empty tenant. -/
def branches : List Derivation := [create, derive 0 .tenantId "a", derive 0 .tenantId ""]

/-- Two generations below the first child, the younger of which has a tenant of its own. -/
def laterBranches : List Derivation :=
  [derive 1 .systemBaseUri "u", derive 3 .tenantId "b"]

/-- The second child keeps its empty tenant while the first one gets descendants, and the youngest
context has its own tenant, the base URI of its parent and no initiator. -/
theorem nearest_setting_is_read_branches :
    Grounded (branches ++ laterBranches) ∧
      (∃ (before after : List Context) (second : Context),
        run [] branches = some before ∧ run before laterBranches = some after ∧
          before[2]? = some second ∧ after[2]? = some second ∧
          second.read .tenantId = .ok "" ∧
          second.read .systemBaseUri = .error (.notPresent .systemBaseUri)) ∧
      ∃ (after : List Context) (youngest : Context),
        run [] (branches ++ laterBranches) = some after ∧ after[4]? = some youngest ∧
          youngest.read .tenantId = .ok "b" ∧ youngest.read .systemBaseUri = .ok "u" ∧
          youngest.read .initiatorSystemBaseUri =
            .error (.notPresent .initiatorSystemBaseUri) := by
  have hgrounded : Grounded (branches ++ laterBranches) := by decide
  refine ⟨hgrounded, ?_, ?_⟩
  · obtain ⟨before, after, hbefore, -, hafter, -, hreads⟩ :=
      nearest_setting_is_read.1 branches laterBranches hgrounded
    obtain ⟨second, chain, hsecond, hkept, hunique, hread⟩ := hreads 2 (by decide)
    obtain rfl := (hunique _).1 (.child rfl (.root rfl))
    exact ⟨before, after, second, hbefore, hafter, hsecond, hkept,
      (hread.present _ _).2 ⟨[], _, _, rfl, rfl, by decide⟩, (hread.missing _).2 (by decide)⟩
  · obtain ⟨after, _, hafter, -, -, -, hreads⟩ :=
      nearest_setting_is_read.1 (branches ++ laterBranches) [] (by rwa [List.append_nil])
    obtain ⟨youngest, chain, hyoungest, -, hunique, hread⟩ := hreads 4 (by decide)
    obtain rfl := (hunique _).1 (.child rfl (.child rfl (.child rfl (.root rfl))))
    exact ⟨after, youngest, hafter, hyoungest,
      (hread.present _ _).2 ⟨[], _, _, rfl, rfl, by decide⟩,
      (hread.present _ _).2 ⟨[_], _, _, rfl, rfl, by decide⟩, (hread.missing _).2 (by decide)⟩

end Derivation

end TenantGate

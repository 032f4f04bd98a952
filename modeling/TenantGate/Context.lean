/-!
# The tenant context of a request

A context holds up to three facts about one request: the tenant, the base URI of the system that
serves it, and the base URI at which the initiator reached it. `set` gives a new context and leaves
the old one alone, `read` answers a fact or says that it is missing. `read_set` and `ext_read` say
all that there is to a context: what was set last is read, other facts are untouched, and two
contexts with the same readings are equal.
-/

set_option autoImplicit false

namespace TenantGate

/-- The facts of a context. -/
inductive ContextKey where
  | tenantId
  | systemBaseUri
  | initiatorSystemBaseUri
deriving DecidableEq, Repr

namespace ContextKey

/-- The key in words. -/
def words : ContextKey → String
  | tenantId => "tenant id"
  | systemBaseUri => "system base uri"
  | initiatorSystemBaseUri => "initiator system base uri"

/-- The key as one name. -/
def name : ContextKey → String
  | tenantId => "TenantId"
  | systemBaseUri => "SystemBaseUri"
  | initiatorSystemBaseUri => "InitiatorSystemBaseUri"

/-- All keys. -/
def all : List ContextKey := [tenantId, systemBaseUri, initiatorSystemBaseUri]

end ContextKey

/-- A reading of a context fails in one way only. -/
inductive ContextError where
  | notPresent (key : ContextKey)
deriving DecidableEq, Repr

/-- The wording of an error. -/
def ContextError.message : ContextError → String
  | notPresent key => s!"{key.words} is not present on the tenant context"

/-- The facts known about one request. -/
structure Context where
  tenantId : Option String
  systemBaseUri : Option String
  initiatorSystemBaseUri : Option String
deriving DecidableEq, Repr

namespace Context

/-- No fact is known. -/
def empty : Context := ⟨none, none, none⟩

/-- A fact, if it is known. -/
def get? (ctx : Context) : ContextKey → Option String
  | .tenantId => ctx.tenantId
  | .systemBaseUri => ctx.systemBaseUri
  | .initiatorSystemBaseUri => ctx.initiatorSystemBaseUri

/-- The context in which a fact has a new value. -/
def set (ctx : Context) (key : ContextKey) (value : String) : Context :=
  match key with
  | .tenantId => { ctx with tenantId := some value }
  | .systemBaseUri => { ctx with systemBaseUri := some value }
  | .initiatorSystemBaseUri => { ctx with initiatorSystemBaseUri := some value }

/-- A fact, or the error that names it. -/
def read (ctx : Context) (key : ContextKey) : Except ContextError String :=
  match ctx.get? key with
  | some value => .ok value
  | none => .error (.notPresent key)

@[simp] theorem get?_empty (key : ContextKey) : empty.get? key = none := by
  cases key <;> rfl

@[simp] theorem get?_set (ctx : Context) (key other : ContextKey) (value : String) :
    (ctx.set key value).get? other = if other = key then some value else ctx.get? other := by
  cases key <;> cases other <;> rfl

theorem ext_get? {a b : Context} (h : ∀ key, a.get? key = b.get? key) : a = b := by
  have h1 := h .tenantId
  have h2 := h .systemBaseUri
  have h3 := h .initiatorSystemBaseUri
  cases a
  cases b
  simp_all [get?]

theorem read_eq_ok_iff {ctx : Context} {key : ContextKey} {value : String} :
    ctx.read key = .ok value ↔ ctx.get? key = some value := by
  unfold read
  cases ctx.get? key <;> simp

theorem read_eq_error_iff {ctx : Context} {key : ContextKey} :
    ctx.read key = .error (.notPresent key) ↔ ctx.get? key = none := by
  unfold read
  cases ctx.get? key <;> simp

theorem read_set (ctx : Context) (key other : ContextKey) (value : String) :
    (ctx.set key value).read other = if other = key then .ok value else ctx.read other := by
  unfold read
  rw [get?_set]
  by_cases h : other = key <;> simp [h]

theorem get?_of_read {a b : Context} {key : ContextKey} (h : a.read key = b.read key) :
    a.get? key = b.get? key := by
  unfold read at h
  cases ha : a.get? key <;> cases hb : b.get? key <;> simp_all

theorem ext_read {a b : Context} (h : ∀ key, a.read key = b.read key) : a = b :=
  ext_get? fun key => get?_of_read (h key)

theorem set_comm (ctx : Context) {key other : ContextKey} (h : key ≠ other)
    (value otherValue : String) :
    (ctx.set key value).set other otherValue = (ctx.set other otherValue).set key value := by
  apply ext_get?
  intro asked
  simp only [get?_set]
  by_cases hkey : asked = key
  · rw [if_neg (hkey ▸ h), if_pos hkey, if_pos hkey]
  · rw [if_neg hkey, if_neg hkey]

theorem set_set (ctx : Context) (key : ContextKey) (value later : String) :
    (ctx.set key value).set key later = ctx.set key later := by
  apply ext_get?
  intro asked
  simp only [get?_set]
  split <;> rfl

end Context

end TenantGate

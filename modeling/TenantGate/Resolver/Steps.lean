import TenantGate.Resolver.Basic
import TenantGate.Text.Quoted

/-!
# A resolver in use

A resolver is configured step by step and asked to resolve fields or whole requests in between.
`Resolver.perform` is one step: it gives the resolver as it is afterwards and what the step answers
and reports. `Resolver.shown` is how a resolver appears in diagnostics, where the octets of its key
never do.
-/

set_option autoImplicit false

namespace TenantGate

open TenantGate.Http TenantGate.Text

/-- What can be done with a resolver. -/
inductive ResolverStep where
  | allowUnsignedDefaults (allow : Bool)
  | installErrorLog (tag : String)
  | resolve (fields : Fields)
  | resolveRequest (head : RequestHead)
deriving DecidableEq, Repr

/-- What a step answers and reports; configuring answers nothing. -/
structure ResolverAnswer where
  result : Option (Except ResolveError Context)
  reports : List Report

namespace Resolver

/-- Do one step. -/
def perform (r : Resolver) : ResolverStep → Resolver × ResolverAnswer
  | .allowUnsignedDefaults allow => (r.withUnsignedDefaults allow, ⟨none, []⟩)
  | .installErrorLog tag => (r.withErrorLog tag, ⟨none, []⟩)
  | .resolve fields =>
      let (result, reports) := r.resolve fields
      (r, ⟨some result, reports⟩)
  | .resolveRequest head =>
      let (result, reports) := r.resolveRequest head
      (r, ⟨some result, reports⟩)

/-- Do all steps; the answers are in the order of the steps. -/
def performAll (r : Resolver) : List ResolverStep → Resolver × List ResolverAnswer
  | [] => (r, [])
  | s :: ss =>
      let (r, answer) := r.perform s
      let (r, answers) := r.performAll ss
      (r, answer :: answers)

/-- An optional value in diagnostics. -/
def shownOption {α : Type} (shown : α → String) : Option α → String
  | none => "None"
  | some a => s!"Some({shown a})"

/-- The resolver in diagnostics. -/
def shown (r : Resolver) : String :=
  "TenantResolver \x7b default_system_base_uri: " ++ shownOption quoted r.defaultBaseUri ++
    ", verifier: SignatureVerifier \x7b key: " ++ shownOption SigningKey.shown r.key ++
    " \x7d, allow_unsigned_defaults: " ++ toString r.allowUnsignedDefaults ++
    ", custom_error_log: " ++ toString r.errorLog.isSome ++ " \x7d"

end Resolver

end TenantGate

import TenantGate.Proofs.Acceptance
import TenantGate.Resolver.Steps

/-!
# A resolver in use reports exactly once

Steps that configure a resolver and calls that use it come in any order. A call depends on what the
steps before it have set last, and on nothing else of them: `configured` is the resolver as steps
leave it, one step keeps this form (`fst_perform_configured`), and so does a run
(`fst_performAll_configured`). `Answered` says what a step answers and reports under such settings.
The main theorem, `every_call_reported_once`, says that each step of a run is answered so: a success
is told in one event and to no error log, a rejected request is reported once to the last error log
or to the event stream, and nothing else is reported.
-/

set_option autoImplicit false

namespace TenantGate

open TenantGate.Http TenantGate.Text TenantGate.Forwarding

/-! ## What steps have set -/

namespace ResolverStep

/-- The value that a step gives the switch. -/
def switch? : ResolverStep → Option Bool
  | allowUnsignedDefaults allow => some allow
  | _ => none

/-- The error log that a step installs. -/
def errorLog? : ResolverStep → Option String
  | installErrorLog tag => some tag
  | _ => none

/-- The last value that steps give the switch, which is off until one does. -/
def lastSwitch (steps : List ResolverStep) : Bool :=
  (steps.filterMap switch?).getLast?.getD false

/-- The last error log that steps install, if one does. -/
def lastErrorLog (steps : List ResolverStep) : Option String :=
  (steps.filterMap errorLog?).getLast?

theorem lastSwitch_concat (steps : List ResolverStep) (step : ResolverStep) :
    lastSwitch (steps ++ [step]) = step.switch?.getD (lastSwitch steps) := by
  rw [lastSwitch, List.filterMap_append]
  cases hstep : step.switch? with
  | none => simp [hstep, lastSwitch]
  | some allow => simp [hstep]

theorem lastErrorLog_concat (steps : List ResolverStep) (step : ResolverStep) :
    lastErrorLog (steps ++ [step]) = step.errorLog?.or (lastErrorLog steps) := by
  rw [lastErrorLog, List.filterMap_append]
  cases hstep : step.errorLog? with
  | none => simp [hstep, lastErrorLog]
  | some tag => simp [hstep]

end ResolverStep

namespace Resolver

/-- A resolver that was new before some steps, as it is after them. -/
def configured (defaultText : String) (key : Option SigningKey) (steps : List ResolverStep) :
    Resolver where
  defaultText := defaultText
  key := key
  allowUnsignedDefaults := ResolverStep.lastSwitch steps
  errorLog := ResolverStep.lastErrorLog steps

/-! ## Runs -/

section Runs

variable (defaultText : String) (key : Option SigningKey)

theorem performAll_cons (r : Resolver) (step : ResolverStep) (steps : List ResolverStep) :
    r.performAll (step :: steps) =
      (((r.perform step).1.performAll steps).1,
        (r.perform step).2 :: ((r.perform step).1.performAll steps).2) :=
  rfl

/-- One step sets what it says and resets nothing else. -/
theorem fst_perform_configured (earlier : List ResolverStep) (step : ResolverStep) :
    ((configured defaultText key earlier).perform step).1 =
      configured defaultText key (earlier ++ [step]) := by
  rw [configured, configured, ResolverStep.lastSwitch_concat, ResolverStep.lastErrorLog_concat]
  cases step with
  | allowUnsignedDefaults allow => rfl
  | installErrorLog tag => rfl
  | resolve fields => rfl
  | resolveRequest head => rfl

/-- A run leaves what its steps have set last. -/
theorem fst_performAll_configured (earlier steps : List ResolverStep) :
    ((configured defaultText key earlier).performAll steps).1 =
      configured defaultText key (earlier ++ steps) := by
  -- each step of the run joins the earlier ones for the rest of it
  induction steps generalizing earlier with
  | nil => rw [List.append_nil, performAll]
  | cons step steps ih =>
    rw [performAll_cons, fst_perform_configured, ih, List.append_assoc]
    rfl

/-- Every step of a run has one answer. -/
theorem length_performAll (r : Resolver) (steps : List ResolverStep) :
    (r.performAll steps).2.length = steps.length := by
  induction steps generalizing r with
  | nil => rfl
  | cons step steps ih => rw [performAll_cons, List.length_cons, ih, List.length_cons]

/-- The answers of a run go on from the resolver that its first part leaves. -/
theorem snd_performAll_append (r : Resolver) (before after : List ResolverStep) :
    (r.performAll (before ++ after)).2 =
      (r.performAll before).2 ++ ((r.performAll before).1.performAll after).2 := by
  induction before generalizing r with
  | nil => rfl
  | cons step before ih =>
    rw [List.cons_append, performAll_cons, performAll_cons, ih, List.cons_append]

end Runs

end Resolver

/-! ## Answers -/

/-- An event tells of a success: at the level of details, with the tenant and the base URI of the
context and with the header that gave the host. -/
structure Event.TellsContext (event : Event) (ctx : Context) (found : Option Found) : Prop where
  severity : event.severity = .debug
  fields :
    event.fields =
      [("initiator_source",
          match found.map (·.source) with
          | none => "None"
          | some .forwarded => "Some(Forwarded)"
          | some .xForwardedHost => "Some(XForwardedHost)"),
        ("message", "tenant context resolved"),
        ("system_base_uri", (ctx.get? .systemBaseUri).getD ""),
        ("tenant_id", (ctx.get? .tenantId).getD "")]

/-- An event tells of a rejected request: as an error if this service is at fault and else as a
warning, with the wording of the error, the method and the target. -/
structure Event.TellsRejection (event : Event) (head : RequestHead) (e : ResolveError) : Prop where
  severity : event.severity = if e.status = 500 then .error else .warn
  fields :
    event.fields = [("message", e.message), ("method", head.method), ("uri", head.target.shown)]

namespace Resolver

/-- Fields are resolved to a context, and one event is all that tells of it. The context follows
from the texts of the fields, and its source is the header that gave the host. -/
structure Resolves (r : Resolver) (f : Fields) (ctx : Context) (reports : List Report) : Prop where
  result : (r.resolve f).1 = .ok ctx
  told :
    ∃ (t : SignedTexts) (found : Option Found) (event : Event),
      t.SaidBy f ∧ Chooses t.forwarded t.xForwardedHost found ∧
        ctx.FollowsFrom t found (if r.defaultText = "" then none else some r.defaultText) ∧
        event.TellsContext ctx found ∧ reports = [.event event]

/-- What a step answers and reports, for a resolver and the error log that is installed on it. -/
inductive Answered (r : Resolver) (log : Option String) :
    ResolverStep → ResolverAnswer → Prop where
  | switched {allow : Bool} : Answered r log (.allowUnsignedDefaults allow) ⟨none, []⟩
  | installed {tag : String} : Answered r log (.installErrorLog tag) ⟨none, []⟩
  | resolved {f : Fields} {ctx : Context} {reports : List Report} :
      r.Resolves f ctx reports → Answered r log (.resolve f) ⟨some (.ok ctx), reports⟩
  | refused {f : Fields} {e : ResolveError} :
      (r.resolve f).1 = .error e → Answered r log (.resolve f) ⟨some (.error e), []⟩
  | requestResolved {head : RequestHead} {ctx : Context} {reports : List Report} :
      r.Resolves head.fields ctx reports →
      Answered r log (.resolveRequest head) ⟨some (.ok ctx), reports⟩
  | requestLogged {head : RequestHead} {e : ResolveError} {tag : String} :
      (r.resolve head.fields).1 = .error e → log = some tag →
      Answered r log (.resolveRequest head)
        ⟨some (.error e),
          [.logged tag ⟨head.method, head.target.shown, head.fields.count, e.message⟩]⟩
  | requestTold {head : RequestHead} {e : ResolveError} {event : Event} :
      (r.resolve head.fields).1 = .error e → log = none → event.TellsRejection head e →
      Answered r log (.resolveRequest head) ⟨some (.error e), [.event event]⟩

variable {r : Resolver} {f : Fields}

/-- The event of a success tells of the context that follows. -/
theorem tellsContext_successEvent (r : Resolver) (s : Stated) :
    (r.successEvent s).TellsContext (s.context r.defaultBaseUri) s.host where
  severity := rfl
  fields := by
    -- the source is shown in its own word, so each source is a case
    obtain ⟨baseUri, tenant, host⟩ := s
    cases host with
    | none => rfl
    | some found =>
      obtain ⟨source, host, raw⟩ := found
      cases source with
      | forwarded => rfl
      | xForwardedHost => rfl

theorem resolves_of_ok {ctx : Context} (h : (r.resolve f).1 = .ok ctx) :
    r.Resolves f ctx (r.resolve f).2 := by
  obtain ⟨stated, htrusted, rfl⟩ := resolve_eq_ok_iff_trusted.1 h
  obtain ⟨t, ht, rfl, -⟩ := trusted_eq_ok_iff.1 htrusted
  have hreports : (r.resolve f).2 = [.event (r.successEvent t.stated)] := by
    rw [resolve, htrusted]
  refine ⟨h, t, _, r.successEvent t.stated, ht, chooses_choose _ _, ?_,
    tellsContext_successEvent r t.stated, hreports⟩
  rw [← defaultBaseUri_eq]
  exact Context.followsFrom_context t _

theorem tellsRejection_rejected (head : RequestHead) (e : ResolveError) :
    (Event.rejected e head.method head.target.shown).TellsRejection head e where
  severity := by
    rw [Event.severity, ResolveError.isServerError]
    exact if_congr beq_iff_eq rfl rfl
  fields := rfl

/-- Every step is answered as it should be, and the error log counts for rejections alone. -/
theorem answered_perform (r : Resolver) (log : Option String) (step : ResolverStep) :
    Answered r log step (({ r with errorLog := log } : Resolver).perform step).2 := by
  have hlog : ∀ f, ({ r with errorLog := log } : Resolver).resolve f = r.resolve f := fun _ => rfl
  cases step with
  | allowUnsignedDefaults allow => exact .switched
  | installErrorLog tag => exact .installed
  | resolve f =>
    rw [perform, hlog]
    cases hout : (r.resolve f).1 with
    | ok ctx =>
      have hanswer : Answered r log (.resolve f) ⟨some (.ok ctx), (r.resolve f).2⟩ :=
        .resolved (resolves_of_ok hout)
      rwa [← hout] at hanswer
    | error e =>
      rw [resolve_of_error hout]
      exact .refused hout
  | resolveRequest head =>
    cases hout : (r.resolve head.fields).1 with
    | ok ctx =>
      rw [perform, resolveRequest_of_ok (by rwa [hlog]), hlog]
      exact .requestResolved (resolves_of_ok hout)
    | error e =>
      rw [perform, resolveRequest_of_error (by rwa [hlog]), rejection]
      -- the report goes to the log that is installed
      cases log with
      | some tag => exact .requestLogged hout rfl
      | none => exact .requestTold hout rfl (tellsRejection_rejected head e)

/-- **Every call on a resolver is answered and reported exactly once.** Take any run of steps on a
new resolver, and any step of it. The step has one answer in the place of the step. A call is
answered as the default base URI and the key of the new resolver say, with the last value of the
switch that was set before the call, and a whole request is answered as its fields are. A success is
told in one event that states the context, and to no error log. A failure to resolve bare fields is
not reported. A rejected request is reported once with the wording of the error: to the error log
that was installed last, and where there is none in one event, which is an error if the status is
500 and a warning otherwise. -/
theorem every_call_reported_once (defaultText : String) (key : Option SigningKey)
    (before after : List ResolverStep) (step : ResolverStep) :
    ∃ (earlier later : List ResolverAnswer) (answer : ResolverAnswer),
      ((new defaultText key).performAll (before ++ step :: after)).2 =
          earlier ++ answer :: later ∧
        earlier.length = before.length ∧ later.length = after.length ∧
        Answered ⟨defaultText, key, ResolverStep.lastSwitch before, none⟩
          (ResolverStep.lastErrorLog before) step answer := by
  have hbefore : ((new defaultText key).performAll before).1 =
      configured defaultText key before :=
    fst_performAll_configured defaultText key [] before
  have hanswers : ((new defaultText key).performAll (before ++ step :: after)).2 =
      ((new defaultText key).performAll before).2 ++
        ((configured defaultText key before).perform step).2 ::
          (((configured defaultText key before).perform step).1.performAll after).2 := by
    rw [snd_performAll_append, hbefore, performAll_cons]
  -- in front of the step, the switch and the error log of the resolver are the last ones set
  have hanswer := answered_perform ⟨defaultText, key, ResolverStep.lastSwitch before, none⟩
    (ResolverStep.lastErrorLog before) step
  exact ⟨_, _, _, hanswers, length_performAll _ before, length_performAll _ after, hanswer⟩

end Resolver

end TenantGate

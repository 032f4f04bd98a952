import TenantGate.Settings
import TenantGate.Startup.LogFilter

/-!
# Starting the service

The service reads its settings, announces itself in its log and takes its port. `Startup.run` states
what that leaves in the log and why it ends, if it does.
-/

set_option autoImplicit false

namespace TenantGate

/-- What the service logs while it starts. -/
inductive Notice where
  | secretMissing
  | starting (mode : Mode) (port : Nat)
deriving DecidableEq, Repr

namespace Notice

/-- The target that notices are logged under. -/
def target : String := "tenant_context::app"

/-- The severity of a notice. -/
def severity : Notice → Severity
  | secretMissing => .warn
  | starting _ _ => .info

/-- The wording of a notice, with the port as it is to be shown. -/
def message (showPort : Nat → String) : Notice → String
  | secretMissing => "SIGNATURE_SECRET_KEY is not set; tenant-scoped requests will fail with 500"
  | starting mode port =>
      s!"starting tenant-context in {mode.name} mode on 0.0.0.0:{showPort port}"

/-- A line of the log. -/
def line (showPort : Nat → String) (n : Notice) : String :=
  s!"{n.severity.name} {target}: {n.message showPort}"

end Notice

/-- Why a start fails. -/
inductive StartFailure where
  | settings (e : SettingsError)
  | addressInUse
deriving DecidableEq, Repr

namespace StartFailure

/-- The wording of a failure. -/
def message : StartFailure → String
  | settings e => e.message
  | addressInUse => "Address already in use (os error 98)"

/-- The failure as it is shown to the user. -/
def shown (f : StartFailure) : String := s!"Error: {f.message}\n"

/-- The exit code of a program whose start failed. -/
def exitCode : UInt32 := 1

end StartFailure

/-- A start: the notices that reach the log, and the failure that ends it. -/
structure Startup where
  notices : List Notice
  failure : Option StartFailure

namespace Startup

/-- The notices of a service with valid settings. -/
def announcements (s : Settings) : List Notice :=
  (if s.key.isNone then [.secretMissing] else []) ++ [.starting s.mode s.port]

/-- The notices that a filter lets through. -/
def logged (filter : LogFilter) (notices : List Notice) : List Notice :=
  notices.filter fun n => filter.allows Notice.target n.severity ["message"]

/-- Start with settings that are valid or not, on a port that is free or not. -/
def run (filter : LogFilter) (settings : Except SettingsError Settings) (portIsFree : Bool) :
    Startup :=
  match settings with
  | .error e => ⟨[], some (.settings e)⟩
  | .ok s => ⟨logged filter (announcements s), if portIsFree then none else some .addressInUse⟩

end Startup

end TenantGate

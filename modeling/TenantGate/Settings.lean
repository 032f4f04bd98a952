import TenantGate.SettingsFile.Assignments
import TenantGate.Signature
import TenantGate.SocketAddress
import TenantGate.Text.Decimal
import TenantGate.Text.Letters
import TenantGate.Url.Accepted

/-!
# Settings of the service

Seven variables configure the service. `Settings.read` takes them from any lookup, checks them in a
fixed order and names the first invalid one; an unset variable has its default. The port counts as
invalid also where the address made from it cannot be read, which never happens. A missing signing
key is no fault here, since it is answered for each request.
-/

set_option autoImplicit false

namespace TenantGate

open TenantGate.Text

/-- The variables that configure the service. -/
inductive Variable where
  | port
  | appEnv
  | defaultSystemBaseUri
  | signatureSecretKey
  | allowUnsignedDefaults
  | requestTimeoutSeconds
  | requestBodyLimitBytes
deriving DecidableEq, Repr

/-- The name of a variable in the environment. -/
def Variable.name : Variable → String
  | port => "PORT"
  | appEnv => "APP_ENV"
  | defaultSystemBaseUri => "DEFAULT_SYSTEM_BASE_URI"
  | signatureSecretKey => "SIGNATURE_SECRET_KEY"
  | allowUnsignedDefaults => "ALLOW_UNSIGNED_DEFAULTS"
  | requestTimeoutSeconds => "REQUEST_TIMEOUT_SECONDS"
  | requestBodyLimitBytes => "REQUEST_BODY_LIMIT_BYTES"

/-- The kind of deployment. -/
inductive Mode where
  | development
  | production
deriving DecidableEq, Repr

namespace Mode

/-- The name of a mode. -/
def name : Mode → String
  | development => "Development"
  | production => "Production"

/-- The mode that a setting means: anything but two words is development. -/
def ofSetting (setting : String) : Mode :=
  let word := lower setting
  if word == "production" || word == "prod" then production else development

end Mode

/-- A variable with a value that it cannot have. -/
inductive SettingsError where
  | invalid (v : Variable)
deriving DecidableEq, Repr

/-- The wording of an error. -/
def SettingsError.message : SettingsError → String
  | invalid v => s!"invalid configuration: {v.name}"

/-- The settings of the service. -/
structure Settings where
  port : Nat
  mode : Mode
  defaultBaseUri : String
  key : Option SigningKey
  allowUnsignedDefaults : Bool
  timeoutSeconds : Nat
  bodyLimit : Nat

namespace Settings

/-- The port where none is set. -/
def defaultPort : Nat := 3000

/-- The seconds that a request may take where no number is set. -/
def defaultTimeout : Nat := 30

/-- The octets that a request body may have where no number is set. -/
def defaultBodyLimit : Nat := 1024 * 1024

/-- The address that a service with a port listens on. -/
def addressText (port : Nat) : String := s!"0.0.0.0:{port}"

/-- The address that the service listens on. -/
def address (s : Settings) : String := addressText s.port

/-- The meaning of a switch: one of a few words in any letter case. -/
def switch? (setting : String) : Option Bool :=
  let word := lower (trimmed setting)
  if ["true", "1", "yes", "on"].contains word then some true
  else if ["false", "0", "no", "off", ""].contains word then some false
  else none

/-- The base URI of a setting: blank, or an absolute URL, which is kept as it is written. -/
def baseUri? (setting : String) : Option String :=
  let text := trimmed setting
  if text.isEmpty || Url.isAccepted text then some text else none

/-- The key of a setting, which may state none. -/
def key? (setting : String) : Option (Option SigningKey) := (SigningKey.ofBase64 setting).toOption

/-- The value of a variable: a default where it is unset, an error where it cannot be read. -/
def value {α : Type} (lookup : Variable → Option String) (v : Variable) (fallback : α)
    (read : String → Option α) : Except SettingsError α :=
  match lookup v with
  | none => .ok fallback
  | some setting =>
      match read setting with
      | some a => .ok a
      | none => .error (.invalid v)

/-- The port as it is listened on: its address is written down and read back. -/
def listening (port : Nat) : Except SettingsError Nat :=
  match SocketAddress.read? (addressText port) with
  | some address => .ok address.port
  | none => .error (.invalid .port)

/-- Read all settings; the first invalid one is the error. -/
def read (lookup : Variable → Option String) : Except SettingsError Settings := do
  let port ← value lookup .port defaultPort number16?
  let port ← listening port
  let mode ← value lookup .appEnv .development fun s => some (Mode.ofSetting s)
  let defaultBaseUri ← value lookup .defaultSystemBaseUri "" baseUri?
  let key ← value lookup .signatureSecretKey none key?
  let allowUnsignedDefaults ← value lookup .allowUnsignedDefaults false switch?
  let timeoutSeconds ← value lookup .requestTimeoutSeconds defaultTimeout number64?
  let bodyLimit ← value lookup .requestBodyLimitBytes defaultBodyLimit number64?
  .ok ⟨port, mode, defaultBaseUri, key, allowUnsignedDefaults, timeoutSeconds, bodyLimit⟩

/-- The lookup of variables in an environment. -/
def lookupIn (env : Environment) (v : Variable) : Option String := env.get? v.name

/-- Read all settings from an environment and the text of a settings file, if there is one. -/
def ofEnvironment (env : Environment) (file : Option String) :
    Except Unstorable (Except SettingsError Settings) := do
  let env ← match file with
    | some text => SettingsFile.load env text
    | none => .ok env
  return read (lookupIn env)

end Settings

end TenantGate

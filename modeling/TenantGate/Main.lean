import TenantGate.Startup

/-!
# The command line

Reads the settings from the process environment and from a file `.env` in the working directory,
and reports how the service starts with them. Taking the port and serving requests is the business of
the host that the service is embedded in.
-/

set_option autoImplicit false

open TenantGate

/-- The variables that the program reads. -/
def variableNames : List String :=
  [Variable.port, .appEnv, .defaultSystemBaseUri, .signatureSecretKey, .allowUnsignedDefaults,
    .requestTimeoutSeconds, .requestBodyLimitBytes].map Variable.name

/-- The environment of the process, as far as it is read. -/
def processEnvironment : IO Environment := do
  let found ← variableNames.filterMapM fun name => do
    return (← IO.getEnv name).map fun value => (name, Text.octets value)
  return ⟨found⟩

/-- The text of the settings file, if there is one. -/
def settingsFile? : IO (Option String) := do
  try
    return some (← IO.FS.readFile ".env")
  catch _ =>
    return none

/-- The exit code of a program that ends where a value cannot be stored. -/
def crashCode : UInt32 := 101

/-- Report the start, and fail if it fails. -/
def main : IO UInt32 := do
  let filter := LogFilter.ofSetting (← IO.getEnv "RUST_LOG")
  match Settings.ofEnvironment (← processEnvironment) (← settingsFile?) with
  | .error _ => return crashCode
  | .ok settings => do
      let start := Startup.run filter settings true
      for notice in start.notices do
        IO.println (notice.line toString)
      match start.failure with
      | some failure => do
          IO.eprint failure.shown
          return StartFailure.exitCode
      | none => return 0

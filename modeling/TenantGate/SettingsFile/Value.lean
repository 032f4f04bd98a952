import TenantGate.Unicode.Alphanumeric

/-!
# Values in a settings file

A value may be quoted, hold escapes, and refer to variables as `$NAME` or in braces. `readValue`
reads one character by character with `ValueState.step`, given the values that are known.
-/

set_option autoImplicit false

namespace TenantGate.SettingsFile

/-- What a reader of a value expects. -/
inductive ValueMode where
  | text
  | escape
  | strong
  | name (taken : List Char)
  | bracedName (taken : List Char)
  | finished
deriving DecidableEq, Repr

/-- A reader of a value: its mode, whether it is inside double quotes, and what it has read. -/
structure ValueState where
  mode : ValueMode
  weak : Bool
  read : List Char

variable (known : String → Option String)

namespace ValueState

/-- Append a character. -/
def push (s : ValueState) (c : Char) : ValueState := { s with mode := .text, read := s.read ++ [c] }

/-- Append the value of a variable; one that is unset adds nothing. -/
def substitute (s : ValueState) (name : List Char) : ValueState :=
  { s with mode := .text, read := s.read ++ ((known (String.ofList name)).getD "").toList }

/-- The characters that a backslash may stand before, and what they mean. -/
def escaped? (c : Char) : Option Char :=
  if ['\\', '\'', '"', '$', ' '].contains c then some c
  else if c = 'n' then some '\n'
  else none

/-- One more character. A name ends at the first character that is no letter or number; that
character stands for itself, unless it is the sign of another name. -/
def step (s : ValueState) (c : Char) : Option ValueState :=
  match s.mode with
  | .finished => if c = ' ' ∨ c = '\t' then some s else none
  | .escape => (escaped? c).map s.push
  | .strong => some (if c = '\'' then { s with mode := .text } else { s.push c with mode := .strong })
  | .name taken =>
      if Unicode.isAlphanumeric c then some { s with mode := .name (taken ++ [c]) }
      else if c = '\x7b' ∧ taken = [] then some { s with mode := .bracedName [] }
      else if c = '$' then some { s.substitute known taken with mode := .name [] }
      else some ((s.substitute known taken).push c)
  | .bracedName taken =>
      if c = '\x7d' then some (s.substitute known taken)
      else some { s with mode := .bracedName (taken ++ [c]) }
  | .text =>
      if c = '$' then some { s with mode := .name [] }
      else if c = '\\' then some { s with mode := .escape }
      else if s.weak then some (if c = '"' then { s with weak := false } else s.push c)
      else if c = '\'' then some { s with mode := .strong }
      else if c = '"' then some { s with weak := true }
      else if c = ' ' ∨ c = '\t' then some { s with mode := .finished }
      else some (s.push c)

/-- The value at the end of an entry; open quotes and braces are malformed. -/
def finish (s : ValueState) : Option String :=
  match s.mode with
  | .strong | .bracedName _ => none
  | .name taken => if s.weak then none else some (String.ofList (s.substitute known taken).read)
  | _ => if s.weak then none else some (String.ofList s.read)

end ValueState

/-- Read a value. A comment may follow behind a blank. -/
def readValueFrom (s : ValueState) : List Char → Option String
  | [] => s.finish known
  | c :: cs =>
      if s.mode = .finished ∧ c = '#' then s.finish known
      else (s.step known c).bind fun s' => readValueFrom s' cs

/-- Read a value from its start. -/
def readValue (cs : List Char) : Option String :=
  readValueFrom known ⟨.text, false, []⟩ cs

end TenantGate.SettingsFile

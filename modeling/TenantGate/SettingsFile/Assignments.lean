import TenantGate.Environment
import TenantGate.SettingsFile.Entries
import TenantGate.SettingsFile.Value

/-!
# Assignments in a settings file

An entry assigns a value to a name: `NAME=value`, with the word `export` before it or not.
`Entry.read` takes an entry apart, given the values that are known at that entry, and `load` takes
the entries of a file in order and sets a variable only if it is unset, up to the first entry that
is malformed.
-/

set_option autoImplicit false

namespace TenantGate.SettingsFile

open TenantGate.Text

/-- A character that a name may start with. -/
def isNameStart (c : Char) : Bool := c.isAlpha || c == '_'

/-- A character of a name. -/
def isNameChar (c : Char) : Bool := c.isAlpha || c.isDigit || c == '_' || c == '.'

/-- A name at the start of a text, and the text behind it without leading blanks. -/
def readName (cs : List Char) : Option (List Char × List Char) :=
  match cs with
  | c :: _ =>
      if isNameStart c then some (cs.takeWhile isNameChar, trimStart (cs.dropWhile isNameChar))
      else none
  | [] => none

/-- The text behind an equals sign, without leading blanks. -/
def readEquals : List Char → Option (List Char)
  | '=' :: cs => some (trimStart cs)
  | _ => none

/-- A name and the text assigned to it. The word `export` may stand before the name, and is itself a
name where an equals sign follows. -/
def readTarget (cs : List Char) : Option (List Char × List Char) := do
  let (name, rest) ← readName cs
  match readEquals rest with
  | some value => some (name, value)
  | none =>
      if name = "export".toList then
        let (name, rest) ← readName rest
        let value ← readEquals rest
        some (name, value)
      else none

/-- What an entry of a file is. -/
inductive Entry where
  | nothing
  | assignment (name value : String)
  | malformed
deriving DecidableEq, Repr

/-- Read an entry, given the values that are known. -/
def Entry.read (known : String → Option String) (cs : List Char) : Entry :=
  let cs := trimStart (trimEnd cs)
  if cs.isEmpty || cs.head? == some '#' then nothing
  else
    match readTarget cs with
    | none => malformed
    | some (name, value) =>
        if value.isEmpty || value.head? == some '#' then assignment (String.ofList name) ""
        else
          match readValue known value with
          | some v => assignment (String.ofList name) v
          | none => malformed

/-- Take over the entries up to the first malformed one. -/
def loadEntries (env : Environment) : List (List Char) → Except Unstorable Environment
  | [] => .ok env
  | e :: es =>
      match Entry.read env.get? e with
      | .nothing => loadEntries env es
      | .assignment name value => do loadEntries (← env.setMissing name value) es
      | .malformed => .ok env

/-- The environment with the assignments of a file taken over. -/
def load (env : Environment) (text : String) : Except Unstorable Environment :=
  loadEntries env (entries text)

end TenantGate.SettingsFile

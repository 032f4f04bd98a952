import TenantGate.Text.Blank

/-!
# The entries of a settings file

An entry is a line, unless a quoted string runs over its end. `Scan` is the quote state of a scan
over the lines, `scanLine` takes it over one line, and `entries` cuts a file into entries by it.
Lines that hold only a comment are dropped here, and a comment behind an entry is cut off.
-/

set_option autoImplicit false

namespace TenantGate.SettingsFile

open TenantGate.Text

/-- The quote state of the scan that looks for the end of an entry. -/
inductive Scan where
  | plain
  | blank
  | escape
  | strong
  | strongEscape
  | weak
  | weakEscape
deriving DecidableEq, Repr

/-- What a character outside quotes leads to. -/
def Scan.outside (c : Char) : Scan :=
  if c = '\\' then escape
  else if c = '"' then weak
  else if c = '\'' then strong
  else plain

/-- The state behind one more character. A blank is noted only behind a character that is not one:
the second of two blanks counts as any other character. -/
def Scan.next : Scan → Char → Scan
  | blank, c => outside c
  | escape, _ => plain
  | plain, c => if isBlank c && c != '\n' && c != '\r' then blank else outside c
  | weak, c => if c = '\\' then weakEscape else if c = '"' then plain else weak
  | weakEscape, _ => weak
  | strong, c => if c = '\\' then strongEscape else if c = '\'' then plain else strong
  | strongEscape, _ => strong

/-- The part of a line that is scanned: its characters up to a number sign behind a blank, and the
state there, or no state where such a comment begins. -/
def scanLine : Scan → List Char → List Char × Option Scan
  | st, [] => ([], some st)
  | st, c :: cs =>
      if st = .blank ∧ c = '#' then ([], none)
      else
        let (line, last) := scanLine (st.next c) cs
        (c :: line, last)

/-- The lines of a text, each with its line feed. -/
def lines : List Char → List (List Char)
  | [] => []
  | c :: cs =>
      if c = '\n' then [c] :: lines cs
      else
        match lines cs with
        | [] => [[c]]
        | l :: ls => (c :: l) :: ls

/-- The text without its line end. -/
def dropLineEnd (cs : List Char) : List Char :=
  match cs.reverse with
  | '\n' :: '\r' :: rest => rest.reverse
  | '\n' :: rest => rest.reverse
  | _ => cs

/-- The text starts with a number sign behind blanks. -/
def isComment (cs : List Char) : Bool := (trimStart cs).head? == some '#'

/-- Cut lines into entries. `st` is the quote state and `begun` the text of an entry that earlier
lines have begun; one that is never closed is no entry. -/
def entriesFrom (st : Scan) (begun : List Char) : List (List Char) → List (List Char)
  | [] => []
  | l :: ls =>
      if isComment (begun ++ l) then entriesFrom .plain [] ls
      else
        match scanLine st l with
        | (line, none) => (begun ++ line) :: entriesFrom .plain [] ls
        | (line, some .plain) => dropLineEnd (begun ++ line) :: entriesFrom .plain [] ls
        | (line, some state) => entriesFrom state (begun ++ line) ls

/-- The entries of a file. A byte order mark at its start is ignored. -/
def entries (text : String) : List (List Char) :=
  let cs := text.toList
  entriesFrom .plain [] (lines (if cs.head? = some '\uFEFF' then cs.drop 1 else cs))

end TenantGate.SettingsFile

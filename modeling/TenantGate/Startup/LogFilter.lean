import TenantGate.Resolver.Report
import TenantGate.Text.Blank
import TenantGate.Text.Decimal
import TenantGate.Text.Letters
import TenantGate.Text.Pieces
import TenantGate.Unicode.Alphanumeric

/-!
# Log filters

A filter is a list of directives separated by commas. A directive states the lowest severity that is
logged, in general or for targets whose name starts in a given way, and may ask for a span or for
fields. `Directive.read` reads one; `LogFilter.allows` decides for an event with the directive that is
the most specific among those that apply.
-/

set_option autoImplicit false

namespace TenantGate

open TenantGate.Text

/-! ## Levels -/

/-- How much is logged, from nothing to everything. -/
def levelNames : List String := ["off", "error", "warn", "info", "debug", "trace"]

/-- A level by name or number; 0 is `off` and 5 is `trace`. -/
def level? (cs : List Char) : Option Nat :=
  match number64? (String.ofList cs) with
  | some n => if n < levelNames.length then some n else none
  | none =>
      if cs.isEmpty then some 1
      else levelNames.findIdx? fun name => sameLetters name.toList cs

/-- The level that everything passes. -/
def everything : Nat := 5

/-- The level of a severity. -/
def Severity.level : Severity → Nat
  | error => 1
  | warn => 2
  | info => 3
  | debug => 4

/-! ## Directives -/

/-- A directive: the level it allows, the start of the target names it is for, whether it asks for a
span by name, and the fields it asks for, each with the fact whether a value is asked for too. -/
structure Directive where
  level : Nat
  target : Option String
  span : Option String
  fields : List (String × Bool)
deriving DecidableEq, Repr

namespace Directive

/-- Where a reader of a directive stands. -/
inductive Stage where
  | start
  | levelOrTarget
  | span
  | field
  | fields
  | target
  | level
deriving DecidableEq, Repr

/-- A reader of a directive: its stage, the text since the last sign, and what it has read. -/
structure Reader where
  stage : Stage
  since : List Char
  read : Directive

/-- The directive that allows everything. -/
def all : Directive := ⟨everything, none, none, []⟩

/-- A directive may start with a letter, a number or a few signs. -/
def mayStart (c : Char) : Bool := ['-', ':', '_'].contains c || Unicode.isAlphanumeric c

/-- A field, with a value behind an equals sign or without one. -/
def addField (d : Directive) (cs : List Char) : Option Directive :=
  if cs.isEmpty then none
  else
    let name := cs.takeWhile (· != '=')
    some { d with fields := d.fields ++ [(String.ofList name, decide (name.length < cs.length))] }

/-- One more character. -/
def Reader.step (r : Reader) (c : Char) : Option Reader :=
  let since := r.since ++ [c]
  match r.stage with
  | .start =>
      if c = '[' then some ⟨.span, [], r.read⟩
      else if mayStart c then some ⟨.levelOrTarget, [c], r.read⟩
      else none
  | .levelOrTarget =>
      if c = '=' then some ⟨.level, [], { r.read with target := some (String.ofList r.since) }⟩
      else if c = '[' then some ⟨.span, [], { r.read with target := some (String.ofList r.since) }⟩
      else some { r with since := since }
  | .span =>
      if c = ']' then some ⟨.target, [], { r.read with span := some (String.ofList r.since) }⟩
      else if c = '\x7b' then
        some ⟨.field, [],
          { r.read with span := if r.since.isEmpty then none else some (String.ofList r.since) }⟩
      else some { r with since := since }
  | .field =>
      if c = '\x7d' then (addField r.read r.since).map fun d => ⟨.fields, [], d⟩
      else if c = ',' then (addField r.read r.since).map fun d => ⟨.field, [], d⟩
      else some { r with since := since }
  | .fields => if c = ']' then some ⟨.target, [], r.read⟩ else none
  | .target => if c = '=' then some ⟨.level, [], r.read⟩ else none
  | .level => some { r with since := since }

/-- The directive at the end of its text. A word alone is a level, or else a target for which
everything is allowed. -/
def Reader.finish (r : Reader) : Option Directive :=
  match r.stage with
  | .levelOrTarget =>
      match level? r.since with
      | some level => some { r.read with level := level }
      | none => some { r.read with target := some (String.ofList r.since) }
  | .level =>
      if r.since.isEmpty then some r.read
      else (level? r.since).map fun level => { r.read with level := level }
  | .target => some r.read
  | _ => none

/-- Read a directive. -/
def read (cs : List Char) : Option Directive :=
  (((trim cs).foldlM Reader.step ⟨.start, [], all⟩) : Option Reader).bind Reader.finish

/-- The directive asks for a span or for values, which no event of its own has. -/
def isDynamic (d : Directive) : Bool := d.span.isSome || d.fields.any (·.2)

/-- The directive applies to an event of a target with the given fields. -/
def applies (d : Directive) (target : String) (fields : List String) : Bool :=
  (match d.target with
    | some start => start.toList.isPrefixOf target.toList
    | none => true) &&
    d.fields.all fun f => fields.contains f.1

/-- How specific a directive is: the length of its target, then the number of its fields. -/
def weight (d : Directive) : Nat × Nat :=
  (match d.target with
    | some start => start.utf8ByteSize + 1
    | none => 0,
    d.fields.length)

/-- One directive is at least as specific as another. -/
def atLeastAsSpecific (a b : Directive) : Bool :=
  b.weight.1 < a.weight.1 || (a.weight.1 == b.weight.1 && b.weight.2 ≤ a.weight.2)

end Directive

/-! ## Filters -/

/-- A filter by directives. -/
structure LogFilter where
  directives : List Directive
deriving DecidableEq, Repr

namespace LogFilter

/-- The filter where none is stated: every target down to `info`. -/
def standard : LogFilter := ⟨[⟨3, none, none, []⟩]⟩

/-- Read a filter; one malformed directive spoils it. -/
def read (text : String) : Option LogFilter :=
  (((pieces ',' text.toList).filter (!·.isEmpty)).mapM Directive.read).map LogFilter.mk

/-- The filter that a setting states, the standard one if it states none. -/
def ofSetting (setting : Option String) : LogFilter := (setting.bind read).getD standard

/-- The most specific of some directives; of two that are equally specific the later one. -/
def mostSpecific (ds : List Directive) : Option Directive :=
  ds.foldl (fun best d =>
    match best with
    | some b => if d.atLeastAsSpecific b then some d else some b
    | none => some d) none

/-- An event of a target, with the given fields, is logged. -/
def allows (f : LogFilter) (target : String) (severity : Severity) (fields : List String) : Bool :=
  match mostSpecific (f.directives.filter fun d => !d.isDynamic && d.applies target fields) with
  | some d => severity.level ≤ d.level
  | none => false

end LogFilter

end TenantGate

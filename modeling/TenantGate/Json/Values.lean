import TenantGate.Json.Strings

/-!
# JSON values that are passed over

A reader that knows which values it wants passes over the others (`skipValue`), and where a value is
of the wrong type it reads just far enough to tell JSON for something else from no JSON at all
(`mismatch`).
-/

set_option autoImplicit false

namespace TenantGate.Json

/-- The blanks between the tokens of JSON. -/
def isSpace (c : Char) : Bool := c == ' ' || c == '\n' || c == '\t' || c == '\r'

/-- The text without leading blanks. -/
def skipSpaces (cs : List Char) : List Char := cs.dropWhile isSpace

/-- Read the characters of a word. -/
def readWord : List Char → List Char → Except Fault (List Char)
  | [], cs => .ok cs
  | _ :: _, [] => .error .ended
  | w :: ws, c :: cs => if c = w then readWord ws cs else .error .malformed

/-! ## Numbers -/

/-- The digits at the start of a text, and the rest. -/
def readDigits (cs : List Char) : List Char × List Char :=
  (cs.takeWhile Char.isDigit, cs.dropWhile Char.isDigit)

/-- The digits before the point: a zero alone, or digits that do not start with one. `atEnd` is the
fault of a text that ends here. -/
def readWhole (atEnd : Fault) (cs : List Char) : Except Fault (List Char × List Char) :=
  match cs with
  | [] => .error atEnd
  | '0' :: rest =>
      match rest with
      | d :: _ => if d.isDigit then .error .malformed else .ok (['0'], rest)
      | [] => .ok (['0'], rest)
  | _ =>
      let (digits, rest) := readDigits cs
      if digits.isEmpty then .error .malformed else .ok (digits, rest)

/-- At least one digit. -/
def readSomeDigits (atEnd : Fault) (cs : List Char) : Except Fault (List Char × List Char) :=
  match cs with
  | [] => .error atEnd
  | _ =>
      let (digits, rest) := readDigits cs
      if digits.isEmpty then .error .malformed else .ok (digits, rest)

/-- The digits behind the point, if there is one. -/
def readFraction (atEnd : Fault) : List Char → Except Fault (List Char × List Char)
  | '.' :: cs => readSomeDigits atEnd cs
  | cs => .ok ([], cs)

/-- The exponent, if there is one. -/
def readExponent (atEnd : Fault) (cs : List Char) : Except Fault (Int × List Char) :=
  match cs with
  | c :: cs' =>
      if c = 'e' ∨ c = 'E' then
        let negative := cs'.head? == some '-'
        let digits := if negative || cs'.head? == some '+' then cs'.drop 1 else cs'
        (readSomeDigits atEnd digits).map fun p =>
          let n : Int := (p.1.foldl (fun n c => 10 * n + (c.toNat - '0'.toNat)) 0 : Nat)
          (if negative then -n else n, p.2)
      else .ok (0, cs)
  | [] => .ok (0, [])

/-- The decimal number `digits · 10 ^ exponent` rounds to a finite number of 64 bits. -/
def isFinite (digits : List Char) (exponent : Int) : Bool :=
  let n := digits.foldl (fun n c => 10 * n + (c.toNat - '0'.toNat)) 0
  let places : Int := (Nat.toDigits 10 n).length
  let bound := Nat.pow 2 1024 - Nat.pow 2 970
  if n = 0 || exponent + places < 300 then true
  else if 320 < exponent + places then false
  else if 0 ≤ exponent then decide (n * Nat.pow 10 exponent.toNat < bound)
  else decide (n < bound * Nat.pow 10 (-exponent).toNat)

/-- Read a number behind its sign. The rest is given with the fact whether the number is finite. -/
def readNumber (atEnd : Fault) (cs : List Char) : Except Fault (Bool × List Char) := do
  let (whole, cs) ← readWhole atEnd cs
  let (fraction, cs) ← readFraction atEnd cs
  let (exponent, cs) ← readExponent atEnd cs
  .ok (isFinite (whole ++ fraction) (exponent - fraction.length), cs)

/-! ## Passing over a value -/

/-- What a reader of nested values expects next, and what it stands in. -/
inductive Expect where
  | value
  | memberOrEnd
  | member
  | elementOrEnd
  | commaOrEnd
deriving DecidableEq, Repr

/-- The bracket that a reader stands in. -/
inductive Frame where
  | array
  | object
deriving DecidableEq, Repr

/-- The key and the colon of a member. -/
def skipKey (cs : List Char) : Except Fault (List Char) :=
  match cs with
  | [] => .error .ended
  | '"' :: cs => do
      let cs ← skipString cs
      match skipSpaces cs with
      | [] => .error .ended
      | ':' :: cs => .ok cs
      | _ => .error .malformed
  | _ => .error .malformed

/-- A value that is no array and no object. -/
def skipScalar (cs : List Char) : Except Fault (List Char) :=
  match cs with
  | [] => .error .ended
  | 'n' :: cs => readWord ['u', 'l', 'l'] cs
  | 't' :: cs => readWord ['r', 'u', 'e'] cs
  | 'f' :: cs => readWord ['a', 'l', 's', 'e'] cs
  | '"' :: cs => skipString cs
  | '-' :: cs => (readNumber .malformed cs).map Prod.snd
  | c :: _ =>
      if c.isDigit then (readNumber .malformed cs).map Prod.snd else .error .malformed

/-- Pass over nested values, each step taking at least one character; `steps` bounds their
number. -/
def skipFrom : Nat → List Frame → Expect → List Char → Except Fault (List Char)
  | 0, _, _, _ => .error .malformed
  | steps + 1, frames, expect, cs =>
      let cs := skipSpaces cs
      let close (c : Char) (frame : Frame) : Bool :=
        (c == ']' && frame == .array) || (c == '}' && frame == .object)
      match expect, frames, cs with
      | .value, frames, '[' :: cs => skipFrom steps (.array :: frames) .elementOrEnd cs
      | .value, frames, '\x7b' :: cs => skipFrom steps (.object :: frames) .memberOrEnd cs
      | .value, [], cs => skipScalar cs
      | .value, frames, cs => do
          let cs ← skipScalar cs
          skipFrom steps frames .commaOrEnd cs
      | _, [], cs => .ok cs
      | _, _ :: _, [] => .error .ended
      | .commaOrEnd, frame :: frames, c :: cs =>
          if c = ',' then
            skipFrom steps (frame :: frames) (if frame = .object then .member else .value) cs
          else if close c frame then
            if frames.isEmpty then .ok cs else skipFrom steps frames .commaOrEnd cs
          else .error .malformed
      | .elementOrEnd, frame :: frames, c :: cs' =>
          if close c frame then
            if frames.isEmpty then .ok cs' else skipFrom steps frames .commaOrEnd cs'
          else skipFrom steps (frame :: frames) .value cs
      | .memberOrEnd, frame :: frames, c :: cs' =>
          if close c frame then
            if frames.isEmpty then .ok cs' else skipFrom steps frames .commaOrEnd cs'
          else do
            let cs ← skipKey cs
            skipFrom steps (frame :: frames) .value cs
      | .member, frame :: frames, cs => do
          let cs ← skipKey cs
          skipFrom steps (frame :: frames) .value cs

/-- Pass over one value. -/
def skipValue (cs : List Char) : Except Fault (List Char) :=
  skipFrom (2 * cs.length + 2) [] .value cs

/-! ## Values of another type -/

/-- The fault of a text that holds something else than the value asked for. -/
def mismatch (cs : List Char) : Fault :=
  let after (r : Except Fault (List Char)) : Fault :=
    match r with
    | .ok _ => .mismatched
    | .error f => f
  let number (cs : List Char) : Fault :=
    match readNumber .ended cs with
    | .ok (true, _) => .mismatched
    | .ok (false, _) => .malformed
    | .error f => f
  match cs with
  | [] => .ended
  | 'n' :: cs => after (readWord ['u', 'l', 'l'] cs)
  | 't' :: cs => after (readWord ['r', 'u', 'e'] cs)
  | 'f' :: cs => after (readWord ['a', 'l', 's', 'e'] cs)
  | '"' :: cs => after ((readString cs).map Prod.snd)
  | '[' :: _ => .mismatched
  | '\x7b' :: _ => .mismatched
  | '-' :: cs => number cs
  | c :: _ => if c.isDigit then number cs else .malformed

/-- Read a text value. -/
def readText (cs : List Char) : Except Fault (String × List Char) :=
  match skipSpaces cs with
  | '"' :: cs => readString cs
  | cs => .error (mismatch cs)

/-- Read a text value or `null`. -/
def readTextOrNull (cs : List Char) : Except Fault (Option String × List Char) :=
  match skipSpaces cs with
  | 'n' :: cs => (readWord ['u', 'l', 'l'] cs).map fun rest => (none, rest)
  | cs => (readText cs).map fun p => (some p.1, p.2)

end TenantGate.Json

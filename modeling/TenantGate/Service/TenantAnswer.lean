import TenantGate.Json.Values

/-!
# The answer that states a tenant context

The three facts of a context as a JSON object with fixed members. `TenantAnswer.write` writes it
compactly; `TenantAnswer.read` reads an object with its members in any order and others between
them, or an array of the three values.
-/

set_option autoImplicit false

namespace TenantGate

open TenantGate.Json

/-- A tenant context as it is stated to a client; the base URI is unset where neither the request
nor the settings give one. -/
structure TenantAnswer where
  tenantId : String
  systemBaseUri : Option String
  initiatorSystemBaseUri : String
deriving DecidableEq, Repr

namespace TenantAnswer

/-- The names of the members. -/
inductive Member where
  | tenantId
  | systemBaseUri
  | initiatorSystemBaseUri
deriving DecidableEq, Repr

/-- A member as it is named in an object. -/
def Member.key : Member → String
  | tenantId => "tenant_id"
  | systemBaseUri => "system_base_uri"
  | initiatorSystemBaseUri => "initiator_system_base_uri"

/-- The member with a name. -/
def Member.ofKey? (key : String) : Option Member :=
  [tenantId, systemBaseUri, initiatorSystemBaseUri].find? fun m => m.key == key

/-! ## Writing -/

/-- A member with its value. -/
def writeMember (m : Member) (value : List Char) : List Char := writeString m.key ++ ':' :: value

/-- A text or `null`. -/
def writeOptional : Option String → List Char
  | some s => writeString s
  | none => ['n', 'u', 'l', 'l']

/-- The compact JSON text. -/
def write (a : TenantAnswer) : String :=
  String.ofList (
    '\x7b' :: writeMember .tenantId (writeString a.tenantId) ++
      ',' :: writeMember .systemBaseUri (writeOptional a.systemBaseUri) ++
      ',' :: writeMember .initiatorSystemBaseUri (writeString a.initiatorSystemBaseUri) ++ ['\x7d'])

/-! ## Reading -/

/-- The members read so far. -/
structure Partial where
  tenantId : Option String
  systemBaseUri : Option (Option String)
  initiatorSystemBaseUri : Option String

namespace Partial

/-- No member is read yet. -/
def empty : Partial := ⟨none, none, none⟩

/-- The member is read already. -/
def has (p : Partial) : Member → Bool
  | .tenantId => p.tenantId.isSome
  | .systemBaseUri => p.systemBaseUri.isSome
  | .initiatorSystemBaseUri => p.initiatorSystemBaseUri.isSome

/-- Read the value of a member. -/
def readInto (p : Partial) (m : Member) (cs : List Char) :
    Except Fault (Partial × List Char) :=
  match m with
  | .tenantId => (readText cs).map fun r => ({ p with tenantId := some r.1 }, r.2)
  | .systemBaseUri => (readTextOrNull cs).map fun r => ({ p with systemBaseUri := some r.1 }, r.2)
  | .initiatorSystemBaseUri =>
      (readText cs).map fun r => ({ p with initiatorSystemBaseUri := some r.1 }, r.2)

/-- All members are there; only the base URI of the system may be missing. -/
def complete (p : Partial) : Except Fault TenantAnswer :=
  match p.tenantId, p.initiatorSystemBaseUri with
  | some t, some i => .ok ⟨t, p.systemBaseUri.getD none, i⟩
  | _, _ => .error .mismatched

end Partial

/-- The key of the next member, or the rest in front of the closing brace. -/
def nextKey (first : Bool) (cs : List Char) :
    Except Fault (Sum (String × List Char) (List Char)) :=
  let key (cs : List Char) : Except Fault (Sum (String × List Char) (List Char)) :=
    match cs with
    | '"' :: cs => (readString cs).map Sum.inl
    | _ => .error .malformed
  match skipSpaces cs with
  | [] => .error .ended
  | '\x7d' :: cs => .ok (.inr ('\x7d' :: cs))
  | ',' :: cs =>
      if first then .error .malformed
      else
        match skipSpaces cs with
        | [] => .error .ended
        | cs => key cs
  | cs => if first then key cs else .error .malformed

/-- The text behind a colon. -/
def readColon (cs : List Char) : Except Fault (List Char) :=
  match skipSpaces cs with
  | [] => .error .ended
  | ':' :: cs => .ok cs
  | _ => .error .malformed

/-- Read members up to the closing brace; `steps` bounds their number. A member may come once. -/
def readMembers : Nat → Bool → Partial → List Char → Except Fault (Partial × List Char)
  | 0, _, _, _ => .error .malformed
  | steps + 1, first, p, cs => do
      match ← nextKey first cs with
      | .inr rest => .ok (p, rest)
      | .inl (key, cs) =>
          match Member.ofKey? key with
          | some m =>
              if p.has m then .error .mismatched
              else
                let cs ← readColon cs
                let (p, cs) ← p.readInto m cs
                readMembers steps false p cs
          | none =>
              let cs ← readColon cs
              let cs ← skipValue cs
              readMembers steps false p cs

/-- Read the object behind its opening brace. -/
def readObject (cs : List Char) : Except Fault (TenantAnswer × List Char) := do
  let (p, cs) ← readMembers (cs.length + 1) true Partial.empty cs
  let answer ← p.complete
  .ok (answer, cs.drop 1)

/-- The text in front of the next element; an array that ends before it is of another type. -/
def nextElement (first : Bool) (cs : List Char) : Except Fault (List Char) :=
  match skipSpaces cs with
  | [] => .error .ended
  | ']' :: _ => .error .mismatched
  | ',' :: rest =>
      if first then .ok (',' :: rest)
      else
        match skipSpaces rest with
        | [] => .error .ended
        | ']' :: _ => .error .malformed
        | rest => .ok rest
  | cs => if first then .ok cs else .error .malformed

/-- Read the array behind its opening bracket. -/
def readArray (cs : List Char) : Except Fault (TenantAnswer × List Char) := do
  let cs ← nextElement true cs
  let (tenantId, cs) ← readText cs
  let cs ← nextElement false cs
  let (systemBaseUri, cs) ← readTextOrNull cs
  let cs ← nextElement false cs
  let (initiatorSystemBaseUri, cs) ← readText cs
  match skipSpaces cs with
  | [] => .error .ended
  | ']' :: cs => .ok (⟨tenantId, systemBaseUri, initiatorSystemBaseUri⟩, cs)
  | _ => .error .malformed

/-- Read an answer; nothing but blanks may follow it. -/
def read (text : String) : Except Fault TenantAnswer := do
  let (answer, rest) ← match skipSpaces text.toList with
    | '\x7b' :: cs => readObject cs
    | '[' :: cs => readArray cs
    | cs => .error (mismatch cs)
  if (skipSpaces rest).isEmpty then .ok answer else .error .malformed

end TenantAnswer

end TenantGate

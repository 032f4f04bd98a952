import TenantGate.Http.Fields
import TenantGate.Http.Target
import TenantGate.Text.Utf8Fault

/-!
# Requests and responses

`RequestHead` is what is known of a request before its body is read: method, target and fields.
`RequestHead.read` builds one from received parts and reports the first fault in this order. A body
arrives in chunks of octets, which may be cut within a character, and may be under a limit:
`Body.read` takes chunk after chunk and stops beyond the limit, and `Body.readText` reads the whole
body as text.
-/

set_option autoImplicit false

namespace TenantGate.Http

open TenantGate.Text

/-! ## Heads -/

/-- A request without its body. -/
structure RequestHead where
  method : String
  target : Target
  fields : Fields
deriving DecidableEq, Repr

/-- Why received parts make no request. -/
inductive RequestFault where
  | method
  | target (fault : TargetFault)
  | field (fault : FieldFault)
deriving DecidableEq, Repr

/-- The wording of a fault. -/
def RequestFault.message : RequestFault → String
  | method => "invalid HTTP method"
  | target fault => fault.message
  | field fault => fault.message

/-- A method is a token. -/
def isMethod (method : String) : Bool :=
  let bs := octets method
  !bs.isEmpty && bs.all isTokenOctet

/-- Build a request head from received parts. -/
def RequestHead.read (method target : String) (fields : List (List UInt8 × List UInt8)) :
    Except RequestFault RequestHead := do
  if !isMethod method then .error .method
  let target ← (Target.read target).mapError .target
  let fields ← (Fields.receiveAll fields).mapError .field
  .ok ⟨method, target, fields⟩

/-! ## Bodies -/

/-- A request body as it arrives, and the largest size that a reader may take from it. -/
structure Body where
  chunks : List (List UInt8)
  limit : Option Nat
deriving DecidableEq, Repr

/-- A reader met more than the limit, or octets that are no text. -/
inductive BodyFault where
  | tooLarge
  | notText (fault : Utf8Fault)
deriving DecidableEq, Repr

namespace Body

/-- The same body under one more limit; the smaller limit counts. -/
def limited (b : Body) (limit : Nat) : Body :=
  { b with limit := some (match b.limit with | some l => min l limit | none => limit) }

/-- Read chunks while `left` octets are allowed. -/
def readWithin : Nat → List (List UInt8) → Except BodyFault (List UInt8)
  | _, [] => .ok []
  | left, c :: cs =>
      if left < c.length then .error .tooLarge
      else (readWithin (left - c.length) cs).map (c ++ ·)

/-- The whole body, unless it is larger than its limit. -/
def read (b : Body) : Except BodyFault (List UInt8) :=
  match b.limit with
  | some limit => readWithin limit b.chunks
  | none => .ok b.chunks.flatten

/-- The whole body as text. -/
def readText (b : Body) : Except BodyFault String := do
  let bs ← b.read
  match ofOctets? bs with
  | some text => .ok text
  | none => .error (.notText (.of bs))

end Body

/-! ## Requests and responses -/

/-- A request. -/
structure Request extends RequestHead where
  body : Body
deriving DecidableEq, Repr

/-- A response; bodies are text. -/
structure Response where
  status : Nat
  fields : Fields
  body : String
deriving DecidableEq, Repr

namespace Response

/-- A response with a status and nothing else. -/
def bare (status : Nat) : Response := ⟨status, Fields.empty, ""⟩

/-- A response with a body of a stated media type. -/
def typed (status : Nat) (mediaType body : String) : Response :=
  ⟨status, Fields.empty.add "content-type" (octets mediaType), body⟩

/-- A plain text. -/
def text (status : Nat) (body : String) : Response :=
  typed status "text/plain; charset=utf-8" body

/-- A JSON text. -/
def json (status : Nat) (body : String) : Response := typed status "application/json" body

end Response

end TenantGate.Http

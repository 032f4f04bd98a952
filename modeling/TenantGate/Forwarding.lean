import TenantGate.Text.Blank
import TenantGate.Text.Letters

/-!
# The host named by the forwarding headers

A gateway states the host that the client asked for in `Forwarded` (directives `name=value`,
separated by `,` or `;` outside quoted strings) or in `X-Forwarded-Host` (a comma-separated list).
`Scan` is the quote state of a reader of `Forwarded`; `split` cuts a header at the separators that
the scan reaches outside quotes and keeps them, so that `Split.join` rebuilds the header
(`join_split`). `forwardedHost?` reads the first `host` directive, `listedHost?` the first entry of
the list, and `choose` prefers the former.
-/

set_option autoImplicit false

namespace TenantGate.Forwarding

open TenantGate.Text

/-! ## The quote state of a scan -/

/-- Where a scan stands: outside quotes, inside a quoted string, or behind a backslash there. -/
inductive Scan where
  | plain
  | quoted
  | escaped
deriving DecidableEq, Repr

namespace Scan

/-- A double quote opens and closes a quoted string; a backslash inside one shields the next
character. -/
def next : Scan → Char → Scan
  | escaped, _ => quoted
  | quoted, c => if c = '\\' then escaped else if c = '"' then plain else quoted
  | plain, c => if c = '"' then quoted else plain

/-- The state behind a text. -/
def run (st : Scan) (cs : List Char) : Scan := cs.foldl next st

/-- Separators count outside quoted strings only. -/
def cuts (st : Scan) (c : Char) : Bool := st == plain && (c == ',' || c == ';')

end Scan

/-! ## Directives -/

/-- A header cut into its directives: the first one, and each later one behind its separator. -/
structure Split where
  first : List Char
  later : List (Char × List Char)

namespace Split

/-- The directives without their separators. -/
def parts (s : Split) : List (List Char) := s.first :: s.later.map Prod.snd

/-- The header that was cut. -/
def join (s : Split) : List Char := s.first ++ s.later.flatMap fun p => p.1 :: p.2

/-- The same split with one more character in front of the first directive. -/
def push (c : Char) (s : Split) : Split := ⟨c :: s.first, s.later⟩

/-- The same split behind an empty directive and a separator. -/
def cut (c : Char) (s : Split) : Split := ⟨[], (c, s.first) :: s.later⟩

@[simp] theorem join_push (c : Char) (s : Split) : (s.push c).join = c :: s.join := rfl

@[simp] theorem join_cut (c : Char) (s : Split) : (s.cut c).join = c :: s.join := by
  simp [join, cut]

end Split

/-- Cut a text that is reached in the given state. -/
def splitFrom : Scan → List Char → Split
  | _, [] => ⟨[], []⟩
  | st, c :: cs =>
      if st.cuts c then (splitFrom .plain cs).cut c else (splitFrom (st.next c) cs).push c

/-- Cut a header at its separators. -/
def split (cs : List Char) : Split := splitFrom .plain cs

/-- Cutting loses nothing. -/
theorem join_splitFrom (st : Scan) (cs : List Char) : (splitFrom st cs).join = cs := by
  induction cs generalizing st with
  | nil => rfl
  | cons c cs ih =>
    unfold splitFrom
    split
    · rw [Split.join_cut, ih]
    · rw [Split.join_push, ih]

theorem join_split (cs : List Char) : (split cs).join = cs := join_splitFrom .plain cs

/-! ## Hosts -/

/-- Name and value of a directive: the texts before and after its first `=`. -/
def nameValue? : List Char → Option (List Char × List Char)
  | [] => none
  | c :: cs => if c = '=' then some ([], cs) else (nameValue? cs).map fun p => (c :: p.1, p.2)

/-- A directive name that means the host. -/
def isHostName (name : List Char) : Bool := sameLetters (trim name) ['h', 'o', 's', 't']

/-- The value between its quotes. Without an opening quote there are none, and a missing closing
quote is tolerated. -/
def unquote : List Char → List Char
  | [] => []
  | c :: cs =>
      if c = '"' then (if cs.getLast? = some '"' then cs.dropLast else cs) else c :: cs

/-- A text that is not empty. -/
def nonEmpty? (cs : List Char) : Option (List Char) := if cs.isEmpty then none else some cs

/-- The host that a list of directives names: the value of the first one called `host`. -/
def hostOf? (directives : List (List Char)) : Option (List Char) :=
  ((directives.filterMap nameValue?).find? fun p => isHostName p.1).bind
    fun p => nonEmpty? (unquote (trim p.2))

/-- The host named by a `Forwarded` header. -/
def forwardedHost? (cs : List Char) : Option (List Char) := hostOf? (split cs).parts

/-- The host named by an `X-Forwarded-Host` header: its first entry. -/
def listedHost? (cs : List Char) : Option (List Char) :=
  nonEmpty? (trim (cs.takeWhile (· != ',')))

/-! ## The choice between the two headers -/

/-- The header that supplied a host. -/
inductive Source where
  | forwarded
  | xForwardedHost
deriving DecidableEq, Repr

/-- The name of a source in reports. -/
def Source.name : Source → String
  | forwarded => "Forwarded"
  | xForwardedHost => "XForwardedHost"

/-- A host together with the header that supplied it; `raw` is the whole header value, which is
what the gateway signs. -/
structure Found where
  source : Source
  host : String
  raw : String
deriving DecidableEq, Repr

/-- The scheme put before a forwarded host. -/
def initiatorScheme : String := "https://"

/-- The base URI at which the initiator reached the gateway. -/
def Found.initiatorUri (f : Found) : String := initiatorScheme ++ f.host

/-- A host read from one header. -/
def foundIn? (source : Source) (read : List Char → Option (List Char)) (raw : String) :
    Option Found :=
  (read raw.toList).map fun host => ⟨source, String.ofList host, raw⟩

/-- The host of `Forwarded` if it names one, else that of `X-Forwarded-Host`. -/
def choose (forwarded xForwardedHost : Option String) : Option Found :=
  (forwarded.bind (foundIn? .forwarded forwardedHost?)).or
    (xForwardedHost.bind (foundIn? .xForwardedHost listedHost?))

end TenantGate.Forwarding

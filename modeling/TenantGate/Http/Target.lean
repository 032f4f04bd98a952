import TenantGate.Text.Letters

/-!
# Request targets

A target is a path with an optional query, `*`, an authority alone, or an absolute URI. `Target.read`
takes it apart and names the fault of a text that is none of these; `Target.shown` writes it without
its fragment, and `Target.routePath` is what routes are matched against.
-/

set_option autoImplicit false

namespace TenantGate.Http

open TenantGate.Text

/-- Why a text is not a target. -/
inductive TargetFault where
  | empty
  | tooLong
  | schemeTooLong
  | character
  | authority
  | format
deriving DecidableEq, Repr

/-- The wording of a fault. -/
def TargetFault.message : TargetFault → String
  | empty => "empty string"
  | tooLong => "uri too long"
  | schemeTooLong => "scheme too long"
  | character => "invalid uri character"
  | authority => "invalid authority"
  | format => "invalid format"

/-- A request target without its fragment. The path may be empty behind a scheme, and it is empty
where the target is an authority alone. -/
structure Target where
  scheme : Option String
  authority : Option String
  path : String
  query : Option String
deriving DecidableEq, Repr

namespace Target

/-- The longest target, in octets. -/
def longest : Nat := 65534

/-- The longest scheme. -/
def longestScheme : Nat := 64

/-- The most colons that an authority may have in one place; eight stand in a full IPv6 address
with a port. -/
def mostColons : Nat := 8

/-- A letter or digit of ASCII. -/
def isAlphanumeric (c : Char) : Bool := c.isAlpha || c.isDigit

/-- The characters of a scheme, a tilde included. -/
def isSchemeChar (c : Char) : Bool := isAlphanumeric c || ['+', '-', '.', '~'].contains c

/-- The characters of a URI apart from the percent sign: the unreserved and the reserved ones. -/
def isUriChar (c : Char) : Bool :=
  isAlphanumeric c ||
    ['-', '.', '_', '~', ':', '/', '?', '#', '[', ']', '@', '!', '$', '&', '\'', '(', ')', '*', '+',
      ',', ';', '='].contains c

/-- The characters of a path. Some that should be percent-encoded are let through. -/
def isPathChar (c : Char) : Bool :=
  let n := c.toNat
  n == 0x21 || n == 0x22 || (0x24 ≤ n && n ≤ 0x3B) || n == 0x3D || (0x40 ≤ n && n ≤ 0x5F) ||
    (0x61 ≤ n && n ≤ 0x7E) || 0x7F ≤ n

/-- The characters of a query. -/
def isQueryChar (c : Char) : Bool :=
  let n := c.toNat
  n == 0x21 || (0x24 ≤ n && n ≤ 0x3B) || n == 0x3D || 0x3F ≤ n

/-! ## Path and query -/

/-- Take path and query apart; a fragment behind either is dropped. -/
def readPath (cs : List Char) : Except TargetFault (String × Option String) :=
  let path := cs.takeWhile fun c => c != '?' && c != '#'
  let rest := cs.dropWhile fun c => c != '?' && c != '#'
  if !path.all isPathChar then .error .character
  else
    match rest with
    | '?' :: cs =>
        let query := cs.takeWhile (· != '#')
        if query.all isQueryChar then .ok (String.ofList path, some (String.ofList query))
        else .error .character
    | _ => .ok (String.ofList path, none)

/-! ## Scheme -/

/-- The scheme in front of `://` and the text behind. The two web schemes are read in any letter
case and kept in lower case; others are kept as they are. -/
def readScheme (cs : List Char) : Except TargetFault (Option String × List Char) :=
  let behind (n : Nat) := cs.drop (n + 3)
  let begins (scheme : String) := sameLetters (cs.take (scheme.length + 3)) (scheme ++ "://").toList
  if begins "http" then .ok (some "http", behind 4)
  else if begins "https" then .ok (some "https", behind 5)
  else
    let scheme := cs.takeWhile isSchemeChar
    match cs.drop scheme.length with
    | ':' :: '/' :: '/' :: rest =>
        if longestScheme < scheme.length then .error .schemeTooLong
        else .ok (some (String.ofList scheme), rest)
    | _ => .ok (none, cs)

/-! ## Authority -/

/-- What a reader of an authority has met since the last sign that starts anew. -/
structure AuthorityState where
  colons : Nat
  opened : Bool
  closed : Bool
  percent : Bool
  afterAt : Bool

/-- One more character of an authority. An at sign and a closing bracket start the count of colons
and the watch for percent signs anew. -/
def AuthorityState.step (s : AuthorityState) (c : Char) : Except TargetFault AuthorityState :=
  if c = ':' then
    if mostColons ≤ s.colons then .error .authority
    else .ok { s with colons := s.colons + 1, afterAt := false }
  else if c = '[' then
    if s.percent || s.opened then .error .authority
    else .ok { s with opened := true, afterAt := false }
  else if c = ']' then
    if !s.opened || s.closed then .error .authority
    else .ok { s with closed := true, colons := 0, percent := false, afterAt := false }
  else if c = '@' then .ok { s with colons := 0, percent := false, afterAt := true }
  else if c = '%' then .ok { s with percent := true, afterAt := false }
  else if isUriChar c then .ok { s with afterAt := false }
  else .error .character

/-- An authority may end here: brackets are closed, at most one colon is open, no percent sign
stands in the host, and something follows an at sign. -/
def AuthorityState.mayEnd (s : AuthorityState) : Bool :=
  s.opened == s.closed && s.colons ≤ 1 && !s.afterAt && !s.percent

/-- The characters that end an authority. -/
def endsAuthority (c : Char) : Bool := c == '/' || c == '?' || c == '#'

/-- The authority at the start of a text and the text behind it. -/
def readAuthority (cs : List Char) : Except TargetFault (List Char × List Char) :=
  if cs.isEmpty then .error .empty
  else do
    let authority := cs.takeWhile (!endsAuthority ·)
    let last ← authority.foldlM AuthorityState.step ⟨0, false, false, false, false⟩
    if last.mayEnd then .ok (authority, cs.dropWhile (!endsAuthority ·)) else .error .authority

/-! ## Targets -/

/-- A target that is an authority alone. -/
def ofAuthority (authority : List Char) : Target := ⟨none, some (String.ofList authority), "", none⟩

/-- Take a target apart. -/
def read (text : String) : Except TargetFault Target :=
  let cs := text.toList
  if longest < text.utf8ByteSize then .error .tooLong
  else
    match cs with
    | [] => .error .empty
    | ['*'] => .ok ⟨none, none, "*", none⟩
    | '/' :: _ => do
        let (path, query) ← readPath cs
        .ok ⟨none, none, path, query⟩
    | _ => do
        let (scheme, rest) ← if cs.length ≤ 3 then .ok (none, cs) else readScheme cs
        let (authority, behind) ← readAuthority rest
        match scheme with
        | none =>
            if behind.isEmpty then .ok (ofAuthority authority)
            else if cs.length = 1 then .error .character
            else .error .format
        | some _ =>
            if authority.isEmpty then .error .format
            else
              let (path, query) ← readPath behind
              .ok ⟨scheme, some (String.ofList authority), path, query⟩

/-- The path that routes are matched against: `/` stands for an empty path of a URI, while an
authority alone has no path at all. -/
def routePath (t : Target) : String :=
  if t.path.isEmpty && t.scheme.isSome then "/" else t.path

/-- The target as text, its fragment dropped. -/
def shown (t : Target) : String :=
  (t.scheme.map (· ++ "://")).getD "" ++ t.authority.getD "" ++ t.routePath ++
    (t.query.map ("?" ++ ·)).getD ""

/-- The target seen behind a mount point: the mount point is cut from the path. -/
def dropMount (mount : String) (t : Target) : Target :=
  { t with path := String.ofList (t.path.toList.drop mount.length) }

end Target

end TenantGate.Http

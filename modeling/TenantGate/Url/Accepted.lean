import TenantGate.Idna.Domain
import TenantGate.Text.Octets
import TenantGate.Url.Address

/-!
# Acceptable URLs

`isAccepted` decides whether a text is an absolute URL for a lenient reader: controls and blanks
around it and line breaks inside it are ignored, backslashes count as slashes in the web schemes,
and paths, queries and fragments take any text. What can be wrong is the scheme, the host and the
port. Web schemes need a host that is a domain name or an address; other schemes may have a host,
which is then opaque.
-/

set_option autoImplicit false

namespace TenantGate.Url

open TenantGate.Text TenantGate.Unicode

/-! ## Schemes -/

/-- How a scheme treats its authority. -/
inductive SchemeKind where
  | web
  | file
  | other
deriving DecidableEq, Repr

/-- The schemes whose URLs have a host that is looked up. -/
def webSchemes : List String := ["http", "https", "ws", "wss", "ftp"]

/-- The kind of a scheme. -/
def SchemeKind.ofName (scheme : String) : SchemeKind :=
  if webSchemes.contains scheme then web else if scheme == "file" then file else other

/-- Scheme and rest of a text: a letter, then letters, digits and a few signs, then a colon. -/
def scheme? (cs : List Char) : Option (String × List Char) :=
  let name := cs.takeWhile fun c => c.isAlpha || c.isDigit || c == '+' || c == '-' || c == '.'
  match name, cs.drop name.length with
  | c :: _, ':' :: rest => if c.isAlpha then some (lowerName name, rest) else none
  | _, _ => none
where
  /-- The name in lower case. -/
  lowerName (name : List Char) : String := String.ofList (name.map Char.toLower)

/-! ## Hosts -/

/-- The octets that percent-encoded octets stand for; a percent sign without two digits behind it
stands for itself. -/
def percentDecode : List UInt8 → List UInt8
  | [] => []
  | [a] => [a]
  | [a, b] => [a, b]
  | a :: b :: c :: rest =>
      let digit (x : UInt8) := hexDigit? (Char.ofNat x.toNat)
      if a = 0x25 then
        match digit b, digit c with
        | some h, some l => UInt8.ofNat (16 * h + l) :: percentDecode rest
        | _, _ => a :: percentDecode (b :: c :: rest)
      else a :: percentDecode (b :: c :: rest)
termination_by bs => bs.length

/-- The host is a domain name or an IPv4 address. Only a last label within ASCII can be a number. -/
def isDomainHost (host : List Char) : Bool :=
  match ofOctets? (percentDecode (octets (String.ofList host))) with
  | none => false
  | some decoded =>
      match Idna.labels? decoded.toList with
      | none => false
      | some labels =>
          let domain := List.intercalate ['.'] labels
          !domain.isEmpty && (!endsInNumber domain || isIpv4 domain)

/-- The content of brackets around the whole text. -/
def bracketed? : List Char → Option (List Char)
  | '[' :: cs => if cs.getLast? = some ']' then some cs.dropLast else none
  | _ => none

/-- The characters that no opaque host holds. -/
def isOpaqueForbidden (c : Char) : Bool :=
  ['\x00', '\t', '\n', '\r', ' ', '#', '/', ':', '<', '>', '?', '@', '[', '\\', ']', '^',
    '|'].contains c

/-- A host in brackets is an IPv6 address; any other is held to a rule. -/
def isHost (rule : List Char → Bool) (host : List Char) : Bool :=
  match host with
  | '[' :: _ =>
      match bracketed? host with
      | some address => isIpv6 address
      | none => false
  | _ => rule host

/-! ## Authorities -/

/-- The characters that end an authority. -/
def endsAuthority (kind : SchemeKind) (c : Char) : Bool :=
  c == '/' || c == '?' || c == '#' || (c == '\\' && kind != .other)

/-- The text behind the last at sign, and the text before it if there is one. -/
def cutCredentials (authority : List Char) : Option (List Char) × List Char :=
  let behind := (authority.reverse.takeWhile (· != '@')).reverse
  if behind.length = authority.length then (none, authority)
  else (some (authority.take (authority.length - behind.length - 1)), behind)

/-- The length of a host: up to the first colon outside brackets. -/
def hostLength (inBrackets : Bool) : List Char → Nat
  | [] => 0
  | c :: cs =>
      if c = ':' && !inBrackets then 0
      else hostLength (c == '[' || (inBrackets && c != ']')) cs + 1

/-- A port is a number of 16 bits; none may be stated. -/
def isPort (cs : List Char) : Bool :=
  cs.all Char.isDigit &&
    match digitsValue? 10 cs with
    | some n => decide (n < 65536)
    | none => false

/-- Credentials leave something to write down: they are more than a colon. -/
def areStated (credentials : List Char) : Bool := !credentials.isEmpty && credentials != [':']

/-- Host and port, each in order. The authority of a scheme that is not of the web may be empty, but
not behind credentials or in front of a port. -/
def isAuthority (kind : SchemeKind) (authority rest : List Char) : Bool :=
  let (credentials, hostPort) := cutCredentials authority
  let host := hostPort.take (hostLength false hostPort)
  let port := hostPort.drop host.length
  let portFits := match port with
    | [] => true
    | _ :: digits => isPort (digits.takeWhile (· != '\\'))
  if host.isEmpty then
    kind == .other && port.isEmpty &&
      match credentials with
      | none => true
      | some [] => rest.isEmpty
      | some stated => !areStated stated
  else
    portFits && isHost (if kind == .other then (!·.any isOpaqueForbidden) else isDomainHost) host

/-! ## URLs -/

/-- A character that is ignored around a URL. -/
def isSurrounding (c : Char) : Bool := c.toNat ≤ 0x20

/-- A character that is ignored inside a URL. -/
def isLineBreak (c : Char) : Bool := c == '\t' || c == '\n' || c == '\r'

/-- The text that counts. -/
def relevant (cs : List Char) : List Char :=
  (((cs.dropWhile isSurrounding).reverse.dropWhile isSurrounding).reverse).filter (!isLineBreak ·)

/-- A slash or a backslash. -/
def isSlash (c : Char) : Bool := c == '/' || c == '\\'

/-- A drive letter with its colon or bar, which is a path and no host. -/
def isDrive : List Char → Bool
  | [c, d] => c.isAlpha && (d == ':' || d == '|')
  | _ => false

/-- The part behind the scheme of a file URL: after two slashes there may be a host. -/
def isFileRest : List Char → Bool
  | a :: b :: cs =>
      if isSlash a && isSlash b then
        let host := cs.takeWhile fun c => !endsAuthority .file c
        host.isEmpty || isDrive host || isHost isDomainHost host
      else true
  | _ => true

/-- The text is an absolute URL. -/
def isAccepted (text : String) : Bool :=
  match scheme? (relevant text.toList) with
  | none => false
  | some (scheme, rest) =>
      match SchemeKind.ofName scheme with
      | .file => isFileRest rest
      | .web =>
          let behind := rest.dropWhile isSlash
          let authority := behind.takeWhile (!endsAuthority .web ·)
          isAuthority .web authority (behind.drop authority.length)
      | .other =>
          match rest with
          | '/' :: '/' :: behind =>
              let authority := behind.takeWhile (!endsAuthority .other ·)
              isAuthority .other authority (behind.drop authority.length)
          | _ => true

end TenantGate.Url

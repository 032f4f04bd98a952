import TenantGate.Text.Pieces
import TenantGate.Unicode.Ranges

/-!
# Numeric hosts

A host whose last part is a number is an IPv4 address, with one to four parts in decimal, octal or
hexadecimal, the last of which fills all octets that are left. A host in brackets is an IPv6
address: eight pieces, of which one run of zeros may be left out and the last two may be written as
an IPv4 address. `isIpv4` and `isIpv6` say which texts are addresses.
-/

set_option autoImplicit false

namespace TenantGate.Url

open TenantGate.Text TenantGate.Unicode

/-! ## IPv4 -/

/-- The value of digits in a base, if all of them are digits of that base. -/
def digitsValue? (base : Nat) (cs : List Char) : Option Nat :=
  cs.foldlM (fun n c => (hexDigit? c).bind fun d => if d < base then some (base * n + d) else none) 0

/-- A part of an IPv4 address. A leading `0x` means base 16 and a leading zero base 8, and such a
mark alone is zero. -/
def ipv4Part? : List Char → Option Nat
  | [] => none
  | '0' :: 'x' :: cs => digitsValue? 16 cs
  | '0' :: 'X' :: cs => digitsValue? 16 cs
  | '0' :: c :: cs => digitsValue? 8 (c :: cs)
  | cs => digitsValue? 10 cs

/-- The parts of a host between its dots; one dot at the end is ignored. -/
def hostParts (host : List Char) : List (List Char) :=
  let parts := pieces '.' host
  if 1 < parts.length && parts.getLast? == some [] then parts.dropLast else parts

/-- The last part is a number, or looks like one for having digits only. -/
def endsInNumber (host : List Char) : Bool :=
  match (hostParts host).getLast? with
  | some part => (ipv4Part? part).isSome || (!part.isEmpty && part.all Char.isDigit)
  | none => false

/-- All parts but the last are octets, and the last fits into what they leave of 32 bits. -/
def ipv4Fits : List Nat → Bool
  | [] => false
  | parts =>
      let leading := parts.dropLast
      leading.all (· < 256) && parts.length ≤ 4 &&
        decide ((parts.getLast?.getD 0) < Nat.pow 256 (5 - parts.length))

/-- The host is an IPv4 address. -/
def isIpv4 (host : List Char) : Bool :=
  match (hostParts host).mapM ipv4Part? with
  | some parts => ipv4Fits parts
  | none => false

/-! ## IPv6 -/

/-- An octet in decimal without a leading zero. -/
def isOctet (cs : List Char) : Bool :=
  match cs with
  | [] => false
  | ['0'] => true
  | '0' :: _ => false
  | _ => cs.length ≤ 3 &&
      match digitsValue? 10 cs with
      | some n => decide (n < 256)
      | none => false

/-- Four octets with dots between them. -/
def isDottedQuad (cs : List Char) : Bool :=
  let parts := pieces '.' cs
  parts.length == 4 && parts.all isOctet

/-- A piece of an IPv6 address: up to four hexadecimal digits. -/
def isPiece (cs : List Char) : Bool :=
  1 ≤ cs.length && cs.length ≤ 4 && cs.all fun c => (hexDigit? c).isSome

/-- The number of pieces that colon-separated parts stand for. The last part may be a dotted quad,
which stands for two. -/
def pieceCount? : List (List Char) → Option Nat
  | [] => some 0
  | [last] => if isPiece last then some 1 else if isDottedQuad last then some 2 else none
  | p :: ps => if isPiece p then (pieceCount? ps).map (· + 1) else none

/-- Cut a text at its first double colon. -/
def cutAtGap : List Char → Option (List Char × List Char)
  | ':' :: ':' :: cs => some ([], cs)
  | c :: cs => (cutAtGap cs).map fun p => (c :: p.1, p.2)
  | [] => none

/-- Colon-separated parts; an empty text has none. -/
def colonParts (cs : List Char) : List (List Char) := if cs.isEmpty then [] else pieces ':' cs

/-- Whole pieces only, with nothing that stands for two. -/
def wholePieceCount? (ps : List (List Char)) : Option Nat :=
  if ps.all isPiece then some ps.length else none

/-- The text is an IPv6 address. A gap stands for at least one piece. -/
def isIpv6 (cs : List Char) : Bool :=
  match cutAtGap cs with
  | some (before, after) =>
      match wholePieceCount? (colonParts before), pieceCount? (colonParts after) with
      | some m, some n => m + n ≤ 7
      | _, _ => false
  | none => pieceCount? (colonParts cs) == some 8

end TenantGate.Url

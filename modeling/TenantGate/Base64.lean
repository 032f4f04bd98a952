/-!
# Base64 with required padding

The standard alphabet, four symbols for three octets, `=` padding required, and the unused bits of
the last symbol zero, so that each octet sequence has one text. `encode` writes it and `decode`
reads it; both work on octets, because the offsets in `DecodeError` count them.
-/

set_option autoImplicit false

namespace TenantGate.Base64

/-- Six bits. -/
abbrev Sextet := Fin 64

/-- The octet `=`. -/
def pad : UInt8 := 0x3D

/-- The symbol of a sextet. -/
def symbol (v : Sextet) : UInt8 :=
  if v.val < 26 then UInt8.ofNat (0x41 + v.val)
  else if v.val < 52 then UInt8.ofNat (0x61 + (v.val - 26))
  else if v.val < 62 then UInt8.ofNat (0x30 + (v.val - 52))
  else if v.val = 62 then 0x2B
  else 0x2F

/-- The sextet of a symbol. -/
def sextet? (b : UInt8) : Option Sextet :=
  let n := b.toNat
  if 0x41 ≤ n ∧ n ≤ 0x5A then some (Fin.ofNat 64 (n - 0x41))
  else if 0x61 ≤ n ∧ n ≤ 0x7A then some (Fin.ofNat 64 (n - 0x61 + 26))
  else if 0x30 ≤ n ∧ n ≤ 0x39 then some (Fin.ofNat 64 (n - 0x30 + 52))
  else if n = 0x2B then some 62
  else if n = 0x2F then some 63
  else none

/-! ## Writing -/

/-- The four sextets of three octets. -/
def sextets (a b c : UInt8) : Sextet × Sextet × Sextet × Sextet :=
  (Fin.ofNat 64 (a.toNat / 4), Fin.ofNat 64 (a.toNat % 4 * 16 + b.toNat / 16),
    Fin.ofNat 64 (b.toNat % 16 * 4 + c.toNat / 64), Fin.ofNat 64 (c.toNat % 64))

/-- The text of an octet sequence. -/
def encode : List UInt8 → List UInt8
  | [] => []
  | [a] =>
      let (s, t, _, _) := sextets a 0 0
      [symbol s, symbol t, pad, pad]
  | [a, b] =>
      let (s, t, u, _) := sextets a b 0
      [symbol s, symbol t, symbol u, pad]
  | a :: b :: c :: rest =>
      let (s, t, u, v) := sextets a b c
      symbol s :: symbol t :: symbol u :: symbol v :: encode rest

/-- The text of an octet sequence as a string; every symbol is an ASCII character. -/
def encodeText (bs : List UInt8) : String :=
  String.ofList ((encode bs).map fun b => Char.ofNat b.toNat)

/-! ## Reading -/

/-- Why a text is not the base64 of any octets; offsets count octets from its start. -/
inductive DecodeError where
  | invalidByte (offset : Nat) (byte : UInt8)
  | invalidLength (length : Nat)
  | invalidLastSymbol (offset : Nat) (byte : UInt8)
  | invalidPadding
deriving DecidableEq, Repr

/-- The wording of an error. -/
def DecodeError.message : DecodeError → String
  | invalidByte offset byte => s!"Invalid symbol {byte.toNat}, offset {offset}."
  | invalidLength length => s!"Invalid input length: {length}"
  | invalidLastSymbol offset byte => s!"Invalid last symbol {byte.toNat}, offset {offset}."
  | invalidPadding => "Invalid padding"

/-- The sextet of the octet at an offset. -/
def sextetAt (offset : Nat) (b : UInt8) : Except DecodeError Sextet :=
  match sextet? b with
  | some v => .ok v
  | none => .error (.invalidByte offset b)

/-- The first octet of a group. -/
def octet1 (s t : Sextet) : UInt8 := UInt8.ofNat (s.val * 4 + t.val / 16)

/-- The second octet of a group. -/
def octet2 (t u : Sextet) : UInt8 := UInt8.ofNat (t.val % 16 * 16 + u.val / 4)

/-- The third octet of a group. -/
def octet3 (u v : Sextet) : UInt8 := UInt8.ofNat (u.val % 4 * 64 + v.val)

/-- Read the last group, the only one that may be padded or short. A pad sign among the first two
symbols is a foreign symbol there, and so is one with a symbol behind it. -/
def decodeLast (offset : Nat) : List UInt8 → Except DecodeError (List UInt8)
  | [] => .ok []
  | [a] => do
      let _ ← sextetAt offset a
      .error (.invalidLength (offset + 1))
  | [a, b] => do
      let _ ← sextetAt offset a
      let _ ← sextetAt (offset + 1) b
      .error .invalidPadding
  | [a, b, c] => do
      let _ ← sextetAt offset a
      let _ ← sextetAt (offset + 1) b
      if c ≠ pad then
        let _ ← sextetAt (offset + 2) c
      .error .invalidPadding
  | a :: b :: c :: d :: _ => do
      let s ← sextetAt offset a
      let t ← sextetAt (offset + 1) b
      if c = pad then
        if d ≠ pad then .error (.invalidByte (offset + 2) pad)
        else if t.val % 16 ≠ 0 then .error (.invalidLastSymbol (offset + 1) b)
        else .ok [octet1 s t]
      else
        let u ← sextetAt (offset + 2) c
        if d = pad then
          if u.val % 4 ≠ 0 then .error (.invalidLastSymbol (offset + 2) c)
          else .ok [octet1 s t, octet2 t u]
        else
          let v ← sextetAt (offset + 3) d
          .ok [octet1 s t, octet2 t u, octet3 u v]

/-- Read the groups of a text of which `offset` octets are read already. -/
def decodeFrom (offset : Nat) : List UInt8 → Except DecodeError (List UInt8)
  | a :: b :: c :: d :: e :: rest => do
      let s ← sextetAt offset a
      let t ← sextetAt (offset + 1) b
      let u ← sextetAt (offset + 2) c
      let v ← sextetAt (offset + 3) d
      let more ← decodeFrom (offset + 4) (e :: rest)
      .ok (octet1 s t :: octet2 t u :: octet3 u v :: more)
  | last => decodeLast offset last

/-- A foreign octet that stands alone behind complete groups, such as a line end; it is reported
before anything else. -/
def strayLast? (bs : List UInt8) : Option DecodeError :=
  match bs.getLast? with
  | some b =>
      if bs.length % 4 = 1 ∧ b ≠ pad ∧ (sextet? b).isNone then
        some (.invalidByte (bs.length - 1) b)
      else none
  | none => none

/-- The octets that a text stands for. -/
def decode (bs : List UInt8) : Except DecodeError (List UInt8) :=
  match strayLast? bs with
  | some e => .error e
  | none => decodeFrom 0 bs

end TenantGate.Base64

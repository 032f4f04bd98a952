import TenantGate.Idna.Mapping
import TenantGate.Idna.Punycode
import TenantGate.Text.Pieces
import TenantGate.Unicode.BidiClass
import TenantGate.Unicode.JoiningType
import TenantGate.Unicode.Mark
import TenantGate.Unicode.Normalization

/-!
# Internationalized domain names

`labels?` reads a domain name: characters are mapped and composed, the name is cut into labels at
its dots, labels in ASCII form are decoded, and every label is checked for what may stand in it, in
which order joiners and writing directions may come, and whether it is in normal form. Empty labels
and hyphens anywhere are allowed. The answer is the labels in their Unicode form, in lower case.
-/

set_option autoImplicit false

namespace TenantGate.Idna

open TenantGate.Unicode TenantGate.Text

/-! ## Characters -/

/-- Characters of code points; none where one is a surrogate. -/
def chars? (ns : List Nat) : Option (List Char) := ns.mapM Punycode.char?

/-- The code points that stand for a character. -/
def mapped? (c : Char) : Option (List Nat) :=
  match fate c.toNat with
  | .keep => some [c.toNat]
  | .replace codes => some codes
  | .drop => some []
  | .refuse => none

/-- The ASCII characters that no domain name of a URL may hold. -/
def isForbidden (c : Char) : Bool :=
  c.toNat ≤ 0x20 || c.toNat == 0x7F ||
    ['%', '#', '/', ':', '<', '>', '?', '@', '[', '\\', ']', '^', '|'].contains c

/-- The character is in ASCII. -/
def isAscii (c : Char) : Bool := c.toNat < 0x80

/-! ## Joiners -/

/-- The zero-width non-joiner. -/
def nonJoiner : Char := '\u200C'

/-- The zero-width joiner. -/
def joiner : Char := '\u200D'

/-- The nearest character that is not transparent to joining has one of the types. -/
def joins (types : List JoiningType) : List Char → Bool
  | [] => false
  | c :: cs =>
      match joiningType c with
      | .transparent => joins types cs
      | t => types.contains t

/-- A joiner may stand behind a virama; a non-joiner also between letters that could join. `before`
holds the characters in front of the rest, last one first. -/
def joinersFit (before : List Char) : List Char → Bool
  | [] => true
  | c :: cs =>
      let afterVirama := match before with
        | b :: _ => combiningClass b.toNat == viramaClass
        | [] => false
      let fits :=
        if c = joiner then afterVirama
        else if c = nonJoiner then
          afterVirama || (joins [.left, .dual] before && joins [.right, .dual] cs)
        else true
      fits && joinersFit (c :: before) cs

/-! ## Writing directions -/

/-- The character makes a name one of mixed directions. -/
def isRightToLeft (c : Char) : Bool :=
  match bidiClass c with
  | .rightToLeft | .arabicLetter | .arabicNumber => true
  | _ => false

/-- The label without the nonspacing marks at its end. -/
def withoutTrailingMarks (label : List Char) : List Char :=
  (label.reverse.dropWhile fun c => bidiClass c == .nonspacingMark).reverse

/-- The classes that either direction allows inside a label. -/
def neutralClasses : List BidiClass :=
  [.europeanNumber, .europeanSeparator, .commonSeparator, .europeanTerminator, .otherNeutral,
    .boundaryNeutral, .nonspacingMark]

/-- A label of a name of mixed directions starts with a letter that fixes its direction, holds
nothing of the other direction, ends in a letter or number, and does not mix kinds of digits. -/
def directionFits (label : List Char) : Bool :=
  let classes := label.map bidiClass
  match classes, ((withoutTrailingMarks label).map bidiClass).getLast? with
  | [], _ => true
  | .leftToRight :: _, some last =>
      classes.all (fun k => k == .leftToRight || neutralClasses.contains k) &&
        (last == .leftToRight || last == .europeanNumber)
  | first :: _, some last =>
      (first == .rightToLeft || first == .arabicLetter) &&
        classes.all (fun k =>
          [.rightToLeft, .arabicLetter, .arabicNumber].contains k || neutralClasses.contains k) &&
        [.rightToLeft, .arabicLetter, .europeanNumber, .arabicNumber].contains last &&
        !(classes.contains .europeanNumber && classes.contains .arabicNumber)
  | _, none => false

/-! ## Labels -/

/-- What marks the ASCII form of a label. -/
def formMark : List Char := ['x', 'n', '-', '-']

/-- The longest ASCII form that is decoded, without its mark. -/
def longestForm : Nat := 2000

/-- The longest label beyond ASCII. -/
def longestLabel : Nat := 1000

/-- A label in Unicode form: it does not start with a mark, its joiners fit, and no character is
forbidden. -/
def isLabel (label : List Char) : Bool :=
  !label.any isForbidden && joinersFit [] label &&
    match label with
    | c :: _ => !isMark c
    | [] => true

/-- A decoded label is one that mapping and composition leave alone, and it needed decoding. -/
def isDecoded (label : List Char) : Bool :=
  label.any (!isAscii ·) && !formMark.isPrefixOf label &&
    label.all (fun c => fate c.toNat == .keep) &&
    nfc (label.map Char.toNat) == label.map Char.toNat

/-- The Unicode form of a label. -/
def label? (label : List Char) : Option (List Char) :=
  if formMark.isPrefixOf label then
    let form := label.drop formMark.length
    if !form.all isAscii || longestForm < form.length then none
    else (Punycode.decode? form).filter fun decoded => isDecoded decoded && isLabel decoded
  else if isLabel label && (label.all isAscii || label.length ≤ longestLabel) then some label
  else none

/-- The labels of a domain name. -/
def labels? (domain : List Char) : Option (List (List Char)) := do
  let codes ← domain.mapM mapped?
  let composed ← chars? (nfc codes.flatten)
  let labels ← (pieces '.' composed).mapM label?
  if labels.any (·.any isRightToLeft) && !labels.all directionFits then none else some labels

end TenantGate.Idna

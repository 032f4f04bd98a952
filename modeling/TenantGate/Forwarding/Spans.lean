import TenantGate.Forwarding

/-!
# The directives of a header by their offsets

A directive is also known by the octet offsets at which it begins and ends in its header. A walk
over the header, character by character with their offsets, gives the spans of all directives
(`spans`), and `directives?` reads them off the header. A text can be cut between its characters only:
a span with an offset inside a character cannot be read, and then no directive is.
-/

set_option autoImplicit false

namespace TenantGate.Forwarding

/-! ## Spans -/

/-- The octets of a text from one offset up to another one. -/
structure Span where
  start : Nat
  stop : Nat
deriving DecidableEq, Repr

namespace Span

/-- The span is a part of the text: both offsets are boundaries between its characters, and they are
in order. -/
def IsIn (s : Span) (text : String) : Prop :=
  String.Pos.Raw.IsValid text ⟨s.start⟩ ∧ String.Pos.Raw.IsValid text ⟨s.stop⟩ ∧ s.start ≤ s.stop

instance (s : Span) (text : String) : Decidable (s.IsIn text) :=
  inferInstanceAs (Decidable
    (String.Pos.Raw.IsValid text ⟨s.start⟩ ∧ String.Pos.Raw.IsValid text ⟨s.stop⟩ ∧
      s.start ≤ s.stop))

/-- The part of the text that the span covers. -/
def read? (text : String) (s : Span) : Option String :=
  if h : s.IsIn text then
    some (String.extract (text.pos ⟨s.start⟩ h.1) (text.pos ⟨s.stop⟩ h.2.1))
  else none

end Span

/-! ## A walk over a header -/

/-- Characters with their offsets, the first of which is given. -/
def withOffsets (offset : Nat) : List Char → List (Nat × Char)
  | [] => []
  | c :: cs => (offset, c) :: withOffsets (offset + c.utf8Size) cs

/-- Where a walk stands: the offset at which its directive begins, and two marks, which say that it
is inside a quoted string and that a backslash there shields the next character. -/
structure Walk where
  start : Nat
  quoted : Bool
  escaped : Bool
deriving DecidableEq, Repr

/-- The spans of the directives from here up to the end of the header, which is at offset `stop`. A
separator has one octet, so the next directive begins at the offset behind it. -/
def spansFrom (stop : Nat) (w : Walk) : List (Nat × Char) → List Span
  | [] => [⟨w.start, stop⟩]
  | (i, c) :: rest =>
      if w.escaped then spansFrom stop { w with escaped := false } rest
      else if c = '\\' ∧ w.quoted then spansFrom stop { w with escaped := true } rest
      else if c = '"' then spansFrom stop { w with quoted := !w.quoted } rest
      else if (c = ',' ∨ c = ';') ∧ !w.quoted then
        ⟨w.start, i⟩ :: spansFrom stop { w with start := i + 1 } rest
      else spansFrom stop w rest

/-- The spans of the directives of a header. -/
def spans (text : String) : List Span :=
  spansFrom text.utf8ByteSize ⟨0, false, false⟩ (withOffsets 0 text.toList)

/-- The directives of a header, read off at their spans. -/
def directives? (text : String) : Option (List String) := (spans text).mapM (Span.read? text)

end TenantGate.Forwarding

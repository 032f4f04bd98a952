/-!
# Pieces of a text

`pieces` cuts a text at every separator. There is one piece more than there are separators, and the
pieces may be empty. With separators between them the pieces are the text again
(`intercalate_pieces`).
-/

set_option autoImplicit false

namespace TenantGate.Text

/-- The same pieces with one more character in front of the first one. -/
def pushPiece (c : Char) : List (List Char) → List (List Char)
  | [] => [[c]]
  | p :: ps => (c :: p) :: ps

/-- The pieces of a text between its separators. -/
def pieces (separator : Char) : List Char → List (List Char)
  | [] => [[]]
  | c :: cs =>
      if c = separator then [] :: pieces separator cs else pushPiece c (pieces separator cs)

theorem pieces_ne_nil (separator : Char) (cs : List Char) : pieces separator cs ≠ [] := by
  cases cs with
  | nil => simp [pieces]
  | cons c cs =>
    unfold pieces
    split
    · simp
    · cases h : pieces separator cs <;> simp [pushPiece]

theorem intercalate_pushPiece (separator c : Char) {ps : List (List Char)} (h : ps ≠ []) :
    [separator].intercalate (pushPiece c ps) = c :: [separator].intercalate ps := by
  cases ps with
  | nil => contradiction
  | cons p ps => cases ps <;> simp [pushPiece, List.intercalate]

/-- Cutting loses nothing. -/
theorem intercalate_pieces (separator : Char) (cs : List Char) :
    [separator].intercalate (pieces separator cs) = cs := by
  induction cs with
  | nil => rfl
  | cons c cs ih =>
    unfold pieces
    split
    · next h =>
      cases hp : pieces separator cs with
      | nil => exact absurd hp (pieces_ne_nil separator cs)
      | cons p ps =>
        rw [hp] at ih
        rw [List.intercalate_cons_cons, ih, h]
        rfl
    · rw [intercalate_pushPiece separator c (pieces_ne_nil separator cs), ih]

end TenantGate.Text

/-!
# Regular expressions

The part of RE2 that translated LIKE patterns use, and matching a text against it.
-/

namespace RowGate.Text

/-- An atom: a literal character or the dot. -/
inductive Atom where
  | lit (c : Char)
  | dot
deriving DecidableEq, Repr

/-- An atom, once or repeated. -/
inductive Piece where
  | one (a : Atom)
  | star (a : Atom)
deriving DecidableEq, Repr

def isEscapable (c : Char) : Bool := c.val < 0x80 && !c.isAlphanum

def isSpecial (c : Char) : Bool := "\\.+*?()|[]{}^$".toList.contains c

namespace Regex

/-- Reads a text in the supported part of the syntax into its pieces. -/
def read : List Char → Option (List Piece)
  | [] => some []
  | '\\' :: c :: '*' :: rest => if isEscapable c then (read rest).map (.star (.lit c) :: ·) else none
  | '\\' :: c :: rest => if isEscapable c then (read rest).map (.one (.lit c) :: ·) else none
  | '.' :: '*' :: rest => (read rest).map (.star .dot :: ·)
  | '.' :: rest => (read rest).map (.one .dot :: ·)
  | c :: '*' :: rest => if isSpecial c then none else (read rest).map (.star (.lit c) :: ·)
  | c :: rest => if isSpecial c then none else (read rest).map (.one (.lit c) :: ·)

example : read "a\\.b.*c.".toList =
    some [.one (.lit 'a'), .one (.lit '.'), .one (.lit 'b'), .star .dot, .one (.lit 'c'), .one .dot] := by
  decide

theorem read_dot_star (rest : List Char) :
    read ('.' :: '*' :: rest) = (read rest).map (.star .dot :: ·) := by
  simp [read]

theorem read_dot {rest : List Char} (h : rest.head? ≠ some '*') :
    read ('.' :: rest) = (read rest).map (.one .dot :: ·) := by
  rcases rest with _ | ⟨d, rest⟩
  · rfl
  · have hd : d ≠ '*' := by simpa using h
    simp [read, hd]

theorem read_escaped {c : Char} (hc : isEscapable c) {rest : List Char} (h : rest.head? ≠ some '*') :
    read ('\\' :: c :: rest) = (read rest).map (.one (.lit c) :: ·) := by
  rcases rest with _ | ⟨d, rest⟩
  · simp [read, hc]
  · have hd : d ≠ '*' := by simpa using h
    simp [read, hc, hd]

theorem read_lit {c : Char} (hc : isSpecial c = false) {rest : List Char} (h : rest.head? ≠ some '*') :
    read (c :: rest) = (read rest).map (.one (.lit c) :: ·) := by
  have hb : c ≠ '\\' := by rintro rfl; exact absurd hc (by decide)
  have hdot : c ≠ '.' := by rintro rfl; exact absurd hc (by decide)
  rcases rest with _ | ⟨d, rest⟩
  · simp [read, hc]
  · have hd : d ≠ '*' := by simpa using h
    simp [read, hc, hd, hb, hdot]

end Regex

/-- Whether an atom accepts a character, literals compared by `same`. -/
def Atom.accepts (same : Char → Char → Bool) : Atom → Char → Bool
  | .lit c, d => same c d
  | .dot, d => d != '\n'

/-- The words a piece matches: one accepted character, or any number of them. -/
def Piece.Matches (same : Char → Char → Bool) : Piece → List Char → Prop
  | .one a, w => ∃ d, w = [d] ∧ a.accepts same d = true
  | .star a, w => ∀ d ∈ w, a.accepts same d = true

namespace Regex

/-- The texts an expression matches as a whole: one part per piece, each matched by it. -/
def Matches (same : Char → Char → Bool) : List Piece → List Char → Prop
  | [], s => s = []
  | p :: r, s => ∃ u v, s = u ++ v ∧ p.Matches same u ∧ Matches same r v

def Finds (same : Char → Char → Bool) (r : List Piece) (s : List Char) : Prop :=
  ∃ u v w, s = u ++ v ++ w ∧ Matches same r v

end Regex

end RowGate.Text


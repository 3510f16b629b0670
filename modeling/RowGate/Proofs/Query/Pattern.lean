import RowGate.Query.Document
import RowGate.Text.Regex
/-!
# LIKE patterns as regular expressions

The RE2 translation of a LIKE pattern matches what the pattern matches, except that its
wildcards never stand for a line break.
-/
namespace RowGate.Query

open Text

/-- The words a character of a LIKE pattern stands for, a wildcard standing for characters
`wild` admits: `%` any run of them, `_` one of them, any other character one character that
is `same` to it. -/
def likePart (wild : Char → Bool) (same : Char → Char → Bool) : Char → List Char → Prop
  | '%', w => ∀ d ∈ w, wild d = true
  | '_', w => ∃ d, w = [d] ∧ wild d = true
  | c, w => ∃ d, w = [d] ∧ same c d = true

/-- The texts a LIKE pattern matches: one part per pattern character, each a word it stands
for. -/
def LikeMatches (wild : Char → Bool) (same : Char → Char → Bool) : List Char → List Char → Prop
  | [], s => s = []
  | c :: p, s => ∃ u v, s = u ++ v ∧ likePart wild same c u ∧ LikeMatches wild same p v

/-- The regular expression text of one pattern character. -/
def likeChars (c : Char) : List Char :=
  if c == '%' then ['.', '*']
  else if c == '_' then ['.']
  else if isRegexMeta c then ['\\', c]
  else [c]

/-- The piece one pattern character becomes. -/
def likePiece (c : Char) : Piece :=
  if c = '%' then .star .dot
  else if c = '_' then .one .dot
  else .one (.lit c)

theorem likeToRegex_toList (p : String) :
    (likeToRegex p).toList = p.toList.flatMap likeChars := by
  simp only [likeToRegex, String.toList_ofList]
  rfl

theorem metaChars : "\\.+*?()|[]{}^$".toList =
    ['\\', '.', '+', '*', '?', '(', ')', '|', '[', ']', '{', '}', '^', '$'] := by
  decide

theorem isSpecial_eq_isRegexMeta : isSpecial = isRegexMeta := by
  funext c
  simp only [isSpecial, isRegexMeta]

theorem escapable_of_meta {c : Char} (h : isRegexMeta c) : isEscapable c := by
  simp only [isRegexMeta, metaChars, List.contains_eq_mem, List.mem_cons, List.not_mem_nil,
    decide_eq_true_eq, or_false] at h
  rcases h with rfl | rfl | rfl | rfl | rfl | rfl | rfl | rfl | rfl | rfl | rfl | rfl | rfl | rfl <;>
    decide

theorem likeChars_head (c : Char) (rest : List Char) : (likeChars c ++ rest).head? ≠ some '*' := by
  unfold likeChars
  by_cases hp : c = '%'
  · simp [hp]
  by_cases hu : c = '_'
  · simp [hu]
  by_cases hm : isRegexMeta c
  · simp [hp, hu, hm]
  · have hstar : c ≠ '*' := by
      rintro rfl
      exact hm (by decide)
    simp [hp, hu, hm, hstar]

theorem read_likeChars_append (c : Char) {rest : List Char} (h : rest.head? ≠ some '*') :
    Regex.read (likeChars c ++ rest) = (Regex.read rest).map (likePiece c :: ·) := by
  by_cases hp : c = '%'
  · subst hp
    simp [likeChars, likePiece, Regex.read_dot_star]
  by_cases hu : c = '_'
  · subst hu
    simp [likeChars, likePiece, Regex.read_dot h]
  by_cases hm : isRegexMeta c
  · simp [likeChars, likePiece, hp, hu, hm, Regex.read_escaped (escapable_of_meta hm) h]
  · have hs : isSpecial c = false := by
      simpa [isSpecial_eq_isRegexMeta] using hm
    simp [likeChars, likePiece, hp, hu, hm, Regex.read_lit hs h]

theorem read_likeToRegex (p : String) :
    Regex.read (likeToRegex p).toList = some (p.toList.map likePiece) := by
  rw [likeToRegex_toList]
  induction p.toList with
  | nil => rfl
  | cons c cs ih =>
    have hrest : (cs.flatMap likeChars).head? ≠ some '*' := by
      cases cs with
      | nil => simp
      | cons d ds =>
        rw [List.flatMap_cons]
        exact likeChars_head d _
    rw [List.flatMap_cons, read_likeChars_append c hrest, ih]
    rfl

example : likeToRegex "a.b%c_" = "a\\.b.*c." := by decide

/-! ### What the translation matches -/

theorem matches_likePiece (same : Char → Char → Bool) (c : Char) (w : List Char) :
    (likePiece c).Matches same w ↔ likePart (· != '\n') same c w := by
  by_cases hp : c = '%'
  · subst hp
    simp [likePiece, likePart, Piece.Matches, Atom.accepts]
  by_cases hu : c = '_'
  · subst hu
    simp [likePiece, likePart, Piece.Matches, Atom.accepts]
  · simp [likePiece, likePart, Piece.Matches, Atom.accepts, hp, hu]

theorem matches_map_likePiece (same : Char → Char → Bool) (p s : List Char) :
    Regex.Matches same (p.map likePiece) s ↔ LikeMatches (· != '\n') same p s := by
  induction p generalizing s with
  | nil => simp [Regex.Matches, LikeMatches]
  | cons c p ih => simp [Regex.Matches, LikeMatches, matches_likePiece, ih]

/-- The match document of a pattern condition holds its translation under `$regex`, with the
`i` option for the case-insensitive operator. Read as RE2, the translation matches a whole text
exactly when the text matches the pattern with its wildcards standing for characters other than
a line break, and an unanchored search finds it in a text exactly when some part of the text
matches the pattern so. -/
theorem likeDocument_matches (field p : String) (same : Char → Char → Bool) :
    conditionDocument field .like (.str p) =
        .ok (single field (.obj [("$regex", .str (likeToRegex p))])) ∧
    conditionDocument field .ilike (.str p) =
        .ok (single field (.obj [("$options", .str "i"), ("$regex", .str (likeToRegex p))])) ∧
    ∃ r, Regex.read (likeToRegex p).toList = some r ∧ ∀ s,
      (Regex.Matches same r s ↔ LikeMatches (· != '\n') same p.toList s) ∧
      (Regex.Finds same r s ↔
        ∃ u v w, s = u ++ v ++ w ∧ LikeMatches (· != '\n') same p.toList v) := by
  refine ⟨rfl, rfl, _, read_likeToRegex p, fun s => ⟨matches_map_likePiece same _ s, ?_⟩⟩
  simp only [Regex.Finds, matches_map_likePiece]

/-- A `%` stands for a line break, but its translation `.*` does not match one. -/
theorem percent_regex_misses_line_break :
    Regex.read (likeToRegex "%").toList = some [.star .dot] ∧
      LikeMatches (fun _ => true) (· == ·) ['%'] ['\n'] ∧
      ¬ Regex.Matches (· == ·) [.star .dot] ['\n'] := by
  refine ⟨by decide, ⟨['\n'], [], rfl, by simp [likePart], rfl⟩, ?_⟩
  rintro ⟨u, v, h, hu, hv⟩
  simp only [Regex.Matches] at hv
  subst hv
  simp only [List.append_nil] at h
  subst h
  simp [Piece.Matches, Atom.accepts] at hu

end RowGate.Query

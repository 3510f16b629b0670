import RowGate.Text.Accents
import RowGate.Text.Case
/-!
# Path aliases

The slug of a name: accents stripped, lower-cased, runs of characters other than ASCII letters,
digits and `_` made one `-`, none at either end.
-/

namespace RowGate.Catalog

def isSlugChar (c : Char) : Bool := ('a' ≤ c && c ≤ 'z') || ('0' ≤ c && c ≤ '9') || c == '_'

/-- Keeps slug characters and puts one `-` for each run of others after the first kept one;
`pending` says a run is open. -/
def slugChars : List Char → Bool → List Char
  | [], _ => []
  | c :: rest, pending =>
    if isSlugChar c then c :: slugChars rest false
    else if pending then slugChars rest true
    else '-' :: slugChars rest true

/-- The slug of a name. -/
def slug (name : String) : String :=
  let plain := (name.toList.flatMap Char.stripAccents).map Char.lowerCase
  let body := slugChars (plain.dropWhile fun c => !isSlugChar c) false
  String.ofList (body.reverse.dropWhile (· == '-')).reverse

end RowGate.Catalog

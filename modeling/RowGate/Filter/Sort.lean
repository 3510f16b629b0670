import RowGate.Text.Blank
import RowGate.Text.Case
/-!
# Sort orders

A sort order is read from text `field[:dir], …`: blank terms are skipped, a field outside
the allowed list or already listed is dropped, and a direction that equals `desc` up to case
sorts downwards; any other direction sorts upwards.
-/

namespace RowGate.Filter

/-- One key of a sort order. -/
structure SortField where
  field : String
  desc : Bool
deriving DecidableEq, Repr, Inhabited

/-- Reads a sort order against the allowed fields. -/
def parseSort (raw : String) (allowed : List String) : List SortField :=
  let step (acc : List SortField) (term : String) : List SortField :=
    let term := Text.trim term
    if term.isEmpty then acc
    else
      let (field, dir) := match term.splitOn ":" with
        | f :: rest => (f, ":".intercalate rest)
        | [] => ("", "")
      let field := Text.trim field
      if !allowed.contains field || acc.any (·.field == field) then acc
      else acc ++ [⟨field, (Text.trim dir).equalFold "desc"⟩]
  (raw.splitOn ",").foldl step []

end RowGate.Filter

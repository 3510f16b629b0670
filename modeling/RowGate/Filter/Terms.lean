/-!
# Splitting at top level

Terms of the text form are separated by commas outside quotes and brackets.
-/

namespace RowGate.Filter

/-- Where the splitter is: inside a quote (which quote, and whether the last character was a
backslash) or at a nesting depth. -/
structure SplitState where
  quote : Option Char := none
  escaped : Bool := false
  depth : Nat := 0

/-- Splits `cs` at the top-level occurrences of `sep`; `current` holds the piece being read,
last character first. -/
def splitTopLevelAux (sep : Char) : SplitState → List Char → List Char → List String
  | _, current, [] => [String.ofList current.reverse]
  | st, current, c :: rest =>
    match st.quote with
    | some q =>
      let st := if st.escaped then { st with escaped := false }
        else if c == '\\' then { st with escaped := true }
        else if c == q then { st with quote := none }
        else st
      splitTopLevelAux sep st (c :: current) rest
    | none =>
      if c == '"' || c == '\'' then splitTopLevelAux sep { st with quote := some c } (c :: current) rest
      else if c == '[' || c == '{' || c == '(' then
        splitTopLevelAux sep { st with depth := st.depth + 1 } (c :: current) rest
      else if c == ']' || c == '}' || c == ')' then
        splitTopLevelAux sep { st with depth := st.depth - 1 } (c :: current) rest
      else if c == sep && st.depth == 0 then
        String.ofList current.reverse :: splitTopLevelAux sep st [] rest
      else splitTopLevelAux sep st (c :: current) rest

def splitTopLevel (s : String) (sep : Char) : List String :=
  splitTopLevelAux sep {} [] s.toList

end RowGate.Filter

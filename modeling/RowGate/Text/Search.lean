/-!
# Searching text

Whether one text occurs inside another as a run of consecutive characters. The empty text
occurs in every text. `occursIn_iff` says that the check holds exactly when the characters
form an infix.
-/

namespace RowGate.Text

def occursIn (part : List Char) : List Char → Bool
  | [] => part.isEmpty
  | c :: cs => part.isPrefixOf (c :: cs) || occursIn part cs

def occurs (part s : String) : Bool := occursIn part.toList s.toList

/-- The check is the infix relation on lists. -/
theorem occursIn_iff (part cs : List Char) : occursIn part cs = true ↔ part <:+: cs := by
  induction cs with
  | nil => simp [occursIn]
  | cons c cs ih => simp [occursIn, ih, List.isPrefixOf_iff_prefix, List.infix_cons_iff]

end RowGate.Text

import RowGate.Query.Sql
/-!
# Reading WHERE conditions back

The grammar of the conditions the SQL builders write, read with placeholders bound to their
arguments; the first number is fuel.
-/

namespace RowGate.Query

open RowGate.Filter

/-- A WHERE condition as the grammar reads it, each placeholder replaced by its argument. -/
inductive Where where
  /-- `(e AND e …)`. -/
  | all (parts : List Where)
  /-- `(e OR e …)`. -/
  | any (parts : List Where)
  /-- `c = p`, `c <> p`, `c > p`, `c >= p`, `c < p` or `c <= p`, by the operator it spells. -/
  | compare (column : String) (op : Op) (arg : Value)
  | isNull (column : String)
  | isNotNull (column : String)
  | oneOf (column : String) (args : List Value)
  | like (column : String) (arg : Value)
  /-- `c ILIKE p` or `LOWER(c) LIKE LOWER(p)`. -/
  | ilike (column : String) (arg : Value)
  | between (column : String) (lo hi : Value)
  /-- `FALSE` or `1=0`. -/
  | never
deriving Repr, Inhabited

/-- Drops a prefix from a text, when the text starts with it. -/
def dropPrefix : List Char → List Char → Option (List Char)
  | [], cs => some cs
  | x :: xs, c :: cs => if x = c then dropPrefix xs cs else none
  | _ :: _, [] => none

@[simp] theorem dropPrefix_append (p r : List Char) : dropPrefix p (p ++ r) = some r := by
  induction p with
  | nil => rfl
  | cons x p ih => simpa [dropPrefix] using ih

/-- The text after a prefix, when the text starts with it. -/
def after (p : String) (cs : List Char) : Option (List Char) := dropPrefix p.toList cs

@[simp] theorem after_append (p : String) (r : List Char) : after p (p.toList ++ r) = some r :=
  dropPrefix_append _ _

/-- A name's body with every `c` doubled. -/
def escape (c : Char) (s : List Char) : List Char :=
  s.flatMap fun x => if x == c then [c, c] else [x]

/-- Reads a name's body up to a lone `c`, a doubled `c` standing for one; gives the body and the
text after the closing `c`. -/
def unescape (c : Char) : List Char → Option (List Char × List Char)
  | [] => none
  | x :: rest =>
    if x = c then
      match rest with
      | y :: more =>
        if y = c then (unescape c more).map fun (b, r) => (c :: b, r) else some ([], rest)
      | [] => some ([], [])
    else (unescape c rest).map fun (b, r) => (x :: b, r)

theorem unescape_escape (c : Char) (s rest : List Char) (h : rest.head? ≠ some c) :
    unescape c (escape c s ++ c :: rest) = some (s, rest) := by
  induction s with
  | nil =>
    cases rest with
    | nil => simp [escape, unescape]
    | cons y more =>
      have hy : y ≠ c := fun e => h (by simp [e])
      simp [escape, unescape, hy]
  | cons x s ih =>
    by_cases hx : x = c
    · subst hx
      simpa [escape, unescape] using ih
    · have he : escape c (x :: s) = x :: escape c s := by simp [escape, hx]
      rw [he, List.cons_append, unescape.eq_def]
      simp [hx, ih]

/-- Reads the longest run of decimal digits at the front as a number. -/
def readNumber (cs : List Char) : Option (Nat × List Char) :=
  let digits := cs.takeWhile Char.isDigit
  if digits.isEmpty then none else some (Nat.ofDigitChars 10 digits 0, cs.dropWhile Char.isDigit)

/-- Whether a text starts with no digit, so that a number before it ends. -/
def NoDigitFirst (cs : List Char) : Prop := ∀ c ∈ cs.head?, c.isDigit = false

theorem readNumber_toString (k : Nat) (rest : List Char) (h : NoDigitFirst rest) :
    readNumber ((toString k).toList ++ rest) = some (k, rest) := by
  have hd : ∀ c ∈ Nat.toDigits 10 k, c.isDigit = true := fun _ hc =>
    Nat.isDigit_of_mem_toDigits (b := 10) (by decide) (by decide) hc
  have ht : rest.takeWhile Char.isDigit = [] := by
    cases rest with
    | nil => rfl
    | cons c r => simp [NoDigitFirst] at h; simp [h]
  have hdw : rest.dropWhile Char.isDigit = rest := by
    cases rest with
    | nil => rfl
    | cons c r => simp [NoDigitFirst] at h; simp [h]
  simp [readNumber, List.takeWhile_append_of_pos hd, List.dropWhile_append_of_pos hd, ht, hdw,
    Nat.toDigits_ne_nil]

/-- Whether a text may follow a condition: nothing, a blank or a closing parenthesis. -/
def Follows (cs : List Char) : Prop := cs = [] ∨ (∃ r, cs = ' ' :: r) ∨ ∃ r, cs = ')' :: r

theorem Follows.noDigitFirst {cs : List Char} (h : Follows cs) : NoDigitFirst cs := by
  rcases h with rfl | ⟨r, rfl⟩ | ⟨r, rfl⟩ <;> simp [NoDigitFirst]

namespace SqlDialect

/-- The quote that opens a name. -/
def openQuote : SqlDialect → Char
  | postgres => '"' | mysql => '`' | mssql => '['

/-- The quote that closes a name. -/
def closeQuote : SqlDialect → Char
  | postgres => '"' | mysql => '`' | mssql => ']'

theorem quote_toList (d : SqlDialect) (name : String) :
    (d.quote name).toList = d.openQuote :: escape d.closeQuote name.toList ++ [d.closeQuote] := by
  cases d <;> simp [quote, escape, openQuote, closeQuote]

/-- Reads a quoted name at the front. -/
def readName (d : SqlDialect) : List Char → Option (String × List Char)
  | x :: rest =>
    if x = d.openQuote then (unescape d.closeQuote rest).map fun (b, r) => (String.ofList b, r)
    else none
  | [] => none

theorem readName_quote (d : SqlDialect) (name : String) (rest : List Char)
    (h : rest.head? ≠ some d.closeQuote) :
    d.readName ((d.quote name).toList ++ rest) = some (name, rest) := by
  simp [quote_toList, readName, unescape_escape _ _ _ h]

/-- The argument the placeholder numbered `k` binds: the `k`-th, or for SQL Server the one
named `paramk`. -/
def binds (d : SqlDialect) (A : List Value) (k : Nat) : Option Value :=
  match d with
  | mssql => A.findSome? fun a => match a with
    | .named n v => if n = "param" ++ toString k then some v else none
    | _ => none
  | _ => if k = 0 then none else A[k - 1]?

/-- Every argument is bound under its own position: for SQL Server, the `j`-th is named
`paramj`. -/
def Numbered (d : SqlDialect) (A : List Value) : Prop :=
  ∀ j (h : j < A.length), ∃ v, A[j] = d.bindArg (j + 1) v

theorem param_name_inj {i j : Nat} (h : "param" ++ toString i = "param" ++ toString j) : i = j := by
  have h' := congrArg (fun s => Nat.ofDigitChars 10 (s.toList.drop 5) 0) h
  simpa using h'

theorem binds_of_getElem? {d : SqlDialect} {A : List Value} {j : Nat} {v : Value}
    (hA : d.Numbered A) (hj : A[j]? = some (d.bindArg (j + 1) v)) : d.binds A (j + 1) = some v := by
  cases d with
  | postgres => simpa [binds, bindArg] using hj
  | mysql => simpa [binds, bindArg] using hj
  | mssql =>
    obtain ⟨hlt, hget⟩ := List.getElem?_eq_some_iff.1 hj
    rw [binds, List.findSome?_eq_some_iff]
    refine ⟨A.take j, A[j], A.drop (j + 1), by simp, by simp [hget, bindArg], ?_⟩
    intro x hx
    obtain ⟨i, hi, rfl⟩ := List.getElem_of_mem hx
    have hiA : i < A.length := by simp at hi; omega
    obtain ⟨w, hw⟩ := hA i hiA
    have hne : i ≠ j := by simp at hi; omega
    simp only [List.getElem_take, hw, bindArg]
    simp only [ite_eq_right_iff, reduceCtorEq, imp_false]
    intro heq
    exact hne (by simpa using param_name_inj heq)

/-- Reads a placeholder at the front and the argument it binds; `pos` placeholders came
before it, so its number must be `pos + 1`. -/
def readParam (d : SqlDialect) (A : List Value) (pos : Nat) (cs : List Char) :
    Option (Value × Nat × List Char) :=
  let numbered : Option (Nat × List Char) := match d with
    | postgres => (after "$" cs).bind readNumber
    | mssql => (after "@param" cs).bind readNumber
    | mysql => (after "?" cs).map fun r => (pos + 1, r)
  numbered.bind fun (k, r) =>
    if k = pos + 1 then (d.binds A k).map fun v => (v, k, r) else none

theorem readParam_placeholder (d : SqlDialect) (A : List Value) (pos : Nat) (rest : List Char)
    {v : Value} (hv : d.binds A (pos + 1) = some v) (h : NoDigitFirst rest) :
    d.readParam A pos ((d.placeholder (pos + 1)).toList ++ rest) = some (v, pos + 1, rest) := by
  cases d with
  | postgres =>
    have := readNumber_toString (pos + 1) rest h
    simp_all [readParam, placeholder, after, dropPrefix]
  | mysql => simp_all [readParam, placeholder, after, dropPrefix]
  | mssql =>
    have := readNumber_toString (pos + 1) rest h
    simp_all [readParam, placeholder, after, dropPrefix]

/-- Reads the placeholders of an `IN` list up to its closing parenthesis. -/
def readParams (d : SqlDialect) (A : List Value) : Nat → Nat → List Char →
    Option (List Value × Nat × List Char)
  | 0, _, _ => none
  | fuel + 1, pos, cs => do
    let (v, pos, cs) ← d.readParam A pos cs
    match after ", " cs with
    | some cs => do
      let (vs, pos, cs) ← d.readParams A fuel pos cs
      some (v :: vs, pos, cs)
    | none => do
      let cs ← after ")" cs
      some ([v], pos, cs)

/-- Reads what follows the column of a condition. -/
def readPredicate (d : SqlDialect) (A : List Value) (fuel pos : Nat) (col : String)
    (cs : List Char) : Option (Where × Nat × List Char) :=
  let param (key : String) (k : Value → Where) : Option (Where × Nat × List Char) := do
    let cs ← after key cs
    let (v, pos, cs) ← d.readParam A pos cs
    some (k v, pos, cs)
  param " = " (.compare col .eq) <|> param " <> " (.compare col .neq) <|>
  param " > " (.compare col .gt) <|> param " >= " (.compare col .gte) <|>
  param " < " (.compare col .lt) <|> param " <= " (.compare col .lte) <|>
  (after " IS NULL" cs).map (fun r => (.isNull col, pos, r)) <|>
  (after " IS NOT NULL" cs).map (fun r => (.isNotNull col, pos, r)) <|>
  (do
    let cs ← after " IN (" cs
    let (vs, pos, cs) ← d.readParams A fuel pos cs
    some (.oneOf col vs, pos, cs)) <|>
  param " LIKE " (.like col) <|> param " ILIKE " (.ilike col) <|>
  (do
    let cs ← after " BETWEEN " cs
    let (lo, pos, cs) ← d.readParam A pos cs
    let cs ← after " AND " cs
    let (hi, pos, cs) ← d.readParam A pos cs
    some (.between col lo hi, pos, cs))

/-- Reads `LOWER(c) LIKE LOWER(p)`. -/
def readLower (d : SqlDialect) (A : List Value) (pos : Nat) (cs : List Char) :
    Option (Where × Nat × List Char) := do
  let cs ← after "LOWER(" cs
  let (col, cs) ← d.readName cs
  let cs ← after ") LIKE LOWER(" cs
  let (v, pos, cs) ← d.readParam A pos cs
  let cs ← after ")" cs
  some (.ilike col v, pos, cs)

/-- Reads a condition that is no group. -/
def readLeaf (d : SqlDialect) (A : List Value) (fuel pos : Nat) (cs : List Char) :
    Option (Where × Nat × List Char) :=
  (after "FALSE" cs <|> after "1=0" cs).map (fun r => (.never, pos, r)) <|> d.readLower A pos cs <|>
    (d.readName cs).bind fun (col, r) => d.readPredicate A fuel pos col r

mutual

/-- Reads a condition; `pos` placeholders came before it. -/
def readCond (d : SqlDialect) (A : List Value) : Nat → Nat → List Char →
    Option (Where × Nat × List Char)
  | 0, _, _ => none
  | fuel + 1, pos, cs =>
    d.readLeaf A fuel pos cs <|> do
      let cs ← after "(" cs
      let (e, pos, cs) ← d.readCond A fuel pos cs
      match after " AND " cs, after " OR " cs with
      | some cs, _ => do
        let (es, pos, cs) ← d.readParts A " AND " fuel pos cs
        some (.all (e :: es), pos, cs)
      | none, some cs => do
        let (es, pos, cs) ← d.readParts A " OR " fuel pos cs
        some (.any (e :: es), pos, cs)
      | none, none => do
        let cs ← after ")" cs
        some (.all [e], pos, cs)

/-- Reads the further parts of a group after their separator, up to the closing parenthesis. -/
def readParts (d : SqlDialect) (A : List Value) (sep : String) : Nat → Nat → List Char →
    Option (List Where × Nat × List Char)
  | 0, _, _ => none
  | fuel + 1, pos, cs => do
    let (e, pos, cs) ← d.readCond A fuel pos cs
    match after sep cs with
    | some cs => do
      let (es, pos, cs) ← d.readParts A sep fuel pos cs
      some (e :: es, pos, cs)
    | none => do
      let cs ← after ")" cs
      some ([e], pos, cs)

end

/-- Reads a whole WHERE condition with its arguments: every argument is bound by a
placeholder, and nothing follows the condition. -/
def readWhere (d : SqlDialect) (A : List Value) (w : String) : Option Where :=
  match d.readCond A (w.length + 1) 0 w.toList with
  | some (t, pos, []) => if pos = A.length then some t else none
  | _ => none

end SqlDialect

end RowGate.Query

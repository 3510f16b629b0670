import RowGate.Proofs.Sql.WhereClause
/-!
# Reading whole statements back

Every list request with a well-formed filter is built by each dialect into statements that read
back as the request.
-/

namespace RowGate.Query

open RowGate.Filter

/-- Reads items separated by `, `; the first number is fuel. -/
def readSep {α : Type} (item : List Char → Option (α × List Char)) :
    Nat → List Char → Option (List α × List Char)
  | 0, _ => none
  | fuel + 1, cs => do
    let (x, cs) ← item cs
    match after ", " cs with
    | some cs => do
      let (xs, cs) ← readSep item fuel cs
      some (x :: xs, cs)
    | none => some ([x], cs)

theorem readSep_intercalate {α β : Type} {item : List Char → Option (β × List Char)}
    {print : α → String} {val : α → β} {Good : List Char → Prop}
    (hitem : ∀ x r, Good r → item ((print x).toList ++ r) = some (val x, r))
    (hsep : ∀ r, Good (", ".toList ++ r)) :
    ∀ (xs : List α), xs ≠ [] → ∀ fuel, (", ".intercalate (xs.map print)).length < fuel →
      ∀ rest, Good rest → after ", " rest = none →
      readSep item fuel ((", ".intercalate (xs.map print)).toList ++ rest) =
        some (xs.map val, rest)
  | [], h, _, _, _, _, _ => absurd rfl h
  | [x], _, fuel, hfuel, rest, hg, hn => by
    obtain ⟨k, rfl⟩ : ∃ k, fuel = k + 1 := ⟨fuel - 1, by omega⟩
    simp [readSep, hitem x rest hg, hn]
  | x :: x' :: xs, _, fuel, hfuel, rest, hg, hn => by
    obtain ⟨k, rfl⟩ : ∃ k, fuel = k + 1 := ⟨fuel - 1, by omega⟩
    rw [List.map_cons, String.intercalate_cons_of_ne_nil (by simp)] at hfuel ⊢
    simp only [String.length_append] at hfuel
    have hcomma : (", " : String).length = 2 := rfl
    have ih := readSep_intercalate hitem hsep (x' :: xs) (by simp) k (by omega) rest hg hn
    rw [List.map_cons] at ih
    simp only [String.toList_append, List.append_assoc, readSep, hitem x _ (hsep _),
      Option.bind_eq_bind, Option.bind_some, after_append, ih, List.map_cons,
      -String.reduceToList]

/-- The ORDER BY of a statement as read back. -/
inductive Order where
  /-- No ORDER BY. -/
  | unordered
  /-- Columns with their direction, descending when `true`. -/
  | columns (terms : List (String × Bool))
  /-- One column with no direction. -/
  | column (name : String)
  /-- `(SELECT NULL)`, an order on no column. -/
  | arbitrary
deriving Repr, Inhabited

/-- A page statement as read back, its placeholders replaced by their arguments. -/
structure Select where
  columns : List String
  table : TableRef
  cond : Option Where
  order : Order
  limit : Value
  offset : Value

/-- A filter as read back from a statement: no condition for no filter. -/
inductive ReadsFilter : Filter → Option Where → Prop
  | none : ReadsFilter none none
  | some {n t} : Reads n t → ReadsFilter (some n) (some t)

namespace SqlDialect

/-- Reads the selected columns: `*` for all. -/
def readColumns (d : SqlDialect) (cs : List Char) : Option (List String × List Char) :=
  readSep d.readName (cs.length + 1) cs <|> (after "*" cs).map fun r => ([], r)

/-- Reads a table, with its schema when a dot follows the first name. -/
def readTable (d : SqlDialect) (cs : List Char) : Option (TableRef × List Char) := do
  let (a, cs) ← d.readName cs
  match after "." cs with
  | some cs => do
    let (b, cs) ← d.readName cs
    some ({ schema := a, name := b }, cs)
  | none => some ({ name := a }, cs)

/-- Reads a column and its direction, descending when `true`. -/
def readTerm (d : SqlDialect) (cs : List Char) : Option ((String × Bool) × List Char) := do
  let (n, cs) ← d.readName cs
  let (desc, cs) ← (after " ASC" cs).map (fun r => (false, r)) <|>
    (after " DESC" cs).map (fun r => (true, r))
  some ((n, desc), cs)

/-- Reads ` ORDER BY` and its terms, when there is one. -/
def readOrder (d : SqlDialect) (cs : List Char) : Option (Order × List Char) :=
  match after " ORDER BY " cs with
  | none => some (.unordered, cs)
  | some cs =>
    (after "(SELECT NULL)" cs).map (fun r => (.arbitrary, r)) <|>
      (readSep d.readTerm (cs.length + 1) cs).map (fun (ts, r) => (.columns ts, r)) <|>
      (d.readName cs).map fun (n, r) => (.column n, r)

/-- Reads the page clause: the argument it takes as the page size, then as the offset. -/
def readPage (d : SqlDialect) (A : List Value) (pos : Nat) (cs : List Char) :
    Option (Value × Value × Nat × List Char) :=
  match d with
  | mssql => do
    let cs ← after " OFFSET " cs
    let (o, pos, cs) ← d.readParam A pos cs
    let cs ← after " ROWS FETCH NEXT " cs
    let (l, pos, cs) ← d.readParam A pos cs
    let cs ← after " ROWS ONLY" cs
    some (l, o, pos, cs)
  | _ => do
    let cs ← after " LIMIT " cs
    let (l, pos, cs) ← d.readParam A pos cs
    let cs ← after " OFFSET " cs
    let (o, pos, cs) ← d.readParam A pos cs
    some (l, o, pos, cs)

/-- Reads ` WHERE` and a condition, when there is one. -/
def readFilter (d : SqlDialect) (A : List Value) (fuel pos : Nat) (cs : List Char) :
    Option (Option Where × Nat × List Char) :=
  match after " WHERE " cs with
  | none => some (none, pos, cs)
  | some cs => (d.readCond A fuel pos cs).map fun (t, pos, r) => (some t, pos, r)

/-- Reads a whole page statement with its arguments: every argument is bound by one
placeholder, in the order of their numbers, and nothing follows the statement. -/
def readSelect (d : SqlDialect) (A : List Value) (s : String) : Option Select := do
  let cs ← after "SELECT " s.toList
  let (columns, cs) ← d.readColumns cs
  let cs ← after " FROM " cs
  let (table, cs) ← d.readTable cs
  let (cond, pos, cs) ← d.readFilter A (s.length + 1) 0 cs
  let (order, cs) ← d.readOrder cs
  let (limit, offset, pos, cs) ← d.readPage A pos cs
  if cs = [] ∧ pos = A.length then some { columns, table, cond, order, limit, offset } else none

/-- Reads a whole counting statement with its arguments. -/
def readCount (d : SqlDialect) (A : List Value) (s : String) :
    Option (TableRef × Option Where) := do
  let cs ← after "SELECT COUNT(*) FROM " s.toList
  let (table, cs) ← d.readTable cs
  let (cond, pos, cs) ← d.readFilter A (s.length + 1) 0 cs
  if cs = [] ∧ pos = A.length then some (table, cond) else none

/-! ### The parts of a list statement -/

/-- The WHERE part of a statement, empty for no condition. -/
def whereText (w : String) : String := if w.isEmpty then "" else " WHERE " ++ w

/-- The ORDER BY part of a list statement: the sort, or for SQL Server, which pages only ordered
rows, the first column or no column. -/
def orderText (d : SqlDialect) (q : ListQuery) : String :=
  let order := d.orderBy q.sort
  let order := if order.isEmpty && d == mssql then
      (match q.fields with
        | f :: _ => d.quote f
        | [] => "(SELECT NULL)")
    else order
  if order.isEmpty then "" else " ORDER BY " ++ order

/-- The order a list request is read back with: its sort, or for SQL Server, which pages only
ordered rows, its first column or no column. -/
def listOrder (d : SqlDialect) (q : ListQuery) : Order :=
  match q.sort, d, q.fields with
  | [], mssql, f :: _ => .column f
  | [], mssql, [] => .arbitrary
  | [], _, _ => .unordered
  | sort, _, _ => .columns (sort.map fun s => (s.field, s.desc))

/-- A page clause starts the text: ` LIMIT ` or ` OFFSET `. -/
def PageFirst (cs : List Char) : Prop :=
  ∃ k, (k = " LIMIT " ∨ k = " OFFSET ") ∧ k.toList <+: cs

theorem buildList_eq_ok {d : SqlDialect} {q : ListQuery} {w : String} {wargs : List Value}
    (h : d.whereClause q.filter = .ok (w, wargs)) :
    d.buildList q = .ok
      { sql := "SELECT " ++ d.projection q.fields ++ " FROM " ++ d.table q.table ++ whereText w ++
          d.orderText q ++
          (d.pageClause wargs (Page.of q.page q.pageSize).size (Page.of q.page q.pageSize).offset).1
        args := (d.pageClause wargs (Page.of q.page q.pageSize).size
          (Page.of q.page q.pageSize).offset).2
        countSql := "SELECT COUNT(*) FROM " ++ d.table q.table ++ whereText w
        countArgs := wargs
        page := (Page.of q.page q.pageSize).page
        pageSize := (Page.of q.page q.pageSize).size
        offset := (Page.of q.page q.pageSize).offset } := by
  simp only [buildList, h]
  rfl

theorem whereClause_ok (d : SqlDialect) {f : Filter} (hw : f.all Node.wellFormed) :
    ∃ r, d.whereClause f = .ok r := by
  cases f with
  | none => exact ⟨_, rfl⟩
  | some n => exact render_ok n [] hw

theorem numbered_whereClause {d : SqlDialect} {f : Filter} {w : String} {wargs : List Value}
    (h : d.whereClause f = .ok (w, wargs)) : d.Numbered wargs := by
  cases f with
  | none =>
    simp only [whereClause, Except.ok.injEq, Prod.mk.injEq] at h
    obtain ⟨-, rfl⟩ := h
    exact fun j hj => absurd hj (Nat.not_lt_zero j)
  | some n => exact (grows_render n h).2 fun j hj => absurd hj (Nat.not_lt_zero j)

theorem grows_pageClause (d : SqlDialect) (args : List Value) (size offset : Int) :
    d.Grows args (d.pageClause args size offset).2 := by
  cases d <;> exact (grows_bind _ _ _).trans (grows_bind _ _ _)

theorem pageFirst_pageClause (d : SqlDialect) (args : List Value) (size offset : Int) :
    PageFirst (d.pageClause args size offset).1.toList := by
  cases d
  case mssql => exact ⟨" OFFSET ", Or.inr rfl, by simp [pageClause, bind_eq, -String.reduceToList]⟩
  all_goals exact ⟨" LIMIT ", Or.inl rfl, by simp [pageClause, bind_eq, -String.reduceToList]⟩

theorem quote_isEmpty (d : SqlDialect) (f : String) : (d.quote f).isEmpty = false := by
  rw [Bool.eq_false_iff, ne_eq, String.isEmpty_iff]
  intro h
  have h' := congrArg String.toList h
  simp [quote_toList] at h'

theorem orderText_cases (d : SqlDialect) (q : ListQuery) :
    d.orderText q = "" ∨ ∃ o, d.orderText q = " ORDER BY " ++ o := by
  have h (o : String) :
      (if o.isEmpty then "" else " ORDER BY " ++ o) = "" ∨
        ∃ o', (if o.isEmpty then "" else " ORDER BY " ++ o) = " ORDER BY " ++ o' := by
    split
    · exact Or.inl rfl
    · exact Or.inr ⟨o, rfl⟩
  exact h _

theorem whereText_cases (w : String) : whereText w = "" ∨ whereText w = " WHERE " ++ w := by
  simp only [whereText]
  split
  · exact Or.inl rfl
  · exact Or.inr rfl

theorem length_le_whereText (w : String) : w.length ≤ (whereText w).length := by
  simp only [whereText]
  split
  · rename_i h
    simp [String.isEmpty_iff.mp h]
  · simp

/-! ### Reading each part back -/

theorem readColumns_projection (d : SqlDialect) (fields : List String) {rest : List Char}
    (hq : rest.head? ≠ some d.closeQuote) (hc : after ", " rest = none) :
    d.readColumns ((d.projection fields).toList ++ rest) = some (fields, rest) := by
  cases fields with
  | nil =>
    have hname : d.readName ("*".toList ++ rest) = none := by
      cases d <;> simp [readName, openQuote]
    simp [readColumns, projection, readSep, hname, -String.reduceToList]
  | cons f fs =>
    have hp : d.projection (f :: fs) = ", ".intercalate ((f :: fs).map d.quote) := rfl
    have h := readSep_intercalate (fun x r h => readName_quote d x r h)
      (by cases d <;> simp [closeQuote]) (f :: fs) (by simp)
      (((", ".intercalate ((f :: fs).map d.quote)).toList ++ rest).length + 1)
      (by simp only [List.length_append, String.length_toList]; omega) rest hq hc
    rw [hp, readColumns, h, List.map_id']
    rfl

theorem readTable_table (d : SqlDialect) (t : TableRef) {rest : List Char}
    (hq : rest.head? ≠ some d.closeQuote) (hd : after "." rest = none) :
    d.readTable ((d.table t).toList ++ rest) = some (t, rest) := by
  unfold table
  split
  · rename_i h
    simp only [readTable, readName_quote d _ _ hq, Option.bind_eq_bind, Option.bind_some, hd]
    cases t
    simp_all [String.isEmpty_iff]
  · have h₁ := readName_quote d t.schema (".".toList ++ ((d.quote t.name).toList ++ rest))
      (by cases d <;> simp [closeQuote])
    have h₂ := readName_quote d t.name rest hq
    simp only [String.toList_append, List.append_assoc, readTable, h₁, h₂, after_append,
      Option.bind_eq_bind, Option.bind_some, -String.reduceToList]

theorem readTerm_term (d : SqlDialect) (s : SortField) (r : List Char) :
    d.readTerm ((d.quote s.field ++ (if s.desc then " DESC" else " ASC")).toList ++ r) =
      some ((s.field, s.desc), r) := by
  obtain ⟨f, desc⟩ := s
  cases desc <;>
  · simp only [Bool.false_eq_true, if_true, if_false, String.toList_append,
      List.append_assoc, -String.reduceToList]
    rw [readTerm, readName_quote d f _ (by cases d <;> simp [closeQuote])]
    simp [after, dropPrefix]

theorem readOrder_orderText (d : SqlDialect) (q : ListQuery) {rest : List Char}
    (hr : PageFirst rest) :
    d.readOrder ((d.orderText q).toList ++ rest) = some (d.listOrder q, rest) := by
  obtain ⟨k, hk, r, rfl⟩ := hr
  have hc : after ", " (k.toList ++ r) = none := by
    rcases hk with rfl | rfl <;> simp [after, dropPrefix]
  have hq : (k.toList ++ r).head? ≠ some d.closeQuote := by
    rcases hk with rfl | rfl <;> cases d <;> simp [closeQuote]
  have hdir : after " ASC" (k.toList ++ r) = none ∧ after " DESC" (k.toList ++ r) = none := by
    rcases hk with rfl | rfl <;> simp [after, dropPrefix]
  have hby : after " ORDER BY " (k.toList ++ r) = none := by
    rcases hk with rfl | rfl <;> simp [after, dropPrefix]
  cases hs : q.sort with
  | cons s ss =>
    have hne : (d.orderBy (s :: ss)).isEmpty = false := by
      rw [Bool.eq_false_iff, ne_eq, String.isEmpty_iff]
      intro h
      have h' := congrArg String.toList h
      simp [orderBy, quote_toList] at h'
    have hord : d.orderText q = " ORDER BY " ++ d.orderBy (s :: ss) := by
      simp only [orderText, hs, hne, Bool.false_and, Bool.false_eq_true, if_false]
    have hterms : readSep d.readTerm (((d.orderBy (s :: ss)).toList ++ (k.toList ++ r)).length + 1)
        ((d.orderBy (s :: ss)).toList ++ (k.toList ++ r)) =
          some ((s :: ss).map fun s => (s.field, s.desc), k.toList ++ r) :=
      readSep_intercalate (fun x r (_ : True) => readTerm_term d x r) (fun _ => trivial)
        (s :: ss) (by simp) _
        (by simp only [orderBy, List.length_append, String.length_toList]; omega)
        (k.toList ++ r) trivial hc
    have hsel : after "(SELECT NULL)" ((d.orderBy (s :: ss)).toList ++ (k.toList ++ r)) = none := by
      cases d <;> simp [orderBy, quote_toList, openQuote, after, dropPrefix]
    rw [hord, String.toList_append, List.append_assoc, readOrder, after_append]
    simp only [hsel, hterms, Option.map_none, Option.map_some, Option.orElse_eq_orElse,
      Option.orElse_none, Option.orElse_some, listOrder, hs]
  | nil =>
    cases d with
    | mssql =>
      cases hf : q.fields with
      | nil => simp [orderText, orderBy, listOrder, readOrder, hs, hf, after, dropPrefix]
      | cons f fs =>
        have hord : mssql.orderText q = " ORDER BY " ++ mssql.quote f := by
          simp [orderText, orderBy, hs, hf, quote_isEmpty]
        have hn := readName_quote mssql f (k.toList ++ r) hq
        have hterm : readSep mssql.readTerm
            (((mssql.quote f).toList ++ (k.toList ++ r)).length + 1)
            ((mssql.quote f).toList ++ (k.toList ++ r)) = none := by
          simp [readSep, readTerm, hn, hdir]
        have hsel : after "(SELECT NULL)" ((mssql.quote f).toList ++ (k.toList ++ r)) = none := by
          simp [quote_toList, openQuote, after, dropPrefix]
        rw [hord, String.toList_append, List.append_assoc, readOrder, after_append]
        simp only [hsel, hterm, hn, Option.map_none, Option.map_some, Option.orElse_eq_orElse,
          Option.orElse_none, listOrder, hs, hf]
    | postgres | mysql => simp [orderText, orderBy, listOrder, readOrder, hs, hby]

theorem readPage_pageClause {d : SqlDialect} {A args : List Value} (hN : d.Numbered A)
    {size offset : Int} (hA : (d.pageClause args size offset).2 <+: A) {rest : List Char}
    (hr : NoDigitFirst rest) :
    d.readPage A args.length ((d.pageClause args size offset).1.toList ++ rest) =
      some (.int .int size, .int .int offset, (d.pageClause args size offset).2.length, rest) := by
  cases d <;> simp only [pageClause, bind_eq] at hA ⊢ <;>
    simp only [readPage, String.toList_append, List.append_assoc, after_append,
      Option.bind_eq_bind, Option.bind_some, -String.reduceToList]
  all_goals
    rw [readParam_bind hN ((List.prefix_append _ _).trans hA) _ ?_]
    · simp only [Option.bind_some, after_append, -String.reduceToList]
      rw [readParam_bind hN hA _ ?_]
      · simp [after, dropPrefix]
      · first | exact hr | simp [NoDigitFirst]
    · simp [NoDigitFirst]

theorem readCond_nil (d : SqlDialect) (A : List Value) (fuel pos : Nat) :
    d.readCond A fuel pos [] = none := by
  cases fuel <;> cases d <;> simp [readCond, readLeaf, readLower, readName, after, dropPrefix]

theorem readFilter_whereText {d : SqlDialect} {A : List Value} (hN : d.Numbered A) {f : Filter}
    (hw : f.all Node.wellFormed) {w : String} {wargs : List Value}
    (h : d.whereClause f = .ok (w, wargs)) (hA : wargs <+: A) (fuel : Nat) (hfuel : w.length < fuel)
    {rest : List Char} (hr : Follows rest) (hW : after " WHERE " rest = none) :
    ∃ c, d.readFilter A fuel 0 ((whereText w).toList ++ rest) = some (c, wargs.length, rest) ∧
      ReadsFilter f c := by
  cases f with
  | none =>
    simp only [whereClause, Except.ok.injEq, Prod.mk.injEq] at h
    obtain ⟨rfl, rfl⟩ := h
    exact ⟨none, by simp [whereText, readFilter, hW], .none⟩
  | some n =>
    -- a condition is never empty text: nothing reads back from no text
    have hne : w.isEmpty = false := by
      rw [Bool.eq_false_iff, ne_eq, String.isEmpty_iff]
      rintro rfl
      obtain ⟨t, ht, -⟩ := read_render hN n hw h hA fuel hfuel (Or.inl rfl : Follows [])
      simp [readCond_nil] at ht
    obtain ⟨t, ht, hreads⟩ := read_render hN n hw h hA fuel hfuel hr
    refine ⟨some t, ?_, .some hreads⟩
    rw [List.length_nil] at ht
    simp only [whereText, hne, Bool.false_eq_true, if_false, String.toList_append,
      List.append_assoc, readFilter, after_append, ht, Option.map_some, -String.reduceToList]

theorem readSelect_listText {d : SqlDialect} {q : ListQuery} (hw : q.filter.all Node.wellFormed)
    {w : String} {wargs : List Value} (hwc : d.whereClause q.filter = .ok (w, wargs))
    (size offset : Int) (hN : d.Numbered (d.pageClause wargs size offset).2) :
    ∃ s, d.readSelect (d.pageClause wargs size offset).2
        ("SELECT " ++ d.projection q.fields ++ " FROM " ++ d.table q.table ++ whereText w ++
          d.orderText q ++ (d.pageClause wargs size offset).1) = some s ∧
      s.columns = q.fields ∧ s.table = q.table ∧ ReadsFilter q.filter s.cond ∧
      s.order = d.listOrder q ∧ s.limit = .int .int size ∧ s.offset = .int .int offset := by
  have hpage := readPage_pageClause hN (List.prefix_refl _)
    (show NoDigitFirst [] by simp [NoDigitFirst])
  rw [List.append_nil] at hpage
  have hord := readOrder_orderText d q (pageFirst_pageClause d wargs size offset)
  have hfirst := pageFirst_pageClause d wargs size offset
  have hgrow := (grows_pageClause d wargs size offset).1
  generalize (d.pageClause wargs size offset).1 = pageText at hpage hord hfirst ⊢
  generalize (d.pageClause wargs size offset).2 = A at hN hpage hgrow ⊢
  -- what follows the condition starts with a blank and a clause's keyword
  obtain ⟨k, hk, r, hkr⟩ := hfirst
  rw [← hkr] at hord hpage
  have hfollow : Follows ((d.orderText q).toList ++ (k.toList ++ r)) ∧
      after " WHERE " ((d.orderText q).toList ++ (k.toList ++ r)) = none := by
    rcases orderText_cases d q with ho | ⟨o, ho⟩ <;> rw [ho] <;> rcases hk with rfl | rfl <;>
      simp [Follows, after, dropPrefix]
  have hblank : ∃ b, (whereText w).toList ++ ((d.orderText q).toList ++ (k.toList ++ r)) =
      ' ' :: b := by
    rcases whereText_cases w with hw' | hw' <;> rcases orderText_cases d q with ho | ⟨o, ho⟩ <;>
      rw [hw', ho] <;> rcases hk with rfl | rfl <;> simp
  obtain ⟨b, hb⟩ := hblank
  generalize htext : "SELECT " ++ d.projection q.fields ++ " FROM " ++ d.table q.table ++
    whereText w ++ d.orderText q ++ pageText = text
  have htl : text.toList = "SELECT ".toList ++ ((d.projection q.fields).toList ++
      (" FROM ".toList ++ ((d.table q.table).toList ++ ((whereText w).toList ++
        ((d.orderText q).toList ++ (k.toList ++ r)))))) := by
    rw [← htext, hkr]
    simp only [String.toList_append, List.append_assoc, -String.reduceToList]
  have hlen : w.length < text.length + 1 := by
    have := length_le_whereText w
    rw [← htext]
    simp only [String.length_append]
    omega
  obtain ⟨c, hfil, hc⟩ := readFilter_whereText hN hw hwc hgrow (text.length + 1) hlen
    hfollow.1 hfollow.2
  have htab := readTable_table d q.table
    (by rw [hb]; cases d <;> simp [closeQuote] :
      ((whereText w).toList ++ ((d.orderText q).toList ++ (k.toList ++ r))).head? ≠
        some d.closeQuote)
    (by rw [hb]; simp [after, dropPrefix])
  have hcol := readColumns_projection d q.fields
    (by cases d <;> simp [closeQuote] :
      (" FROM ".toList ++ ((d.table q.table).toList ++ ((whereText w).toList ++
        ((d.orderText q).toList ++ (k.toList ++ r))))).head? ≠ some d.closeQuote)
    (by simp [after, dropPrefix])
  refine ⟨⟨q.fields, q.table, c, d.listOrder q, .int .int size, .int .int offset⟩, ?_, rfl, rfl, hc,
    rfl, rfl, rfl⟩
  simp only [readSelect, htl, after_append, hcol, htab, hfil, hord, hpage, Option.bind_eq_bind,
    Option.bind_some, -String.reduceToList]
  simp

theorem readCount_countText {d : SqlDialect} {q : ListQuery} (hw : q.filter.all Node.wellFormed)
    {w : String} {wargs : List Value} (hwc : d.whereClause q.filter = .ok (w, wargs)) :
    ∃ c, d.readCount wargs ("SELECT COUNT(*) FROM " ++ d.table q.table ++ whereText w) =
      some (q.table, c) ∧ ReadsFilter q.filter c := by
  generalize htext : "SELECT COUNT(*) FROM " ++ d.table q.table ++ whereText w = text
  have htl : text.toList = "SELECT COUNT(*) FROM ".toList ++ ((d.table q.table).toList ++
      (whereText w).toList) := by
    rw [← htext]
    simp only [String.toList_append, List.append_assoc, -String.reduceToList]
  have hlen : w.length < text.length + 1 := by
    have := length_le_whereText w
    rw [← htext]
    simp only [String.length_append]
    omega
  obtain ⟨c, hfil, hc⟩ := readFilter_whereText (numbered_whereClause hwc) hw hwc
    (List.prefix_refl _) (text.length + 1) hlen (Or.inl rfl : Follows [])
    (by simp [after, dropPrefix])
  rw [List.append_nil] at hfil
  have htab := readTable_table d q.table
    (by rcases whereText_cases w with h | h <;> rw [h] <;> cases d <;> simp [closeQuote] :
      (whereText w).toList.head? ≠ some d.closeQuote)
    (by rcases whereText_cases w with h | h <;> rw [h] <;> simp [after, dropPrefix])
  refine ⟨c, ?_, hc⟩
  simp only [readCount, htl, after_append, htab, hfil, Option.bind_eq_bind, Option.bind_some,
    -String.reduceToList]
  simp

end SqlDialect

/-- What a list plan says when read back: the page of the request, every argument bound under
its own position with the count's arguments first, and both statements reading as the
request's columns, table, filter, order and page. -/
structure ListPlanReads (d : SqlDialect) (q : ListQuery) (p : Plan) : Prop where
  page : p.page = (Page.of q.page q.pageSize).page
  pageSize : p.pageSize = (Page.of q.page q.pageSize).size
  offset : p.offset = (Page.of q.page q.pageSize).offset
  numbered : d.Numbered p.args
  countArgs : p.countArgs <+: p.args
  select : ∃ s, d.readSelect p.args p.sql = some s ∧ s.columns = q.fields ∧
    s.table = q.table ∧ ReadsFilter q.filter s.cond ∧ s.order = d.listOrder q ∧
    s.limit = .int .int p.pageSize ∧ s.offset = .int .int p.offset
  count : ∃ c, d.readCount p.countArgs p.countSql = some (q.table, c) ∧ ReadsFilter q.filter c

namespace SqlDialect

/-- Each dialect builds the plan of every list request with a well-formed filter, and the plan
reads back as the request. -/
theorem buildList_reads (d : SqlDialect) (q : ListQuery) (hw : q.filter.all Node.wellFormed) :
    ∃ p, d.buildList q = .ok p ∧ ListPlanReads d q p := by
  obtain ⟨⟨w, wargs⟩, hwc⟩ := d.whereClause_ok hw
  have hgrow := grows_pageClause d wargs (Page.of q.page q.pageSize).size
    (Page.of q.page q.pageSize).offset
  have hN := hgrow.2 (numbered_whereClause hwc)
  obtain ⟨s, hs, hcols, htab, hcond, hord, hlim, hoff⟩ := readSelect_listText hw hwc _ _ hN
  obtain ⟨c, hc, hcf⟩ := readCount_countText hw hwc
  exact ⟨_, buildList_eq_ok hwc, rfl, rfl, rfl, hN, hgrow.1,
    ⟨s, hs, hcols, htab, hcond, hord, hlim, hoff⟩, ⟨c, hc, hcf⟩⟩

theorem buildList_reads_sorted :
    (some (.cond "age" .gt (.int .int64 30)) : Filter).all Node.wellFormed ∧
      ∃ p, SqlDialect.mssql.buildList
          { table := { schema := "app", name := "us]ers" }, fields := ["id", "name"],
            filter := some (.cond "age" .gt (.int .int64 30)),
            sort := [{ field := "name", desc := true }], page := 3, pageSize := 20 } = .ok p ∧
        ListPlanReads .mssql
          { table := { schema := "app", name := "us]ers" }, fields := ["id", "name"],
            filter := some (.cond "age" .gt (.int .int64 30)),
            sort := [{ field := "name", desc := true }], page := 3, pageSize := 20 } p :=
  ⟨rfl, buildList_reads .mssql _ rfl⟩

end SqlDialect

end RowGate.Query

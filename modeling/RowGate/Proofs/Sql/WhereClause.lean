import RowGate.Proofs.Sql.Reader
import RowGate.Proofs.Filter.WellFormed
/-!
# Reading a WHERE clause back

Every well-formed filter is written by each dialect as a condition that reads back as the same
tree with its arguments.
-/

namespace RowGate.Query

open RowGate.Filter

/-- How SQL writes one condition, operator by operator. -/
inductive Spells : String → Op → Value → Where → Prop
  | eqNull {f} : Spells f .eq .null (.isNull f)
  | neqNull {f} : Spells f .neq .null (.isNotNull f)
  | compare {f o v} (ho : o = .eq ∨ o = .neq ∨ o = .gt ∨ o = .gte ∨ o = .lt ∨ o = .lte)
      (hv : v ≠ .null) : Spells f o v (.compare f o v)
  | oneOf {f x xs} : Spells f .oneOf (.list (x :: xs)) (.oneOf f (x :: xs))
  | noneOf {f} : Spells f .oneOf (.list []) .never
  | like {f v} : Spells f .like v (.like f v)
  | ilike {f v} : Spells f .ilike v (.ilike f v)
  | between {f lo hi} : Spells f .between (.list [lo, hi]) (.between f lo hi)
  | isNull {f} : Spells f .isNull (.bool true) (.isNull f)
  | isNotNull {f} : Spells f .isNull (.bool false) (.isNotNull f)

mutual

/-- `t` is the filter `n` as read back from SQL: the same groups joined by the same words, each
condition written by its operator over the same column and values. -/
inductive Reads : Node → Where → Prop
  | cond {f o v t} : Spells f o v t → Reads (.cond f o v) t
  | all {cs ts} : ReadsAll cs ts → Reads (.group .and cs) (.all ts)
  | any {cs ts} : ReadsAll cs ts → Reads (.group .or cs) (.any ts)

/-- Filters read back one by one. -/
inductive ReadsAll : List Node → List Where → Prop
  | nil : ReadsAll [] []
  | cons {n ns t ts} : Reads n t → ReadsAll ns ts → ReadsAll (n :: ns) (t :: ts)

end

namespace SqlDialect

theorem readParam_bind {d : SqlDialect} {A args : List Value} {v : Value}
    (hN : d.Numbered A) (hA : args ++ [d.bindArg (args.length + 1) v] <+: A) (rest : List Char)
    (h : NoDigitFirst rest) :
    d.readParam A args.length ((d.placeholder (args.length + 1)).toList ++ rest) =
      some (v, (args ++ [d.bindArg (args.length + 1) v]).length, rest) := by
  obtain ⟨more, rfl⟩ := hA
  simpa using readParam_placeholder d _ _ rest (binds_of_getElem? hN (by simp)) h

theorem readLeaf_quote (d : SqlDialect) (A : List Value) (fuel pos : Nat) (f : String)
    (r : List Char) (h : r.head? ≠ some d.closeQuote) :
    d.readLeaf A fuel pos ((d.quote f).toList ++ r) = d.readPredicate A fuel pos f r := by
  have hF : after "FALSE" ((d.quote f).toList ++ r) = none := by
    cases d <;> simp [quote_toList, openQuote, after, dropPrefix]
  have h1 : after "1=0" ((d.quote f).toList ++ r) = none := by
    cases d <;> simp [quote_toList, openQuote, after, dropPrefix]
  have hL : d.readLower A pos ((d.quote f).toList ++ r) = none := by
    have : after "LOWER(" ((d.quote f).toList ++ r) = none := by
      cases d <;> simp [quote_toList, openQuote, after, dropPrefix]
    simp only [readLower, this]
    rfl
  simp [readLeaf, hF, h1, hL, readName_quote _ _ _ h]

theorem bind_eq (d : SqlDialect) (args : List Value) (v : Value) :
    d.bind args v =
      (d.placeholder (args.length + 1), args ++ [d.bindArg (args.length + 1) v]) := rfl

theorem bindAll_cons (d : SqlDialect) (args : List Value) (v : Value) (vs : List Value) :
    d.bindAll args (v :: vs) =
      (d.placeholder (args.length + 1) ::
          (d.bindAll (args ++ [d.bindArg (args.length + 1) v]) vs).1,
        (d.bindAll (args ++ [d.bindArg (args.length + 1) v]) vs).2) := rfl

theorem Numbered.push {d : SqlDialect} {args : List Value} (h : d.Numbered args) (v : Value) :
    d.Numbered (args ++ [d.bindArg (args.length + 1) v]) := by
  intro j hj
  rw [List.length_append, List.length_singleton] at hj
  rcases Nat.lt_succ_iff_lt_or_eq.1 hj with hj | rfl
  · rw [List.getElem_append_left hj]
    exact h j hj
  · exact ⟨v, by simp⟩

/-- How the arguments change while a condition is written: new ones are appended, and each is
bound at its own position when the old ones were. -/
def Grows (d : SqlDialect) (args args' : List Value) : Prop :=
  args <+: args' ∧ (d.Numbered args → d.Numbered args')

theorem Grows.refl (d : SqlDialect) (args : List Value) : d.Grows args args :=
  ⟨List.prefix_refl args, id⟩

theorem Grows.trans {d : SqlDialect} {a b c : List Value} (h₁ : d.Grows a b) (h₂ : d.Grows b c) :
    d.Grows a c :=
  ⟨h₁.1.trans h₂.1, h₂.2 ∘ h₁.2⟩

theorem grows_bind (d : SqlDialect) (args : List Value) (v : Value) :
    d.Grows args (args ++ [d.bindArg (args.length + 1) v]) :=
  ⟨List.prefix_append _ _, fun h => h.push v⟩

theorem grows_bindAll (d : SqlDialect) (vs : List Value) :
    ∀ args : List Value, d.Grows args (d.bindAll args vs).2 := by
  induction vs with
  | nil => exact Grows.refl d
  | cons v vs ih =>
    intro args
    rw [bindAll_cons]
    exact (grows_bind d args v).trans (ih _)

theorem bindAll_ne_nil (d : SqlDialect) (args vs : List Value) (h : vs ≠ []) :
    (d.bindAll args vs).1 ≠ [] := by
  cases vs with
  | nil => exact absurd rfl h
  | cons v vs => simp [bindAll_cons]

theorem readParams_bindAll {d : SqlDialect} {A : List Value} (hN : d.Numbered A) (vs : List Value) :
    ∀ (args : List Value), vs ≠ [] → (d.bindAll args vs).2 <+: A → ∀ fuel,
      (", ".intercalate (d.bindAll args vs).1).length < fuel → ∀ rest,
      d.readParams A fuel args.length ((", ".intercalate (d.bindAll args vs).1).toList ++
        (")".toList ++ rest)) = some (vs, (d.bindAll args vs).2.length, rest) := by
  induction vs with
  | nil => intro args h; exact absurd rfl h
  | cons x xs ih =>
    intro args _ hA fuel hfuel rest
    obtain ⟨f, rfl⟩ : ∃ f, fuel = f + 1 := ⟨fuel - 1, by omega⟩
    have hA₁ : args ++ [d.bindArg (args.length + 1) x] <+: A :=
      (grows_bindAll d xs _).1.trans (by rwa [bindAll_cons] at hA)
    cases xs with
    | nil =>
      have hp := readParam_bind hN hA₁ (")".toList ++ rest) (by simp [NoDigitFirst])
      have hb : d.bindAll args [x] = ([d.placeholder (args.length + 1)],
          args ++ [d.bindArg (args.length + 1) x]) := rfl
      rw [hb, String.intercalate_singleton]
      simp only [readParams, hp]
      simp [after, dropPrefix]
    | cons y ys =>
      have hne := bindAll_ne_nil d (args ++ [d.bindArg (args.length + 1) x]) (y :: ys) (by simp)
      rw [bindAll_cons] at hfuel hA ⊢
      dsimp only at hfuel hA ⊢
      rw [String.intercalate_cons_of_ne_nil hne] at hfuel ⊢
      have hlen : (", ".intercalate
          (d.bindAll (args ++ [d.bindArg (args.length + 1) x]) (y :: ys)).1).length < f := by
        simp only [String.length_append] at hfuel
        have : (", " : String).length = 2 := rfl
        omega
      have hp := readParam_bind hN hA₁ (", ".toList ++ ((", ".intercalate
        (d.bindAll (args ++ [d.bindArg (args.length + 1) x]) (y :: ys)).1).toList ++
        (")".toList ++ rest))) (by simp [NoDigitFirst])
      have ih' := ih _ (by simp) hA f hlen rest
      simp only [String.toList_append, List.append_assoc, readParams, hp, Option.bind_eq_bind,
        Option.bind_some, after_append, ih', -String.reduceToList]

/-- The conditions written as the column, a keyword and one placeholder. -/
def keyed (f : String) : List (String × (Value → Where)) :=
  [("=", .compare f .eq), ("<>", .compare f .neq), (">", .compare f .gt), (">=", .compare f .gte),
    ("<", .compare f .lt), ("<=", .compare f .lte), ("LIKE", .like f), ("ILIKE", .ilike f)]

section Predicate

variable {d : SqlDialect} {A : List Value} {fuel pos pos' : Nat} {f : String} {X r : List Char}

theorem readPredicate_keyed {sym : String} {k : Value → Where} {v : Value} (hs : (sym, k) ∈ keyed f)
    (hp : d.readParam A pos X = some (v, pos', r)) :
    d.readPredicate A fuel pos f (" ".toList ++ (sym.toList ++ (" ".toList ++ X))) =
      some (k v, pos', r) := by
  simp only [keyed, List.mem_cons, Prod.mk.injEq, List.mem_nil_iff, or_false] at hs
  rcases hs with ⟨rfl, rfl⟩ | ⟨rfl, rfl⟩ | ⟨rfl, rfl⟩ | ⟨rfl, rfl⟩ | ⟨rfl, rfl⟩ | ⟨rfl, rfl⟩ |
    ⟨rfl, rfl⟩ | ⟨rfl, rfl⟩ <;> simp [readPredicate, after, dropPrefix, hp]

theorem readPredicate_nullTest {key : String} {t : Where}
    (hk : (key, t) ∈ [(" IS NULL", Where.isNull f), (" IS NOT NULL", .isNotNull f)]) :
    d.readPredicate A fuel pos f (key.toList ++ X) = some (t, pos, X) := by
  simp only [List.mem_cons, Prod.mk.injEq, List.mem_nil_iff, or_false] at hk
  rcases hk with ⟨rfl, rfl⟩ | ⟨rfl, rfl⟩ <;> simp [readPredicate, after, dropPrefix]

theorem readPredicate_oneOf {vs : List Value}
    (hp : d.readParams A fuel pos X = some (vs, pos', r)) :
    d.readPredicate A fuel pos f (" IN (".toList ++ X) = some (.oneOf f vs, pos', r) := by
  simp [readPredicate, after, dropPrefix, hp]

theorem readPredicate_between {Y : List Char} {lo hi : Value} {pos₁ : Nat}
    (hlo : d.readParam A pos X = some (lo, pos₁, " AND ".toList ++ Y))
    (hhi : d.readParam A pos₁ Y = some (hi, pos', r)) :
    d.readPredicate A fuel pos f (" BETWEEN ".toList ++ X) = some (.between f lo hi, pos', r) := by
  simp [readPredicate, after, dropPrefix, hlo, hhi]

end Predicate

theorem readLeaf_keyed {d : SqlDialect} {A args : List Value} {v : Value} {f sym : String}
    {k : Value → Where} {rest : List Char} (fuel : Nat) (hs : (sym, k) ∈ keyed f)
    (hN : d.Numbered A) (hA : (d.bind args v).2 <+: A) (hr : Follows rest) :
    d.readLeaf A fuel args.length
        ((d.quote f ++ " " ++ sym ++ " " ++ (d.bind args v).1).toList ++ rest) =
      some (k v, (d.bind args v).2.length, rest) := by
  rw [bind_eq] at hA ⊢
  simp only [String.toList_append, List.append_assoc, -String.reduceToList]
  rw [readLeaf_quote _ _ _ _ _ _ (by cases d <;> simp [closeQuote]),
    readPredicate_keyed hs (readParam_bind hN hA _ hr.noDigitFirst)]

theorem readLeaf_nullTest {d : SqlDialect} {A : List Value} {f key : String} {t : Where}
    {rest : List Char} (fuel pos : Nat)
    (hk : (key, t) ∈ [(" IS NULL", Where.isNull f), (" IS NOT NULL", .isNotNull f)]) :
    d.readLeaf A fuel pos ((d.quote f ++ key).toList ++ rest) = some (t, pos, rest) := by
  rw [String.toList_append, List.append_assoc, readLeaf_quote _ _ _ _ _ _ (by
    simp only [List.mem_cons, Prod.mk.injEq, List.mem_nil_iff, or_false] at hk
    rcases hk with ⟨rfl, rfl⟩ | ⟨rfl, rfl⟩ <;> cases d <;> simp [closeQuote]),
    readPredicate_nullTest hk]

theorem readLeaf_false (d : SqlDialect) (A : List Value) (fuel pos : Nat) (rest : List Char) :
    d.readLeaf A fuel pos (d.falseCondition.toList ++ rest) = some (.never, pos, rest) := by
  cases d <;> simp [readLeaf, falseCondition, after, dropPrefix]

theorem readLeaf_lower {d : SqlDialect} {A : List Value} {fuel pos pos' : Nat} {f : String}
    {v : Value} {X r : List Char} (hp : d.readParam A pos X = some (v, pos', ")".toList ++ r)) :
    d.readLeaf A fuel pos
        ("LOWER(".toList ++ ((d.quote f).toList ++ (") LIKE LOWER(".toList ++ X))) =
      some (.ilike f v, pos', r) := by
  have hn := readName_quote d f (") LIKE LOWER(".toList ++ X) (by cases d <;> simp [closeQuote])
  have hF : after "FALSE"
      ("LOWER(".toList ++ ((d.quote f).toList ++ (") LIKE LOWER(".toList ++ X))) = none := by
    simp [after, dropPrefix]
  have h1 : after "1=0"
      ("LOWER(".toList ++ ((d.quote f).toList ++ (") LIKE LOWER(".toList ++ X))) = none := by
    simp [after, dropPrefix]
  simp only [readLeaf, readLower, hF, h1, Option.orElse_eq_orElse, Option.orElse_none,
    Option.map_none, Option.bind_eq_bind, Option.bind_some, after_append, hn, hp,
    Option.orElse_some, -String.reduceToList]

theorem read_condition {d : SqlDialect} {A args args' : List Value} {f : String} {o : Op}
    {v : Value} {text : String} (hw : (Node.cond f o v).wellFormed)
    (h : d.condition args f o v = .ok (text, args')) (hN : d.Numbered A) (hA : args' <+: A)
    (fuel : Nat) (hfuel : text.length ≤ fuel) {rest : List Char} (hr : Follows rest) :
    ∃ t, d.readLeaf A fuel args.length (text.toList ++ rest) = some (t, args'.length, rest) ∧
      Spells f o v t := by
  simp only [Node.wellFormed, Bool.and_eq_true] at hw
  obtain ⟨hk, hc⟩ := hw
  cases o with
  | eq =>
    simp only [condition] at h
    split at h
    · simp only [ite_true, Except.ok.injEq, Prod.mk.injEq] at h
      obtain ⟨rfl, rfl⟩ := h
      exact ⟨_, readLeaf_nullTest fuel _ (t := .isNull f) (by simp), .eqNull⟩
    · rename_i hv
      simp only [Bool.false_eq_true, ite_false, Except.ok.injEq, Prod.mk.injEq] at h
      obtain ⟨rfl, rfl⟩ := h
      exact ⟨_, readLeaf_keyed fuel (by simp [keyed]) hN hA hr, .compare (by simp) hv⟩
  | neq =>
    simp only [condition] at h
    split at h
    · simp only [ite_true, Except.ok.injEq, Prod.mk.injEq] at h
      obtain ⟨rfl, rfl⟩ := h
      exact ⟨_, readLeaf_nullTest fuel _ (t := .isNotNull f) (by simp), .neqNull⟩
    · rename_i hv
      simp only [Bool.false_eq_true, ite_false, Except.ok.injEq, Prod.mk.injEq] at h
      obtain ⟨rfl, rfl⟩ := h
      exact ⟨_, readLeaf_keyed fuel (by simp [keyed]) hN hA hr, .compare (by simp) hv⟩
  | gt | gte | lt | lte =>
    simp only [condition, Except.ok.injEq, Prod.mk.injEq] at h
    obtain ⟨rfl, rfl⟩ := h
    exact ⟨_, readLeaf_keyed fuel (by simp [keyed]) hN hA hr,
      .compare (by simp) (ne_null_of_checkValue (by simp) hc)⟩
  | like =>
    simp only [condition, Except.ok.injEq, Prod.mk.injEq] at h
    obtain ⟨rfl, rfl⟩ := h
    exact ⟨_, readLeaf_keyed fuel (by simp [keyed]) hN hA hr, .like⟩
  | ilike =>
    simp only [condition, Except.ok.injEq, Prod.mk.injEq] at h
    obtain ⟨rfl, rfl⟩ := h
    refine ⟨.ilike f v, ?_, .ilike⟩
    cases d with
    | postgres =>
      have hs : (" ILIKE " : String) = " " ++ "ILIKE" ++ " " := rfl
      simp only [ilike, hs, ← String.append_assoc]
      exact readLeaf_keyed fuel (by simp [keyed]) hN hA hr
    | mysql | mssql =>
      rw [bind_eq] at hA ⊢
      simp only [ilike, String.toList_append, List.append_assoc, -String.reduceToList]
      exact readLeaf_lower (readParam_bind hN hA (")".toList ++ rest) (by simp [NoDigitFirst]))
  | oneOf =>
    obtain ⟨items, rfl⟩ := list_of_checkValue_oneOf hc
    cases items with
    | nil =>
      simp only [condition, Except.ok.injEq, Prod.mk.injEq] at h
      obtain ⟨rfl, rfl⟩ := h
      exact ⟨_, readLeaf_false d A fuel _ rest, .noneOf⟩
    | cons x xs =>
      simp only [condition, Except.ok.injEq, Prod.mk.injEq] at h
      obtain ⟨rfl, rfl⟩ := h
      have hlen : (", ".intercalate (d.bindAll args (x :: xs)).1).length < fuel := by
        simp only [String.length_append] at hfuel
        have : (" IN (" : String).length = 5 := rfl
        omega
      have hps := readParams_bindAll hN (x :: xs) args (by simp) hA fuel hlen rest
      refine ⟨_, ?_, .oneOf⟩
      simp only [String.toList_append, List.append_assoc, -String.reduceToList]
      rw [readLeaf_quote _ _ _ _ _ _ (by cases d <;> simp [closeQuote]), readPredicate_oneOf hps]
  | between =>
    obtain ⟨lo, hi, rfl⟩ := pair_of_checkValue_between hc
    simp only [condition, Except.ok.injEq, Prod.mk.injEq] at h
    obtain ⟨rfl, rfl⟩ := h
    rw [bind_eq, bind_eq] at hA ⊢
    have hlo := readParam_bind hN ((List.prefix_append _ _).trans hA) (" AND ".toList ++
      ((d.placeholder ((args ++ [d.bindArg (args.length + 1) lo]).length + 1)).toList ++ rest))
      (by simp [NoDigitFirst])
    have hhi := readParam_bind hN hA rest hr.noDigitFirst
    refine ⟨_, ?_, .between⟩
    simp only [String.toList_append, List.append_assoc, -String.reduceToList]
    rw [readLeaf_quote _ _ _ _ _ _ (by cases d <;> simp [closeQuote]),
      readPredicate_between hlo hhi]
    simp
  | isNull =>
    obtain ⟨b, rfl⟩ := bool_of_checkValue_isNull hc
    cases b with
    | true =>
      simp only [condition, Except.ok.injEq, Prod.mk.injEq] at h
      obtain ⟨rfl, rfl⟩ := h
      exact ⟨_, readLeaf_nullTest fuel _ (t := .isNull f) (by simp), .isNull⟩
    | false =>
      simp only [condition, Except.ok.injEq, Prod.mk.injEq] at h
      obtain ⟨rfl, rfl⟩ := h
      exact ⟨_, readLeaf_nullTest fuel _ (t := .isNotNull f) (by simp), .isNotNull⟩
  | unknown n => simp [Op.isKnown] at hk

theorem grows_condition {d : SqlDialect} {args args' : List Value} {f : String} {o : Op}
    {v : Value} {text : String} (h : d.condition args f o v = .ok (text, args')) :
    d.Grows args args' := by
  cases o <;> simp only [condition, bind_eq] at h <;> (try split at h) <;> (try split at h) <;>
    simp only [Except.ok.injEq, Prod.mk.injEq, reduceCtorEq] at h <;> obtain ⟨-, rfl⟩ := h <;>
    first
    | exact Grows.refl d args
    | exact grows_bind d args _
    | exact grows_bindAll d _ args
    | exact (grows_bind d args _).trans (grows_bind d _ _)

section Render

variable {d : SqlDialect}

theorem renderAll_cons_eq_ok {args args' : List Value} {c : Node} {cs : List Node}
    {parts : List String} : d.renderAll args (c :: cs) = .ok (parts, args') ↔
      ∃ p a ps, d.render args c = .ok (p, a) ∧ d.renderAll a cs = .ok (ps, args') ∧
        parts = p :: ps := by
  simp only [renderAll, bind_eq_ok, Except.ok.injEq, Prod.mk.injEq]
  constructor
  · rintro ⟨⟨p, a⟩, hc, ⟨ps, b⟩, hcs, rfl, rfl⟩
    exact ⟨p, a, ps, hc, hcs, rfl⟩
  · rintro ⟨p, a, ps, hc, hcs, rfl⟩
    exact ⟨(p, a), hc, (ps, args'), hcs, rfl, rfl⟩

mutual

theorem grows_render : ∀ (n : Node) {args args' : List Value} {text : String},
    d.render args n = .ok (text, args') → d.Grows args args'
  | .cond _ _ _, _, _, _, h => grows_condition h
  | .group _ cs, _, _, _, h => by
    simp only [render, bind_eq_ok, Except.ok.injEq, Prod.mk.injEq] at h
    obtain ⟨⟨parts, a⟩, hcs, -, rfl⟩ := h
    exact grows_renderAll cs hcs

theorem grows_renderAll : ∀ (cs : List Node) {args args' : List Value} {parts : List String},
    d.renderAll args cs = .ok (parts, args') → d.Grows args args'
  | [], _, _, _, h => by
    simp only [renderAll, Except.ok.injEq, Prod.mk.injEq] at h
    exact h.2 ▸ Grows.refl d _
  | c :: cs, _, _, _, h => by
    obtain ⟨p, a, ps, hc, hcs, -⟩ := renderAll_cons_eq_ok.mp h
    exact (grows_render c hc).trans (grows_renderAll cs hcs)

end

theorem length_renderAll : ∀ (cs : List Node) {args args' : List Value} {parts : List String},
    d.renderAll args cs = .ok (parts, args') → parts.length = cs.length
  | [], _, _, _, h => by
    simp only [renderAll, Except.ok.injEq, Prod.mk.injEq] at h
    simp [← h.1]
  | c :: cs, _, _, _, h => by
    obtain ⟨p, a, ps, hc, hcs, rfl⟩ := renderAll_cons_eq_ok.mp h
    simp [length_renderAll cs hcs]

theorem readLeaf_paren (A : List Value) (fuel pos : Nat) (cs : List Char) :
    d.readLeaf A fuel pos ("(".toList ++ cs) = none := by
  cases d <;> simp [readLeaf, readLower, readName, after, dropPrefix, openQuote]

theorem Follows.sep {sep : String} (h : sep = " AND " ∨ sep = " OR ") (cs : List Char) :
    Follows (sep.toList ++ cs) := by
  rcases h with rfl | rfl <;> exact Or.inr (Or.inl ⟨_, rfl⟩)

theorem Follows.close (cs : List Char) : Follows (")".toList ++ cs) :=
  Or.inr (Or.inr ⟨cs, rfl⟩)

theorem sep_cases (l : Logic) (hl : (l == .and || l == .or) = true) :
    (l = .and ∧ (if l == .or then " OR " else " AND ") = " AND ") ∨
      (l = .or ∧ (if l == .or then " OR " else " AND ") = " OR ") := by
  cases l <;> simp_all

mutual

theorem read_render {A : List Value} (hN : d.Numbered A) :
    ∀ (n : Node) {args args' : List Value} {text : String}, n.wellFormed →
    d.render args n = .ok (text, args') → args' <+: A → ∀ fuel, text.length < fuel →
    ∀ {rest}, Follows rest → ∃ t, d.readCond A fuel args.length (text.toList ++ rest) =
      some (t, args'.length, rest) ∧ Reads n t
  | .cond f o v, args, args', text, hw, h, hA, fuel, hfuel, rest, hr => by
    obtain ⟨k, rfl⟩ : ∃ k, fuel = k + 1 := ⟨fuel - 1, by omega⟩
    obtain ⟨t, ht, hs⟩ := read_condition hw h hN hA k (by omega) hr
    exact ⟨t, by simp [readCond, ht], .cond hs⟩
  | .group l cs, args, args', text, hw, h, hA, fuel, hfuel, rest, hr => by
    simp only [Node.wellFormed, Bool.and_eq_true, decide_eq_true_eq] at hw
    obtain ⟨⟨hl, hlen⟩, hall⟩ := hw
    rcases cs with _ | ⟨c, _ | ⟨c', cs⟩⟩
    · simp at hlen
    · simp at hlen
    rw [Node.allWellFormed, Bool.and_eq_true] at hall
    simp only [render, bind_eq_ok, Except.ok.injEq, Prod.mk.injEq] at h
    obtain ⟨⟨parts, b⟩, hparts, rfl, rfl⟩ := h
    obtain ⟨p, a₁, ps, hc, hcs, rfl⟩ := renderAll_cons_eq_ok.mp hparts
    have hps : ps ≠ [] := by
      intro hnil
      simpa [hnil] using length_renderAll _ hcs
    obtain ⟨k, rfl⟩ : ∃ k, fuel = k + 1 := ⟨fuel - 1, by omega⟩
    have hcase := sep_cases l hl
    generalize (if l == .or then " OR " else " AND ") = sep at hcase hfuel ⊢
    have hsep : sep = " AND " ∨ sep = " OR " := hcase.imp (·.2) (·.2)
    rw [String.intercalate_cons_of_ne_nil hps] at hfuel ⊢
    have hbrackets : ("(" : String).length = 1 ∧ (")" : String).length = 1 := ⟨rfl, rfl⟩
    simp only [String.length_append] at hfuel
    obtain ⟨t, ht, hreads⟩ := read_render hN c hall.1 hc ((grows_renderAll _ hcs).1.trans hA) k
      (by omega) (Follows.sep hsep ((sep.intercalate ps).toList ++ (")".toList ++ rest)))
    obtain ⟨ts, hts, hreadsAll⟩ := read_renderAll hN (c' :: cs) hall.2 (by simp) hcs hA hsep k
      (by omega) hr
    -- the separator after the first part decides the kind of group
    obtain ⟨rfl, rfl⟩ | ⟨rfl, rfl⟩ := hcase
    · refine ⟨.all (t :: ts), ?_, .all (.cons hreads hreadsAll)⟩
      simp only [String.toList_append, List.append_assoc, readCond, readLeaf_paren, after_append,
        Option.orElse_eq_orElse, Option.orElse_none, Option.bind_eq_bind, Option.bind_some, ht,
        hts, -String.reduceToList]
    · have hand : after " AND " (" OR ".toList ++ ((" OR ".intercalate ps).toList ++
          (")".toList ++ rest))) = none := by simp [after, dropPrefix]
      refine ⟨.any (t :: ts), ?_, .any (.cons hreads hreadsAll)⟩
      simp only [String.toList_append, List.append_assoc, readCond, readLeaf_paren, after_append,
        Option.orElse_eq_orElse, Option.orElse_none, Option.bind_eq_bind, Option.bind_some, ht,
        hand, hts, -String.reduceToList]

theorem read_renderAll {A : List Value} (hN : d.Numbered A) :
    ∀ (cs : List Node) {args args' : List Value} {parts : List String},
    Node.allWellFormed cs → cs ≠ [] → d.renderAll args cs = .ok (parts, args') → args' <+: A →
    ∀ {sep : String}, (sep = " AND " ∨ sep = " OR ") → ∀ fuel,
    (sep.intercalate parts).length + 1 < fuel → ∀ {rest}, Follows rest →
    ∃ ts, d.readParts A sep fuel args.length
      ((sep.intercalate parts).toList ++ (")".toList ++ rest)) = some (ts, args'.length, rest) ∧
      ReadsAll cs ts
  | [], _, _, _, _, hne, _, _, _, _, _, _, _, _ => absurd rfl hne
  | [c], args, args', parts, hw, _, h, hA, sep, hsep, fuel, hfuel, rest, hr => by
    obtain ⟨p, a, ps, hc, hnil, rfl⟩ := renderAll_cons_eq_ok.mp h
    simp only [renderAll, Except.ok.injEq, Prod.mk.injEq] at hnil
    obtain ⟨rfl, rfl⟩ := hnil
    rw [Node.allWellFormed, Node.allWellFormed, Bool.and_true] at hw
    obtain ⟨k, rfl⟩ : ∃ k, fuel = k + 1 := ⟨fuel - 1, by omega⟩
    rw [String.intercalate_singleton] at hfuel ⊢
    obtain ⟨t, ht, hreads⟩ := read_render hN c hw hc hA k (by omega) (Follows.close rest)
    have hnone : after sep (")".toList ++ rest) = none := by
      rcases hsep with rfl | rfl <;> simp [after, dropPrefix]
    refine ⟨[t], ?_, .cons hreads .nil⟩
    simp only [readParts, ht, hnone, after_append, Option.bind_eq_bind, Option.bind_some]
  | c :: c' :: cs, args, args', parts, hw, _, h, hA, sep, hsep, fuel, hfuel, rest, hr => by
    obtain ⟨p, a, ps, hc, hcs, rfl⟩ := renderAll_cons_eq_ok.mp h
    rw [Node.allWellFormed, Bool.and_eq_true] at hw
    have hps : ps ≠ [] := by
      intro hnil
      simpa [hnil] using length_renderAll _ hcs
    obtain ⟨k, rfl⟩ : ∃ k, fuel = k + 1 := ⟨fuel - 1, by omega⟩
    rw [String.intercalate_cons_of_ne_nil hps] at hfuel ⊢
    simp only [String.length_append] at hfuel
    have hsepLen : 0 < sep.length := by rcases hsep with rfl | rfl <;> decide
    obtain ⟨t, ht, hreads⟩ := read_render hN c hw.1 hc ((grows_renderAll _ hcs).1.trans hA) k
      (by omega) (Follows.sep hsep ((sep.intercalate ps).toList ++ (")".toList ++ rest)))
    obtain ⟨ts, hts, hreadsAll⟩ := read_renderAll hN (c' :: cs) hw.2 (by simp) hcs hA hsep k
      (by omega) hr
    refine ⟨t :: ts, ?_, .cons hreads hreadsAll⟩
    simp only [String.toList_append, List.append_assoc, readParts, ht, after_append, hts,
      Option.bind_eq_bind, Option.bind_some, -String.reduceToList]

end

theorem condition_ok (d : SqlDialect) (args : List Value) {f : String} {o : Op} {v : Value}
    (hw : (Node.cond f o v).wellFormed) : ∃ r, d.condition args f o v = .ok r := by
  simp only [Node.wellFormed, Bool.and_eq_true] at hw
  cases o with
  | between =>
    obtain ⟨lo, hi, rfl⟩ := pair_of_checkValue_between hw.2
    exact ⟨_, rfl⟩
  | unknown n => simp [Op.isKnown] at hw
  | _ =>
    simp only [condition]
    -- `eq`, `neq`, `oneOf` and `isNull` branch on the value; every branch answers
    (try split) <;> exact ⟨_, rfl⟩

mutual

theorem render_ok : ∀ (n : Node) (args : List Value), n.wellFormed → ∃ r, d.render args n = .ok r
  | .cond _ _ _, args, hw => condition_ok d args hw
  | .group l cs, args, hw => by
    simp only [Node.wellFormed, Bool.and_eq_true] at hw
    obtain ⟨⟨parts, a⟩, h⟩ := renderAll_ok cs args hw.2
    exact ⟨_, by simp only [render, h]; rfl⟩

theorem renderAll_ok : ∀ (cs : List Node) (args : List Value), Node.allWellFormed cs →
    ∃ r, d.renderAll args cs = .ok r
  | [], _, _ => ⟨_, rfl⟩
  | c :: cs, args, hw => by
    rw [Node.allWellFormed, Bool.and_eq_true] at hw
    obtain ⟨⟨p, a⟩, hc⟩ := render_ok c args hw.1
    obtain ⟨⟨ps, b⟩, hcs⟩ := renderAll_ok cs a hw.2
    exact ⟨(p :: ps, b), renderAll_cons_eq_ok.mpr ⟨p, a, ps, hc, hcs, rfl⟩⟩

end

/-- Each dialect writes every well-formed filter tree as a WHERE condition and arguments that
read back as the same tree, every argument bound by exactly one placeholder in order. -/
theorem whereClause_reads (d : SqlDialect) (n : Node) (hw : n.wellFormed) :
    ∃ w A t, d.whereClause (some n) = .ok (w, A) ∧ d.readWhere A w = some t ∧ Reads n t := by
  obtain ⟨⟨w, A⟩, h⟩ := render_ok n [] hw
  have hN : d.Numbered A := (grows_render n h).2 fun j hj => absurd hj (Nat.not_lt_zero j)
  obtain ⟨t, ht, hreads⟩ := read_render hN n hw h (List.prefix_refl A) (w.length + 1) (by omega)
    (Or.inl rfl : Follows [])
  rw [List.append_nil, List.length_nil] at ht
  exact ⟨w, A, t, h, by simp [readWhere, ht], hreads⟩

theorem whereClause_reads_scoped_search :
    (Node.group .and [Node.matchNothing "owner", .cond "na]me" .ilike (.str "a%")]).wellFormed ∧
      ∃ w A t, SqlDialect.mssql.whereClause
        (some (.group .and [Node.matchNothing "owner", .cond "na]me" .ilike (.str "a%")])) =
          .ok (w, A) ∧ SqlDialect.mssql.readWhere A w = some t ∧
        Reads (.group .and [Node.matchNothing "owner", .cond "na]me" .ilike (.str "a%")]) t :=
  ⟨rfl, whereClause_reads .mssql _ rfl⟩

end Render

end SqlDialect

end RowGate.Query

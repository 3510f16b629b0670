import Mathlib
import RowGate.Proofs.Filter.Parsed
/-!
# The shape of parsed filters

Parsed filters have the shape the builders rely on: known operators over values of their shape,
groups of two children or more, bounded height and size.
-/

namespace RowGate.Filter

variable {L : List String}

/-- The values a condition compares with: strings, truth values, 64-bit integers and doubles. -/
def Scalar : Value → Prop
  | .str _ | .bool _ | .int .int64 _ | .float _ => True
  | _ => False

namespace Op

/-- The values an operator accepts: `eq` and `neq` a scalar or null, the orderings a scalar,
`in` a list of scalars, `between` a list of two scalars, the patterns a string and `isnull` a
truth value. An operator of no known meaning accepts nothing. -/
def Accepts : Op → Value → Prop
  | eq, v | neq, v => v = .null ∨ Scalar v
  | gt, v | gte, v | lt, v | lte, v => Scalar v
  | oneOf, v => ∃ items, v = .list items ∧ ∀ x ∈ items, Scalar x
  | between, v => ∃ a b, v = .list [a, b] ∧ Scalar a ∧ Scalar b
  | like, v | ilike, v => ∃ s, v = .str s
  | isNull, v => ∃ b, v = .bool b
  | unknown _, _ => False

theorem mem_known_of_accepts {o : Op} {v : Value} (h : o.Accepts v) : o ∈ known := by
  cases o <;> simp_all [Accepts, known]

end Op

theorem isScalar_iff {v : Value} : isScalar v = true ↔ Scalar v := by
  cases v with
  | int k n => cases k <;> simp [isScalar, Scalar]
  | _ => simp [isScalar, Scalar]

theorem isOk_ite {ε α : Type} {c : Prop} [Decidable c] {a : α} {e : ε} :
    (if c then Except.ok a else Except.error e : Except ε α).isOk = decide c := by
  split <;> simp_all [Except.toBool]

theorem checkValue_isOk_iff {f : String} {o : Op} {v : Value} (hk : o.isKnown) :
    (checkValue f o v).isOk ↔ o.Accepts v := by
  cases o with
  | unknown n => simp [Op.isKnown] at hk
  | oneOf => cases v <;> simp [checkValue, Op.Accepts, Except.toBool, isOk_ite, ← isScalar_iff]
  | between =>
    cases v with
    | list items =>
      rcases items with _ | ⟨a, _ | ⟨b, _ | ⟨c, rest⟩⟩⟩
      · simp [checkValue, Op.Accepts, Except.toBool]
      · simp [checkValue, Op.Accepts, Except.toBool]
      · simp [checkValue, Op.Accepts, isOk_ite, ← isScalar_iff]
      · simp [checkValue, Op.Accepts, Except.toBool]
    | _ => simp [checkValue, Op.Accepts, Except.toBool]
  | _ =>
    cases v with
    | int k n => cases k <;> simp [checkValue, Op.Accepts, Scalar, isScalar, Except.toBool]
    | _ => simp [checkValue, Op.Accepts, Scalar, isScalar, Except.toBool]

namespace Node

mutual

/-- The number of levels of a tree: one for a condition, one more than its highest child for
a group. -/
def height : Node → Nat
  | .cond .. => 1
  | .group _ cs => heightOf cs + 1

/-- The height of the highest of several trees; zero for none. -/
def heightOf : List Node → Nat
  | [] => 0
  | n :: ns => max n.height (heightOf ns)

end

mutual

/-- The logic word and the number of children of every group of a tree, depth first. -/
def groups : Node → List (Logic × Nat)
  | .cond .. => []
  | .group l cs => (l, cs.length) :: groupsOf cs

/-- The groups of several trees in order. -/
def groupsOf : List Node → List (Logic × Nat)
  | [] => []
  | n :: ns => groups n ++ groupsOf ns

end

mutual

theorem groups_joined : ∀ {n : Node}, n.wellFormed →
    ∀ g ∈ n.groups, (g.1 = .and ∨ g.1 = .or) ∧ 2 ≤ g.2
  | .cond .., _ => by simp [groups]
  | .group l cs, h => by
    simp only [wellFormed, Bool.and_eq_true, Bool.or_eq_true, beq_iff_eq, decide_eq_true_eq] at h
    obtain ⟨⟨hl, hlen⟩, hcs⟩ := h
    intro g hg
    rcases List.mem_cons.mp hg with rfl | hg
    · exact ⟨hl, hlen⟩
    · exact groupsOf_joined hcs g hg

theorem groupsOf_joined : ∀ {cs : List Node}, allWellFormed cs →
    ∀ g ∈ groupsOf cs, (g.1 = .and ∨ g.1 = .or) ∧ 2 ≤ g.2
  | [], _ => by simp [groupsOf]
  | n :: ns, h => by
    simp only [allWellFormed, Bool.and_eq_true] at h
    intro g hg
    rcases List.mem_append.mp hg with hg | hg
    · exact groups_joined h.1 g hg
    · exact groupsOf_joined h.2 g hg

end

mutual

theorem conditions_checked : ∀ {n : Node}, n.wellFormed →
    ∀ c ∈ n.conditions, c.2.1.isKnown ∧ (checkValue c.1 c.2.1 c.2.2).isOk
  | .cond f o v, h => by
    simp only [wellFormed, Bool.and_eq_true] at h
    simpa [conditions] using h
  | .group l cs, h => by
    simp only [wellFormed, Bool.and_eq_true] at h
    exact conditionsOf_checked h.2

theorem conditionsOf_checked : ∀ {cs : List Node}, allWellFormed cs →
    ∀ c ∈ conditionsOf cs, c.2.1.isKnown ∧ (checkValue c.1 c.2.1 c.2.2).isOk
  | [], _ => by simp [conditionsOf]
  | n :: ns, h => by
    simp only [allWellFormed, Bool.and_eq_true] at h
    intro c hc
    rcases List.mem_append.mp hc with hc | hc
    · exact conditions_checked h.1 c hc
    · exact conditionsOf_checked h.2 c hc

end

theorem foldl_dedup_eq (xs acc : List String) :
    xs.foldl (fun acc x => if acc.contains x then acc else acc ++ [x]) acc =
      acc ++ (xs.filter fun x => !acc.contains x).eraseDups := by
  induction xs generalizing acc with
  | nil => simp
  | cons y ys ih =>
    rw [List.foldl_cons, ih]
    by_cases hy : y ∈ acc
    · simp [hy]
    · rw [if_neg (by simpa using hy), List.filter_cons_of_pos (by simpa using hy), List.eraseDups_cons,
        List.filter_filter, List.append_assoc, List.singleton_append]
      congr 3
      apply List.filter_congr
      intro x _
      by_cases hx : x = y <;> simp [hx, hy]

theorem fields_eq_eraseDups (n : Node) :
    fields (some n) = (n.conditions.map Prod.fst).eraseDups := by
  unfold fields
  dsimp only
  rw [foldl_dedup_eq]
  simp

end Node

/-! ### What one step of the parser can do -/

theorem condition_cases {count : Nat} {field rawOp : String} {v : Value} {r : Node × Nat}
    (h : condition L count field rawOp v = .ok r) :
    ∃ op w, r = (.cond field op w, count + 1) ∧ count + 1 ≤ maxConditions := by
  simp only [condition] at h
  by_cases hmax : maxConditions < count + 1
  · simp [hmax, bind, Except.bind] at h
  by_cases hfield : field ∈ L
  case neg => simp [hmax, hfield, bind, Except.bind] at h
  by_cases hop : (Op.ofName (Text.trim rawOp).lowerCase).isKnown = true
  case neg => simp [hmax, hfield, hop, bind, Except.bind] at h
  have hcontains : L.contains field = true := by simpa using hfield
  simp only [hmax, hcontains, hop, if_false, Bool.not_true, Bool.false_eq_true] at h
  obtain ⟨u, -, h⟩ := bind_eq_ok.mp h
  exact ⟨_, _, (Except.ok.inj h).symm, Nat.le_of_not_lt hmax⟩

theorem readNode_cases {room count : Nat} {v : Value} {r : Node × Nat}
    (h : readNode L (room + 1) count v = .ok r) :
    (∃ logic items, readGroup L room count logic items = .ok r) ∨
      ∃ field rawOp w, condition L count field rawOp w = .ok r := by
  cases v with
  | obj entries =>
    rw [readNode] at h
    split at h
    · split at h
      · simp at h
      · split at h
        · exact .inl ⟨_, _, h⟩
        · simp at h
    · by_cases hf : (stringField entries "field").isEmpty = true
      · simp [hf] at h
      · simp only [hf, Bool.false_eq_true, if_false] at h
        exact .inr ⟨_, _, _, h⟩
  | _ => simp [readNode] at h

theorem readGroup_cases {room count : Nat} {logic : Logic} {items : List Value} {r : Node × Nat}
    (h : readGroup L room count logic items = .ok r) :
    ∃ children, items ≠ [] ∧ readChildren L room count items = .ok (children, r.2) ∧
      (children = [r.1] ∨ (∀ c, children ≠ [c]) ∧ r.1 = .group logic children) := by
  rw [readGroup] at h
  split at h
  · simp at h
  · rename_i hne
    obtain ⟨⟨children, c⟩, hch, h⟩ := bind_eq_ok.mp h
    refine ⟨children, by simpa using hne, ?_⟩
    dsimp only at h
    split at h
    · cases h
      exact ⟨hch, .inl rfl⟩
    · rename_i cs hcs
      cases h
      exact ⟨hch, .inr ⟨hcs, rfl⟩⟩

theorem readChildren_nil {room count : Nat} : readChildren L room count [] = .ok ([], count) := by
  rw [readChildren]

theorem readChildren_cons_cases {room count : Nat} {item : Value} {rest : List Value}
    {r : List Node × Nat} (h : readChildren L room count (item :: rest) = .ok r) :
    ∃ n c ns, readNode L room count item = .ok (n, c) ∧ readChildren L room c rest = .ok (ns, r.2) ∧
      r.1 = n :: ns := by
  rw [readChildren] at h
  obtain ⟨⟨n, c⟩, hn, h⟩ := bind_eq_ok.mp h
  obtain ⟨⟨ns, c'⟩, hns, h⟩ := bind_eq_ok.mp h
  cases h
  exact ⟨n, c, ns, hn, hns, rfl⟩

theorem readTerms_cons_cases {count : Nat} {term : String} {rest : List String} {ns : List Node}
    (h : readTerms L count (term :: rest) = .ok ns) :
    readTerms L count rest = .ok ns ∨
      ∃ field rawOp w n c ns', condition L count field rawOp w = .ok (n, c) ∧
        readTerms L c rest = .ok ns' ∧ ns = n :: ns' := by
  rw [readTerms] at h
  dsimp only at h
  -- a blank term is skipped; otherwise it is `field:op:value` or `field:isnull`
  split at h
  · exact .inl h
  · have step : ∀ {F O : String} {V : Value}, (condition L count F O V >>= fun x =>
        readTerms L x.2 rest >>= fun ns => .ok (x.1 :: ns)) = .ok ns →
        ∃ field rawOp w n c ns', condition L count field rawOp w = .ok (n, c) ∧
          readTerms L c rest = .ok ns' ∧ ns = n :: ns' := by
      intro F O V h
      obtain ⟨⟨n, c⟩, hn, h⟩ := bind_eq_ok.mp h
      obtain ⟨ns', hns, h⟩ := bind_eq_ok.mp h
      exact ⟨F, O, V, n, c, ns', hn, hns, (Except.ok.inj h).symm⟩
    split at h
    · exact .inr (step h)
    · split at h
      · exact .inr (step h)
      · simp at h
    · simp at h

/-! ### Height and number of conditions -/

/-- What a read with `room` levels gives, starting from `count` conditions: a tree at most
`room` levels high, whose conditions are all the count took in, the count within the bound. -/
def Fits (room count : Nat) (r : Node × Nat) : Prop :=
  r.1.height ≤ room ∧ r.2 = count + r.1.conditions.length ∧ r.2 ≤ maxConditions

theorem condition_fits {room count : Nat} {field rawOp : String} {v : Value} {r : Node × Nat}
    (h : condition L count field rawOp v = .ok r) : Fits (room + 1) count r := by
  obtain ⟨op, w, rfl, hmax⟩ := condition_cases h
  simp [Fits, Node.height, Node.conditions, hmax]

section Room

variable {room : Nat} (hnode : ∀ count v r, readNode L room count v = .ok r → Fits room count r)
include hnode

theorem readChildren_fits (items : List Value) :
    ∀ {count : Nat} {r : List Node × Nat}, readChildren L room count items = .ok r →
      Node.heightOf r.1 ≤ room ∧ r.2 = count + (Node.conditionsOf r.1).length ∧
        (r.1 ≠ [] → r.2 ≤ maxConditions) ∧ r.1.length = items.length := by
  induction items with
  | nil =>
    intro count r h
    rw [readChildren_nil] at h
    cases h
    simp [Node.heightOf, Node.conditionsOf]
  | cons item rest ih =>
    intro count r h
    obtain ⟨n, c, ns, hn, hns, hr⟩ := readChildren_cons_cases h
    obtain ⟨hheight, hcount, hmax⟩ := hnode _ _ _ hn
    obtain ⟨hheight', hcount', hmax', hlen⟩ := ih hns
    dsimp only at hheight hcount hmax hheight' hcount' hmax' hlen
    rw [hr]
    refine ⟨Nat.max_le.mpr ⟨hheight, hheight'⟩, ?_, fun _ => ?_, by simp [hlen]⟩
    · simp only [Node.conditionsOf, List.length_append]
      omega
    · rcases ns with _ | ⟨m, ms⟩
      · simp only [Node.conditionsOf, List.length_nil] at hcount'
        omega
      · exact hmax' (List.cons_ne_nil m ms)

theorem readGroup_fits {count : Nat} {logic : Logic} {items : List Value} {r : Node × Nat}
    (h : readGroup L room count logic items = .ok r) : Fits (room + 1) count r := by
  obtain ⟨children, hne, hch, hshape⟩ := readGroup_cases h
  obtain ⟨hheight, hcount, hmax, hlen⟩ := readChildren_fits hnode items hch
  have hchildren : children ≠ [] := fun hnil => hne (List.length_eq_zero_iff.mp (by simp_all))
  rcases hshape with rfl | ⟨-, hr⟩
  · simp only [Node.heightOf, Node.conditionsOf, List.append_nil] at hheight hcount
    exact ⟨by omega, hcount, hmax hchildren⟩
  · rw [Fits, hr]
    exact ⟨by simp [Node.height, hheight], by simpa [Node.conditions] using hcount,
      hmax hchildren⟩

end Room

theorem readNode_fits (room : Nat) :
    ∀ count v r, readNode L room count v = .ok r → Fits room count r := by
  induction room with
  | zero => intro count v r h; simp [readNode] at h
  | succ room ih =>
    intro count v r h
    rcases readNode_cases h with ⟨logic, items, hg⟩ | ⟨field, rawOp, w, hc⟩
    · exact readGroup_fits ih hg
    · exact condition_fits hc

theorem readTerms_fits (terms : List String) :
    ∀ {count : Nat} {ns : List Node}, readTerms L count terms = .ok ns →
      Node.heightOf ns ≤ 1 ∧ count + (Node.conditionsOf ns).length ≤ max count maxConditions := by
  induction terms with
  | nil =>
    intro count ns h
    rw [readTerms] at h
    cases h
    simp [Node.heightOf, Node.conditionsOf]
  | cons term rest ih =>
    intro count ns h
    rcases readTerms_cons_cases h with h | ⟨field, rawOp, w, n, c, ns', hn, hns, rfl⟩
    · exact ih h
    · obtain ⟨op, v, hr, hmax⟩ := condition_cases hn
      cases hr
      obtain ⟨hheight, hcount⟩ := ih hns
      refine ⟨by simp [Node.heightOf, Node.height, hheight], ?_⟩
      simp only [Node.conditionsOf, Node.conditions, List.length_append, List.length_singleton]
      omega

theorem ofTerms_fits {raw : String} {n : Node} (h : ofTerms raw L = .ok (some n)) :
    n.height ≤ maxDepth ∧ n.conditions.length ≤ maxConditions := by
  rw [ofTerms] at h
  obtain ⟨nodes, hnodes, h⟩ := bind_eq_ok.mp h
  obtain ⟨hheight, hcount⟩ := readTerms_fits _ hnodes
  split at h
  · simp at h
  · cases h
    simp only [Node.heightOf, Node.conditionsOf, List.append_nil] at hheight hcount
    exact ⟨by simp [maxDepth]; omega, by simpa using hcount⟩
  · cases h
    exact ⟨by simp [Node.height, maxDepth]; omega, by simpa [Node.conditions] using hcount⟩

theorem ofValue_fits {v : Value} {n : Node} (h : ofValue v L = .ok (some n)) :
    n.height ≤ maxDepth ∧ n.conditions.length ≤ maxConditions := by
  unfold ofValue at h
  split at h
  · simp at h
  · obtain ⟨r, hg, hr⟩ := map_eq_ok.mp h
    cases hr
    obtain ⟨hheight, hcount, hmax⟩ := readGroup_fits (readNode_fits _) hg
    exact ⟨hheight, by omega⟩
  · simp at h
  · obtain ⟨r, hg, hr⟩ := map_eq_ok.mp h
    cases hr
    obtain ⟨hheight, hcount, hmax⟩ := readNode_fits _ _ _ _ hg
    exact ⟨hheight, by omega⟩

theorem parse_fits {raw : String} {n : Node} (h : parse raw L = .ok (some n)) :
    n.height ≤ maxDepth ∧ n.conditions.length ≤ maxConditions := by
  rw [parse] at h
  split at h
  · simp at h
  · split at h
    · split at h
      · simp at h
      · exact ofValue_fits h
    · exact ofTerms_fits h

/-! ### The whole promise -/

/-- Everything the parser promises of a filter it returns. -/
structure Parsed (L : List String) (n : Node) : Prop where
  /-- Every condition names an allowed field. -/
  allowed : ∀ c ∈ n.conditions, c.1 ∈ L
  /-- Every condition's operator is a known one and accepts the condition's value. -/
  accepts : ∀ c ∈ n.conditions, c.2.1 ∈ Op.known ∧ c.2.1.Accepts c.2.2
  /-- Every group is joined by `and` or `or` over two children or more. -/
  joined : ∀ g ∈ n.groups, (g.1 = .and ∨ g.1 = .or) ∧ 2 ≤ g.2
  height_le : n.height ≤ maxDepth
  count_le : n.conditions.length ≤ maxConditions
  /-- The distinct fields are the conditions' fields in order of first appearance. -/
  fields_eq : Node.fields (some n) = (n.conditions.map Prod.fst).eraseDups

theorem parsed_of_built {n : Node} (hb : Built L n) (hheight : n.height ≤ maxDepth)
    (hcount : n.conditions.length ≤ maxConditions) : Parsed L n where
  allowed := hb.2
  accepts c hc := by
    obtain ⟨hk, hok⟩ := Node.conditions_checked hb.1 c hc
    have hacc := (checkValue_isOk_iff hk).mp hok
    exact ⟨Op.mem_known_of_accepts hacc, hacc⟩
  joined := Node.groups_joined hb.1
  height_le := hheight
  count_le := hcount
  fields_eq := Node.fields_eq_eraseDups n

/-- Every filter read, from text or from a decoded document, is one the parser promises: on
allowed fields, each operator known and accepting its value, each group joined by `and` or
`or` over two children or more, at most `maxDepth` levels and `maxConditions` conditions,
and its distinct fields in order of first appearance. -/
theorem read_filters_parsed (L : List String) :
    (∀ raw n, parse raw L = .ok (some n) → Parsed L n) ∧
      ∀ v n, ofValue v L = .ok (some n) → Parsed L n := by
  constructor
  · intro raw n h
    obtain ⟨hheight, hcount⟩ := parse_fits h
    exact parsed_of_built (parse_built h n rfl) hheight hcount
  · intro v n h
    obtain ⟨hheight, hcount⟩ := ofValue_fits h
    exact parsed_of_built (ofValue_built h n rfl) hheight hcount

/-- A document `{"or": [{"field": "id", "op": "IN", "value": ["a", "b"]}, {"field": "name",
"op": "isnull"}]}`: its list of strings becomes a list and its missing value `true`. -/
theorem read_filters_parsed_or :
    ofValue (.obj [("or", .list [.obj [("field", .str "id"), ("op", .str "IN"),
        ("value", .strings ["a", "b"])], .obj [("field", .str "name"), ("op", .str "isnull")]])])
      ["id", "name"] = .ok (some (.group .or [.cond "id" .oneOf (.list [.str "a", .str "b"]),
        .cond "name" .isNull (.bool true)])) ∧
    Parsed ["id", "name"] (.group .or [.cond "id" .oneOf (.list [.str "a", .str "b"]),
      .cond "name" .isNull (.bool true)]) :=
  have h : ofValue (.obj [("or", .list [.obj [("field", .str "id"), ("op", .str "IN"),
      ("value", .strings ["a", "b"])], .obj [("field", .str "name"), ("op", .str "isnull")]])])
      ["id", "name"] = .ok (some (.group .or [.cond "id" .oneOf (.list [.str "a", .str "b"]),
        .cond "name" .isNull (.bool true)])) := by cbv
  ⟨h, (read_filters_parsed ["id", "name"]).2 _ _ h⟩

end RowGate.Filter

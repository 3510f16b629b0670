import Mathlib.Data.List.Nodup
import RowGate.Proofs.Filter.WellFormed
/-!
# What the filter parser builds

Every filter the parser accepts is well formed and names allowed fields only, and a larger
allowed list never refuses more.
-/

namespace RowGate.Filter

variable {L : List String}

/-- What the parser builds a filter of: well-formed trees on allowed fields. -/
def Built (L : List String) (n : Node) : Prop := n.wellFormed ∧ n.fieldsWithin L

theorem condition_built {count : Nat} {field rawOp : String} {v : Value} {n : Node} {c : Nat}
    (h : condition L count field rawOp v = .ok (n, c)) : Built L n := by
  simp only [condition] at h
  by_cases hmax : maxConditions < count + 1
  · simp [hmax, bind, Except.bind] at h
  by_cases hfield : field ∈ L
  case neg => simp [hmax, hfield, bind, Except.bind] at h
  by_cases hop : (Op.ofName (Text.trim rawOp).lowerCase).isKnown = true
  case neg => simp [hmax, hfield, hop, bind, Except.bind] at h
  have hcontains : L.contains field = true := by simpa using hfield
  simp only [hmax, hcontains, hop, if_false, Bool.not_true, Bool.false_eq_true] at h
  obtain ⟨u, hcv, h⟩ := bind_eq_ok.mp h
  simp only [Except.ok.injEq, Prod.mk.injEq] at h
  obtain ⟨rfl, rfl⟩ := h
  refine ⟨by simp [Node.wellFormed, hop, hcv, Except.isOk, Except.toBool], ?_⟩
  intro c hc
  simp only [Node.conditions, List.mem_singleton] at hc
  exact hc ▸ hfield

theorem allWellFormed_iff (cs : List Node) : Node.allWellFormed cs ↔ ∀ n ∈ cs, n.wellFormed := by
  induction cs with
  | nil => simp [Node.allWellFormed]
  | cons n ns ih => simp [Node.allWellFormed, ih]

theorem mem_conditionsOf {c : String × Op × Value} (cs : List Node) :
    c ∈ Node.conditionsOf cs ↔ ∃ n ∈ cs, c ∈ n.conditions := by
  induction cs with
  | nil => simp [Node.conditionsOf]
  | cons n ns ih => simp [Node.conditionsOf, ih]

theorem built_group {l : Logic} {cs : List Node} (hl : l = .and ∨ l = .or) (hlen : 2 ≤ cs.length)
    (hcs : ∀ n ∈ cs, Built L n) : Built L (.group l cs) := by
  refine ⟨?_, ?_⟩
  · have hall : Node.allWellFormed cs := (allWellFormed_iff cs).2 fun n hn => (hcs n hn).1
    rcases hl with rfl | rfl <;> simp [Node.wellFormed, hlen, hall]
  · intro c hc
    obtain ⟨n, hn, hc⟩ := (mem_conditionsOf cs).1 hc
    exact (hcs n hn).2 c hc

mutual

theorem readNode_built : ∀ (room count : Nat) (v : Value) {n : Node} {c : Nat},
    readNode L room count v = .ok (n, c) → Built L n
  | 0, _, _, _, _, h => by simp [readNode] at h
  | room + 1, count, v, n, c, h => by
    cases v with
    | obj entries =>
      rw [readNode] at h
      split at h
      · rename_i logic children hgroup
        split at h
        · simp at h
        · split at h
          · rename_i items
            refine readGroup_built room count logic items ?_ h
            cases hand : Entries.get? entries "and" <;> simp [hand] at hgroup <;> simp [hgroup]
          · simp at h
      · by_cases hf : (stringField entries "field").isEmpty = true
        · simp [hf] at h
        · simp only [hf, Bool.false_eq_true, if_false] at h
          exact condition_built h
    | _ => simp [readNode] at h
termination_by room _ _ _ _ => (room, 0)

theorem readGroup_built : ∀ (room count : Nat) (logic : Logic) (items : List Value) {n : Node}
    {c : Nat}, (logic = .and ∨ logic = .or) → readGroup L room count logic items = .ok (n, c) →
    Built L n
  | room, count, logic, items, n, c, hl, h => by
    rw [readGroup] at h
    split at h
    · simp at h
    · rename_i hne
      obtain ⟨⟨children, count'⟩, hch, h⟩ := bind_eq_ok.mp h
      obtain ⟨hlen, hbuilt⟩ := readChildren_built room count items hch
      dsimp only at h
      split at h
      · simp only [Except.ok.injEq, Prod.mk.injEq] at h
        obtain ⟨rfl, -⟩ := h
        exact hbuilt _ (by simp)
      · rename_i cs hcs
        simp only [Except.ok.injEq, Prod.mk.injEq] at h
        obtain ⟨rfl, -⟩ := h
        refine built_group hl ?_ hbuilt
        rcases children with _ | ⟨a, _ | ⟨b, rest⟩⟩
        · simp only [List.length_nil] at hlen
          simp [List.eq_nil_of_length_eq_zero hlen.symm] at hne
        · exact absurd rfl (hcs a)
        · simp
termination_by room _ _ items _ _ => (room, items.length + 2)

theorem readChildren_built : ∀ (room count : Nat) (items : List Value) {ns : List Node} {c : Nat},
    readChildren L room count items = .ok (ns, c) → ns.length = items.length ∧ ∀ n ∈ ns, Built L n
  | room, count, [], ns, c, h => by
    rw [readChildren] at h
    simp only [Except.ok.injEq, Prod.mk.injEq] at h
    obtain ⟨rfl, -⟩ := h
    simp
  | room, count, item :: rest, ns, c, h => by
    rw [readChildren] at h
    obtain ⟨⟨n, count₁⟩, hn, h⟩ := bind_eq_ok.mp h
    obtain ⟨⟨ns', count₂⟩, hns, h⟩ := bind_eq_ok.mp h
    simp only [Except.ok.injEq, Prod.mk.injEq] at h
    obtain ⟨rfl, -⟩ := h
    obtain ⟨hlen, hbuilt⟩ := readChildren_built room count₁ rest hns
    refine ⟨by simp [hlen], ?_⟩
    intro m hm
    rcases List.mem_cons.mp hm with rfl | hm
    · exact readNode_built room count item hn
    · exact hbuilt m hm
termination_by room _ items _ _ => (room, items.length + 1)

end

theorem readTerms_step_built {count : Nat} {F O : String} {V : Value} {rest : List String}
    {ns : List Node} (ih : ∀ c {ns}, readTerms L c rest = .ok ns → ∀ n ∈ ns, Built L n)
    (h : (condition L count F O V >>= fun x =>
      readTerms L x.2 rest >>= fun ns => .ok (x.1 :: ns)) = .ok ns) :
    ∀ n ∈ ns, Built L n := by
  obtain ⟨⟨n, c⟩, hn, h⟩ := bind_eq_ok.mp h
  obtain ⟨ns', hns, h⟩ := bind_eq_ok.mp h
  simp only [Except.ok.injEq] at h
  subst h
  exact List.forall_mem_cons.2 ⟨condition_built hn, ih c hns⟩

theorem readTerms_built (terms : List String) :
    ∀ (count : Nat) {ns : List Node}, readTerms L count terms = .ok ns → ∀ n ∈ ns, Built L n := by
  induction terms with
  | nil =>
    intro count ns h
    simp only [readTerms, Except.ok.injEq] at h
    simp [← h]
  | cons term rest ih =>
    intro count ns h
    rw [readTerms] at h
    dsimp only at h
    -- a blank term is skipped; otherwise it is `field:op:value` or `field:isnull`
    split at h
    · exact ih count h
    · split at h
      · exact readTerms_step_built ih h
      · split at h
        · exact readTerms_step_built ih h
        · simp at h
      · simp at h

theorem ofTerms_built {raw : String} {f : Filter} (h : ofTerms raw L = .ok f) :
    ∀ n ∈ f, Built L n := by
  rw [ofTerms] at h
  obtain ⟨nodes, hnodes, h⟩ := bind_eq_ok.mp h
  have hb := readTerms_built _ 0 hnodes
  split at h
  · simp only [Except.ok.injEq] at h
    simp [← h]
  · simp only [Except.ok.injEq] at h
    intro n hn
    rw [← h, Option.mem_some_iff] at hn
    exact hn ▸ hb _ (by simp)
  · rename_i ns hne hsingle
    simp only [Except.ok.injEq] at h
    intro n hn
    rw [← h, Option.mem_some_iff] at hn
    subst hn
    refine built_group (Or.inl rfl) ?_ hb
    rcases nodes with _ | ⟨a, _ | ⟨b, rest⟩⟩
    · exact absurd rfl hne
    · exact absurd rfl (hsingle a)
    · simp

theorem ofValue_built {v : Value} {f : Filter} (h : ofValue v L = .ok f) :
    ∀ n ∈ f, Built L n := by
  unfold ofValue at h
  split at h
  · simp only [Except.ok.injEq] at h
    simp [← h]
  · obtain ⟨⟨n, c⟩, hg, rfl⟩ := map_eq_ok.mp h
    simpa using readGroup_built _ _ _ _ (Or.inl rfl) hg
  · simp only [Except.ok.injEq] at h
    simp [← h]
  · obtain ⟨⟨n, c⟩, hg, rfl⟩ := map_eq_ok.mp h
    simpa using readNode_built _ _ _ hg

theorem mem_dedup_foldl (xs acc : List String) (x : String) :
    x ∈ xs.foldl (fun acc x => if acc.contains x then acc else acc ++ [x]) acc ↔
      x ∈ acc ∨ x ∈ xs := by
  induction xs generalizing acc with
  | nil => simp
  | cons y ys ih =>
    rw [List.foldl_cons, ih]
    by_cases hy : y ∈ acc <;> simp [hy] <;> grind

theorem nodup_dedup_foldl (xs acc : List String) (h : acc.Nodup) :
    (xs.foldl (fun acc x => if acc.contains x then acc else acc ++ [x]) acc).Nodup := by
  induction xs generalizing acc with
  | nil => exact h
  | cons y ys ih =>
    rw [List.foldl_cons]
    by_cases hy : y ∈ acc
    · simpa [hy] using ih acc h
    · simpa [hy] using ih _ (by simpa using h.concat hy)

theorem mem_fields {n : Node} {x : String} :
    x ∈ Node.fields (some n) ↔ ∃ c ∈ n.conditions, c.1 = x := by
  unfold Node.fields
  dsimp only
  rw [mem_dedup_foldl]
  simp

theorem parse_built {raw : String} {f : Filter} (h : parse raw L = .ok f) : ∀ n ∈ f, Built L n := by
  rw [parse] at h
  split at h
  · simp only [Except.ok.injEq] at h
    simp [← h]
  · split at h
    · split at h
      · simp at h
      · exact ofValue_built h
    · exact ofTerms_built h

theorem parse_fields {raw : String} {f : Filter} (h : parse raw L = .ok f) :
    ∀ x ∈ Node.fields f, x ∈ L := by
  cases f with
  | none => simp [Node.fields]
  | some n =>
    intro x hx
    obtain ⟨c, hc, rfl⟩ := mem_fields.1 hx
    exact (parse_built h n rfl).2 c hc

section Mono

variable {L' : List String}

theorem condition_eq_of_mem {count : Nat} {field rawOp : String} {v : Value} (h : field ∈ L)
    (h' : field ∈ L') : condition L' count field rawOp v = condition L count field rawOp v := by
  simp [condition, h, h']

theorem condition_mono (hL : ∀ x ∈ L, x ∈ L') {count : Nat} {field rawOp : String} {v : Value}
    {r : Node × Nat} (h : condition L count field rawOp v = .ok r) :
    condition L' count field rawOp v = .ok r := by
  by_cases hfield : field ∈ L
  · rw [condition_eq_of_mem hfield (hL _ hfield), h]
  · by_cases hmax : maxConditions < count + 1 <;> simp [condition, hmax, hfield, bind, Except.bind] at h

mutual

theorem readNode_mono (hL : ∀ x ∈ L, x ∈ L') : ∀ (room count : Nat) (v : Value) {r : Node × Nat},
    readNode L room count v = .ok r → readNode L' room count v = .ok r
  | 0, _, _, _, h => by simp [readNode] at h
  | room + 1, count, v, r, h => by
    cases v with
    | obj entries =>
      rw [readNode] at h ⊢
      split at h
      · rename_i logic children hgroup
        split at h
        · simp at h
        · rename_i hlen
          rw [if_neg hlen]
          split at h
          · exact readGroup_mono hL room count logic _ h
          · simp at h
      · by_cases hf : (stringField entries "field").isEmpty = true
        · simp [hf] at h
        · simp only [hf, Bool.false_eq_true, if_false] at h ⊢
          exact condition_mono hL h
    | _ => simp [readNode] at h
termination_by room _ _ _ => (room, 0)

theorem readGroup_mono (hL : ∀ x ∈ L, x ∈ L') : ∀ (room count : Nat) (logic : Logic)
    (items : List Value) {r : Node × Nat},
    readGroup L room count logic items = .ok r → readGroup L' room count logic items = .ok r
  | room, count, logic, items, r, h => by
    rw [readGroup] at h ⊢
    split at h
    · simp at h
    · rename_i hne
      rw [if_neg hne]
      obtain ⟨cs, hch, h⟩ := bind_eq_ok.mp h
      rw [readChildren_mono hL room count items hch]
      exact h
termination_by room _ _ items _ => (room, items.length + 2)

theorem readChildren_mono (hL : ∀ x ∈ L, x ∈ L') : ∀ (room count : Nat) (items : List Value)
    {r : List Node × Nat},
    readChildren L room count items = .ok r → readChildren L' room count items = .ok r
  | room, count, [], r, h => by
    rw [readChildren] at h ⊢
    exact h
  | room, count, item :: rest, r, h => by
    rw [readChildren] at h ⊢
    obtain ⟨⟨n, count₁⟩, hn, h⟩ := bind_eq_ok.mp h
    obtain ⟨⟨ns, count₂⟩, hns, h⟩ := bind_eq_ok.mp h
    rw [readNode_mono hL room count item hn]
    show (readChildren L' room count₁ rest >>= _) = _
    rw [readChildren_mono hL room count₁ rest hns]
    exact h
termination_by room _ items _ => (room, items.length + 1)

end

theorem readTerms_step_mono (hL : ∀ x ∈ L, x ∈ L') {count : Nat} {F O : String} {V : Value}
    {rest : List String} {ns : List Node}
    (ih : ∀ c {ns}, readTerms L c rest = .ok ns → readTerms L' c rest = .ok ns)
    (h : (condition L count F O V >>= fun x =>
      readTerms L x.2 rest >>= fun ns => .ok (x.1 :: ns)) = .ok ns) :
    (condition L' count F O V >>= fun x =>
      readTerms L' x.2 rest >>= fun ns => .ok (x.1 :: ns)) = .ok ns := by
  obtain ⟨⟨n, c⟩, hn, h⟩ := bind_eq_ok.mp h
  obtain ⟨ns', hns, h⟩ := bind_eq_ok.mp h
  rw [condition_mono hL hn]
  show (readTerms L' c rest >>= _) = _
  rw [ih c hns]
  exact h

theorem readTerms_mono (hL : ∀ x ∈ L, x ∈ L') (terms : List String) :
    ∀ (count : Nat) {ns : List Node}, readTerms L count terms = .ok ns →
      readTerms L' count terms = .ok ns := by
  induction terms with
  | nil => exact fun _ _ h => h
  | cons term rest ih =>
    intro count ns h
    rw [readTerms] at h ⊢
    dsimp only at h ⊢
    by_cases hempty : (Text.trim term).isEmpty = true
    · rw [if_pos hempty] at h ⊢
      exact ih count h
    rw [if_neg hempty] at h ⊢
    generalize splitTerm (Text.trim term) = parts at h ⊢
    split at h
    · exact readTerms_step_mono hL ih h
    · rename_i o
      by_cases hnull : ((Text.trim o).lowerCase == "isnull") = true
      · rw [if_pos hnull] at h ⊢
        exact readTerms_step_mono hL ih h
      · simp [hnull] at h
    · simp at h

theorem ofValue_mono (hL : ∀ x ∈ L, x ∈ L') {v : Value} {f : Filter} (h : ofValue v L = .ok f) :
    ofValue v L' = .ok f := by
  unfold ofValue at h ⊢
  split at h
  · exact h
  · obtain ⟨r, hg, rfl⟩ := map_eq_ok.mp h
    rw [readGroup_mono hL _ _ _ _ hg]
    rfl
  · exact h
  · obtain ⟨r, hg, rfl⟩ := map_eq_ok.mp h
    rw [readNode_mono hL _ _ _ hg]
    rfl

theorem parse_mono (hL : ∀ x ∈ L, x ∈ L') {raw : String} {f : Filter} (h : parse raw L = .ok f) :
    parse raw L' = .ok f := by
  rw [parse] at h ⊢
  generalize (Text.trim raw).toList = cs at h ⊢
  split at h
  · exact h
  · rename_i c _
    by_cases hdoc : (c == '{' || c == '[') = true
    · rw [if_pos hdoc] at h ⊢
      generalize decodeDocument (Text.trim raw) = d at h ⊢
      split at h
      · simp at h
      · exact ofValue_mono hL h
    · rw [if_neg hdoc] at h ⊢
      rw [ofTerms] at h ⊢
      obtain ⟨nodes, hnodes, h⟩ := bind_eq_ok.mp h
      rw [readTerms_mono hL _ _ hnodes]
      exact h

end Mono

theorem parse_rejects {L' : List String} {raw : String} {f : Filter} {x : String}
    (h : parse raw L' = .ok f) (hx : x ∈ Node.fields f) (hxL : x ∉ L) :
    ∃ e, parse raw L = .error e := by
  cases hp : parse raw L with
  | error e => exact ⟨e, rfl⟩
  | ok g =>
    have h₁ : parse raw (L ++ L') = .ok f := parse_mono (fun y hy => List.mem_append_right L hy) h
    have h₂ : parse raw (L ++ L') = .ok g := parse_mono (fun y hy => List.mem_append_left L' hy) hp
    have hfg : f = g := Except.ok.inj (h₁.symm.trans h₂)
    exact absurd (parse_fields hp x (hfg ▸ hx)) hxL

end RowGate.Filter

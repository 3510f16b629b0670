import Mathlib
import RowGate.Policy.Row
import RowGate.Proofs.Policy.Render
/-!
# Checking templates when they are written

A template whose names hold no placeholders and whose probe reads is accepted and gives filters
failing only on values; the check misses fields after a forgiven error.
-/

namespace RowGate

@[simp] theorem Fault.code_new (c : Code) (m : String) : (Fault.new c m).code = c := by
  simp [Fault.code, Fault.new, Fault.firstCoded]

@[simp] theorem Filter.invalidValue_code (m : String) : (Filter.invalidValue m).code = .invalidFilterValue :=
  Fault.code_new _ _

end RowGate

namespace RowGate.Policy

open RowGate.Filter

/-! ### Two renderings with the same names -/

/-- Every object of a template writes its field and its operator without a placeholder. -/
inductive NamesFixed : Value → Prop
  | obj {es : List (String × Value)} : hasPlaceholders (stringField es "field") = false →
      hasPlaceholders (stringField es "op") = false → (∀ e ∈ es, NamesFixed e.2) →
      NamesFixed (.obj es)
  | list {vs : List Value} : (∀ v ∈ vs, NamesFixed v) → NamesFixed (.list vs)
  | plain {v : Value} : Plain v → NamesFixed v

/-- Two values of one shape that name the same fields and operators: objects with the same keys
whose `field` and `op` strings agree, lists of the same length, and leaves at the same places. -/
inductive SameNames : Value → Value → Prop
  | obj {ps rs : List (String × Value)} : ps.map Prod.fst = rs.map Prod.fst →
      List.Forall₂ SameNames (ps.map Prod.snd) (rs.map Prod.snd) →
      stringField ps "field" = stringField rs "field" → stringField ps "op" = stringField rs "op" →
      SameNames (.obj ps) (.obj rs)
  | list {ps rs : List Value} : List.Forall₂ SameNames ps rs → SameNames (.list ps) (.list rs)
  | plain {p r : Value} : Plain p → Plain r → SameNames p r

theorem get?_forall₂ {R : Value → Value → Prop} {ps rs : List (String × Value)}
    (hk : ps.map Prod.fst = rs.map Prod.fst)
    (hv : List.Forall₂ R (ps.map Prod.snd) (rs.map Prod.snd)) (k : String) :
    (Entries.get? ps k = none ∧ Entries.get? rs k = none) ∨
      ∃ a b, Entries.get? ps k = some a ∧ Entries.get? rs k = some b ∧ R a b := by
  induction ps generalizing rs with
  | nil =>
    cases rs with
    | nil => simp [Entries.get?]
    | cons => simp at hk
  | cons p ps ih =>
    cases rs with
    | nil => simp at hk
    | cons r rs =>
      simp only [List.map_cons, List.cons.injEq] at hk
      rw [List.map_cons, List.map_cons, List.forall₂_cons] at hv
      by_cases hp : p.1 = k
      · have hr : r.1 = k := hk.1 ▸ hp
        exact .inr ⟨p.2, r.2, by simp [Entries.get?, hp], by simp [Entries.get?, hr], hv.1⟩
      · have hr : ¬ r.1 = k := hk.1 ▸ hp
        simpa [Entries.get?, hp, hr] using ih hk.2 hv.2

theorem stringField_of_renders {context : Value} {es rs : List (String × Value)}
    (hk : es.map Prod.fst = rs.map Prod.fst)
    (hv : List.Forall₂ (Renders context) (es.map Prod.snd) (rs.map Prod.snd)) {k : String}
    (h : hasPlaceholders (stringField es k) = false) : stringField rs k = stringField es k := by
  rcases get?_forall₂ hk hv k with ⟨he, hr⟩ | ⟨a, b, he, hr, hab⟩
  · simp [stringField, he, hr]
  · cases a with
    | str s =>
      have hs : hasPlaceholders s = false := by simpa [stringField, he] using h
      rw [renders_str_iff, ← renderString_eq_ok_iff, renderString_of_hasPlaceholders hs] at hab
      cases hab
      simp [stringField, he, hr]
    | obj es' =>
      obtain ⟨rs', rfl, -⟩ := renders_obj_iff.1 hab
      simp [stringField, he, hr]
    | list vs =>
      obtain ⟨rs', rfl, -⟩ := renders_list_iff.1 hab
      simp [stringField, he, hr]
    | _ => cases hab; simp_all [stringField]

theorem sameNames_of_render {probe context : Value} (D : Value) :
    ∀ {P R : Value}, render probe D = .ok P → render context D = .ok R → NamesFixed D →
      SameNames P R := by
  induction D using render.induct
    (motive_2 := fun vs => ∀ {ps rs : List Value}, renderList probe vs = .ok ps →
      renderList context vs = .ok rs → (∀ v ∈ vs, NamesFixed v) → List.Forall₂ SameNames ps rs)
    (motive_3 := fun es => ∀ {ps rs : List (String × Value)}, renderEntries probe es = .ok ps →
      renderEntries context es = .ok rs → (∀ e ∈ es, NamesFixed e.2) →
      ps.map Prod.fst = rs.map Prod.fst ∧ List.Forall₂ SameNames (ps.map Prod.snd) (rs.map Prod.snd)) with
  | case1 es ih =>
    intro P R hP hR hnames
    obtain ⟨ps, hps, ⟨⟩⟩ := bind_eq_ok.1 hP
    obtain ⟨rs, hrs, ⟨⟩⟩ := bind_eq_ok.1 hR
    cases hnames with
    | obj hf ho hall =>
      obtain ⟨hkp, hvp⟩ := renderEntries_eq_ok_iff.1 hps
      obtain ⟨hkr, hvr⟩ := renderEntries_eq_ok_iff.1 hrs
      obtain ⟨hk, hv⟩ := ih hps hrs hall
      refine .obj hk hv ?_ ?_
      · rw [stringField_of_renders hkp hvp hf, stringField_of_renders hkr hvr hf]
      · rw [stringField_of_renders hkp hvp ho, stringField_of_renders hkr hvr ho]
    | plain hp => exact absurd rfl (hp.1 es)
  | case2 vs ih =>
    intro P R hP hR hnames
    obtain ⟨ps, hps, ⟨⟩⟩ := bind_eq_ok.1 hP
    obtain ⟨rs, hrs, ⟨⟩⟩ := bind_eq_ok.1 hR
    cases hnames with
    | list hall => exact .list (ih hps hrs hall)
    | plain hp => exact absurd rfl (hp.2 vs)
  | case3 s =>
    intro P R hP hR _
    rw [render, renderString_eq_ok_iff] at hP hR
    exact .plain hP.plain hR.plain
  | case4 v hobj hlist hstr =>
    intro P R hP hR _
    rw [render.eq_4 _ v hobj hlist hstr] at hP hR
    cases hP
    cases hR
    exact .plain ⟨fun es h => hobj es h, fun vs h => hlist vs h⟩
      ⟨fun es h => hobj es h, fun vs h => hlist vs h⟩
  | case5 =>
    rename_i ps rs hP hR _
    simp only [renderList, Except.ok.injEq] at hP hR
    subst hP hR
    exact .nil
  | case6 v rest ih ihs =>
    rename_i ps rs hP hR hall
    rw [renderList] at hP hR
    obtain ⟨p, ps', hp, hps', rfl⟩ := bind_bind_eq_ok.1 hP
    obtain ⟨r, rs', hr, hrs', rfl⟩ := bind_bind_eq_ok.1 hR
    exact .cons (ih hp hr (hall v (List.mem_cons_self ..)))
      (ihs hps' hrs' fun w hw => hall w (List.mem_cons_of_mem _ hw))
  | case7 =>
    rename_i ps rs hP hR _
    simp only [renderEntries, Except.ok.injEq] at hP hR
    subst hP hR
    exact ⟨rfl, .nil⟩
  | case8 k v rest ih ihs =>
    rename_i ps rs hP hR hall
    rw [renderEntries] at hP hR
    obtain ⟨p, ps', hp, hps', rfl⟩ := bind_bind_eq_ok.1 hP
    obtain ⟨r, rs', hr, hrs', rfl⟩ := bind_bind_eq_ok.1 hR
    obtain ⟨hk, hv⟩ := ihs hps' hrs' fun e he => hall e (List.mem_cons_of_mem _ he)
    refine ⟨by simp [hk], ?_⟩
    simp only [List.map_cons]
    exact .cons (ih hp hr (hall (k, v) (List.mem_cons_self ..))) hv

/-! ### Reading two renderings alike -/

/-- What a read gives where the read of a rendering with the same names counted `c` conditions:
the same count, or an error about a value. -/
def ReadsLike {α : Type} (r : Except Fault (α × Nat)) (c : Nat) : Prop :=
  (∃ a, r = .ok (a, c)) ∨ ∃ e, r = .error e ∧ e.code = .invalidFilterValue

theorem checkValue_error_code {field : String} {op : Op} {v : Value} {e : Fault}
    (h : checkValue field op v = .error e) : e.code = .invalidFilterValue := by
  cases op <;> simp only [checkValue] at h <;> (try split at h) <;> (try split at h) <;>
    first | (cases h; exact invalidValue_code _) | cases h

theorem condition_readsLike {C : List String} {count : Nat} {field rawOp : String} {v : Value}
    {n : Node} {c : Nat} (h : condition C count field rawOp v = .ok (n, c)) (w : Value) :
    ReadsLike (condition C count field rawOp w) c := by
  simp only [condition] at h ⊢
  by_cases hmax : maxConditions < count + 1
  · simp [hmax, bind, Except.bind] at h
  by_cases hfield : field ∈ C
  case neg => simp [hmax, hfield, bind, Except.bind] at h
  by_cases hop : (Op.ofName (Text.trim rawOp).lowerCase).isKnown = true
  case neg => simp [hmax, hfield, hop, bind, Except.bind] at h
  have hcontains : C.contains field = true := by simpa using hfield
  simp only [hmax, hcontains, hop, if_false, Bool.not_true, Bool.false_eq_true] at h ⊢
  obtain ⟨_, _, h⟩ := bind_eq_ok.1 h
  simp only [Except.ok.injEq, Prod.mk.injEq] at h
  obtain ⟨-, rfl⟩ := h
  rcases hw : checkValue field (Op.ofName (Text.trim rawOp).lowerCase) (normalize w) with e | u
  · exact .inr ⟨e, rfl, checkValue_error_code hw⟩
  · exact .inl ⟨_, rfl⟩

theorem readNode_of_not_obj {C : List String} {room count : Nat} {v : Value}
    (hv : ∀ es, v ≠ .obj es) :
    readNode C (room + 1) count v = .error (invalidValue "filter node must be an object") := by
  rw [readNode]
  exact fun es h => hv es h

section Reads

variable {C : List String}

mutual

theorem readNode_readsLike : ∀ (room count : Nat) {p r : Value} {n : Node} {c : Nat},
    SameNames p r → readNode C room count p = .ok (n, c) → ReadsLike (readNode C room count r) c
  | 0, _, _, _, _, _, _, h => by simp [readNode] at h
  | room + 1, count, p, r, n, c, hpr, h => by
    cases hpr with
    | obj hk hv hfield hop =>
      rename_i ps rs
      have hlen : rs.length = ps.length := by simpa using (congrArg List.length hk).symm
      rw [readNode] at h ⊢
      rw [hlen, ← hfield, ← hop]
      -- The node is a group under `and`, a group under `or`, or a condition, alike in both.
      rcases get?_forall₂ hk hv "and" with ⟨hpa, hra⟩ | ⟨a, b, hpa, hra, hab⟩
      · rcases get?_forall₂ hk hv "or" with ⟨hpo, hro⟩ | ⟨a, b, hpo, hro, hab⟩
        · simp only [hpa, hra, hpo, hro, Option.map_none] at h ⊢
          split at h
          · cases h
          · rename_i hne
            rw [if_neg hne]
            rcases get?_forall₂ hk hv "value" with ⟨hpv, hrv⟩ | ⟨_, _, hpv, hrv, -⟩
            · simp only [hpv, hrv] at h ⊢
              exact condition_readsLike h _
            · simp only [hpv, hrv] at h ⊢
              exact condition_readsLike h _
        · simp only [hpa, hra, hpo, hro, Option.map_some] at h ⊢
          exact readGroup_of_children room count hab h
      · simp only [hpa, hra] at h ⊢
        exact readGroup_of_children room count hab h
    | list hv => simp [readNode] at h
    | plain hp hr => simp [readNode_of_not_obj hp.1] at h
termination_by room => (room, 1)

theorem readGroup_of_children : ∀ (room count : Nat) {logic : Logic} {ps : List (String × Value)}
    {a b : Value} {n : Node} {c : Nat}, SameNames a b →
    (if (ps.length != 1) = true then Except.error (invalidValue "combinator node must have a single key")
      else match a with
        | .list items => readGroup C room count logic items
        | _ => Except.error (invalidValue (logic.name ++ " expects an array of conditions"))) = .ok (n, c) →
    ReadsLike (if (ps.length != 1) = true then Except.error (invalidValue "combinator node must have a single key")
      else match b with
        | .list items => readGroup C room count logic items
        | _ => Except.error (invalidValue (logic.name ++ " expects an array of conditions"))) c
  | room, count, logic, ps, a, b, n, c, hab, h => by
    split at h
    · cases h
    · rename_i hne
      rw [if_neg hne]
      cases hab with
      | list hitems => exact readGroup_readsLike room count hitems h
      | obj => cases h
      | plain ha hb =>
        split at h
        · exact absurd rfl (ha.2 _)
        · cases h
termination_by room => (room + 1, 0)

theorem readGroup_readsLike : ∀ (room count : Nat) {logic : Logic} {ps rs : List Value}
    {n : Node} {c : Nat}, List.Forall₂ SameNames ps rs →
    readGroup C room count logic ps = .ok (n, c) → ReadsLike (readGroup C room count logic rs) c
  | room, count, logic, ps, rs, n, c, hps, h => by
    cases hps with
    | nil => simp [readGroup] at h
    | cons hpr hrest =>
      rename_i p r ps' rs'
      rw [readGroup] at h ⊢
      simp only [List.isEmpty_cons, Bool.false_eq_true, if_false] at h ⊢
      obtain ⟨⟨children, count'⟩, hch, h⟩ := bind_eq_ok.1 h
      have hc : count' = c := by
        split at h <;> (simp only [Except.ok.injEq, Prod.mk.injEq] at h; exact h.2)
      subst hc
      rcases readChildren_readsLike room count (.cons hpr hrest) hch with ⟨ns, hns⟩ | ⟨e, he, hcode⟩
      · refine .inl ?_
        rw [hns]
        simp only [bind, Except.bind]
        split
        · exact ⟨_, rfl⟩
        · exact ⟨_, rfl⟩
      · exact .inr ⟨e, by rw [he]; rfl, hcode⟩
termination_by room _ _ ps => (room, ps.length + 3)

theorem readChildren_readsLike : ∀ (room count : Nat) {ps rs : List Value} {ns : List Node}
    {c : Nat}, List.Forall₂ SameNames ps rs →
    readChildren C room count ps = .ok (ns, c) → ReadsLike (readChildren C room count rs) c
  | room, count, ps, rs, ns, c, hps, h => by
    cases hps with
    | nil =>
      rw [readChildren] at h ⊢
      simp only [Except.ok.injEq, Prod.mk.injEq] at h
      exact .inl ⟨[], by rw [h.2]⟩
    | cons hpr hrest =>
      rename_i p r ps' rs'
      rw [readChildren] at h ⊢
      obtain ⟨⟨n, c₁⟩, hn, h⟩ := bind_eq_ok.1 h
      obtain ⟨⟨ns', c₂⟩, hns, h⟩ := bind_eq_ok.1 h
      simp only [Except.ok.injEq, Prod.mk.injEq] at h
      obtain ⟨-, rfl⟩ := h
      rcases readNode_readsLike room count hpr hn with ⟨n', hn'⟩ | ⟨e, he, hcode⟩
      · rcases readChildren_readsLike room c₁ hrest hns with ⟨ns'', hns''⟩ | ⟨e, he, hcode⟩
        · exact .inl ⟨n' :: ns'', by simp [hn', hns'', bind, Except.bind]⟩
        · exact .inr ⟨e, by simp [hn', he, bind, Except.bind], hcode⟩
      · exact .inr ⟨e, by simp [he, bind, Except.bind], hcode⟩
termination_by room _ ps => (room, ps.length + 2)

end

theorem ofValue_of_sameNames {p r : Value} (hpr : SameNames p r) {f} (h : ofValue p C = .ok f) :
    (∃ f', ofValue r C = .ok f') ∨ ∃ e, ofValue r C = .error e ∧ e.code = .invalidFilterValue := by
  cases hpr with
  | obj hk hv hf ho =>
    obtain ⟨⟨n, c⟩, hn, -⟩ := map_eq_ok.1 h
    rcases readNode_readsLike maxDepth 0 (.obj hk hv hf ho) hn with ⟨n', h'⟩ | ⟨e, he, hc⟩
    · exact .inl ⟨some n', by simp [ofValue, h', Except.map]⟩
    · exact .inr ⟨e, by simp [ofValue, he, Except.map], hc⟩
  | list hv =>
    cases hv with
    | nil => exact .inl ⟨none, rfl⟩
    | cons ha hrest =>
      obtain ⟨⟨n, c⟩, hn, -⟩ := map_eq_ok.1 h
      rcases readGroup_readsLike _ 0 (.cons ha hrest) hn with ⟨n', h'⟩ | ⟨e, he, hc⟩
      · exact .inl ⟨some n', by simp [ofValue, h', Except.map]⟩
      · exact .inr ⟨e, by simp [ofValue, he, Except.map], hc⟩
  | plain hp hr =>
    by_cases hrn : r = .null
    · exact .inl ⟨none, by simp [hrn, ofValue]⟩
    · refine .inr ⟨invalidValue "filter node must be an object", ?_, invalidValue_code _⟩
      unfold ofValue
      split
      · exact absurd rfl (hr.2 _)
      · exact absurd rfl (hr.2 _)
      · exact absurd rfl hrn
      · rw [show maxDepth = maxDepth - 1 + 1 from rfl, readNode_of_not_obj hr.1]
        rfl

end Reads

/-! ### What the check promises -/

/-- A template whose probe reads as a filter, with nothing forgiven, and whose conditions write
their fields and operators without placeholders, is accepted; and in every context its filter is
built, or rendering fails, or reading fails on a value, never on a field or an operator. -/
theorem probed_names_hold {template : String} {columns : List String} {D P : Value}
    (hD : decodeTemplate template = .ok D) (hnames : NamesFixed D)
    (hP : render (probeContext template) D = .ok P) (hparse : ∃ f, ofValue P columns = .ok f)
    (context : Value) :
    validateTemplate template columns = .ok () ∧
      ((∃ f, evaluate template context columns = .ok f) ∨
        (∃ e, render context D = .error e ∧ evaluate template context columns = .error e) ∨
        ∃ e, e.code = .invalidFilterValue ∧ evaluate template context columns =
          .error (.wrap .policyTemplateRender e "rendered row policy is not a valid filter")) := by
  obtain ⟨f, hf⟩ := hparse
  refine ⟨by simp [validateTemplate, hD, hP, hf, bind, Except.bind], ?_⟩
  rcases hR : render context D with e | R
  · exact .inr (.inl ⟨e, rfl, by simp [evaluate, hD, hR, bind, Except.bind]⟩)
  · rcases ofValue_of_sameNames (sameNames_of_render D hP hR hnames) hf with ⟨f', hf'⟩ | ⟨e, he, hc⟩
    · exact .inl ⟨f', by simp [evaluate, hD, hR, hf', bind, Except.bind]⟩
    · exact .inr (.inr ⟨e, hc, by simp [evaluate, hD, hR, he, bind, Except.bind]⟩)

/-- A template scoping rows to those its requester owns: its probe reads as a filter, so it is
accepted, and every request's value gives a filter or a value error. -/
theorem probed_names_hold_for_owner :
    (decodeTemplate "\x7b\"field\":\"owner\",\"op\":\"eq\",\"value\":\"{{uid}}\"\x7d" = .ok (.obj [("field", .str "owner"), ("op", .str "eq"), ("value", .str "{{uid}}")]) ∧ NamesFixed (.obj [("field", .str "owner"), ("op", .str "eq"), ("value", .str "{{uid}}")]) ∧
      render (probeContext "\x7b\"field\":\"owner\",\"op\":\"eq\",\"value\":\"{{uid}}\"\x7d") (.obj [("field", .str "owner"), ("op", .str "eq"), ("value", .str "{{uid}}")]) = .ok (.obj [("field", .str "owner"), ("op", .str "eq"), ("value", .str "uid")]) ∧ ∃ f, ofValue (.obj [("field", .str "owner"), ("op", .str "eq"), ("value", .str "uid")]) ["owner"] = .ok f) ∧
    (validateTemplate "\x7b\"field\":\"owner\",\"op\":\"eq\",\"value\":\"{{uid}}\"\x7d" ["owner"] = .ok () ∧
      ((∃ f, evaluate "\x7b\"field\":\"owner\",\"op\":\"eq\",\"value\":\"{{uid}}\"\x7d" (.obj [("uid", .bool true)]) ["owner"] = .ok f) ∨
        (∃ e, render (.obj [("uid", .bool true)]) (.obj [("field", .str "owner"), ("op", .str "eq"), ("value", .str "{{uid}}")]) = .error e ∧ evaluate "\x7b\"field\":\"owner\",\"op\":\"eq\",\"value\":\"{{uid}}\"\x7d" (.obj [("uid", .bool true)]) ["owner"] = .error e) ∨
        ∃ e, e.code = .invalidFilterValue ∧ evaluate "\x7b\"field\":\"owner\",\"op\":\"eq\",\"value\":\"{{uid}}\"\x7d" (.obj [("uid", .bool true)]) ["owner"] =
          .error (.wrap .policyTemplateRender e "rendered row policy is not a valid filter"))) := by
  have hD : decodeTemplate "\x7b\"field\":\"owner\",\"op\":\"eq\",\"value\":\"{{uid}}\"\x7d" = .ok (.obj [("field", .str "owner"), ("op", .str "eq"), ("value", .str "{{uid}}")]) := by cbv
  have hnames : NamesFixed (.obj [("field", .str "owner"), ("op", .str "eq"), ("value", .str "{{uid}}")]) := by
    refine .obj (by cbv) (by cbv) ?_
    intro e he
    simp only [List.mem_cons, List.not_mem_nil, or_false] at he
    rcases he with rfl | rfl | rfl <;> exact .plain (plain_of_isScalar rfl)
  have hP : render (probeContext "\x7b\"field\":\"owner\",\"op\":\"eq\",\"value\":\"{{uid}}\"\x7d") (.obj [("field", .str "owner"), ("op", .str "eq"), ("value", .str "{{uid}}")]) = .ok (.obj [("field", .str "owner"), ("op", .str "eq"), ("value", .str "uid")]) := by cbv
  have hparse : ∃ f, ofValue (.obj [("field", .str "owner"), ("op", .str "eq"), ("value", .str "uid")]) ["owner"] = .ok f := ⟨some (.cond "owner" .eq (.str "uid")), by cbv⟩
  exact ⟨⟨hD, hnames, hP, hparse⟩, probed_names_hold hD hnames hP hparse _⟩

/-! ### What the check misses -/

/-- The check accepts templates whose filters fail on a field. In the first, the probe's value
`"x"` does not fit `isnull`, which is forgiven, and the parser never reaches the unknown field
`zzz` of the next condition; a request with `x` true then fails on `zzz`. In the second, the field
`{{f}}` is checked as the column `f`, and a request with `f` naming another column fails. -/
theorem validation_misses_unknown_fields :
    (validateTemplate
        "[\x7b\"field\":\"a\",\"op\":\"isnull\",\"value\":\"{{x}}\"\x7d,\x7b\"field\":\"zzz\",\"op\":\"eq\",\"value\":true\x7d]"
        ["a"] = .ok () ∧
      evaluate
        "[\x7b\"field\":\"a\",\"op\":\"isnull\",\"value\":\"{{x}}\"\x7d,\x7b\"field\":\"zzz\",\"op\":\"eq\",\"value\":true\x7d]"
        (.obj [("x", .bool true)]) ["a"] =
        .error (.wrap .policyTemplateRender
          (.new .invalidFilterField ("unknown filter field " ++ Text.quote "zzz"))
          "rendered row policy is not a valid filter")) ∧
    (validateTemplate "\x7b\"field\":\"{{f}}\",\"op\":\"eq\",\"value\":true\x7d" ["f"] = .ok () ∧
      evaluate "\x7b\"field\":\"{{f}}\",\"op\":\"eq\",\"value\":true\x7d" (.obj [("f", .str "g")]) ["f"] =
        .error (.wrap .policyTemplateRender
          (.new .invalidFilterField ("unknown filter field " ++ Text.quote "g"))
          "rendered row policy is not a valid filter")) := by
  refine ⟨⟨?_, ?_⟩, ?_, ?_⟩ <;> cbv

end RowGate.Policy

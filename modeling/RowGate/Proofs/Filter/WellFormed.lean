import RowGate.Filter.Parse
/-!
# Well-formed filters

The trees the parser builds: known operators over values of their shape, groups of two
children or more.
-/

namespace RowGate

theorem bind_eq_ok {ε α β : Type} {x : Except ε α} {f : α → Except ε β} {b : β} :
    x >>= f = .ok b ↔ ∃ a, x = .ok a ∧ f a = .ok b := by
  cases x <;> simp [bind, Except.bind]

theorem map_eq_ok {ε α β : Type} {x : Except ε α} {g : α → β} {b : β} :
    x.map g = .ok b ↔ ∃ a, x = .ok a ∧ g a = b := by
  cases x <;> simp [Except.map]

namespace Filter

namespace Node

mutual

/-- Whether a tree is one the parser builds. -/
def wellFormed : Node → Bool
  | .cond f o v => o.isKnown && (checkValue f o v).isOk
  | .group l cs => (l == .and || l == .or) && 2 ≤ cs.length && allWellFormed cs

/-- Whether every tree of a list is well formed. -/
def allWellFormed : List Node → Bool
  | [] => true
  | n :: ns => n.wellFormed && allWellFormed ns

end

/-- Whether every condition of a tree is on a field of `allowed`. -/
def fieldsWithin (allowed : List String) (n : Node) : Prop :=
  ∀ c ∈ n.conditions, c.1 ∈ allowed

theorem both_none (a : Filter) : both a none = a := by
  cases a <;> rfl

theorem both_some_some (a b : Node) : both (some a) (some b) = some (.group .and [a, b]) := rfl

end Node

theorem list_of_checkValue_oneOf {f : String} {v : Value} (h : (checkValue f .oneOf v).isOk) :
    ∃ items, v = .list items := by
  cases v <;> simp_all [checkValue, Except.isOk, Except.toBool]

theorem pair_of_checkValue_between {f : String} {v : Value} (h : (checkValue f .between v).isOk) :
    ∃ lo hi, v = .list [lo, hi] := by
  cases v with
  | list items =>
    match items, h with
    | [lo, hi], _ => exact ⟨lo, hi, rfl⟩
  | _ => simp_all [checkValue, Except.isOk, Except.toBool]

theorem bool_of_checkValue_isNull {f : String} {v : Value} (h : (checkValue f .isNull v).isOk) :
    ∃ b, v = .bool b := by
  cases v <;> simp_all [checkValue, Except.isOk, Except.toBool]

theorem ne_null_of_checkValue {f : String} {o : Op} {v : Value}
    (ho : o = .gt ∨ o = .gte ∨ o = .lt ∨ o = .lte) (h : (checkValue f o v).isOk) : v ≠ .null := by
  rintro rfl
  rcases ho with rfl | rfl | rfl | rfl <;>
    simp [checkValue, isScalar, Except.isOk, Except.toBool] at h

end Filter

end RowGate

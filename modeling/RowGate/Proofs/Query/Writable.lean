import Mathlib
import RowGate.Proofs.Sql.Statement
import RowGate.Proofs.Filter.Parsed
import RowGate.Query.Builder
import RowGate.Policy.Row
/-!
# Every request made of parsed filters is planned

The builders refuse only unknown operators and `between` without a pair; parsed filters, row
policy scopes and the condition that matches nothing have neither.
-/

namespace RowGate.Filter

/-- Whether the builders write a condition of this operator on this value: every known operator
is written, `between` only on two values. -/
def Op.writes (o : Op) (v : Value) : Bool :=
  match o with
  | .between => (v matches .list [_, _])
  | .unknown _ => false
  | _ => true

namespace Node

mutual

/-- Whether the builders write every condition of a tree. -/
def writable : Node → Bool
  | .cond _ o v => o.writes v
  | .group _ cs => allWritable cs

/-- Whether every tree of a list is writable. -/
def allWritable : List Node → Bool
  | [] => true
  | n :: ns => n.writable && allWritable ns

end

/-- Joining two filters keeps exactly what each of them writes. -/
@[simp] theorem all_writable_both (a b : Filter) :
    (both a b).all writable = (a.all writable && b.all writable) := by
  cases a <;> cases b <;> simp [both, writable, allWritable]

theorem writes_of_checkValue {f : String} {o : Op} {v : Value} (hk : o.isKnown)
    (h : (checkValue f o v).isOk) : o.writes v := by
  cases o with
  | between =>
    obtain ⟨lo, hi, rfl⟩ := pair_of_checkValue_between h
    rfl
  | unknown n => simp [Op.isKnown] at hk
  | _ => rfl

mutual

theorem writable_of_wellFormed : ∀ {n : Node}, n.wellFormed → n.writable
  | .cond _ _ _, h => by
    simp only [wellFormed, Bool.and_eq_true] at h
    exact writes_of_checkValue h.1 h.2
  | .group _ _, h => by
    simp only [wellFormed, Bool.and_eq_true] at h
    exact allWritable_of_allWellFormed h.2

theorem allWritable_of_allWellFormed : ∀ {cs : List Node}, allWellFormed cs → allWritable cs
  | [], _ => rfl
  | _ :: _, h => by
    simp only [allWellFormed, Bool.and_eq_true] at h
    simp [allWritable, writable_of_wellFormed h.1, allWritable_of_allWellFormed h.2]

end

end Node

theorem all_writable_of_built {L : List String} {f : Filter} (h : ∀ n ∈ f, Built L n) :
    f.all Node.writable := by
  cases f with
  | none => rfl
  | some n => exact Node.writable_of_wellFormed (h n rfl).1

end RowGate.Filter

namespace RowGate

theorem exists_bind_ok_iff {ε α β : Type} {x : Except ε α} {g : α → β} :
    (∃ b, (x >>= fun a => .ok (g a)) = .ok b) ↔ ∃ a, x = .ok a := by
  cases x <;> simp [bind, Except.bind]

end RowGate

namespace RowGate.Query

open RowGate.Filter

namespace SqlDialect

variable (d : SqlDialect)

theorem condition_ok_iff (args : List Value) (f : String) (o : Op) (v : Value) :
    (∃ r, d.condition args f o v = .ok r) ↔ o.writes v := by
  cases o with
  | between => simp only [condition, Op.writes]; split <;> simp_all
  | unknown n => simp [condition, Op.writes]
  -- these look at the value's shape, but write every shape
  | eq | neq | oneOf | isNull => simp only [condition, Op.writes]; split <;> simp
  | gt | gte | lt | lte | like | ilike => simp [condition, Op.writes]

mutual

theorem render_ok_iff : ∀ (n : Node) (args : List Value),
    (∃ r, d.render args n = .ok r) ↔ n.writable
  | .cond f o v, args => d.condition_ok_iff args f o v
  | .group _ cs, args => by
    rw [Node.writable, ← renderAll_ok_iff cs args]
    constructor
    · rintro ⟨r, h⟩
      rw [render] at h
      obtain ⟨r', hall, -⟩ := bind_eq_ok.mp h
      exact ⟨r', hall⟩
    · rintro ⟨⟨parts, a⟩, hall⟩
      exact ⟨_, by rw [render, hall]; rfl⟩

theorem renderAll_ok_iff : ∀ (cs : List Node) (args : List Value),
    (∃ r, d.renderAll args cs = .ok r) ↔ Node.allWritable cs
  | [], _ => by simp [renderAll, Node.allWritable]
  | c :: cs, args => by
    rw [Node.allWritable, Bool.and_eq_true]
    constructor
    · rintro ⟨⟨parts, b⟩, h⟩
      obtain ⟨p, a, ps, hc, hcs, -⟩ := renderAll_cons_eq_ok.mp h
      exact ⟨(render_ok_iff c args).1 ⟨_, hc⟩, (renderAll_ok_iff cs a).1 ⟨_, hcs⟩⟩
    · rintro ⟨hc, hcs⟩
      obtain ⟨⟨p, a⟩, hc⟩ := (render_ok_iff c args).2 hc
      obtain ⟨⟨ps, b⟩, hcs⟩ := (renderAll_ok_iff cs a).2 hcs
      exact ⟨_, renderAll_cons_eq_ok.mpr ⟨p, a, ps, hc, hcs, rfl⟩⟩

end

theorem whereClause_ok_iff (f : Filter) : (∃ r, d.whereClause f = .ok r) ↔ f.all Node.writable := by
  cases f with
  | none => simp [whereClause]
  | some n => exact d.render_ok_iff n []

end SqlDialect

theorem conditionDocument_ok_iff (f : String) (o : Op) (v : Value) :
    (∃ m, conditionDocument f o v = .ok m) ↔ o.writes v := by
  cases o with
  | between => simp only [conditionDocument, Op.writes]; split <;> simp_all
  | unknown n => simp [conditionDocument, Op.writes]
  | eq | isNull => simp only [conditionDocument, Op.writes]; split <;> simp
  | neq | gt | gte | lt | lte | oneOf | like | ilike => simp [conditionDocument, Op.writes]

mutual

theorem nodeDocument_ok_iff : ∀ n : Node, (∃ m, nodeDocument n = .ok m) ↔ n.writable
  | .cond f o v => conditionDocument_ok_iff f o v
  | .group _ cs => by
    rw [Node.writable, ← nodeDocuments_ok_iff cs]
    constructor
    · rintro ⟨m, h⟩
      rw [nodeDocument] at h
      obtain ⟨docs, hdocs, -⟩ := bind_eq_ok.mp h
      exact ⟨docs, hdocs⟩
    · rintro ⟨docs, hdocs⟩
      exact ⟨_, by rw [nodeDocument, hdocs]; rfl⟩

theorem nodeDocuments_ok_iff : ∀ cs : List Node,
    (∃ ms, nodeDocuments cs = .ok ms) ↔ Node.allWritable cs
  | [] => by simp [nodeDocuments, Node.allWritable]
  | c :: cs => by
    rw [Node.allWritable, Bool.and_eq_true, ← nodeDocument_ok_iff c, ← nodeDocuments_ok_iff cs,
      nodeDocuments]
    constructor
    · rintro ⟨ms, h⟩
      obtain ⟨m, hc, h⟩ := bind_eq_ok.mp h
      obtain ⟨ms', hcs, -⟩ := bind_eq_ok.mp h
      exact ⟨⟨m, hc⟩, ⟨ms', hcs⟩⟩
    · rintro ⟨⟨m, hc⟩, ⟨ms, hcs⟩⟩
      exact ⟨_, by rw [hc, hcs]; rfl⟩

end

theorem matchDocument_ok_iff (f : Filter) : (∃ m, matchDocument f = .ok m) ↔ f.all Node.writable := by
  cases f with
  | none => simp [matchDocument]
  | some n => exact nodeDocument_ok_iff n

namespace Builder

theorem buildList_ok_iff (b : Builder) (q : ListQuery) :
    (∃ p, b.buildList q = .ok p) ↔ q.filter.all Node.writable := by
  cases b with
  | sql d =>
    simp only [buildList, SqlDialect.buildList]
    rw [exists_bind_ok_iff, d.whereClause_ok_iff]
  | document =>
    simp only [buildList, documentList]
    rw [exists_bind_ok_iff, matchDocument_ok_iff]

theorem buildById_ok_iff (b : Builder) (q : ByIdQuery) :
    (∃ p, b.buildById q = .ok p) ↔ q.primaryKey ≠ "" ∧ q.scope.all Node.writable := by
  by_cases hk : q.primaryKey.isEmpty = true
  · have hk' : q.primaryKey = "" := String.isEmpty_iff.mp hk
    simp only [hk', ne_eq, not_true_eq_false, false_and, iff_false, not_exists]
    intro p h
    cases b <;> simp only [buildById, SqlDialect.buildById, documentById, if_pos hk] at h <;> cases h
  have hk' : q.primaryKey ≠ "" := fun h => hk (String.isEmpty_iff.mpr h)
  simp only [ne_eq, hk', not_false_eq_true, true_and]
  cases b with
  | sql d =>
    simp only [buildById, SqlDialect.buildById, if_neg hk]
    rw [exists_bind_ok_iff, d.whereClause_ok_iff]
    simp [Node.writable, Op.writes]
  | document =>
    simp only [buildById, documentById, if_neg hk]
    rw [exists_bind_ok_iff, matchDocument_ok_iff]
    simp [Node.writable, Op.writes]

end Builder

end RowGate.Query

namespace RowGate.Policy

open RowGate.Filter

theorem all_writable_of_evaluate {t : String} {ctx : Value} {cols : List String} {r : Filter}
    (h : evaluate t ctx cols = .ok r) : r.all Node.writable := by
  simp only [evaluate] at h
  obtain ⟨decoded, -, h⟩ := bind_eq_ok.mp h
  obtain ⟨rendered, -, h⟩ := bind_eq_ok.mp h
  split at h
  · rename_i f hf
    cases h
    exact all_writable_of_built (ofValue_built hf)
  · cases h

end RowGate.Policy

namespace RowGate.Query.Builder

open RowGate.Filter

/-- Every builder plans every request made of a filter the parser read, as text or as a decoded
document, and a scope that a row policy evaluated to or that matches nothing: the list request
on both filters joined, and the single-record request on any primary key and id under that
scope. -/
theorem builds_parsed_requests (b : Builder) {u r : Filter}
    (hu : (∃ raw L, parse raw L = .ok u) ∨ ∃ v L, ofValue v L = .ok u)
    (hr : (∃ t ctx cols, Policy.evaluate t ctx cols = .ok r) ∨ ∃ f, r = some (Node.matchNothing f))
    (q : ListQuery) (k : ByIdQuery) (hk : k.primaryKey ≠ "") :
    (∃ p, b.buildList { q with filter := Node.both r u } = .ok p) ∧
      ∃ p, b.buildById { k with scope := r } = .ok p := by
  have hu' : u.all Node.writable := by
    rcases hu with ⟨raw, L, h⟩ | ⟨v, L, h⟩
    · exact all_writable_of_built (parse_built h)
    · exact all_writable_of_built (ofValue_built h)
  have hr' : r.all Node.writable := by
    rcases hr with ⟨t, ctx, cols, h⟩ | ⟨f, rfl⟩
    · exact Policy.all_writable_of_evaluate h
    · rfl
  refine ⟨(buildList_ok_iff b _).2 ?_, (buildById_ok_iff b _).2 ⟨hk, hr'⟩⟩
  simp [hu', hr']

theorem builds_closed_scope_search :
    ofValue (.obj [("field", .str "name"), ("op", .str "like"), ("value", .str "a%")]) ["name"] =
        .ok (some (.cond "name" .like (.str "a%"))) ∧
      (∃ p, Builder.document.buildList
        { table := { name := "users" },
          filter := Node.both (some (Node.matchNothing "id")) (some (.cond "name" .like (.str "a%"))) } =
        .ok p) ∧
      ∃ p, Builder.document.buildById
        { table := { name := "users" }, primaryKey := "id", id := .str "7",
          scope := some (Node.matchNothing "id") } = .ok p :=
  have hv : ofValue (.obj [("field", .str "name"), ("op", .str "like"), ("value", .str "a%")])
      ["name"] = .ok (some (.cond "name" .like (.str "a%"))) := by cbv
  ⟨hv, builds_parsed_requests .document (Or.inr ⟨_, _, hv⟩) (Or.inr ⟨"id", rfl⟩)
    { table := { name := "users" } }
    { table := { name := "users" }, primaryKey := "id", id := .str "7" } (by decide)⟩

end RowGate.Query.Builder

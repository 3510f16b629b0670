import Mathlib.Data.List.Induction
import Mathlib.Tactic.SplitIfs
import RowGate.Engine.Read
import RowGate.Proofs.Filter.Parsed
/-!
# What a read plans

The planners' results field by field, and what projection, sort and row shaping keep to.
-/

namespace RowGate

namespace Policy

theorem mem_readable {a : FieldAccess} {f : String} :
    f ∈ a.readable ↔ f ∈ a.allowed ∧ a.isMasked f = false := by
  simp [FieldAccess.readable]

theorem nodup_dedup (xs : List String) : (dedup xs).Nodup :=
  Filter.nodup_dedup_foldl xs [] List.nodup_nil

theorem nodup_apply (p : FieldPolicy) {names : List String} (h : names.Nodup) :
    (p.apply names).allowed.Nodup := by
  simp only [FieldPolicy.apply]
  split
  · exact h.filter _
  · exact nodup_dedup _

theorem nodup_resolveFields (fps : List FieldPolicy) (role : String) {names : List String}
    (h : names.Nodup) : (resolveFields fps role names).allowed.Nodup := by
  unfold resolveFields
  split
  · exact nodup_apply _ h
  · exact h

end Policy

namespace Entries

theorem get?_cons (k : String) (w : Value) (rest : Entries) (key : String) :
    Entries.get? ((k, w) :: rest) key = if key = k then some w else Entries.get? rest key := by
  by_cases h : key = k
  · simp [Entries.get?, h]
  · simp [Entries.get?, h, Ne.symm h]

theorem get?_insert (k : String) (v : Value) (es : Entries) (key : String) :
    Entries.get? (Entries.insert k v es) key = if key = k then some v else Entries.get? es key := by
  induction es with
  | nil => simp [Entries.insert, get?_cons]
  | cons e rest ih =>
    obtain ⟨k', w⟩ := e
    simp only [Entries.insert]
    by_cases hlt : k < k'
    · simp [hlt, get?_cons]
    by_cases heq : k = k'
    · subst heq
      by_cases h : key = k <;> simp [h, get?_cons]
    · have hbeq : (k == k') = false := by simpa using heq
      simp only [hlt, hbeq, if_false, Bool.false_eq_true, get?_cons, ih]
      by_cases h₁ : key = k <;> by_cases h₂ : key = k' <;> simp_all

theorem get?_foldl_insert (g : String → Value) (xs : List String) (acc : Entries) (key : String) :
    Entries.get? (xs.foldl (fun acc f => Entries.insert f (g f) acc) acc) key =
      if key ∈ xs then some (g key) else Entries.get? acc key := by
  induction xs generalizing acc with
  | nil => simp
  | cons x xs ih =>
    rw [List.foldl_cons, ih, get?_insert]
    by_cases h₁ : key ∈ xs <;> by_cases h₂ : key = x <;> simp [h₁, h₂]

end Entries

namespace Engine

open Policy RowGate.Filter Query

section Projection

variable {a : FieldAccess}

-- The fold of `projection` that keeps a requested field when nonempty, allowed and new.
theorem keep_foldl (xs acc : List String) (hn : acc.Nodup) (hs : ∀ f ∈ acc, f ∈ a.allowed) :
    let r := xs.foldl (fun acc f =>
      if f.isEmpty || !a.allowed.contains f || acc.contains f then acc else acc ++ [f]) acc
    r.Nodup ∧ ∀ f ∈ r, f ∈ a.allowed := by
  induction xs generalizing acc with
  | nil => exact ⟨hn, hs⟩
  | cons x xs ih =>
    rw [List.foldl_cons]
    by_cases hkeep : x.isEmpty || !a.allowed.contains x || acc.contains x
    · rw [if_pos hkeep]
      exact ih acc hn hs
    · rw [if_neg hkeep]
      simp only [Bool.or_eq_true, Bool.not_eq_true', List.contains_eq_mem, decide_eq_true_eq,
        not_or, Bool.not_eq_false] at hkeep
      obtain ⟨⟨-, hx⟩, hacc⟩ := hkeep
      refine ih _ ?_ ?_
      · simpa using hn.concat hacc
      · intro f hf
        rcases List.mem_append.1 hf with hf | hf
        · exact hs f hf
        · simp only [List.mem_singleton] at hf
          simpa [hf] using hx

theorem mem_projection_fst {raw f : String} (h : f ∈ (projection raw a).1) : f ∈ a.allowed := by
  have hkeep := (keep_foldl (a := a) ((raw.splitOn ",").map Text.trim) [] List.nodup_nil
    (by simp)).2
  simp only [projection] at h
  split at h
  · exact h
  · exact hkeep f h

theorem nodup_projection_fst (raw : String) (h : a.allowed.Nodup) : (projection raw a).1.Nodup := by
  have hkeep := (keep_foldl (a := a) ((raw.splitOn ",").map Text.trim) [] List.nodup_nil
    (by simp)).1
  simp only [projection]
  split
  · exact h
  · exact hkeep

theorem projection_snd_eq (raw : String) : (projection raw a).2 =
    let selected := (projection raw a).1.filter fun f => !a.isMasked f
    if selected.isEmpty then a.readable.take 1 else selected := rfl

theorem mem_projection_snd {raw f : String} (h : f ∈ (projection raw a).2) : f ∈ a.readable := by
  rw [projection_snd_eq] at h
  dsimp only at h
  split at h
  · exact List.mem_of_mem_take h
  · rw [List.mem_filter] at h
    exact mem_readable.2 ⟨mem_projection_fst h.1, by simpa using h.2⟩

theorem projection_snd_ne_nil (raw : String) (h : a.readable ≠ []) : (projection raw a).2 ≠ [] := by
  rw [projection_snd_eq]
  dsimp only
  split
  · obtain ⟨c, cs, hc⟩ := List.exists_cons_of_ne_nil h
    simp [hc]
  · rename_i hne
    simpa using hne

theorem mem_parseSort {raw : String} {L : List String} {s : SortField} (h : s ∈ parseSort raw L) :
    s.field ∈ L := by
  dsimp only [parseSort] at h
  generalize raw.splitOn "," = terms at h
  induction terms using List.reverseRecOn generalizing s with
  | nil => simp at h
  | append_singleton ts t ih =>
    rw [List.foldl_append, List.foldl_cons, List.foldl_nil] at h
    split_ifs at h with hempty hkeep
    · exact ih h
    · exact ih h
    · rcases List.mem_append.1 h with h | h
      · exact ih h
      · simp only [List.mem_singleton] at h
        subst h
        simp only [Bool.or_eq_true, Bool.not_eq_true', not_or] at hkeep
        simpa using hkeep.1

end Projection

section Rows

variable {a : FieldAccess}

theorem get?_shape (output : List String) (row : Executor.Row) (f : String) :
    (shape output a row).get? f = if f ∈ output then
      some (if a.isMasked f then .null else ((row.find? (·.1 == f)).map (·.2)).getD .null)
    else none := by
  have hpair : ∀ x, (if a.isMasked x then (x, Value.null)
      else (x, ((row.find? (·.1 == x)).map (·.2)).getD .null)) =
      (x, if a.isMasked x then .null else ((row.find? (·.1 == x)).map (·.2)).getD .null) := by
    intro x
    split <;> rfl
  simp only [shape, Entries.ofList, List.foldl_map, hpair]
  rw [Entries.get?_foldl_insert]
  simp [Entries.get?]

end Rows

section Plans

variable {ε : Type}

/-- What a list plan is made of: the caller's filter read on the readable columns, the
requested projection, the sort (the entity's own when none is asked) on readable columns, the
clamped page, and the query that joins the scope to the filter. -/
structure ListPlanned (req : Prepared ε) (o : Options) (p : ListParams) (lp : ListPlan) : Prop where
  parsed : parse p.filter req.access.readable = .ok lp.userFilter
  projected : projection p.fields req.access = (lp.output, lp.selected)
  sorted : lp.sort = parseSort (if (Text.trim p.sort).isEmpty then req.entity.defaultSort else p.sort)
    req.access.readable
  paged : lp.page = Page.of p.page (if p.pageSize == 0 then o.defaultPageSize else p.pageSize)
  query_eq : lp.query =
    ⟨req.table, lp.selected, Node.both req.scope lp.userFilter, lp.sort, lp.page.page, lp.page.size⟩
  built : req.builder.buildList lp.query = .ok lp.plan

theorem planList_planned {req : Prepared ε} {o : Options} {p : ListParams} {lp : ListPlan}
    (h : req.planList o p = .ok lp) : ListPlanned req o p lp := by
  unfold Prepared.planList at h
  obtain ⟨uf, hparse, h⟩ := bind_eq_ok.mp h
  rcases hproj : projection p.fields req.access with ⟨output, selected⟩
  rw [hproj] at h
  obtain ⟨plan, hplan, h⟩ := bind_eq_ok.mp h
  cases h
  exact ⟨hparse, hproj, rfl, rfl, rfl, hplan⟩

theorem planList_of_parse_error {req : Prepared ε} {o : Options} {p : ListParams} {e : Fault}
    (h : parse p.filter req.access.readable = .error e) : req.planList o p = .error e := by
  unfold Prepared.planList
  dsimp only
  rw [h]
  rfl

/-- What a single-record plan is made of: the primary key column, the requested projection, and
the query that joins the scope to the key condition. -/
structure ByIdPlanned (req : Prepared ε) (id : String) (p : ListParams) (bp : ByIdPlan) : Prop where
  keyed : ∃ c, req.columns.find? (·.name == req.entity.primaryKey) = some c ∧
    bp.query = ⟨req.table, bp.selected, req.entity.primaryKey, coerceId id c, req.scope⟩
  projected : projection p.fields req.access = (bp.output, bp.selected)
  built : req.builder.buildById bp.query = .ok bp.plan

theorem planById_planned {req : Prepared ε} {ref id : String} {p : ListParams} {bp : ByIdPlan}
    (h : req.planById ref id p = .ok bp) : ByIdPlanned req id p bp := by
  unfold Prepared.planById at h
  dsimp only at h
  split at h
  · rename_i c hfind
    rw [pure_bind] at h
    obtain ⟨plan, hplan, h⟩ := bind_eq_ok.mp h
    cases h
    exact ⟨⟨c, hfind, rfl⟩, rfl, hplan⟩
  · cases h

end Plans

end Engine

end RowGate

import RowGate.Proofs.Engine.Plan
/-!
# Reads keep to the caller's columns

A read selects, filters and sorts on readable columns only and returns allowed fields only,
masked ones as null.
-/

namespace RowGate.Engine

open Policy RowGate.Filter

variable {a : FieldAccess}

/-- What a read may see under an access: it returns distinct allowed fields and selects some
columns, readable ones only; every row it returns has exactly the returned fields, masked ones
null whatever the database sent. -/
structure Confined (a : FieldAccess) (output selected : List String) : Prop where
  output_nodup : output.Nodup
  output_allowed : ∀ f ∈ output, f ∈ a.allowed
  selected_readable : ∀ f ∈ selected, f ∈ a.readable
  selected_ne_nil : selected ≠ []
  row_fields : ∀ (row : Executor.Row) f, ((shape output a row).get? f).isSome ↔ f ∈ output
  row_masked : ∀ (row : Executor.Row) f, f ∈ output → a.isMasked f →
    (shape output a row).get? f = some .null

theorem projection_confined (raw : String) (h : a.allowed.Nodup) (hr : a.readable ≠ []) :
    Confined a (projection raw a).1 (projection raw a).2 where
  output_nodup := nodup_projection_fst raw h
  output_allowed _ := mem_projection_fst
  selected_readable _ := mem_projection_snd
  selected_ne_nil := projection_snd_ne_nil raw hr
  row_fields row f := by
    rw [get?_shape]
    split <;> simp_all
  row_masked row f hf hm := by simp [get?_shape, hf, hm]

section Reads

variable {ε : Type}

/-- Reads never leak a column the caller may not see. Under the access a field policy grants
on distinct live columns, some of them readable: a list plan selects, filters and sorts on
readable columns only, a single-record plan selects readable columns only, and both return
distinct allowed fields, every row with exactly those fields and the masked ones null. A filter
that names any other field is refused. -/
theorem reads_confined (req : Prepared ε) (fps : List FieldPolicy) (role : String)
    (hacc : req.access = resolveFields fps role (req.columns.map (·.name)))
    (hread : req.access.readable ≠ []) (hcols : (req.columns.map (·.name)).Nodup) :
    (∀ o p lp, req.planList o p = .ok lp →
      Confined req.access lp.output lp.query.fields ∧
      (∀ x ∈ Node.fields lp.userFilter, x ∈ req.access.readable) ∧
      ∀ s ∈ lp.query.sort, s.field ∈ req.access.readable) ∧
    (∀ ref id p bp, req.planById ref id p = .ok bp →
      Confined req.access bp.output bp.query.fields) ∧
    (∀ o p L f x, parse p.filter L = .ok f → x ∈ Node.fields f → x ∉ req.access.readable →
      ∃ e, req.planList o p = .error e) := by
  have hnodup : req.access.allowed.Nodup := hacc ▸ nodup_resolveFields fps role hcols
  have hconf := fun raw => projection_confined raw hnodup hread
  refine ⟨fun o p lp h => ?_, fun ref id p bp h => ?_, fun o p L f x hf hx hxr => ?_⟩
  · have hp := planList_planned h
    have hq : lp.query.fields = lp.selected ∧ lp.query.sort = lp.sort := by
      rw [hp.query_eq]
      exact ⟨rfl, rfl⟩
    refine ⟨?_, parse_fields hp.parsed, fun s hs => ?_⟩
    · rw [hq.1]
      simpa [hp.projected] using hconf p.fields
    · rw [hq.2, hp.sorted] at hs
      exact mem_parseSort hs
  · have hp := planById_planned h
    obtain ⟨c, -, hq⟩ := hp.keyed
    rw [hq]
    simpa [hp.projected] using hconf p.fields
  · obtain ⟨e, he⟩ := parse_rejects hf hx hxr
    exact ⟨e, planList_of_parse_error he⟩

theorem reads_confined_masked_ssn :
    let agent : FieldPolicy := ⟨1, 1, some "agent", some ["ssn"], none, some ["salary"], .zero, .zero⟩
    let req : Prepared Unit :=
      ⟨{ serviceId := "crm", caller := { roleId := "agent" } }, default, default, default, (),
        [⟨"id", "int"⟩, ⟨"ssn", "text"⟩, ⟨"salary", "numeric"⟩],
        resolveFields [agent] "agent" ["id", "ssn", "salary"], none⟩
    req.access.readable ≠ [] ∧ (req.columns.map (·.name)).Nodup ∧
      ∀ o p lp, req.planList o p = .ok lp → Confined req.access lp.output lp.query.fields := by
  intro agent req
  have hread : req.access.readable ≠ [] := by decide
  have hcols : (req.columns.map (·.name)).Nodup := by decide
  exact ⟨hread, hcols, fun o p lp h =>
    ((reads_confined req [agent] "agent" rfl hread hcols).1 o p lp h).1⟩

end Reads

end RowGate.Engine

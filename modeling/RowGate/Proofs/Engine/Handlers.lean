import RowGate.Proofs.Engine.Scope
import RowGate.Proofs.Engine.Confinement
import RowGate.Proofs.Backend.Steps
/-!
# What the read handlers send to the database

Over the backend in memory, every plan a list or single-record read queries or counts is planned
from the read resolved over the catalog it starts with.
-/

namespace RowGate.Backend.Memory

open Catalog Query Policy

variable {α : Type}

/-- What the steps of a read may do to the memory `mem₀` it starts from: keep the catalog and
the tables' columns, and query or count only plans satisfying `P`. -/
structure Within (P : Plan → Prop) (mem₀ mem : Memory) : Prop where
  store : mem.store = mem₀.store
  tableColumns : mem.tableColumns = mem₀.tableColumns
  plans : ∀ p ∈ mem.plans, p ∈ mem₀.plans ∨ P p
  counted : ∀ p ∈ mem.counted, p ∈ mem₀.counted ∨ P p

namespace Within

variable {P : Plan → Prop} {mem₀ mem : Memory}

theorem refl (P : Plan → Prop) (mem : Memory) : Within P mem mem :=
  ⟨rfl, rfl, fun _ h => .inl h, fun _ h => .inl h⟩

theorem scriptFree : ScriptFree (Within P mem₀) := fun _ _ h =>
  ⟨h.store, h.tableColumns, h.plans, h.counted⟩

theorem columnsOf (h : Within P mem₀ mem) (name : String) :
    mem.columnsOf name = mem₀.columnsOf name := by
  simp only [Memory.columnsOf, h.tableColumns]

/-- A log of plans stays within `P` when a plan satisfying `P` is added to it. -/
theorem push {log₀ log : List Plan} (h : ∀ p ∈ log, p ∈ log₀ ∨ P p) {plan : Plan} (hp : P plan) :
    ∀ p ∈ log ++ [plan], p ∈ log₀ ∨ P p := by
  intro q hq
  rcases List.mem_append.1 hq with hq | hq
  · exact h q hq
  · rw [List.mem_singleton.1 hq]
    exact .inr hp

theorem query (h : Within P mem₀ mem) {plan : Plan} (hp : P plan) :
    Within P mem₀ { mem with plans := mem.plans ++ [plan], queries := mem.queries + 1 } :=
  ⟨h.store, h.tableColumns, push h.plans hp, h.counted⟩

theorem count (h : Within P mem₀ mem) {plan : Plan} (hp : P plan) :
    Within P mem₀ { mem with counted := mem.counted ++ [plan], counts := mem.counts + 1 } :=
  ⟨h.store, h.tableColumns, h.plans, push h.counted hp⟩

theorem sent {mem' : Memory} (h : Within P mem mem') :
    ∀ plan ∈ mem'.plans ++ mem'.counted, plan ∈ mem.plans ++ mem.counted ∨ P plan := by
  intro plan hplan
  rcases List.mem_append.1 hplan with hq | hc
  · exact (h.plans plan hq).imp_left (List.mem_append_left mem.counted)
  · exact (h.counted plan hc).imp_left (List.mem_append_right mem.plans)

end Within

/-- Run from `mem`, an action within `P` queries or counts, beyond what `mem` had, only plans
satisfying `P`. -/
theorem Stays.sent_within {P : Plan → Prop} {mem : Memory} {x : ExceptT Fault (StateM Memory) α}
    {Q : α → Prop} (hx : Stays (Within P mem) x Q) :
    let mem' := (x.run.run mem).2
    ∀ plan ∈ mem'.plans ++ mem'.counted, plan ∈ mem.plans ++ mem.counted ∨ P plan :=
  (hx mem (Within.refl P mem)).1.sent

/-! ### The backend's steps within a read -/

variable {P : Plan → Prop} {mem₀ : Memory}

theorem within_findEntity (svc ref : String) :
    Stays (Within P mem₀) (backend.findEntity svc ref) (· = findByRef mem₀.store.entities svc ref) :=
  Stays.get.bind fun _ h => Stays.pure (by rw [h.store])

theorem within_resolve (svc env : String) :
    Stays (Within P mem₀) (backend.resolve svc env) (fun _ => True) := by
  refine Stays.get.bind fun mem _ => ?_
  split
  · exact Stays.pure trivial
  · exact Stays.throw

theorem within_acquire (cfg : Connection.Config) :
    Stays (Within P mem₀) (backend.acquire cfg) (fun _ => True) :=
  (stays_serve Within.scriptFree).mono fun _ _ => trivial

theorem within_refresh (cfg : Connection.Config) (ex : Unit) :
    Stays (Within P mem₀) (backend.refresh cfg ex) (fun _ => True) := by
  refine (Stays.modify fun _ h => ⟨h.store, h.tableColumns, h.plans, h.counted⟩).bind fun _ _ => ?_
  exact (stays_serve Within.scriptFree).mono fun _ _ => trivial

theorem within_columns (ex : Unit) (t : TableRef) :
    Stays (Within P mem₀) (backend.columns ex t) (· = mem₀.columnsOf t.name) := by
  refine (Stays.modify fun _ h => ⟨h.store, h.tableColumns, h.plans, h.counted⟩).bind fun _ _ => ?_
  exact Stays.get.bind fun _ h =>
    (stays_serve Within.scriptFree).mono fun _ hcs => hcs.trans (h.columnsOf t.name)

theorem within_fieldPolicies (entity : Nat) (role : String) :
    Stays (Within P mem₀) (backend.fieldPolicies entity role)
      (· = forRole FieldPolicy.entityId FieldPolicy.roleId FieldPolicy.id mem₀.store.fieldPolicies
        entity role) :=
  Stays.get.bind fun _ h => Stays.pure (by rw [h.store])

theorem within_rowPolicies (entity : Nat) (role : String) :
    Stays (Within P mem₀) (backend.rowPolicies entity role)
      (· = forRole RowPolicy.entityId RowPolicy.roleId RowPolicy.id mem₀.store.rowPolicies
        entity role) :=
  Stays.get.bind fun _ h => Stays.pure (by rw [h.store])

theorem within_query (ex : Unit) {plan : Plan} (hp : P plan) :
    Stays (Within P mem₀) (backend.query ex plan) (fun _ => True) := by
  refine (Stays.modify fun _ h => h.query hp).bind fun _ _ => ?_
  exact Stays.get.bind fun _ _ => (stays_serve Within.scriptFree).mono fun _ _ => trivial

theorem within_count (ex : Unit) {plan : Plan} (hp : P plan) :
    Stays (Within P mem₀) (backend.count ex plan) (fun _ => True) := by
  refine (Stays.modify fun _ h => h.count hp).bind fun _ _ => ?_
  exact Stays.get.bind fun _ _ => (stays_serve Within.scriptFree).mono fun _ _ => trivial

end RowGate.Backend.Memory

namespace RowGate.Engine

open Backend Memory Catalog Query Policy RowGate.Filter

variable {α : Type} {P : Plan → Prop} {mem₀ : Memory}

theorem within_execute (conn : Connection.Config) (svc name : String) (given : Option Unit)
    {act : Unit → ExceptT Fault (StateM Memory) α} {Q : α → Prop}
    (hact : ∀ ex, Stays (Within P mem₀) (act ex) Q) :
    Stays (Within P mem₀) (execute backend conn svc name given act) (fun r => Q r.1) := by
  unfold execute
  extract_lets settle attempt
  -- the last outcome settles the execution: its value, or a coded failure
  have hsettle : ∀ r : Except Fault α × Unit, (∀ a, r.1 = .ok a → Q a) →
      Stays (Within P mem₀) (settle r) (fun r => Q r.1) := by
    rintro ⟨result, ex⟩ hr
    cases result with
    | ok a => exact Stays.pure (hr a rfl)
    | error err => exact Stays.ite (fun _ => Stays.throw) fun _ => Stays.throw
  have hfailed : ∀ (err : Fault) (ex : Unit),
      Stays (Within P mem₀) (pure (.error err, ex) >>= settle) (fun r => Q r.1) :=
    fun _ _ => (Stays.pure fun _ h => by cases h).bind hsettle
  -- one attempt, and a second on a refreshed executor after a stale failure
  have hattempt : ∀ ex, Stays (Within P mem₀) (attempt ex) (fun r => Q r.1) := by
    intro ex
    refine (hact ex).caught.bind fun first hfirst => ?_
    cases first with
    | ok a =>
      exact (Stays.pure (Q := fun r => ∀ b, r.1 = .ok b → Q b) (by simpa using hfirst)).bind hsettle
    | error err =>
      refine Stays.ite (fun _ => ?_) fun _ => hfailed err ex
      refine (within_refresh conn ex).caught.bind fun r _ => ?_
      cases r with
      | ok fresh =>
        exact (hact fresh).caught.bind fun r hr =>
          (Stays.pure (Q := fun r => ∀ b, r.1 = .ok b → Q b) hr).bind hsettle
      | error rerr => exact hfailed _ ex
  cases given with
  | some x => exact (Stays.pure (Q := fun _ => True) trivial).bind fun ex _ => hattempt ex
  | none => exact (within_acquire conn).wrapFailure.bind fun ex _ => hattempt ex

/-- What a read resolved over the memory `mem` carries: the entity `ref` names in the catalog,
exposed for reading, its live columns, and the access and scope that the catalog's field and row
policies give the caller's role. -/
structure Prepared.Loaded (mem : Memory) (o : Options) (rq : Request) (ref : String)
    (req : Prepared Unit) : Prop where
  request_eq : req.request = rq
  entity_eq : findByRef mem.store.entities rq.serviceId ref = some req.entity
  allowRead : req.entity.allowRead = true
  columns_eq : req.columns = mem.columnsOf req.entity.name
  access_eq : req.access = resolveFields
    (forRole FieldPolicy.entityId FieldPolicy.roleId FieldPolicy.id mem.store.fieldPolicies
      req.entity.id rq.caller.roleId) rq.caller.roleId (req.columns.map (·.name))
  readable_ne_nil : req.access.readable ≠ []
  scope_eq : req.scope = resolveRows
    (forRole RowPolicy.entityId RowPolicy.roleId RowPolicy.id mem.store.rowPolicies
      req.entity.id rq.caller.roleId) rq.caller.roleId rq.renderContext
    (req.columns.map (·.name)) req.entity.primaryKey o.failMode

theorem within_prepare (o : Options) (rq : Request) (ref : String) :
    Stays (Within P mem₀) (prepare backend o rq ref) (Prepared.Loaded mem₀ o rq ref) := by
  unfold prepare
  refine (within_findEntity rq.serviceId ref).caught.bind fun r hr => ?_
  extract_lets role found
  have hfound : ∀ entity, findByRef mem₀.store.entities rq.serviceId ref = some entity →
      Stays (Within P mem₀) (found entity) (Prepared.Loaded mem₀ o rq ref) := by
    intro entity hent
    dsimp only [found]
    refine Stays.ite (fun _ => Stays.throw_bind) fun hallow => ?_
    refine (within_resolve _ _).bind fun svc _ => ?_
    refine Stays.except.bind fun kind _ => ?_
    refine (within_execute _ _ _ none fun ex => within_columns ex _).bind fun ⟨columns, ex⟩ hcols => ?_
    refine Stays.ite (fun _ => Stays.throw_bind) fun hne => ?_
    refine (within_fieldPolicies _ _).explainFailure.bind fun fps hfps => ?_
    refine Stays.ite (fun _ => Stays.throw_bind) fun hread => ?_
    refine (within_rowPolicies _ _).explainFailure.bind fun rps hrps => ?_
    exact Stays.pure ⟨rfl, hent, by simpa using hallow, hcols, by rw [hfps], by simpa using hread,
      by rw [hrps]⟩
  -- the entity lookup: found, absent, or failed
  rcases r with err | _ | entity
  · exact Stays.throw_bind
  · exact Stays.throw_bind
  · refine (Stays.pure (Q := (· = entity)) rfl).bind fun e he => ?_
    rw [he]
    exact hfound entity (hr _ rfl).symm

theorem within_share (e : Handler) (key : String) {run : ExceptT Fault (StateM Memory) Outcome}
    (hrun : Stays (Within P mem₀) run (fun _ => True)) :
    Stays (Within P mem₀) (e.share key run) (fun _ => True) := by
  unfold Handler.share
  -- a finished execution's result, a run of one's own, or a run that others wait for
  split
  · split
    · rename_i r _
      rcases r with err | x
      · exact Stays.throw_bind
      · exact (Stays.pure (Q := fun _ => True) trivial).bind fun _ _ => Stays.pure trivial
    · exact hrun.bind fun _ _ => Stays.pure trivial
  · refine hrun.caught.bind fun r _ => ?_
    rcases r with err | x
    · exact Stays.throw
    · exact Stays.pure trivial
  · exact hrun.bind fun _ _ => Stays.pure trivial

/-- A plan that a list read of `ref` over the memory `mem` may send: planned from the read
resolved over its catalog. -/
def ListSends (mem : Memory) (o : Options) (rq : Request) (ref : String) (p : ListParams)
    (plan : Plan) : Prop :=
  ∃ (req : Prepared Unit) (lp : ListPlan), req.Loaded mem o rq ref ∧ req.planList o p = .ok lp ∧
    lp.plan = plan

theorem within_list (e : Handler) (rq : Request) (ref : String) (p : ListParams) :
    Stays (Within (ListSends mem₀ e.options rq ref p) mem₀) (e.list backend rq ref p)
      (fun _ => True) := by
  unfold Handler.list
  refine (within_prepare e.options rq ref).bind fun req hreq => ?_
  refine Stays.except.bind fun lp hlp => ?_
  have hsends : ListSends mem₀ e.options rq ref p lp.plan := ⟨req, lp, hreq, hlp, rfl⟩
  dsimp only
  split
  · exact Stays.pure trivial
  refine (within_share e _ ?_).bind fun _ _ => Stays.pure trivial
  -- the page and the count are both asked of the planned query
  refine (within_execute _ _ _ _ (Q := fun _ => True) fun ex => ?_).bind fun _ _ =>
    Stays.pure trivial
  refine (within_query ex hsends).caught.bind fun rows _ => ?_
  refine (within_count ex hsends).caught.bind fun total _ => ?_
  rcases rows with err | rows
  · exact Stays.throw
  · rcases total with err | total
    · exact Stays.throw
    · exact Stays.pure trivial

/-- A plan that a single-record read of `ref` over the memory `mem` may send: planned from the
read resolved over its catalog. -/
def ByIdSends (mem : Memory) (o : Options) (rq : Request) (ref id : String) (p : ListParams)
    (plan : Plan) : Prop :=
  ∃ (req : Prepared Unit) (bp : ByIdPlan), req.Loaded mem o rq ref ∧ req.planById ref id p = .ok bp ∧
    bp.plan = plan

theorem within_byId (e : Handler) (rq : Request) (ref id : String) (p : ListParams) :
    Stays (Within (ByIdSends mem₀ e.options rq ref id p) mem₀) (e.byId backend rq ref id p)
      (fun _ => True) := by
  unfold Handler.byId
  refine (within_prepare e.options rq ref).bind fun req hreq => ?_
  refine Stays.except.bind fun bp hbp => ?_
  have hsends : ByIdSends mem₀ e.options rq ref id p bp.plan := ⟨req, bp, hreq, hbp, rfl⟩
  dsimp only
  refine (within_share e _ ?_).bind fun out _ => ?_
  · refine (within_execute _ _ _ _ (Q := fun _ => True) fun ex => within_query ex hsends).bind
      fun _ _ => Stays.pure trivial
  · rcases out with ⟨_ | rows, _⟩
    · exact Stays.throw
    · rcases rows with _ | ⟨row, _⟩
      · exact Stays.throw
      · exact Stays.pure trivial

theorem ListSends.scoped {mem : Memory} {o : Options} {rq : Request} {ref : String}
    {p : ListParams} {plan : Plan} (h : ListSends mem o rq ref p plan) :
    ∃ (req : Prepared Unit) (q : ListQuery) (u : Filter.Filter),
      req.Loaded mem o rq ref ∧ q.filter = Node.both req.scope u ∧
      (∀ f ∈ q.fields, f ∈ req.access.readable) ∧ (∀ x ∈ Node.fields u, x ∈ req.access.readable) ∧
      (∀ s ∈ q.sort, s.field ∈ req.access.readable) ∧ req.builder.buildList q = .ok plan := by
  obtain ⟨req, lp, hl, hplan, rfl⟩ := h
  have hp := planList_planned hplan
  refine ⟨req, lp.query, lp.userFilter, hl, by rw [hp.query_eq], fun f hf => ?_,
    parse_fields hp.parsed, fun s hs => ?_, hp.built⟩
  · rw [hp.query_eq] at hf
    exact mem_projection_snd (show f ∈ (projection p.fields req.access).2 by rw [hp.projected]; exact hf)
  · rw [hp.query_eq, hp.sorted] at hs
    exact mem_parseSort hs

theorem ByIdSends.scoped {mem : Memory} {o : Options} {rq : Request} {ref id : String}
    {p : ListParams} {plan : Plan} (h : ByIdSends mem o rq ref id p plan) :
    ∃ (req : Prepared Unit) (q : ByIdQuery) (c : Executor.Column),
      req.Loaded mem o rq ref ∧ q.scope = req.scope ∧ q.primaryKey = req.entity.primaryKey ∧
      req.columns.find? (·.name == req.entity.primaryKey) = some c ∧ q.id = coerceId id c ∧
      (∀ f ∈ q.fields, f ∈ req.access.readable) ∧ req.builder.buildById q = .ok plan := by
  obtain ⟨req, bp, hl, hplan, rfl⟩ := h
  have hp := planById_planned hplan
  obtain ⟨c, hc, hq⟩ := hp.keyed
  refine ⟨req, bp.query, c, hl, by rw [hq], by rw [hq], hc, by rw [hq], fun f hf => ?_, hp.built⟩
  rw [hq] at hf
  exact mem_projection_snd (show f ∈ (projection p.fields req.access).2 by rw [hp.projected]; exact hf)

/-- Every plan a list read over the memory queries or counts, beyond those asked before, is
built by the read's builder from a query whose filter joins the read's scope to the caller's
filter and which selects, filters and sorts on readable columns only. The read is of the
entity `ref` names in the catalog, exposed for reading; its access and scope are those the
catalog's field and row policies give the caller's role on the entity's live columns. -/
theorem list_sends_scoped (mem : Memory) (e : Handler) (rq : Request) (ref : String)
    (p : ListParams) :
    let mem' := ((e.list backend rq ref p).run.run mem).2
    ∀ plan ∈ mem'.plans ++ mem'.counted, plan ∈ mem.plans ++ mem.counted ∨
      ∃ (req : Prepared Unit) (q : ListQuery) (u : Filter.Filter),
        req.Loaded mem e.options rq ref ∧ q.filter = Node.both req.scope u ∧
        (∀ f ∈ q.fields, f ∈ req.access.readable) ∧ (∀ x ∈ Node.fields u, x ∈ req.access.readable) ∧
        (∀ s ∈ q.sort, s.field ∈ req.access.readable) ∧ req.builder.buildList q = .ok plan := by
  intro mem' plan hplan
  exact ((within_list e rq ref p).sent_within plan hplan).imp_right ListSends.scoped

/-- Every plan a single-record read over the memory queries, beyond those asked before, is
built by the read's builder from a query that joins the read's scope to the condition on the
entity's primary key, the id read as that column's type, and that selects readable columns
only. -/
theorem byId_sends_scoped (mem : Memory) (e : Handler) (rq : Request) (ref id : String)
    (p : ListParams) :
    let mem' := ((e.byId backend rq ref id p).run.run mem).2
    ∀ plan ∈ mem'.plans ++ mem'.counted, plan ∈ mem.plans ++ mem.counted ∨
      ∃ (req : Prepared Unit) (q : ByIdQuery) (c : Executor.Column),
        req.Loaded mem e.options rq ref ∧ q.scope = req.scope ∧ q.primaryKey = req.entity.primaryKey ∧
        req.columns.find? (·.name == req.entity.primaryKey) = some c ∧ q.id = coerceId id c ∧
        (∀ f ∈ q.fields, f ∈ req.access.readable) ∧ req.builder.buildById q = .ok plan := by
  intro mem' plan hplan
  exact ((within_byId e rq ref id p).sent_within plan hplan).imp_right ByIdSends.scoped

theorem Prepared.Loaded.scope_barred {mem : Memory} {o : Options} {rq : Request} {ref : String}
    {req : Prepared Unit} (hl : req.Loaded mem o rq ref) {ent : Catalog.Entity} {pol : RowPolicy}
    {err : Fault} (hclosed : o.failMode = .closedMode)
    (hent : findByRef mem.store.entities rq.serviceId ref = some ent)
    (hsel : select RowPolicy.roleId (forRole RowPolicy.entityId RowPolicy.roleId RowPolicy.id
      mem.store.rowPolicies ent.id rq.caller.roleId) rq.caller.roleId = some pol)
    (hfail : evaluate pol.template rq.renderContext ((mem.columnsOf ent.name).map (·.name)) =
      .error err) :
    req.scope = some (Node.matchNothing
      (matchNothingField ent.primaryKey ((mem.columnsOf ent.name).map (·.name)))) := by
  have hentity : req.entity = ent := Option.some.inj (hl.entity_eq.symm.trans hent)
  rw [hl.scope_eq, hl.columns_eq, hentity, hclosed]
  exact resolveRows_of_evaluate_error_closed hsel hfail

theorem reads_barred_failing_closed (mem : Memory) (e : Handler) (rq : Request) (ref : String)
    (ent : Catalog.Entity) (pol : RowPolicy) (err : Fault)
    (hclosed : e.options.failMode = .closedMode)
    (hent : findByRef mem.store.entities rq.serviceId ref = some ent)
    (hsel : select RowPolicy.roleId (forRole RowPolicy.entityId RowPolicy.roleId RowPolicy.id
      mem.store.rowPolicies ent.id rq.caller.roleId) rq.caller.roleId = some pol)
    (hfail : evaluate pol.template rq.renderContext ((mem.columnsOf ent.name).map (·.name)) =
      .error err) :
    (∀ p, let mem' := ((e.list backend rq ref p).run.run mem).2
      ∀ plan ∈ mem'.plans ++ mem'.counted, plan ∈ mem.plans ++ mem.counted ∨
        ∃ (b : Builder) (fields : List String) (t : TableRef), b.Barred fields t plan) ∧
    (∀ id p, let mem' := ((e.byId backend rq ref id p).run.run mem).2
      ∀ plan ∈ mem'.plans ++ mem'.counted, plan ∈ mem.plans ++ mem.counted ∨
        ∃ (b : Builder) (fields : List String) (t : TableRef), b.Barred fields t plan) := by
  refine ⟨fun p plan hplan => ?_, fun id p plan hplan => ?_⟩
  · refine ((within_list e rq ref p).sent_within plan hplan).imp_right fun h => ?_
    obtain ⟨req, q, u, hl, hq, -, -, -, hbuilt⟩ := h.scoped
    rw [hl.scope_barred hclosed hent hsel hfail] at hq
    exact ⟨req.builder, _, _, Builder.buildList_barred _ hq hbuilt⟩
  · refine ((within_byId e rq ref id p).sent_within plan hplan).imp_right fun h => ?_
    obtain ⟨req, q, c, hl, hq, -, -, -, -, hbuilt⟩ := h.scoped
    rw [hl.scope_barred hclosed hent hsel hfail] at hq
    exact ⟨req.builder, _, _, Builder.buildById_barred _ hq hbuilt⟩

/-- A policy whose template is a bare `true`, which is no filter, cannot be applied; failing
closed, reads of its entity send only barred plans. -/
theorem reads_barred_failing_closed_bare :
    let ent : Catalog.Entity :=
      { id := 1, serviceId := "crm", name := "accounts", primaryKey := "id", allowRead := true }
    let bare : RowPolicy := ⟨2, 1, some "agent", "true", "", .zero, .zero⟩
    let mem : Memory := { store := { entities := [ent], rowPolicies := [bare] }
                          tableColumns := [("accounts", [⟨"id", "int"⟩, ⟨"region", "text"⟩])] }
    let e : Handler := Handler.new { failMode := .closedMode } none false
    let rq : Request := { serviceId := "crm", caller := { roleId := "agent", userId := "u1" } }
    ∃ err, e.options.failMode = .closedMode ∧
      findByRef mem.store.entities rq.serviceId "accounts" = some ent ∧
      select RowPolicy.roleId (forRole RowPolicy.entityId RowPolicy.roleId RowPolicy.id
        mem.store.rowPolicies ent.id rq.caller.roleId) rq.caller.roleId = some bare ∧
      evaluate bare.template rq.renderContext ((mem.columnsOf ent.name).map (·.name)) = .error err ∧
      (∀ p, let mem' := ((e.list backend rq "accounts" p).run.run mem).2
        ∀ plan ∈ mem'.plans ++ mem'.counted, plan ∈ mem.plans ++ mem.counted ∨
          ∃ (b : Builder) (fields : List String) (t : TableRef), b.Barred fields t plan) ∧
      (∀ id p, let mem' := ((e.byId backend rq "accounts" id p).run.run mem).2
        ∀ plan ∈ mem'.plans ++ mem'.counted, plan ∈ mem.plans ++ mem.counted ∨
          ∃ (b : Builder) (fields : List String) (t : TableRef), b.Barred fields t plan) := by
  intro ent bare mem e rq
  -- the template decodes and renders as itself, but reads as no filter
  obtain ⟨err, herr⟩ : ∃ err, evaluate bare.template rq.renderContext ["id", "region"] = .error err := by
    have hD : decodeTemplate bare.template = .ok (.bool true) := by cbv
    have hR : render rq.renderContext (.bool true) = .ok (.bool true) := by cbv
    have hF : (ofValue (.bool true) ["id", "region"]).toBool = false := by cbv
    rcases hf : ofValue (.bool true) ["id", "region"] with fe | f
    · exact ⟨.wrap .policyTemplateRender fe "rendered row policy is not a valid filter",
        by simp [evaluate, hD, hR, hf, bind, Except.bind]⟩
    · rw [hf] at hF
      cases hF
  have hsel : select RowPolicy.roleId (forRole RowPolicy.entityId RowPolicy.roleId RowPolicy.id
      mem.store.rowPolicies ent.id rq.caller.roleId) rq.caller.roleId = some bare := by
    show select RowPolicy.roleId (List.mergeSort [bare] _) "agent" = _
    rw [List.mergeSort_singleton]
    rfl
  exact ⟨err, rfl, rfl, hsel, herr,
    reads_barred_failing_closed mem e rq "accounts" ent bare err rfl rfl hsel herr⟩

end RowGate.Engine

import Mathlib
import RowGate.Proofs.Sql.Statement
import RowGate.Proofs.Engine.Plan
/-!
# Row policies scope every read

The selected row policy's filter joins every query of a read; a policy that fails closed bars
every statement of every plan from every row.
-/

namespace RowGate.Query

open RowGate.Filter

namespace SqlDialect

/-- A WHERE condition whose first top-level conjunct is the dialect's false condition. -/
def FalseFirst (d : SqlDialect) (w : String) : Prop :=
  w = d.falseCondition ∨ ∃ rest, w = "(" ++ d.falseCondition ++ " AND " ++ rest ++ ")"

theorem render_matchNothing (d : SqlDialect) (args : List Value) (f : String) :
    d.render args (Node.matchNothing f) = .ok (d.falseCondition, args) := rfl

theorem whereClause_falseFirst (d : SqlDialect) (f : String) (u : Filter) {w : String}
    {A : List Value} (h : d.whereClause (Node.both (some (Node.matchNothing f)) u) = .ok (w, A)) :
    d.FalseFirst w := by
  cases u with
  | none =>
    rw [Node.both_none, whereClause, render_matchNothing] at h
    cases h
    exact Or.inl rfl
  | some n =>
    rw [Node.both_some_some, whereClause, render] at h
    obtain ⟨⟨parts, args⟩, hall, h⟩ := bind_eq_ok.mp h
    obtain ⟨p, a, ps, hp, hps, rfl⟩ := renderAll_cons_eq_ok.mp hall
    rw [render_matchNothing] at hp
    cases hp
    obtain ⟨q, b, qs, hq, hqs, rfl⟩ := renderAll_cons_eq_ok.mp hps
    rw [renderAll] at hqs
    cases hqs
    cases h
    exact Or.inr ⟨q, by simp [String.append_assoc]⟩

theorem falseFirst_ne_empty {d : SqlDialect} {w : String} (h : d.FalseFirst w) : w.isEmpty = false := by
  rcases h with rfl | ⟨rest, rfl⟩
  · cases d <;> decide
  · simp

end SqlDialect

/-- A match document whose first condition matches no value: `{f: {$in: []}}` alone or first
of an `$and`. -/
def NoneFirst (m : Value) : Prop :=
  ∃ f, m = single f (single "$in" (.list [])) ∨
    ∃ rest, m = single "$and" (.list (single f (single "$in" (.list [])) :: rest))

theorem matchDocument_noneFirst (f : String) (u : Filter) {m : Value}
    (h : matchDocument (Node.both (some (Node.matchNothing f)) u) = .ok m) : NoneFirst m := by
  cases u with
  | none =>
    rw [Node.both_none] at h
    cases h
    exact ⟨f, Or.inl rfl⟩
  | some n =>
    rw [Node.both_some_some, matchDocument, nodeDocument] at h
    obtain ⟨docs, hdocs, h⟩ := bind_eq_ok.mp h
    rw [nodeDocuments] at hdocs
    obtain ⟨d, hd, hdocs⟩ := bind_eq_ok.mp hdocs
    obtain ⟨ds, -, hdocs⟩ := bind_eq_ok.mp hdocs
    cases hd
    cases hdocs
    cases h
    exact ⟨f, Or.inr ⟨ds, rfl⟩⟩

/-- A plan none of whose statements can match a row: each SQL statement on the table has a
WHERE condition whose first conjunct is false, the counting statement (when there is one) the
same condition; a document find's filter starts with a match on no value. -/
def Builder.Barred : Builder → List String → TableRef → Plan → Prop
  | .sql d, fields, t, p => ∃ w, d.FalseFirst w ∧
      (∃ rest, p.sql = "SELECT " ++ d.projection fields ++ " FROM " ++ d.table t ++ " WHERE " ++ w ++ rest) ∧
      (p.countSql = "" ∨ p.countSql = "SELECT COUNT(*) FROM " ++ d.table t ++ " WHERE " ++ w)
  | .document, _, _, p => ∃ fd, p.find = some fd ∧ NoneFirst fd.filter

theorem Builder.buildList_barred (b : Builder) {q : ListQuery} {f : String} {u : Filter} {p : Plan}
    (hq : q.filter = Node.both (some (Node.matchNothing f)) u) (h : b.buildList q = .ok p) :
    b.Barred q.fields q.table p := by
  cases b with
  | sql d =>
    simp only [Builder.buildList] at h
    cases hw : d.whereClause q.filter with
    | error e =>
      rw [SqlDialect.buildList, hw] at h
      cases h
    | ok r =>
      obtain ⟨w, wargs⟩ := r
      rw [SqlDialect.buildList_eq_ok hw] at h
      cases h
      have hff := SqlDialect.whereClause_falseFirst d f u (hq ▸ hw)
      have hwt : SqlDialect.whereText w = " WHERE " ++ w := by
        simp [SqlDialect.whereText, SqlDialect.falseFirst_ne_empty hff]
      refine ⟨w, hff, ⟨d.orderText q ++ (d.pageClause wargs (Page.of q.page q.pageSize).size
        (Page.of q.page q.pageSize).offset).1, ?_⟩, Or.inr ?_⟩ <;> simp [hwt, String.append_assoc]
  | document =>
    simp only [Builder.buildList, documentList] at h
    obtain ⟨m, hm, h⟩ := bind_eq_ok.mp h
    cases h
    exact ⟨_, rfl, matchDocument_noneFirst f u (hq ▸ hm)⟩

theorem Builder.buildById_barred (b : Builder) {q : ByIdQuery} {f : String} {p : Plan}
    (hq : q.scope = some (Node.matchNothing f)) (h : b.buildById q = .ok p) :
    b.Barred q.fields q.table p := by
  cases b with
  | sql d =>
    simp only [Builder.buildById, SqlDialect.buildById] at h
    by_cases hk : q.primaryKey.isEmpty = true
    · rw [if_pos hk] at h
      cases h
    rw [if_neg hk] at h
    obtain ⟨⟨w, args⟩, hw, h⟩ := bind_eq_ok.mp h
    cases h
    rw [hq] at hw
    exact ⟨w, SqlDialect.whereClause_falseFirst d f _ hw, ⟨"", by simp⟩, Or.inl rfl⟩
  | document =>
    simp only [Builder.buildById, documentById] at h
    by_cases hk : q.primaryKey.isEmpty = true
    · rw [if_pos hk] at h
      cases h
    rw [if_neg hk] at h
    obtain ⟨m, hm, h⟩ := bind_eq_ok.mp h
    cases h
    rw [hq] at hm
    exact ⟨_, rfl, matchDocument_noneFirst f _ hm⟩

end RowGate.Query

namespace RowGate.Policy

section Rows

variable {rps : List RowPolicy} {role : String} {ctx : Value} {cols : List String} {pk : String}
  {mode : FailMode}

theorem resolveRows_of_select_none (h : select RowPolicy.roleId rps role = none) :
    resolveRows rps role ctx cols pk mode = none := by
  simp [resolveRows, h]

theorem resolveRows_of_evaluate_ok {pol : RowPolicy} {f : Filter.Filter}
    (hs : select RowPolicy.roleId rps role = some pol) (he : evaluate pol.template ctx cols = .ok f) :
    resolveRows rps role ctx cols pk mode = f := by
  simp [resolveRows, hs, he]

theorem resolveRows_of_evaluate_error_open {pol : RowPolicy} {e : Fault}
    (hs : select RowPolicy.roleId rps role = some pol) (he : evaluate pol.template ctx cols = .error e) :
    resolveRows rps role ctx cols pk .openMode = none := by
  simp [resolveRows, hs, he]

theorem resolveRows_of_evaluate_error_closed {pol : RowPolicy} {e : Fault}
    (hs : select RowPolicy.roleId rps role = some pol) (he : evaluate pol.template ctx cols = .error e) :
    resolveRows rps role ctx cols pk .closedMode =
      some (Filter.Node.matchNothing (matchNothingField pk cols)) := by
  simp [resolveRows, hs, he]

end Rows

end RowGate.Policy

namespace RowGate.Engine

open Policy Query RowGate.Filter

theorem renderContext_identity (r : Request) :
    (r.renderContext.field? "user" >>= (·.field? "id")) = some (.str r.caller.userId) ∧
    (r.renderContext.field? "user" >>= (·.field? "email")) = some (.str r.caller.email) ∧
    (r.renderContext.field? "organization" >>= (·.field? "id")) =
      some (.str r.caller.organizationId) ∧
    (r.renderContext.field? "role" >>= (·.field? "id")) = some (.str r.caller.roleId) ∧
    (r.renderContext.field? "role" >>= (·.field? "name")) = some (.str r.caller.roleName) := by
  simp [Request.renderContext, Value.ofPairs, Value.field?, Entries.ofList, Entries.get?_insert]

section Scoped

variable {ε : Type}

/-- Row policies scope every read. The scope joins the caller's filter in the query of every
list plan, whose one plan serves the page and the count, and joins the key condition in every
single-record plan. It is the filter of the row policy selected for the caller's role, rendered
in the request's context, and none when no policy is selected. A policy that cannot be applied
scopes nothing when the gateway fails open; when it fails closed, every statement of every plan
is barred from every row. The context's identity fields are the gateway's own. -/
theorem reads_scoped (req : Prepared ε) (o : Options) (rps : List RowPolicy)
    (hscope : req.scope = resolveRows rps req.request.caller.roleId req.request.renderContext
      (req.columns.map (·.name)) req.entity.primaryKey o.failMode) :
    (∀ p lp, req.planList o p = .ok lp →
      lp.query.filter = Node.both req.scope lp.userFilter ∧ req.builder.buildList lp.query = .ok lp.plan) ∧
    (∀ ref id p bp, req.planById ref id p = .ok bp →
      bp.query.scope = req.scope ∧ bp.query.primaryKey = req.entity.primaryKey ∧
      (∃ c, req.columns.find? (·.name == req.entity.primaryKey) = some c ∧
        bp.query.id = coerceId id c) ∧ req.builder.buildById bp.query = .ok bp.plan) ∧
    (select RowPolicy.roleId rps req.request.caller.roleId = none → req.scope = none) ∧
    (∀ pol, select RowPolicy.roleId rps req.request.caller.roleId = some pol →
      (∀ f, evaluate pol.template req.request.renderContext (req.columns.map (·.name)) = .ok f →
        req.scope = f) ∧
      (∀ e, evaluate pol.template req.request.renderContext (req.columns.map (·.name)) = .error e →
        (o.failMode = .openMode → req.scope = none) ∧
        (o.failMode = .closedMode →
          (∀ p lp, req.planList o p = .ok lp →
            req.builder.Barred lp.query.fields lp.query.table lp.plan) ∧
          (∀ ref id p bp, req.planById ref id p = .ok bp →
            req.builder.Barred bp.query.fields bp.query.table bp.plan)))) ∧
    (req.request.renderContext.field? "user" >>= (·.field? "id")) =
      some (.str req.request.caller.userId) ∧
    (req.request.renderContext.field? "user" >>= (·.field? "email")) =
      some (.str req.request.caller.email) ∧
    (req.request.renderContext.field? "organization" >>= (·.field? "id")) =
      some (.str req.request.caller.organizationId) ∧
    (req.request.renderContext.field? "role" >>= (·.field? "id")) =
      some (.str req.request.caller.roleId) ∧
    (req.request.renderContext.field? "role" >>= (·.field? "name")) =
      some (.str req.request.caller.roleName) := by
  have hlist : ∀ p lp, req.planList o p = .ok lp →
      lp.query.filter = Node.both req.scope lp.userFilter ∧ req.builder.buildList lp.query = .ok lp.plan :=
    fun p lp h => ⟨by rw [(planList_planned h).query_eq], (planList_planned h).built⟩
  have hbyid : ∀ ref id p bp, req.planById ref id p = .ok bp →
      bp.query.scope = req.scope ∧ bp.query.primaryKey = req.entity.primaryKey ∧
      (∃ c, req.columns.find? (·.name == req.entity.primaryKey) = some c ∧
        bp.query.id = coerceId id c) ∧ req.builder.buildById bp.query = .ok bp.plan :=
    fun ref id p bp h => by
      obtain ⟨c, hc, hq⟩ := (planById_planned h).keyed
      rw [hq]
      exact ⟨rfl, rfl, ⟨c, hc, rfl⟩, hq ▸ (planById_planned h).built⟩
  refine ⟨hlist, hbyid, fun hs => hscope.trans (resolveRows_of_select_none hs),
    fun pol hs => ⟨fun f he => hscope.trans (resolveRows_of_evaluate_ok hs he), fun e he => ?_⟩,
    renderContext_identity req.request⟩
  refine ⟨fun hopen => ?_, fun hclosed => ?_⟩
  · rw [hscope, hopen]
    exact resolveRows_of_evaluate_error_open hs he
  -- failing closed leaves the condition no row meets as the scope, first in every filter
  have hfail : req.scope = some (Node.matchNothing
      (matchNothingField req.entity.primaryKey (req.columns.map (·.name)))) := by
    rw [hscope, hclosed]
    exact resolveRows_of_evaluate_error_closed hs he
  refine ⟨fun p lp h => ?_, fun ref id p bp h => ?_⟩
  · obtain ⟨hq, hbuilt⟩ := hlist p lp h
    rw [hfail] at hq
    exact Builder.buildList_barred _ hq hbuilt
  · obtain ⟨hq, -, -, hbuilt⟩ := hbyid ref id p bp h
    rw [hfail] at hq
    exact Builder.buildById_barred _ hq hbuilt

/-- A policy selected for the agent role keeps the rows of the west region; one naming a
column the entity lacks scopes nothing when the gateway fails open, and when it fails closed
the first page still plans, barred from every row. -/
theorem reads_scoped_by_region :
    let rq : Request := { serviceId := "crm", caller := { roleId := "agent", userId := "u1" } }
    let ent : Catalog.Entity :=
      { id := 1, serviceId := "crm", name := "accounts", primaryKey := "id" }
    let cols : List Executor.Column := [⟨"id", "int"⟩, ⟨"region", "text"⟩]
    let west : RowPolicy := ⟨1, 1, some "agent",
      "\x7b\"field\":\"region\",\"op\":\"eq\",\"value\":\"west\"\x7d", "", .zero, .zero⟩
    let zone : RowPolicy := ⟨2, 1, some "agent",
      "\x7b\"field\":\"zone\",\"op\":\"eq\",\"value\":\"west\"\x7d", "", .zero, .zero⟩
    let read (pol : RowPolicy) (mode : FailMode) : Prepared Unit :=
      ⟨rq, ent, default, .sql .postgres, (), cols, ⟨["id", "region"], []⟩,
        resolveRows [pol] "agent" rq.renderContext ["id", "region"] "id" mode⟩
    (read west .openMode).scope = some (.cond "region" .eq (.str "west")) ∧
    (∀ p lp, (read west .openMode).planList {} p = .ok lp →
      lp.query.filter = Node.both (some (.cond "region" .eq (.str "west"))) lp.userFilter) ∧
    (read zone .openMode).scope = none ∧
    ∃ lp, (read zone .closedMode).planList { failMode := .closedMode } {} = .ok lp ∧
      Builder.Barred (.sql .postgres) lp.query.fields lp.query.table lp.plan := by
  intro rq ent cols west zone read
  -- each template decodes to one flat condition, which rendering leaves as it is
  have hwest : evaluate west.template rq.renderContext ["id", "region"] =
      .ok (some (.cond "region" .eq (.str "west"))) := by
    let W : Value := .obj [("field", .str "region"), ("op", .str "eq"), ("value", .str "west")]
    have hD : decodeTemplate west.template = .ok W := by cbv
    have hR : render rq.renderContext W = .ok W := by cbv
    have hF : ofValue W ["id", "region"] = .ok (some (.cond "region" .eq (.str "west"))) := by cbv
    simp [evaluate, hD, hR, hF, bind, Except.bind]
  have hzone : evaluate zone.template rq.renderContext ["id", "region"] =
      .error (.wrap .policyTemplateRender
        (.new .invalidFilterField ("unknown filter field " ++ Text.quote "zone"))
        "rendered row policy is not a valid filter") := by
    let Z : Value := .obj [("field", .str "zone"), ("op", .str "eq"), ("value", .str "west")]
    have hD : decodeTemplate zone.template = .ok Z := by cbv
    have hR : render rq.renderContext Z = .ok Z := by cbv
    have hF : ofValue Z ["id", "region"] =
        .error (.new .invalidFilterField ("unknown filter field " ++ Text.quote "zone")) := by cbv
    simp [evaluate, hD, hR, hF, bind, Except.bind]
  have hsw : select RowPolicy.roleId [west] rq.caller.roleId = some west := rfl
  have hsz : select RowPolicy.roleId [zone] rq.caller.roleId = some zone := rfl
  have hopen := reads_scoped (read west .openMode) {} [west] rfl
  have hfail := reads_scoped (read zone .openMode) {} [zone] rfl
  have hclosed := reads_scoped (read zone .closedMode) { failMode := .closedMode } [zone] rfl
  have hsc : (read west .openMode).scope = some (.cond "region" .eq (.str "west")) :=
    (hopen.2.2.2.1 west hsw).1 _ hwest
  refine ⟨hsc, fun p lp h => hsc ▸ (hopen.1 p lp h).1,
    ((hfail.2.2.2.1 zone hsz).2 _ hzone).1 rfl, ?_⟩
  -- failing closed, the scope is the condition no row meets on the key, and the page still plans
  have hnone : (read zone .closedMode).scope = some (Node.matchNothing "id") :=
    resolveRows_of_evaluate_error_closed hsz hzone
  rcases hlp : (read zone .closedMode).planList { failMode := .closedMode } {} with e | lp
  · have hok : ({ read zone .closedMode with scope := some (Node.matchNothing "id") }.planList
        { failMode := .closedMode } {}).isOk = true := by decide
    rw [← hnone, hlp] at hok
    cases hok
  · exact ⟨lp, rfl, (((hclosed.2.2.2.1 zone hsz).2 _ hzone).2 rfl).1 {} lp hlp⟩

end Scoped

end RowGate.Engine

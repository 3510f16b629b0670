import Mathlib.Data.List.Nodup
import RowGate.Catalog.Admin
import RowGate.Proofs.Backend.Steps
/-!
# Exposed entities stay addressable

Exposures and revocations over the catalog in memory keep names and aliases distinct, so each
entity is found by its alias; an alias equal to another entity's name takes that name over.
-/

namespace RowGate.Backend.Memory

open Catalog

variable {α β : Type}

/-- An action on the memory that leaves the catalog `s` as it finds it and, when it succeeds,
answers with a value satisfying `Q`. -/
def Keeps (s : Store) (x : ExceptT Fault (StateM Memory) α) (Q : α → Prop) : Prop :=
  ∀ mem, mem.store = s → (x.run.run mem).2.store = s ∧ ∀ a, (x.run.run mem).1 = .ok a → Q a

namespace Keeps

variable {s : Store} {x : ExceptT Fault (StateM Memory) α} {Q R : α → Prop}

-- `Keeps s` is `Stays` for the memories whose catalog is `s`: each rule is the general one
protected theorem pure {a : α} (h : Q a) : Keeps s (pure a) Q := Stays.pure h

protected theorem throw {e : Fault} : Keeps s (throw e) Q := Stays.throw

protected theorem bind {f : α → ExceptT Fault (StateM Memory) β} {R : β → Prop}
    (hx : Keeps s x Q) (hf : ∀ a, Q a → Keeps s (f a) R) : Keeps s (x >>= f) R :=
  Stays.bind hx hf

theorem throw_bind {e : Fault} {f : α → ExceptT Fault (StateM Memory) β} {R : β → Prop} :
    Keeps s (throw e >>= f) R :=
  Stays.throw_bind

theorem mono (hx : Keeps s x Q) (h : ∀ a, Q a → R a) : Keeps s x R := Stays.mono hx h

theorem caught (hx : Keeps s x Q) : Keeps s (caught x) (fun r => ∀ a, r = .ok a → Q a) :=
  Stays.caught hx

theorem explainFailure {c : String} (hx : Keeps s x Q) : Keeps s (RowGate.explainFailure c x) Q :=
  Stays.explainFailure hx

theorem wrapFailure {c : Code} {msg : String} (hx : Keeps s x Q) :
    Keeps s (RowGate.wrapFailure c msg x) Q :=
  Stays.wrapFailure hx

theorem ite {c : Prop} [Decidable c] {t e : ExceptT Fault (StateM Memory) α}
    (ht : c → Keeps s t Q) (he : ¬c → Keeps s e Q) : Keeps s (if c then t else e) Q :=
  Stays.ite ht he

theorem get : Keeps s (get : ExceptT Fault (StateM Memory) Memory) (·.store = s) := Stays.get

theorem modify {f : Memory → Memory} (hf : ∀ mem, (f mem).store = mem.store) :
    Keeps s (modify f : ExceptT Fault (StateM Memory) PUnit) (fun _ => True) :=
  Stays.modify fun mem hs => (hf mem).trans hs

end Keeps

/-! ### The backend's reads -/

variable {s : Store}

theorem keeps_serve {stage : Stage} {v : α} : Keeps s (serve stage v) (· = v) :=
  stays_serve fun _ _ h => h

theorem keeps_entityExists (svc name aliasName : String) :
    Keeps s (backend.entityExists svc name aliasName) (· = s.exposes svc name aliasName) :=
  Keeps.get.bind fun _ h => Keeps.pure (by rw [h])

theorem keeps_resolve (svc env : String) : Keeps s (backend.resolve svc env) (fun _ => True) := by
  refine Keeps.get.bind fun mem _ => ?_
  split
  · exact Keeps.pure trivial
  · exact Keeps.throw

theorem keeps_acquire (cfg : Connection.Config) : Keeps s (backend.acquire cfg) (fun _ => True) :=
  keeps_serve.mono fun _ _ => trivial

theorem keeps_tables (ex : Unit) : Keeps s (backend.tables ex) (fun _ => True) :=
  Keeps.get.bind fun _ _ => keeps_serve.mono fun _ _ => trivial

theorem keeps_columns (ex : Unit) (t : Query.TableRef) :
    Keeps s (backend.columns ex t) (fun _ => True) := by
  simp only [backend]
  refine Keeps.bind (Q := fun _ => True) (Keeps.modify fun _ => rfl) fun _ _ => ?_
  exact Keeps.get.bind fun _ _ => keeps_serve.mono fun _ _ => trivial

theorem keeps_getEntity (svc : String) (id : Nat) :
    Keeps s (backend.getEntity svc id) (fun _ => True) :=
  Keeps.get.bind fun _ _ => Keeps.pure trivial

end RowGate.Backend.Memory

namespace RowGate.Catalog

open Backend Memory

/-! ### One exposure, one revocation -/

theorem exposure_keeps (s : Store) (r : ExposeRequest) :
    Keeps s (exposure backend r) fun e => s.exposes r.serviceId r.name r.aliasName = false ∧
      e.serviceId = r.serviceId ∧ e.name = r.name ∧ e.pathAlias = r.aliasName := by
  unfold exposure
  -- the request's rules, then the alias
  refine Keeps.ite (fun _ => Keeps.throw_bind) fun _ => ?_
  refine Keeps.ite (fun _ => Keeps.throw_bind) fun _ => ?_
  refine ((keeps_entityExists _ _ _).explainFailure).bind fun used hused => ?_
  refine Keeps.ite (fun _ => Keeps.throw_bind) fun hfresh => ?_
  have hfree : s.exposes r.serviceId r.name r.aliasName = false := by
    rw [← hused]
    simpa using hfresh
  refine (keeps_resolve _ _).bind fun svc _ => ?_
  refine (keeps_acquire _).wrapFailure.bind fun ex _ => ?_
  refine (keeps_tables _).wrapFailure.bind fun tables _ => ?_
  -- the table is found by the request's name
  rcases ht : tables.find? (fun t => t.name == r.name && (r.schema.isEmpty || t.schema == r.schema))
    with _ | t
  · simp only [ht]
    exact Keeps.throw_bind
  · simp only [ht, pure_bind]
    have hname : t.name = r.name := by
      have := List.find?_some ht
      simp only [Bool.and_eq_true, beq_iff_eq] at this
      exact this.1
    refine (keeps_columns _ _).wrapFailure.bind fun columns _ => ?_
    refine Keeps.ite (fun _ => Keeps.throw_bind) fun _ => ?_
    apply Keeps.pure
    refine ⟨hfree, rfl, hname, ?_⟩
    dsimp only

theorem expose_cases (mem : Memory) (r : ExposeRequest) :
    (∃ f, ((expose backend r).run.run mem).1 = .error f ∧
      ((expose backend r).run.run mem).2.store = mem.store) ∨
    ∃ e, mem.store.exposes r.serviceId r.name r.aliasName = false ∧ e.serviceId = r.serviceId ∧
      e.name = r.name ∧ e.pathAlias = r.aliasName ∧
      ((expose backend r).run.run mem).1 = .ok (mem.store.create e).2 ∧
      ((expose backend r).run.run mem).2.store = (mem.store.create e).1 := by
  obtain ⟨hstore, hres⟩ := exposure_keeps mem.store r mem rfl
  unfold expose
  rw [run_bind]
  rcases h : (exposure backend r).run.run mem with ⟨_ | e, mem'⟩
  · rw [h] at hstore
    exact .inl ⟨_, rfl, hstore⟩
  · rw [h] at hstore hres
    obtain ⟨hfree, hsvc, hname, halias⟩ := hres e rfl
    refine .inr ⟨e, hfree, hsvc, hname, halias, ?_⟩
    rw [← hstore]
    exact ⟨rfl, rfl⟩

theorem revoke_store (mem : Memory) (svc : String) (id : Nat) :
    ((revoke backend svc id).run.run mem).2.store = mem.store ∨
    ∃ i, ((revoke backend svc id).run.run mem).2.store = mem.store.revoke i := by
  have hfound : Keeps mem.store (entityOf backend svc id) (fun _ => True) := by
    refine (keeps_getEntity svc id).explainFailure.bind fun o _ => ?_
    cases o with
    | some e => exact Keeps.pure trivial
    | none => exact Keeps.throw
  obtain ⟨hstore, -⟩ := hfound mem rfl
  unfold revoke
  rw [run_bind]
  rcases h : (entityOf backend svc id).run.run mem with ⟨_ | e, mem'⟩
  · rw [h] at hstore
    exact .inl hstore
  · rw [h] at hstore
    refine .inr ⟨e.id, ?_⟩
    rw [← hstore]
    rfl

/-! ### Names and aliases within a service -/

section References

variable {s : Store} {e : Entity}

theorem exposes_eq_false {svc name aliasName : String} :
    s.exposes svc name aliasName = false ↔
      ∀ x ∈ s.entities, x.serviceId = svc → x.name ≠ name ∧ x.pathAlias ≠ aliasName := by
  simp only [Store.exposes, List.any_eq_false, Bool.and_eq_true, beq_iff_eq, Bool.or_eq_true]
  constructor
  · intro h x hx hsvc
    exact ⟨fun hn => h x hx ⟨hsvc, .inl hn⟩, fun ha => h x hx ⟨hsvc, .inr ha⟩⟩
  · rintro h x hx ⟨hsvc, hn | ha⟩
    · exact (h x hx hsvc).1 hn
    · exact (h x hx hsvc).2 ha

/-- Within each service, entity names are distinct and path aliases are distinct. -/
structure Addressable (s : Store) : Prop where
  names_nodup : ∀ svc, ((s.entities.filter (·.serviceId == svc)).map (·.name)).Nodup
  aliases_nodup : ∀ svc, ((s.entities.filter (·.serviceId == svc)).map (·.pathAlias)).Nodup

@[simp] theorem create_entities : (s.create e).1.entities = s.entities ++ [(s.create e).2] := rfl

@[simp] theorem create_serviceId : (s.create e).2.serviceId = e.serviceId := rfl

@[simp] theorem create_name : (s.create e).2.name = e.name := rfl

@[simp] theorem create_pathAlias : (s.create e).2.pathAlias = e.pathAlias := rfl

theorem nodup_keys_append {f : Entity → String} {svc : String}
    (h : ((s.entities.filter (·.serviceId == svc)).map f).Nodup)
    (hfresh : e.serviceId = svc → ∀ x ∈ s.entities, x.serviceId = svc → f x ≠ f (s.create e).2) :
    (((s.create e).1.entities.filter (·.serviceId == svc)).map f).Nodup := by
  rw [create_entities, List.filter_append, List.map_append]
  by_cases hsvc : e.serviceId = svc
  · simp only [List.filter_cons, List.filter_nil, create_serviceId, hsvc, beq_self_eq_true, if_true,
      List.map_cons, List.map_nil, List.nodup_append, List.nodup_cons, List.not_mem_nil,
      not_false_eq_true, List.nodup_nil, and_self, List.mem_singleton, true_and]
    refine ⟨h, fun a ha b hb => ?_⟩
    obtain ⟨x, hx, rfl⟩ := List.mem_map.mp ha
    obtain ⟨hxe, hxs⟩ := List.mem_filter.mp hx
    rw [hb]
    exact hfresh hsvc x hxe (by simpa using hxs)
  · simpa [hsvc] using h

theorem Addressable.create (h : Addressable s)
    (hfree : s.exposes e.serviceId e.name e.pathAlias = false) : Addressable (s.create e).1 where
  names_nodup svc := nodup_keys_append (h.names_nodup svc) fun hsvc x hx hxs =>
    (exposes_eq_false.mp hfree x hx (hxs.trans hsvc.symm)).1
  aliases_nodup svc := nodup_keys_append (h.aliases_nodup svc) fun hsvc x hx hxs =>
    (exposes_eq_false.mp hfree x hx (hxs.trans hsvc.symm)).2

theorem Addressable.revoke (h : Addressable s) (i : Nat) : Addressable (s.revoke i) where
  names_nodup svc := (h.names_nodup svc).sublist ((List.filter_sublist.filter _).map _)
  aliases_nodup svc := (h.aliases_nodup svc).sublist ((List.filter_sublist.filter _).map _)

theorem Addressable.findByRef_alias (h : Addressable s) (he : e ∈ s.entities) :
    findByRef s.entities e.serviceId e.pathAlias = some e := by
  have hown : e ∈ s.entities.filter (·.serviceId == e.serviceId) := by simp [he]
  obtain ⟨x, hx⟩ : ∃ x, (s.entities.filter (·.serviceId == e.serviceId)).find?
      (·.pathAlias == e.pathAlias) = some x := by
    cases hf : (s.entities.filter (·.serviceId == e.serviceId)).find? (·.pathAlias == e.pathAlias) with
    | none => exact absurd (List.find?_eq_none.mp hf e hown) (by simp)
    | some x => exact ⟨x, rfl⟩
  have hxa : x.pathAlias = e.pathAlias := by simpa using List.find?_some hx
  have hxe : x = e :=
    List.inj_on_of_nodup_map (h.aliases_nodup e.serviceId) (List.mem_of_find?_eq_some hx) hown hxa
  simp [findByRef, hx, hxe]

theorem findByRef_append_fresh (es : List Entity) (x : Entity)
    (hfresh : ∀ y ∈ es, y.serviceId = x.serviceId → y.pathAlias ≠ x.pathAlias) (svc ref : String) :
    findByRef (es ++ [x]) svc ref =
      if x.serviceId = svc ∧ ref = x.pathAlias then some x
      else (findByRef es svc ref).or (if x.serviceId = svc ∧ ref = x.name then some x else none) := by
  unfold findByRef
  simp only [List.filter_append, List.find?_append, Option.orElse_eq_or]
  by_cases hsvc : x.serviceId = svc
  · subst hsvc
    have hown : [x].filter (·.serviceId == x.serviceId) = [x] := by simp
    rw [hown, List.find?_singleton, List.find?_singleton]
    by_cases halias : ref = x.pathAlias
    · -- no entity of the service has the new alias, so the alias search reaches the new entity
      subst halias
      have hnone : (es.filter (·.serviceId == x.serviceId)).find? (·.pathAlias == x.pathAlias) = none := by
        simp only [List.find?_eq_none, List.mem_filter, beq_iff_eq, and_imp]
        exact fun y hy hys => hfresh y hy hys
      simp [hnone]
    · by_cases hname : ref = x.name
      · subst hname
        simp [halias, Ne.symm halias]
      · simp [Ne.symm halias, Ne.symm hname, halias, hname]
  · simp [hsvc]

theorem findByRef_create (hfree : s.exposes e.serviceId e.name e.pathAlias = false)
    (svc ref : String) :
    findByRef (s.create e).1.entities svc ref =
      if e.serviceId = svc ∧ ref = e.pathAlias then some (s.create e).2
      else (findByRef s.entities svc ref).or
        (if e.serviceId = svc ∧ ref = e.name then some (s.create e).2 else none) := by
  rw [create_entities]
  exact findByRef_append_fresh _ (s.create e).2
    (fun y hy hys => (exposes_eq_false.mp hfree y hy hys).2) svc ref

theorem Addressable.findByRef_create_alias (h : Addressable s)
    (hfree : s.exposes e.serviceId e.name e.pathAlias = false) {x : Entity} (hx : x ∈ s.entities) :
    findByRef (s.create e).1.entities x.serviceId x.pathAlias = some x := by
  rw [findByRef_create hfree, if_neg, h.findByRef_alias hx, Option.some_or]
  rintro ⟨hsvc, halias⟩
  exact (exposes_eq_false.mp hfree x hx hsvc.symm).2 halias

end References

/-! ### Sequences of calls -/

/-- A call of the catalog's administration. -/
inductive AdminCall where
  | expose (r : ExposeRequest)
  | revoke (serviceId : String) (id : Nat)

/-- The memory after a call. -/
def AdminCall.apply (mem : Memory) : AdminCall → Memory
  | .expose r => ((Catalog.expose backend r).run.run mem).2
  | .revoke svc id => ((Catalog.revoke backend svc id).run.run mem).2

/-- The memory after a sequence of calls. -/
def runCalls (mem : Memory) (calls : List AdminCall) : Memory := calls.foldl AdminCall.apply mem

theorem Addressable.apply {mem : Memory} (h : Addressable mem.store) (c : AdminCall) :
    Addressable (c.apply mem).store := by
  cases c with
  | expose r =>
    rcases expose_cases mem r with ⟨_, -, hstore⟩ | ⟨e, hfree, hsvc, hname, halias, -, hstore⟩
    · rw [AdminCall.apply, hstore]
      exact h
    · rw [AdminCall.apply, hstore]
      exact h.create (by rw [hsvc, hname, halias]; exact hfree)
  | revoke svc id =>
    rcases revoke_store mem svc id with hstore | ⟨i, hstore⟩
    · rw [AdminCall.apply, hstore]
      exact h
    · rw [AdminCall.apply, hstore]
      exact h.revoke i

theorem Addressable.runCalls {mem : Memory} (h : Addressable mem.store) (calls : List AdminCall) :
    Addressable (Catalog.runCalls mem calls).store := by
  induction calls generalizing mem with
  | nil => exact h
  | cons c cs ih => exact ih (h.apply c)

theorem addressable_empty : Addressable ({} : Store) where
  names_nodup _ := List.nodup_nil
  aliases_nodup _ := List.nodup_nil

/-- Every sequence of exposures and revocations from an empty catalog keeps entities uniquely
addressable: within each service names are distinct and aliases are distinct, and each entity
is found by its alias. An exposure then either fails and leaves the catalog as it was, or stores
an entity of the request's service, name and alias and changes how references resolve at that
alias only: every existing entity keeps its alias, a reference that named something keeps
naming it unless it is the new alias, and the new alias names the new entity even where it is
an existing entity's name. -/
theorem exposures_stay_addressable (world : Memory) (calls : List AdminCall) :
    let mem := runCalls { world with store := {} } calls
    Addressable mem.store ∧
    (∀ x ∈ mem.store.entities, findByRef mem.store.entities x.serviceId x.pathAlias = some x) ∧
    ∀ r : ExposeRequest,
      (∃ f, ((expose backend r).run.run mem).1 = .error f ∧
        ((expose backend r).run.run mem).2.store = mem.store) ∨
      ∃ e, ((expose backend r).run.run mem).1 = .ok e ∧ e.serviceId = r.serviceId ∧
        e.name = r.name ∧ e.pathAlias = r.aliasName ∧
        (∀ x ∈ mem.store.entities,
          findByRef ((expose backend r).run.run mem).2.store.entities x.serviceId x.pathAlias = some x) ∧
        ∀ svc ref, findByRef ((expose backend r).run.run mem).2.store.entities svc ref =
          if r.serviceId = svc ∧ ref = e.pathAlias then some e
          else (findByRef mem.store.entities svc ref).or
            (if r.serviceId = svc ∧ ref = e.name then some e else none) := by
  intro mem
  have h : Addressable mem.store := addressable_empty.runCalls calls
  refine ⟨h, fun x hx => h.findByRef_alias hx, fun r => ?_⟩
  rcases expose_cases mem r with hfail | ⟨e, hfree, hsvc, hname, halias, hres, hstore⟩
  · exact .inl hfail
  · have hfree' : mem.store.exposes e.serviceId e.name e.pathAlias = false := by
      rw [hsvc, hname, halias]
      exact hfree
    refine .inr ⟨_, hres, hsvc, hname, halias, fun x hx => ?_, fun svc ref => ?_⟩
    · rw [hstore]
      exact h.findByRef_create_alias hfree' hx
    · rw [hstore, findByRef_create hfree', hsvc]
      rfl

/-- Exposing a table under an alias that is an existing entity's name succeeds, and from then on
that name resolves to the new table instead of the entity it used to name. -/
theorem alias_takes_over_existing_name :
    let world : Memory :=
      { services := [{ id := "svc", connection := { type := "mysql" } }]
        tables := [{ schema := "", name := "orders", kind := "TABLE" },
          { schema := "", name := "c", kind := "TABLE" }]
        tableColumns := [("*", [{ name := "id", dataType := "int" }])] }
    let mem := runCalls world
      [.expose { serviceId := "svc", name := "orders", primaryKey := "id", pathAlias := "o" }]
    let r : ExposeRequest := { serviceId := "svc", name := "c", primaryKey := "id", pathAlias := "orders" }
    (findByRef mem.store.entities "svc" "orders").map (·.name) = some "orders" ∧
    ((expose backend r).run.run mem).1.isOk = true ∧
    (findByRef ((expose backend r).run.run mem).2.store.entities "svc" "orders").map (·.name) =
      some "c" := by
  dsimp only
  decide

end RowGate.Catalog

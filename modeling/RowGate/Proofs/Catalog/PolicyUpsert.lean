import Mathlib.Data.List.Find
import Mathlib.Data.List.Nodup
import Mathlib.Logic.Function.Basic
import RowGate.Catalog.Store

/-!
# Policy upserts in two steps

Serial upserts keep one policy per entity and role and resolve to the latest; overlapping ones
store two (`overlapping_upserts_store_twice`).
-/

namespace RowGate.Catalog

open Policy

theorem lt_nextId {ids : List Nat} {x : Nat} (hx : x ∈ ids) : x < nextId ids := by
  have hle : ∀ (l : List Nat) (a : Nat), a ≤ l.foldl max a ∧ ∀ y ∈ l, y ≤ l.foldl max a := by
    intro l
    induction l with
    | nil => simp
    | cons y l ih =>
      intro a
      obtain ⟨ha, hl⟩ := ih (max a y)
      refine ⟨le_trans (Nat.le_max_left a y) ha, ?_⟩
      intro z hz
      rcases List.mem_cons.1 hz with rfl | hz
      · exact le_trans (Nat.le_max_right a z) ha
      · exact hl z hz
  exact Nat.lt_succ_of_le ((hle ids 0).2 x hx)

/-- How a kind of policy is filed: by entity and role, under an id the store gives it. Giving an
id keeps the entity and the role. -/
structure PolicyKind (α : Type) where
  entityOf : α → Nat
  roleOf : α → Option String
  idOf : α → Nat
  withId : α → Nat → α
  idOf_withId : ∀ p i, idOf (withId p i) = i
  entityOf_withId : ∀ p i, entityOf (withId p i) = entityOf p
  roleOf_withId : ∀ p i, roleOf (withId p i) = roleOf p

namespace PolicyKind

variable {α : Type} (k : PolicyKind α)

/-- The entity and role a policy is for. -/
def key (p : α) : Nat × Option String := (k.entityOf p, k.roleOf p)

/-- Whether a record is for the entity and role of `p`: the one an upsert of `p` replaces. -/
def same (p x : α) : Bool := k.entityOf x == k.entityOf p && k.roleOf x == k.roleOf p

theorem same_iff {p x : α} : k.same p x = true ↔ k.key x = k.key p := by
  simp [same, key]

@[simp] theorem key_withId (p : α) (i : Nat) : k.key (k.withId p i) = k.key p := by
  simp [key, k.entityOf_withId, k.roleOf_withId]

end PolicyKind

/-- Field policies, filed by entity and role. -/
def fieldKind : PolicyKind FieldPolicy where
  entityOf := FieldPolicy.entityId
  roleOf := FieldPolicy.roleId
  idOf := FieldPolicy.id
  withId x i := { x with id := i }
  idOf_withId _ _ := rfl
  entityOf_withId _ _ := rfl
  roleOf_withId _ _ := rfl

/-- Row policies, filed by entity and role. -/
def rowKind : PolicyKind RowPolicy where
  entityOf := RowPolicy.entityId
  roleOf := RowPolicy.roleId
  idOf := RowPolicy.id
  withId x i := { x with id := i }
  idOf_withId _ _ := rfl
  entityOf_withId _ _ := rfl
  roleOf_withId _ _ := rfl

/-- The store's two upserts are `upsertBy` for the two kinds. -/
theorem Store.upsertField_eq (s : Store) (p : FieldPolicy) :
    s.upsertField p =
      ({ s with fieldPolicies := (upsertBy (fieldKind.same p) fieldKind.idOf fieldKind.withId
          s.fieldPolicies p).1 },
        (upsertBy (fieldKind.same p) fieldKind.idOf fieldKind.withId s.fieldPolicies p).2) := rfl

theorem Store.upsertRow_eq (s : Store) (p : RowPolicy) :
    s.upsertRow p =
      ({ s with rowPolicies := (upsertBy (rowKind.same p) rowKind.idOf rowKind.withId
          s.rowPolicies p).1 },
        (upsertBy (rowKind.same p) rowKind.idOf rowKind.withId s.rowPolicies p).2) := rfl

/-! ### Upserts in two steps -/

/-- Where an upsert is: not begun, past its look-up with the id of the row it found if any, or
done with the policy it stored. -/
inductive Upsert (α : Type) where
  | idle
  | found (p : α) (old : Option Nat)
  | done (p : α)

/-- One step of one upsert. -/
inductive UpsertStep (α : Type) where
  /-- The upsert looks up a row of its policy's entity and role, one at most. -/
  | lookup (caller : Nat) (p : α)
  /-- It saves its policy over the row it found, under that row's id, or adds it under the
  next id. -/
  | write (caller : Nat)

/-- The stored policies of one kind, the upserts in flight, and the policies the finished upserts
stored, in the order they wrote. -/
structure Upserts (α : Type) where
  rows : List α := []
  callers : Nat → Upsert α := fun _ => .idle
  written : List α := []

namespace Upserts

variable {α : Type} (k : PolicyKind α)

/-- An idle upsert looks up the row of its policy's entity and role and keeps that row's id. -/
def lookup (m : Upserts α) (i : Nat) (p : α) : Upserts α :=
  match m.callers i with
  | .idle =>
    { m with callers := Function.update m.callers i
               (.found p ((m.rows.find? (k.same p)).map k.idOf)) }
  | _ => m

/-- An upsert past its look-up saves over the row of the id it kept, or adds its policy under
the next id when it found none. -/
def write (m : Upserts α) (i : Nat) : Upserts α :=
  match m.callers i with
  | .found p (some id) =>
    { m with rows := m.rows.map fun x => if k.idOf x == id then k.withId p id else x
             callers := Function.update m.callers i (.done (k.withId p id))
             written := m.written ++ [k.withId p id] }
  | .found p none =>
    { m with rows := m.rows ++ [k.withId p (nextId (m.rows.map k.idOf))]
             callers := Function.update m.callers i (.done (k.withId p (nextId (m.rows.map k.idOf))))
             written := m.written ++ [k.withId p (nextId (m.rows.map k.idOf))] }
  | _ => m

def step (m : Upserts α) : UpsertStep α → Upserts α
  | .lookup i p => m.lookup k i p
  | .write i => m.write k i

/-- The state after a sequence of steps. -/
def run (m : Upserts α) (acts : List (UpsertStep α)) : Upserts α := acts.foldl (step k) m

/-- Whether a step keeps the upserts of one entity and role apart: a look-up comes only while
no other upsert of its entity and role is between its look-up and its write. -/
def Apart (m : Upserts α) : UpsertStep α → Prop
  | .lookup _ p => ∀ j q o, m.callers j = .found q o → k.key q ≠ k.key p
  | .write _ => True

/-- A run in which upserts of one entity and role never overlap. -/
def Serial (m : Upserts α) : List (UpsertStep α) → Prop
  | [] => True
  | a :: acts => m.Apart k a ∧ (m.step k a).Serial acts

/-- One row per id and per entity and role; the row an upsert in flight found is still the row
of its entity and role; no two upserts of one entity and role are in flight; and each row is the
last policy written for its entity and role, which every policy written has. -/
structure Inv (m : Upserts α) : Prop where
  idsNodup : (m.rows.map k.idOf).Nodup
  keysNodup : (m.rows.map k.key).Nodup
  foundCurrent : ∀ i p o, m.callers i = .found p o → o = (m.rows.find? (k.same p)).map k.idOf
  foundApart : ∀ i j p q o o', m.callers i = .found p o → m.callers j = .found q o' →
    k.key p = k.key q → i = j
  rowsLatest : ∀ x ∈ m.rows, (m.written.filter (k.key · == k.key x)).getLast? = some x
  writtenStored : ∀ q ∈ m.written, ∃ x ∈ m.rows, k.key x = k.key q

theorem inv_init : Inv k ({} : Upserts α) where
  idsNodup := List.nodup_nil
  keysNodup := List.nodup_nil
  foundCurrent := by simp
  foundApart := by simp
  rowsLatest := by simp
  writtenStored := by simp

variable {k} {m : Upserts α} {i : Nat}

theorem Inv.lookup (h : Inv k m) {p : α}
    (hapart : ∀ j q o, m.callers j = .found q o → k.key q ≠ k.key p) :
    Inv k { m with callers := Function.update m.callers i
                     (.found p ((m.rows.find? (k.same p)).map k.idOf)) } := by
  have hfound : ∀ {j q o}, Function.update m.callers i
      (.found p ((m.rows.find? (k.same p)).map k.idOf)) j = .found q o →
      (j = i ∧ q = p ∧ o = (m.rows.find? (k.same p)).map k.idOf) ∨ (j ≠ i ∧ m.callers j = .found q o) := by
    intro j q o hj
    rw [Function.update_apply] at hj
    split at hj
    · cases hj
      exact .inl ⟨‹_›, rfl, rfl⟩
    · exact .inr ⟨‹_›, hj⟩
  exact {
    idsNodup := h.idsNodup
    keysNodup := h.keysNodup
    foundCurrent := by
      intro j q o hj
      rcases hfound hj with ⟨-, rfl, rfl⟩ | ⟨-, hj⟩
      · rfl
      · exact h.foundCurrent j q o hj
    foundApart := by
      intro j j' q q' o o' hj hj' hkey
      rcases hfound hj with ⟨hji, hq, -⟩ | ⟨-, hj⟩ <;>
        rcases hfound hj' with ⟨hji', hq', -⟩ | ⟨-, hj'⟩
      · exact hji.trans hji'.symm
      · exact absurd (hq ▸ hkey).symm (hapart j' q' o' hj')
      · exact absurd (hq' ▸ hkey) (hapart j q o hj)
      · exact h.foundApart j j' q q' o o' hj hj' hkey
    rowsLatest := h.rowsLatest
    writtenStored := h.writtenStored }

theorem found_of_update_done {c : Nat → Upsert α} {q p : α} {j : Nat} {o : Option Nat}
    (hj : Function.update c i (.done q) j = .found p o) : j ≠ i ∧ c j = .found p o := by
  rw [Function.update_apply] at hj
  split at hj
  · cases hj
  · exact ⟨‹_›, hj⟩

theorem Inv.found_some (h : Inv k m) {p : α} {id : Nat} (hi : m.callers i = .found p (some id)) :
    ∃ old ∈ m.rows, k.key old = k.key p ∧ k.idOf old = id := by
  have hcur := h.foundCurrent i p _ hi
  rcases hf : m.rows.find? (k.same p) with _ | old
  · rw [hf] at hcur
    cases hcur
  · rw [hf] at hcur
    exact ⟨old, List.mem_of_find?_eq_some hf, (k.same_iff).1 (List.find?_some hf), (Option.some.inj hcur).symm⟩

theorem Inv.found_none (h : Inv k m) {p : α} (hi : m.callers i = .found p none) :
    ∀ x ∈ m.rows, k.key x ≠ k.key p := by
  have hnone : m.rows.find? (k.same p) = none := by
    have hcur := h.foundCurrent i p none hi
    rcases hf : m.rows.find? (k.same p) with _ | x
    · rfl
    · rw [hf] at hcur
      cases hcur
  exact fun x hx e => absurd ((k.same_iff).2 e) (by simpa using List.find?_eq_none.1 hnone x hx)

theorem Inv.save (h : Inv k m) {p : α} {id : Nat} (hi : m.callers i = .found p (some id)) :
    Inv k { m with rows := m.rows.map fun x => if k.idOf x == id then k.withId p id else x
                   callers := Function.update m.callers i (.done (k.withId p id))
                   written := m.written ++ [k.withId p id] } := by
  obtain ⟨old, hold, hkey, hid⟩ := h.found_some hi
  -- the row found is the only one of its id
  have honly : ∀ x ∈ m.rows, k.idOf x = id → x = old :=
    fun x hx e => List.inj_on_of_nodup_map h.idsNodup hx hold (e.trans hid.symm)
  set f : α → α := fun x => if k.idOf x == id then k.withId p id else x with hf
  have hfid : ∀ x, k.idOf (f x) = k.idOf x := by
    intro x
    simp only [hf]
    split
    · rw [k.idOf_withId]
      exact (beq_iff_eq.1 ‹_›).symm
    · rfl
  have hfkey : ∀ x ∈ m.rows, k.key (f x) = k.key x := by
    intro x hx
    simp only [hf]
    split
    · rw [k.key_withId, honly x hx (beq_iff_eq.1 ‹_›), hkey]
    · rfl
  have hfold : f old = k.withId p id := by simp [hf, hid]
  have hfother : ∀ x ∈ m.rows, x ≠ old → f x = x := by
    intro x hx hne
    simp only [hf]
    split
    · exact absurd (honly x hx (beq_iff_eq.1 ‹_›)) hne
    · rfl
  exact {
    idsNodup := by
      have e : m.rows.map (k.idOf ∘ f) = m.rows.map k.idOf := List.map_congr_left fun x _ => hfid x
      rw [List.map_map, e]
      exact h.idsNodup
    keysNodup := by
      have e : m.rows.map (k.key ∘ f) = m.rows.map k.key := List.map_congr_left hfkey
      rw [List.map_map, e]
      exact h.keysNodup
    foundCurrent := by
      intro j q o hj
      rw [h.foundCurrent j q o (found_of_update_done hj).2, List.find?_map]
      have hsame : ∀ x ∈ m.rows, (k.same q ∘ f) x = k.same q x := by
        intro x hx
        simp only [Function.comp]
        rw [Bool.eq_iff_iff, k.same_iff, k.same_iff, hfkey x hx]
      rw [List.find?_congr hsame, Option.map_map]
      rcases m.rows.find? (k.same q) with _ | y
      · rfl
      · simp [hfid]
    foundApart := fun j j' q q' o o' hj hj' =>
      h.foundApart j j' q q' o o' (found_of_update_done hj).2 (found_of_update_done hj').2
    rowsLatest := by
      intro x' hx'
      obtain ⟨x, hx, rfl⟩ := List.mem_map.1 hx'
      rw [List.filter_append]
      by_cases hxo : x = old
      · subst hxo
        rw [hfold]
        simp
      · have hne : k.key p ≠ k.key x := by
          rw [← hkey]
          exact fun e => hxo (List.inj_on_of_nodup_map h.keysNodup hx hold e.symm)
        rw [hfother x hx hxo]
        simp [hne, h.rowsLatest x hx]
    writtenStored := by
      intro q hq
      rcases List.mem_append.1 hq with hq | hq
      · obtain ⟨x, hx, hxq⟩ := h.writtenStored q hq
        exact ⟨f x, List.mem_map_of_mem hx, (hfkey x hx).trans hxq⟩
      · rw [List.mem_singleton.1 hq]
        exact ⟨f old, List.mem_map_of_mem hold, by rw [hfold]⟩ }

theorem Inv.insert (h : Inv k m) {p : α} (hi : m.callers i = .found p none) :
    Inv k { m with rows := m.rows ++ [k.withId p (nextId (m.rows.map k.idOf))]
                   callers := Function.update m.callers i
                     (.done (k.withId p (nextId (m.rows.map k.idOf))))
                   written := m.written ++ [k.withId p (nextId (m.rows.map k.idOf))] } := by
  set n := nextId (m.rows.map k.idOf)
  -- no row is of `p`'s entity and role, and no other upsert in flight is
  have hrows := h.found_none hi
  have hothers : ∀ j q o, m.callers j = .found q o → j ≠ i → k.key p ≠ k.key q :=
    fun j q o hj hji e => hji (h.foundApart i j p q none o hi hj e).symm
  have hfresh : n ∉ m.rows.map k.idOf := fun hn => Nat.lt_irrefl n (lt_nextId hn)
  exact {
    idsNodup := by
      rw [List.map_append, List.nodup_append]
      refine ⟨h.idsNodup, by simp, ?_⟩
      intro a ha b hb
      rw [List.map_singleton, List.mem_singleton, k.idOf_withId] at hb
      rintro rfl
      exact hfresh (hb ▸ ha)
    keysNodup := by
      rw [List.map_append, List.nodup_append]
      refine ⟨h.keysNodup, by simp, ?_⟩
      intro a ha b hb
      rw [List.map_singleton, List.mem_singleton, k.key_withId] at hb
      obtain ⟨x, hx, rfl⟩ := List.mem_map.1 ha
      exact hb ▸ hrows x hx
    foundCurrent := by
      intro j q o hj
      obtain ⟨hji, hj⟩ := found_of_update_done hj
      have hlast : [k.withId p n].find? (k.same q) = none := by
        rw [List.find?_singleton]
        simp [k.same_iff, hothers j q o hj hji]
      rw [h.foundCurrent j q o hj, List.find?_append, hlast, Option.or_none]
    foundApart := fun j j' q q' o o' hj hj' =>
      h.foundApart j j' q q' o o' (found_of_update_done hj).2 (found_of_update_done hj').2
    rowsLatest := by
      intro x hx
      rw [List.filter_append]
      rcases List.mem_append.1 hx with hx | hx
      · simp [(hrows x hx).symm, h.rowsLatest x hx]
      · rw [List.mem_singleton.1 hx]
        simp
    writtenStored := by
      intro q hq
      rcases List.mem_append.1 hq with hq | hq
      · obtain ⟨x, hx, hxq⟩ := h.writtenStored q hq
        exact ⟨x, List.mem_append_left _ hx, hxq⟩
      · rw [List.mem_singleton.1 hq]
        exact ⟨k.withId p n, List.mem_append_right _ (List.mem_singleton_self _), rfl⟩ }

/-! ### Runs -/

@[simp] theorem run_nil (m : Upserts α) : m.run k [] = m := rfl
@[simp] theorem run_cons (m : Upserts α) (a : UpsertStep α) (acts : List (UpsertStep α)) :
    m.run k (a :: acts) = (m.step k a).run k acts := rfl

theorem Inv.step (h : Inv k m) : ∀ a, m.Apart k a → Inv k (m.step k a)
  | .lookup i p, ha => by
    simp only [Upserts.step, Upserts.lookup]
    split
    · exact h.lookup ha
    · exact h
  | .write i, _ => by
    simp only [Upserts.step, Upserts.write]
    split
    · exact h.save ‹_›
    · exact h.insert ‹_›
    · exact h

theorem Inv.run (h : Inv k m) (acts : List (UpsertStep α)) (hs : m.Serial k acts) :
    Inv k (m.run k acts) := by
  induction acts generalizing m with
  | nil => exact h
  | cons a acts ih => exact ih (h.step a hs.1) hs.2

theorem Inv.latest_mem (h : Inv k m) {key : Nat × Option String} {q : α}
    (hq : (m.written.filter (k.key · == key)).getLast? = some q) : q ∈ m.rows ∧ k.key q = key := by
  obtain ⟨hqw, hqk⟩ := List.mem_filter.1 (List.mem_of_getLast? hq)
  rw [beq_iff_eq] at hqk
  obtain ⟨x, hx, hxq⟩ := h.writtenStored q hqw
  have hlast := h.rowsLatest x hx
  rw [hxq, hqk, hq] at hlast
  exact ⟨Option.some.inj hlast ▸ hx, hqk⟩

theorem Inv.write_lookup (h : Inv k m) (hi : m.callers i = .idle) (p : α) :
    ((m.lookup k i p).write k i).rows = (upsertBy (k.same p) k.idOf k.withId m.rows p).1 ∧
      ((m.lookup k i p).write k i).callers i =
        .done (upsertBy (k.same p) k.idOf k.withId m.rows p).2 := by
  simp only [Upserts.lookup, hi, Upserts.write, Function.update_self, upsertBy]
  rcases hf : m.rows.find? (k.same p) with _ | old
  · simp
  · have hold : old ∈ m.rows := List.mem_of_find?_eq_some hf
    have hkey : k.key old = k.key p := (k.same_iff).1 (List.find?_some hf)
    -- with ids and keys unique, the row of `old`'s id is the one of `p`'s entity and role
    have hsame : ∀ x ∈ m.rows, (k.idOf x == k.idOf old) = k.same p x := by
      intro x hx
      rw [Bool.eq_iff_iff, beq_iff_eq, k.same_iff, ← hkey]
      constructor
      · intro e
        rw [List.inj_on_of_nodup_map h.idsNodup hx hold e]
      · intro e
        rw [List.inj_on_of_nodup_map h.keysNodup hx hold e]
    simp only [Option.map_some, Function.update_self, and_true]
    exact List.map_congr_left fun x hx => by rw [hsame x hx]

end Upserts

/-! ### Resolution -/

theorem find?_eq_some_of_unique {α : Type} {l : List α} {p : α → Bool} {x : α} (hx : x ∈ l)
    (hp : p x = true) (huniq : ∀ y ∈ l, p y = true → y = x) : l.find? p = some x := by
  rcases hf : l.find? p with _ | y
  · exact absurd hp (List.find?_eq_none.1 hf x hx)
  · rw [huniq y (List.mem_of_find?_eq_some hf) (List.find?_some hf)]

theorem select_forRole_of_key {α : Type} {k : PolicyKind α} {rows : List α}
    (hk : (rows.map k.key).Nodup) {q : α} (hq : q ∈ rows) {e : Nat} {r : String}
    (hkey : k.key q = (e, if r.isEmpty then none else some r)) :
    select k.roleOf (forRole k.entityOf k.roleOf k.idOf rows e r) r = some q := by
  have huniq : ∀ y ∈ rows, k.key y = k.key q → y = q :=
    fun y hy hyq => List.inj_on_of_nodup_map hk hy hq hyq
  -- a policy that applies is stored and of the entity; which role it has is read off the match
  have hmem : ∀ {y}, y ∈ forRole k.entityOf k.roleOf k.idOf rows e r → y ∈ rows ∧ k.entityOf y = e := by
    intro y hy
    simp only [forRole, List.mem_mergeSort, List.mem_filter, Bool.and_eq_true, beq_iff_eq] at hy
    exact ⟨hy.1, hy.2.1⟩
  simp only [PolicyKind.key, Prod.mk.injEq] at hkey huniq
  obtain ⟨he, hr⟩ := hkey
  unfold select
  by_cases hre : r.isEmpty
  · -- the empty role: only the policy without role applies
    simp only [hre, if_true] at hr ⊢
    refine find?_eq_some_of_unique (by simp [forRole, hq, he, hr]) (by simp [hr]) ?_
    intro y hy hnone
    obtain ⟨hy, hent⟩ := hmem hy
    rw [Option.isNone_iff_eq_none] at hnone
    exact huniq y hy ⟨hent.trans he.symm, hnone.trans hr.symm⟩
  · simp only [hre] at hr ⊢
    have hown : (forRole k.entityOf k.roleOf k.idOf rows e r).find? (k.roleOf · == some r) = some q := by
      refine find?_eq_some_of_unique (by simp [forRole, hq, he, hr, hre]) (by simp [hr]) ?_
      intro y hy hrole
      obtain ⟨hy, hent⟩ := hmem hy
      rw [beq_iff_eq] at hrole
      exact huniq y hy ⟨hent.trans he.symm, hrole.trans hr.symm⟩
    rw [hown]
    rfl

/-- Upserts of one entity and role that never overlap keep one policy per entity and role, and
each role resolves to the policy written last for its entity and role, in every state of the
run. -/
theorem serial_upserts_resolve_latest {α : Type} (k : PolicyKind α) (acts : List (UpsertStep α))
    (hs : ({} : Upserts α).Serial k acts) :
    (((({} : Upserts α).run k acts).rows.map k.key).Nodup) ∧
      ∀ (e : Nat) (r : String) (q : α),
        ((({} : Upserts α).run k acts).written.filter
            (k.key · == (e, if r.isEmpty then none else some r))).getLast? = some q →
          select k.roleOf (forRole k.entityOf k.roleOf k.idOf (({} : Upserts α).run k acts).rows e r) r =
            some q := by
  have h := (Upserts.inv_init k).run acts hs
  refine ⟨h.keysNodup, fun e r q hq => ?_⟩
  obtain ⟨hmem, hkey⟩ := h.latest_mem hq
  exact select_forRole_of_key h.keysNodup hmem hkey

/-- Two upserts of one role, one after the other: the second is the one resolved. -/
theorem serial_upserts_keep_latest :
    let a : FieldPolicy := { id := 0, entityId := 1, roleId := some "admin", masked := some ["ssn"] }
    let b : FieldPolicy := { a with masked := some ["email"] }
    ({} : Upserts FieldPolicy).Serial fieldKind [.lookup 0 a, .write 0, .lookup 1 b, .write 1] ∧
      select FieldPolicy.roleId (forRole FieldPolicy.entityId FieldPolicy.roleId FieldPolicy.id
        (({} : Upserts FieldPolicy).run fieldKind [.lookup 0 a, .write 0, .lookup 1 b, .write 1]).rows
        1 "admin") "admin" = some { b with id := 1 } := by
  intro a b
  have hs : ({} : Upserts FieldPolicy).Serial fieldKind [.lookup 0 a, .write 0, .lookup 1 b, .write 1] := by
    refine ⟨fun j q o h => ?_, trivial, fun j q o h => ?_, trivial, trivial⟩
    · cases h
    · have hc : ((({} : Upserts FieldPolicy).step fieldKind (.lookup 0 a)).step fieldKind
          (.write 0)).callers = Function.update (Function.update (fun _ => .idle) 0 (.found a none)) 0
            (.done (fieldKind.withId a 1)) := rfl
      rw [hc, Function.update_apply, Function.update_apply] at h
      split_ifs at h
  exact ⟨hs, (serial_upserts_resolve_latest fieldKind _ hs).2 1 "admin" _ rfl⟩

/-- Two upserts of one role whose look-ups both come before either write: both add a row, and the
role resolves to the first although the second was written last. -/
theorem overlapping_upserts_store_twice :
    let a : FieldPolicy := { id := 0, entityId := 1, roleId := some "admin", masked := some ["ssn"] }
    let b : FieldPolicy := { a with masked := some ["email"] }
    let m := ({} : Upserts FieldPolicy).run fieldKind [.lookup 0 a, .lookup 1 b, .write 0, .write 1]
    m.rows.map fieldKind.key = [(1, some "admin"), (1, some "admin")] ∧
      m.written.getLast? = some { b with id := 2 } ∧
      select FieldPolicy.roleId (forRole FieldPolicy.entityId FieldPolicy.roleId FieldPolicy.id m.rows
        1 "admin") "admin" = some { a with id := 1 } := by
  intro a b m
  have hrows : m.rows = [{ a with id := 1 }, { b with id := 2 }] := rfl
  refine ⟨by rw [hrows]; rfl, rfl, ?_⟩
  -- both rows apply to the role, already in id order
  have hfor : forRole FieldPolicy.entityId FieldPolicy.roleId FieldPolicy.id m.rows 1 "admin" =
      [{ a with id := 1 }, { b with id := 2 }] := by
    rw [hrows, forRole]
    show List.mergeSort [{ a with id := 1 }, { b with id := 2 }] _ = _
    exact List.mergeSort_of_pairwise (by decide)
  rw [hfor]
  rfl

end RowGate.Catalog

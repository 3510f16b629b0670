import RowGate.Proofs.Engine.Plan
import RowGate.Proofs.Filter.Shape
/-!
# Field access

The access a role gets follows the field policy rules, and over distinct columns it is well
formed.
-/

namespace RowGate.Policy

/-- Which policy a role uses among those listed for it. -/
inductive Chooses (policies : List FieldPolicy) (role : String) : Option FieldPolicy → Prop
  /-- The first policy of the role itself, when the role is named. -/
  | own {pre post : List FieldPolicy} {p : FieldPolicy} : role ≠ "" →
      policies = pre ++ p :: post → p.roleId = some role → (∀ q ∈ pre, q.roleId ≠ some role) →
      Chooses policies role (some p)
  /-- Else the first organisation default. -/
  | orgDefault {pre post : List FieldPolicy} {p : FieldPolicy} :
      (role = "" ∨ ∀ q ∈ policies, q.roleId ≠ some role) →
      policies = pre ++ p :: post → p.roleId = none → (∀ q ∈ pre, q.roleId ≠ none) →
      Chooses policies role (some p)
  /-- Else none. -/
  | unrestricted : (role = "" ∨ ∀ q ∈ policies, q.roleId ≠ some role) →
      (∀ q ∈ policies, q.roleId ≠ none) → Chooses policies role none

/-- The access a policy grants over the discovered columns `D`, as the policy rules state it. -/
structure Grants (p : FieldPolicy) (D : List String) (a : FieldAccess) : Prop where
  included : p.included.getD [] ≠ [] →
    a.allowed = ((p.included.getD []).filter (· ∈ D)).eraseDups
  excluded : p.included.getD [] = [] → a.allowed = D.filter (· ∉ p.excluded.getD [])
  masked : a.masked = ((p.masked.getD []).filter (· ∈ a.allowed)).eraseDups

/-- Access that names each allowed column once, masks only allowed columns, each once, and
reads the allowed columns that are not masked, in allowed order. -/
structure FieldAccess.WellFormed (a : FieldAccess) : Prop where
  allowed_nodup : a.allowed.Nodup
  masked_nodup : a.masked.Nodup
  masked_subset : a.masked ⊆ a.allowed
  readable_eq : a.readable = a.allowed.filter (· ∉ a.masked)

theorem dedup_eq_eraseDups (xs : List String) : dedup xs = xs.eraseDups := by
  rw [dedup, Filter.Node.foldl_dedup_eq]
  simp

theorem filter_contains (xs ys : List String) : xs.filter ys.contains = xs.filter (· ∈ ys) :=
  List.filter_congr fun x _ => by simp

theorem mem_dedup {xs : List String} {x : String} : x ∈ dedup xs ↔ x ∈ xs := by
  rw [dedup_eq_eraseDups, List.mem_eraseDups]

/-! ### Choosing the policy -/

section Select

variable {α : Type} (roleOf : α → Option String) {policies : List α} {role : String}

theorem select_of_own {p : α} (hr : role ≠ "")
    (hp : policies.find? (fun q => roleOf q == some role) = some p) :
    select roleOf policies role = some p := by
  simp [select, hr, hp]

theorem select_of_no_own (h : role = "" ∨ ∀ q ∈ policies, roleOf q ≠ some role) :
    select roleOf policies role = policies.find? fun q => (roleOf q).isNone := by
  rcases h with hr | hall
  · simp [select, hr]
  · have hnf : policies.find? (fun q => roleOf q == some role) = none :=
      List.find?_eq_none.2 fun q hq => by simpa using hall q hq
    simp [select, hnf]

end Select

theorem select_chooses (policies : List FieldPolicy) (role : String) :
    Chooses policies role (select FieldPolicy.roleId policies role) := by
  by_cases hown : role ≠ "" ∧ ∃ q ∈ policies, q.roleId = some role
  · obtain ⟨hr, hex⟩ := hown
    obtain ⟨p, hp⟩ : ∃ p, policies.find? (fun q => q.roleId == some role) = some p := by
      rw [← Option.isSome_iff_exists, List.find?_isSome]
      simpa using hex
    obtain ⟨hpr, pre, post, hsplit, hpre⟩ := List.find?_eq_some_iff_append.1 hp
    rw [select_of_own _ hr hp]
    exact .own hr hsplit (by simpa using hpr) (by simpa using hpre)
  -- no own policy: the organisation defaults decide
  have hnone : role = "" ∨ ∀ q ∈ policies, q.roleId ≠ some role := by
    by_cases hr : role = ""
    · exact .inl hr
    · exact .inr fun q hq hq' => hown ⟨hr, q, hq, hq'⟩
  rw [select_of_no_own _ hnone]
  rcases hd : policies.find? fun q => q.roleId.isNone with _ | p
  · rw [hd]
    exact .unrestricted hnone fun q hq => by simpa using List.find?_eq_none.1 hd q hq
  · obtain ⟨hpd, pre, post, hsplit, hpre⟩ := List.find?_eq_some_iff_append.1 hd
    rw [hd]
    exact .orgDefault hnone hsplit (by simpa using hpd) fun q hq => by
      simpa [Option.isSome_iff_ne_none] using hpre q hq

/-! ### What a policy grants -/

theorem apply_grants (p : FieldPolicy) (D : List String) : Grants p D (p.apply D) := by
  refine ⟨fun h => ?_, fun h => ?_, ?_⟩
  · simp [FieldPolicy.apply, h, dedup_eq_eraseDups, filter_contains]
  · simp [FieldPolicy.apply, h]
  · simp [FieldPolicy.apply, dedup_eq_eraseDups, filter_contains]

theorem FieldAccess.readable_eq_filter (a : FieldAccess) :
    a.readable = a.allowed.filter (· ∉ a.masked) := by
  simp [FieldAccess.readable, FieldAccess.isMasked]

theorem apply_wellFormed (p : FieldPolicy) {D : List String} (hD : D.Nodup) :
    (p.apply D).WellFormed where
  allowed_nodup := nodup_apply p hD
  masked_nodup := nodup_dedup _
  masked_subset x hx := by
    simp only [FieldPolicy.apply, mem_dedup, List.mem_filter, List.contains_eq_mem,
      decide_eq_true_eq] at hx ⊢
    exact hx.2
  readable_eq := FieldAccess.readable_eq_filter _

theorem resolveFields_wellFormed (policies : List FieldPolicy) (role : String)
    {D : List String} (hD : D.Nodup) : (resolveFields policies role D).WellFormed := by
  unfold resolveFields
  split
  · exact apply_wellFormed _ hD
  · exact ⟨hD, List.nodup_nil, List.nil_subset _, FieldAccess.readable_eq_filter _⟩

/-- The access a role gets to distinct discovered columns: the policy it uses by precedence,
applied by the policy rules, or every column unmasked when it uses none; and it is well
formed. -/
theorem resolveFields_by_precedence (policies : List FieldPolicy) (role : String)
    {D : List String} (hD : D.Nodup) :
    ∃ choice, Chooses policies role choice ∧
      (∀ p, choice = some p → Grants p D (resolveFields policies role D)) ∧
      (choice = none → resolveFields policies role D = ⟨D, []⟩) ∧
      (resolveFields policies role D).WellFormed := by
  refine ⟨_, select_chooses policies role, fun p hp => ?_, fun hn => ?_,
    resolveFields_wellFormed policies role hD⟩
  · rw [resolveFields, hp]
    exact apply_grants p D
  · rw [resolveFields, hn]

example :
    resolveFields [{ id := 1, entityId := 1, roleId := none, masked := some ["ssn"] },
      { id := 2, entityId := 1, roleId := some "agent", masked := some ["ssn", "salary", "ssn"]
        included := some ["name", "ssn", "name", "id"], excluded := some ["id"] }]
      "agent" ["id", "ssn", "salary", "name"] = ⟨["name", "ssn", "id"], ["ssn"]⟩ := by
  decide

theorem resolveFields_by_precedence_own_after_default :
    let orgDefault : FieldPolicy := { id := 1, entityId := 1, roleId := none, masked := some ["ssn"] }
    let own : FieldPolicy :=
      { id := 2, entityId := 1, roleId := some "agent", masked := some ["ssn", "salary", "ssn"]
        included := some ["name", "ssn", "name", "id"], excluded := some ["id"] }
    let D := ["id", "ssn", "salary", "name"]
    D.Nodup ∧ ∃ choice, Chooses [orgDefault, own] "agent" choice ∧
      (∀ p, choice = some p → Grants p D (resolveFields [orgDefault, own] "agent" D)) ∧
      (choice = none → resolveFields [orgDefault, own] "agent" D = ⟨D, []⟩) ∧
      (resolveFields [orgDefault, own] "agent" D).WellFormed := by
  intro orgDefault own D
  have hD : D.Nodup := by decide
  exact ⟨hD, resolveFields_by_precedence [orgDefault, own] "agent" hD⟩

end RowGate.Policy

import Mathlib.Data.List.Nodup
import Mathlib.Data.List.Perm.Basic
import Mathlib.Logic.Function.Basic
import RowGate.Proofs.Realtime.Index

/-!
# Change listeners under concurrent registration

Serial registrations keep every route in its live hub (`serial_listeners_keep_routes`); one that
lands between the halves of an unregistration is lost.
-/

namespace RowGate.Realtime

/-- Where one caller of the listener registry is. -/
inductive Listen where
  | idle
  /-- It holds the hub of its database, found or opened under the registry's lock, and has not
  yet added its route under the hub's lock. -/
  | adding (key : String) (session : Nat) (table id : String)
  | registered (key : String) (session : Nat) (table id : String)
  /-- Its unregister took the hub's last route out and has not yet taken the registry's lock. -/
  | emptied (key : String) (session : Nat)

namespace Listen

/-- The database, table and subscription of a route being added or in place. -/
def handler : Listen → Option (String × String × String)
  | .adding key _ table id => some (key, table, id)
  | .registered key _ table id => some (key, table, id)
  | _ => none

end Listen

/-- One critical section of one caller, or a close of every hub. `opens` is whether opening
and listening on a new session would succeed. -/
inductive ListenStep where
  | find (caller : Nat) (key table id : String) (opens : Bool)
  | add (caller : Nat)
  | drop (caller : Nat)
  | detach (caller : Nat)
  | closeAll

/-- The hubs filed under their database's key, those an unregister cancelled and unfiled, those
a close cancelled, the next session, and every caller. -/
structure Listeners where
  current : List Hub := []
  dropped : List Hub := []
  shut : List Hub := []
  next : Nat := 0
  callers : Nat → Listen := fun _ => .idle

/-- Changes the routes of a hub if it is the hub of a session. -/
def Hub.reroute (n : Nat) (f : List (String × String) → List (String × String)) (h : Hub) : Hub :=
  if h.session == n then { h with routes := f h.routes } else h

namespace Listeners

/-- Every hub ever opened. -/
def all (m : Listeners) : List Hub := m.current ++ m.dropped ++ m.shut

/-- Changes the routes of the hub of a session, filed or not. -/
def onHub (m : Listeners) (n : Nat) (f : List (String × String) → List (String × String)) :
    Listeners :=
  { m with current := m.current.map (Hub.reroute n f), dropped := m.dropped.map (Hub.reroute n f)
           shut := m.shut.map (Hub.reroute n f) }

/-- Files a new hub for a database under the next session. -/
def openHub (m : Listeners) (key : String) : Listeners :=
  { m with current := m.current ++ [{ key, session := m.next }], next := m.next + 1 }

/-- Moves one caller. -/
def setCaller (m : Listeners) (i : Nat) (v : Listen) : Listeners :=
  { m with callers := Function.update m.callers i v }

/-- Whether the hub of a session has no route left. -/
def emptyAt (m : Listeners) (n : Nat) : Bool := m.all.all fun h => h.session != n || h.routes.isEmpty

/-- Under the registry's lock: the hub filed for the database, or a new one when opening and
listening on its session succeed. -/
def find (m : Listeners) (i : Nat) (key table id : String) (opens : Bool) : Listeners :=
  match m.callers i with
  | .idle =>
    match m.current.find? (·.key == key) with
    | some h => m.setCaller i (.adding key h.session table id)
    | none =>
      if opens then
        (m.openHub key).setCaller i (.adding key m.next table id)
      else m
  | _ => m

/-- Under the hub's lock: adds the route to the hub it found, filed or not. -/
def add (m : Listeners) (i : Nat) : Listeners :=
  match m.callers i with
  | .adding key n table id =>
    (m.onHub n (· ++ [(table, id)])).setCaller i (.registered key n table id)
  | _ => m

/-- Under the hub's lock: takes the route out and sees whether the hub is left empty. -/
def drop (m : Listeners) (i : Nat) : Listeners :=
  match m.callers i with
  | .registered key n table id =>
    (m.onHub n (·.filter (· != (table, id)))).setCaller i
      (if (m.onHub n (·.filter (· != (table, id)))).emptyAt n then .emptied key n else .idle)
  | _ => m

/-- Under the registry's lock: unfiles the emptied hub if it is still the one filed for its
database, and cancels it. -/
def detach (m : Listeners) (i : Nat) : Listeners :=
  match m.callers i with
  | .emptied key n =>
    match m.current.find? (·.key == key) with
    | some h =>
      if h.session == n then
        ({ m with current := m.current.filter (·.key != key), dropped := m.dropped ++ [h] } : Listeners).setCaller
          i .idle
      else m.setCaller i .idle
    | none => m.setCaller i .idle
  | _ => m

/-- Cancels and unfiles every filed hub. -/
def closeAll (m : Listeners) : Listeners := { m with current := [], shut := m.shut ++ m.current }

def step (m : Listeners) : ListenStep → Listeners
  | .find i key table id opens => m.find i key table id opens
  | .add i => m.add i
  | .drop i => m.drop i
  | .detach i => m.detach i
  | .closeAll => m.closeAll

/-- The state after a sequence of steps. -/
def run (m : Listeners) (acts : List ListenStep) : Listeners := acts.foldl step m

@[simp] theorem run_nil (m : Listeners) : m.run [] = m := rfl
@[simp] theorem run_cons (m : Listeners) (a : ListenStep) (acts : List ListenStep) :
    m.run (a :: acts) = (m.step a).run acts := rfl

/-! ### Hubs by session -/

section Sessions

variable {n : Nat} {f : List (String × String) → List (String × String)} {h : Hub}

@[simp] theorem key_reroute : (h.reroute n f).key = h.key := by
  unfold Hub.reroute
  split <;> rfl

@[simp] theorem session_reroute : (h.reroute n f).session = h.session := by
  unfold Hub.reroute
  split <;> rfl

theorem routes_reroute : (h.reroute n f).routes = if h.session = n then f h.routes else h.routes := by
  by_cases hn : h.session = n <;> simp [Hub.reroute, hn]

theorem reroute_of_ne (hn : h.session ≠ n) : h.reroute n f = h := by
  simp [Hub.reroute, hn]

@[simp] theorem all_setCaller (m : Listeners) (i : Nat) (v : Listen) : (m.setCaller i v).all = m.all := rfl
@[simp] theorem current_setCaller (m : Listeners) (i : Nat) (v : Listen) :
    (m.setCaller i v).current = m.current := rfl
@[simp] theorem dropped_setCaller (m : Listeners) (i : Nat) (v : Listen) :
    (m.setCaller i v).dropped = m.dropped := rfl
@[simp] theorem shut_setCaller (m : Listeners) (i : Nat) (v : Listen) : (m.setCaller i v).shut = m.shut := rfl
@[simp] theorem next_setCaller (m : Listeners) (i : Nat) (v : Listen) : (m.setCaller i v).next = m.next := rfl
@[simp] theorem callers_setCaller (m : Listeners) (i : Nat) (v : Listen) :
    (m.setCaller i v).callers = Function.update m.callers i v := rfl

@[simp] theorem current_openHub (m : Listeners) (key : String) :
    (m.openHub key).current = m.current ++ [{ key, session := m.next }] := rfl
@[simp] theorem dropped_openHub (m : Listeners) (key : String) : (m.openHub key).dropped = m.dropped := rfl
@[simp] theorem shut_openHub (m : Listeners) (key : String) : (m.openHub key).shut = m.shut := rfl
@[simp] theorem next_openHub (m : Listeners) (key : String) : (m.openHub key).next = m.next + 1 := rfl
@[simp] theorem callers_openHub (m : Listeners) (key : String) : (m.openHub key).callers = m.callers := rfl

theorem emptyAt_iff (m : Listeners) : m.emptyAt n = true ↔ ∀ a ∈ m.all, a.session = n → a.routes = [] := by
  simp only [emptyAt, List.all_eq_true, Bool.or_eq_true, bne_iff_ne, ne_eq, List.isEmpty_iff]
  exact forall₂_congr fun a _ => or_iff_not_imp_left.trans (by simp only [not_not])

@[simp] theorem all_onHub (m : Listeners) : (m.onHub n f).all = m.all.map (Hub.reroute n f) := by
  simp [all, onHub]

end Sessions

theorem update_cases {c : Nat → Listen} {i j : Nat} {v x : Listen}
    (hj : Function.update c i v j = x) : (j = i ∧ v = x) ∨ (j ≠ i ∧ c j = x) := by
  rw [Function.update_apply] at hj
  split at hj
  · exact .inl ⟨‹_›, hj⟩
  · exact .inr ⟨‹_›, hj⟩

/-! ### Keeping registrations and unregistrations apart -/

/-- Whether a step keeps the registrations and unregistrations of one database apart: a hub is
found only while no unregistration of its database is between its halves, and a route is taken
out only while no registration of its database is; and whether each route is its own: a
registration never repeats the database, table and subscription of another. -/
def Apart (m : Listeners) : ListenStep → Prop
  | .find _ key table id _ =>
    (∀ j n, m.callers j ≠ .emptied key n) ∧ ∀ j, (m.callers j).handler ≠ some (key, table, id)
  | .drop i => ∀ key n table id, m.callers i = .registered key n table id →
    ∀ j n' t d, m.callers j ≠ .adding key n' t d
  | _ => True

/-- A run whose every step keeps registrations apart. -/
def Serial (m : Listeners) : List ListenStep → Prop
  | [] => True
  | a :: acts => m.Apart a ∧ (m.step a).Serial acts

/-- Every hub has its own session, below the next; one hub is filed per database; a hub an
unregister dropped holds no route; a caller adding or holding a route has its hub filed or shut,
with the route in it once added; a caller that emptied its hub saw it empty, and no registration
of its database is between its halves; and no two callers hold the same route. -/
structure Inv (m : Listeners) : Prop where
  sessionsNodup : (m.all.map Hub.session).Nodup
  fresh : ∀ h ∈ m.all, h.session < m.next
  keysNodup : (m.current.map Hub.key).Nodup
  droppedEmpty : ∀ h ∈ m.dropped, h.routes = []
  adding : ∀ i key n t d, m.callers i = .adding key n t d →
    ∃ h ∈ m.current ++ m.shut, h.key = key ∧ h.session = n
  registered : ∀ i key n t d, m.callers i = .registered key n t d →
    ∃ h ∈ m.current ++ m.shut, h.key = key ∧ h.session = n ∧ (t, d) ∈ h.routes
  emptied : ∀ i key n, m.callers i = .emptied key n →
    (∃ h ∈ m.all, h.session = n) ∧ ∀ h ∈ m.all, h.session = n → h.key = key ∧ h.routes = []
  quiet : ∀ i key n, m.callers i = .emptied key n → ∀ j n' t d, m.callers j ≠ .adding key n' t d
  distinct : ∀ i j x, i ≠ j → (m.callers i).handler = some x → (m.callers j).handler ≠ some x

theorem handler_update (c : Nat → Listen) (i j : Nat) (v : Listen) :
    (Function.update c i v j).handler = if j = i then v.handler else (c j).handler := by
  rw [Function.update_apply]
  split <;> rfl

theorem distinct_update {c : Nat → Listen} {i : Nat} {v : Listen}
    (hd : ∀ i j x, i ≠ j → (c i).handler = some x → (c j).handler ≠ some x)
    (hv : ∀ x, v.handler = some x → ∀ j, j ≠ i → (c j).handler ≠ some x) :
    ∀ j k x, j ≠ k → (Function.update c i v j).handler = some x →
      (Function.update c i v k).handler ≠ some x := by
  intro j k x hjk hj hk
  rw [handler_update] at hj hk
  by_cases hji : j = i
  · subst hji
    rw [if_pos rfl] at hj
    rw [if_neg (Ne.symm hjk)] at hk
    exact hv x hj k (Ne.symm hjk) hk
  · rw [if_neg hji] at hj
    by_cases hki : k = i
    · subst hki
      rw [if_pos rfl] at hk
      exact hv x hk j hji hj
    · rw [if_neg hki] at hk
      exact hd j k x hjk hj hk

theorem inv_init : Inv {} where
  sessionsNodup := by simp [all]
  fresh := by simp [all]
  keysNodup := by simp
  droppedEmpty := by simp
  adding _ _ _ _ _ h := by cases h
  registered _ _ _ _ _ h := by cases h
  emptied _ _ _ h := by cases h
  quiet _ _ _ h := by cases h
  distinct _ _ _ _ h := by cases h

variable {m : Listeners} {i : Nat}

theorem Inv.eq_of_session (h : Inv m) {a b : Hub} (ha : a ∈ m.all) (hb : b ∈ m.all)
    (e : a.session = b.session) : a = b :=
  List.inj_on_of_nodup_map h.sessionsNodup ha hb e

theorem Inv.session_ne_dropped (h : Inv m) {a b : Hub} (ha : a ∈ m.current ++ m.shut)
    (hb : b ∈ m.dropped) : a.session ≠ b.session := by
  have hp : m.all.Perm (m.dropped ++ (m.current ++ m.shut)) := by
    rw [all, ← List.append_assoc]
    exact List.perm_append_comm.append_right _
  have hn := (hp.map Hub.session).nodup_iff.1 h.sessionsNodup
  rw [List.map_append, List.nodup_append] at hn
  exact fun e => hn.2.2 _ (List.mem_map_of_mem hb) _ (List.mem_map_of_mem ha) e.symm

theorem mem_all_of_filed {a : Hub} (ha : a ∈ m.current ++ m.shut) : a ∈ m.all := by
  simp only [all, List.mem_append] at ha ⊢
  tauto

theorem Inv.move (h : Inv m) {v : Listen}
    (hadd : ∀ key n t d, v = .adding key n t d →
      (∃ g ∈ m.current ++ m.shut, g.key = key ∧ g.session = n) ∧ (∀ j n', m.callers j ≠ .emptied key n') ∧
        ∀ j, (m.callers j).handler ≠ some (key, t, d))
    (hheld : ∀ key n t d, v ≠ .registered key n t d) (hemp : ∀ key n, v ≠ .emptied key n) :
    Inv (m.setCaller i v) where
  sessionsNodup := h.sessionsNodup
  fresh := h.fresh
  keysNodup := h.keysNodup
  droppedEmpty := h.droppedEmpty
  adding j key n t d hj := by
    rcases update_cases hj with ⟨-, hv⟩ | ⟨-, hj⟩
    · exact (hadd key n t d hv).1
    · exact h.adding j key n t d hj
  registered j key n t d hj := by
    rcases update_cases hj with ⟨-, hv⟩ | ⟨-, hj⟩
    · exact absurd hv (hheld key n t d)
    · exact h.registered j key n t d hj
  emptied j key n hj := by
    rcases update_cases hj with ⟨-, hv⟩ | ⟨-, hj⟩
    · exact absurd hv (hemp key n)
    · exact h.emptied j key n hj
  quiet j key n hj k n' t d hk := by
    rcases update_cases hj with ⟨-, hv⟩ | ⟨-, hj⟩
    · exact absurd hv (hemp key n)
    rcases update_cases hk with ⟨-, hv⟩ | ⟨-, hk⟩
    · exact (hadd key n' t d hv).2.1 j n hj
    · exact h.quiet j key n hj k n' t d hk
  distinct := distinct_update h.distinct fun x hx j _ hj => by
    cases v with
    | adding key n t d =>
      cases hx
      exact (hadd key n t d rfl).2.2 j hj
    | registered key n t d => exact absurd rfl (hheld key n t d)
    | idle => cases hx
    | emptied key n => cases hx

theorem Inv.setIdle (h : Inv m) (i : Nat) : Inv (m.setCaller i .idle) :=
  h.move (fun _ _ _ _ e => by cases e) (fun _ _ _ _ e => by cases e) (fun _ _ e => by cases e)

theorem Inv.findFiled (h : Inv m) {key t d : String} {g : Hub}
    (hg : m.current.find? (·.key == key) = some g) (hq : ∀ j n, m.callers j ≠ .emptied key n)
    (hd : ∀ j, (m.callers j).handler ≠ some (key, t, d)) :
    Inv (m.setCaller i (.adding key g.session t d)) := by
  refine h.move (fun key' n t' d' hv => ?_) (fun _ _ _ _ e => by cases e) (fun _ _ e => by cases e)
  cases hv
  have hkey : g.key = key := by simpa using List.find?_some hg
  exact ⟨⟨g, List.mem_append_left _ (List.mem_of_find?_eq_some hg), hkey, rfl⟩, hq, hd⟩

theorem Inv.openHub (h : Inv m) {key : String} (hg : m.current.find? (·.key == key) = none) :
    Inv (m.openHub key) := by
  set g : Hub := { key, session := m.next }
  -- the new hub joins the others, which keep their members
  have hall : ∀ a, a ∈ (m.openHub key).all ↔ a = g ∨ a ∈ m.all := by
    intro a
    simp only [all, current_openHub, dropped_openHub, shut_openHub, List.mem_append, List.mem_singleton]
    tauto
  have hperm : (m.openHub key).all.Perm (g :: m.all) := by
    rw [all, all, current_openHub, dropped_openHub, shut_openHub, List.append_assoc m.current,
      List.append_assoc m.current, List.append_assoc m.current]
    exact List.perm_middle
  have hnew : ∀ a ∈ m.all, a.session ≠ g.session := fun a ha => Nat.ne_of_lt (h.fresh a ha)
  have hkeys : ∀ a ∈ m.current, a.key ≠ key := by
    intro a ha e
    have := List.find?_eq_none.1 hg a ha
    simp [e] at this
  have hfiled : ∀ a ∈ m.current ++ m.shut, a ∈ (m.openHub key).current ++ (m.openHub key).shut := by
    intro a ha
    simp only [current_openHub, shut_openHub, List.mem_append] at ha ⊢
    tauto
  exact {
    sessionsNodup := by
      refine ((hperm.map Hub.session).nodup_iff).2 ?_
      rw [List.map_cons, List.nodup_cons]
      refine ⟨fun hm => ?_, h.sessionsNodup⟩
      obtain ⟨a, ha, e⟩ := List.mem_map.1 hm
      exact hnew a ha e
    fresh := by
      intro a ha
      rcases (hall a).1 ha with rfl | ha
      · exact Nat.lt_succ_self _
      · exact Nat.lt_succ_of_lt (h.fresh a ha)
    keysNodup := by
      rw [current_openHub, List.map_append, List.nodup_append]
      refine ⟨h.keysNodup, by simp, ?_⟩
      intro a ha b hb
      rw [List.map_singleton, List.mem_singleton] at hb
      obtain ⟨c, hc, rfl⟩ := List.mem_map.1 ha
      exact hb ▸ hkeys c hc
    droppedEmpty := h.droppedEmpty
    adding := fun j key' n t d hj => by
      obtain ⟨a, ha, hk, hs⟩ := h.adding j key' n t d hj
      exact ⟨a, hfiled a ha, hk, hs⟩
    registered := fun j key' n t d hj => by
      obtain ⟨a, ha, hk, hs, hr⟩ := h.registered j key' n t d hj
      exact ⟨a, hfiled a ha, hk, hs, hr⟩
    emptied := by
      intro j key' n hj
      obtain ⟨⟨a, ha, hs⟩, hemp⟩ := h.emptied j key' n hj
      refine ⟨⟨a, (hall a).2 (.inr ha), hs⟩, fun b hb hbs => ?_⟩
      rcases (hall b).1 hb with rfl | hb
      · exact absurd (hs.trans hbs.symm) (hnew a ha)
      · exact hemp b hb hbs
    quiet := h.quiet
    distinct := h.distinct }

theorem Inv.findOpen (h : Inv m) {key t d : String}
    (hg : m.current.find? (·.key == key) = none) (hq : ∀ j n, m.callers j ≠ .emptied key n)
    (hd : ∀ j, (m.callers j).handler ≠ some (key, t, d)) :
    Inv ((m.openHub key).setCaller i (.adding key m.next t d)) := by
  refine (h.openHub hg).move (fun key' n t' d' hv => ?_) (fun _ _ _ _ e => by cases e)
    (fun _ _ e => by cases e)
  cases hv
  exact ⟨⟨{ key, session := m.next }, by simp, rfl, rfl⟩, hq, hd⟩

theorem reroute_mem_filed {n : Nat} {f : List (String × String) → List (String × String)} {a : Hub}
    (ha : a ∈ m.current ++ m.shut) :
    a.reroute n f ∈ (m.onHub n f).current ++ (m.onHub n f).shut := by
  simp only [onHub, List.mem_append, List.mem_map] at ha ⊢
  rcases ha with ha | ha
  · exact .inl ⟨a, ha, rfl⟩
  · exact .inr ⟨a, ha, rfl⟩

theorem Inv.frame_onHub (h : Inv m) {n : Nat} {f : List (String × String) → List (String × String)}
    (hdrop : ∀ a ∈ m.dropped, a.session = n → f [] = []) :
    ((m.onHub n f).all.map Hub.session).Nodup ∧ (∀ a ∈ (m.onHub n f).all, a.session < m.next) ∧
      ((m.onHub n f).current.map Hub.key).Nodup ∧ ∀ a ∈ (m.onHub n f).dropped, a.routes = [] := by
  refine ⟨?_, ?_, ?_, ?_⟩
  · rw [all_onHub, List.map_map]
    have e : m.all.map (Hub.session ∘ Hub.reroute n f) = m.all.map Hub.session :=
      List.map_congr_left fun a _ => session_reroute
    rw [e]
    exact h.sessionsNodup
  · intro a ha
    rw [all_onHub] at ha
    obtain ⟨b, hb, rfl⟩ := List.mem_map.1 ha
    rw [session_reroute]
    exact h.fresh b hb
  · simp only [onHub, List.map_map]
    have e : m.current.map (Hub.key ∘ Hub.reroute n f) = m.current.map Hub.key :=
      List.map_congr_left fun a _ => key_reroute
    rw [e]
    exact h.keysNodup
  · intro a ha
    simp only [onHub, List.mem_map] at ha
    obtain ⟨b, hb, rfl⟩ := ha
    have hempty := h.droppedEmpty b hb
    rw [routes_reroute]
    split
    · rw [hempty]
      exact hdrop b hb ‹_›
    · exact hempty

theorem Inv.add (h : Inv m) {key : String} {n : Nat} {t d : String}
    (hi : m.callers i = .adding key n t d) :
    Inv ((m.onHub n (· ++ [(t, d)])).setCaller i (.registered key n t d)) := by
  obtain ⟨g, hg, hgk, hgs⟩ := h.adding i key n t d hi
  -- the hub found was not dropped, so the dropped hubs keep no route
  have hnd : ∀ a ∈ m.dropped, a.session ≠ n := fun a ha e =>
    h.session_ne_dropped hg ha (hgs.trans e.symm)
  obtain ⟨hs, hf, hk, hde⟩ := h.frame_onHub (n := n) (f := (· ++ [(t, d)]))
    fun a ha e => absurd e (hnd a ha)
  refine { sessionsNodup := hs, fresh := hf, keysNodup := hk, droppedEmpty := hde,
            adding := ?_, registered := ?_, emptied := ?_, quiet := ?_, distinct := ?_ }
  · intro j key' n' t' d' hj
    rcases update_cases hj with ⟨-, hv⟩ | ⟨-, hj⟩
    · cases hv
    obtain ⟨a, ha, hak, has⟩ := h.adding j key' n' t' d' hj
    exact ⟨a.reroute n _, reroute_mem_filed ha, by rw [key_reroute, hak], by rw [session_reroute, has]⟩
  · intro j key' n' t' d' hj
    rcases update_cases hj with ⟨-, hv⟩ | ⟨-, hj⟩
    · cases hv
      refine ⟨g.reroute n _, reroute_mem_filed hg, by rw [key_reroute, hgk],
        by rw [session_reroute, hgs], ?_⟩
      rw [routes_reroute, if_pos hgs]
      exact List.mem_append_right _ (List.mem_singleton_self _)
    obtain ⟨a, ha, hak, has, hr⟩ := h.registered j key' n' t' d' hj
    refine ⟨a.reroute n _, reroute_mem_filed ha, by rw [key_reroute, hak], by rw [session_reroute, has], ?_⟩
    rw [routes_reroute]
    split
    · exact List.mem_append_left _ hr
    · exact hr
  · intro j key' n' hj
    rcases update_cases hj with ⟨-, hv⟩ | ⟨-, hj⟩
    · cases hv
    obtain ⟨⟨a, ha, has⟩, hemp⟩ := h.emptied j key' n' hj
    -- an emptied hub is not the hub being added to: no registration of its database is pending
    have hne : n' ≠ n := by
      intro e
      have hkey := (hemp g (mem_all_of_filed hg) (hgs.trans e.symm)).1
      exact h.quiet j key' n' hj i n t d (by rw [hi, ← hgk, hkey])
    refine ⟨⟨a.reroute n (· ++ [(t, d)]), by rw [all_setCaller, all_onHub]; exact List.mem_map_of_mem ha,
      by rw [session_reroute, has]⟩, fun b hb hbs => ?_⟩
    rw [all_setCaller, all_onHub] at hb
    obtain ⟨c, hc, rfl⟩ := List.mem_map.1 hb
    rw [session_reroute] at hbs
    rw [reroute_of_ne (hbs ▸ hne)]
    exact hemp c hc hbs
  · intro j key' n' hj k n'' t' d' hk
    rcases update_cases hj with ⟨-, hv⟩ | ⟨-, hj⟩
    · cases hv
    rcases update_cases hk with ⟨-, hv⟩ | ⟨-, hk⟩
    · cases hv
    · exact h.quiet j key' n' hj k n'' t' d' hk
  · exact distinct_update h.distinct fun x hx j hji hj =>
      h.distinct i j x (Ne.symm hji) (by rw [hi]; exact hx) hj

theorem Inv.drop (h : Inv m) {key : String} {n : Nat} {t d : String}
    (hi : m.callers i = .registered key n t d) (hq : ∀ j n' t' d', m.callers j ≠ .adding key n' t' d') :
    Inv ((m.onHub n (·.filter (· != (t, d)))).setCaller i
      (if (m.onHub n (·.filter (· != (t, d)))).emptyAt n then .emptied key n else .idle)) := by
  obtain ⟨g, hg, hgk, hgs, hgr⟩ := h.registered i key n t d hi
  have hgall := mem_all_of_filed hg
  obtain ⟨hs, hf, hk, hde⟩ := h.frame_onHub (n := n) (f := (·.filter (· != (t, d))))
    fun _ _ _ => List.filter_nil
  -- the only hub of the session is the one the route was in
  have honly : ∀ c ∈ m.all, c.session = n → c = g := fun c hc e => h.eq_of_session hc hgall (e.trans hgs.symm)
  refine { sessionsNodup := hs, fresh := hf, keysNodup := hk, droppedEmpty := hde,
            adding := ?_, registered := ?_, emptied := ?_, quiet := ?_, distinct := ?_ }
  · intro j key' n' t' d' hj
    rcases update_cases hj with ⟨-, hv⟩ | ⟨-, hj⟩
    · split at hv <;> cases hv
    obtain ⟨a, ha, hak, has⟩ := h.adding j key' n' t' d' hj
    exact ⟨a.reroute n _, reroute_mem_filed ha, by rw [key_reroute, hak], by rw [session_reroute, has]⟩
  · intro j key' n' t' d' hj
    rcases update_cases hj with ⟨-, hv⟩ | ⟨hji, hj⟩
    · split at hv <;> cases hv
    have hj : m.callers j = .registered key' n' t' d' := hj
    obtain ⟨a, ha, hak, has, hr⟩ := h.registered j key' n' t' d' hj
    refine ⟨a.reroute n _, reroute_mem_filed ha, by rw [key_reroute, hak], by rw [session_reroute, has], ?_⟩
    rw [routes_reroute]
    split
    · -- another route of the same hub is another caller's, so it is not the one taken out
      rename_i han
      have hkey : key' = key := by rw [← hak, honly a (mem_all_of_filed ha) han, hgk]
      have hne : (t', d') ≠ (t, d) := by
        intro e
        apply h.distinct i j (key, t, d) (Ne.symm hji) (by rw [hi]; rfl)
        rw [hj, ← hkey, ← e]
        rfl
      simpa [hne] using hr
    · exact hr
  · intro j key' n' hj
    rcases update_cases hj with ⟨-, hv⟩ | ⟨hji, hj⟩
    · split at hv
      · cases hv
        rename_i hempty
        refine ⟨⟨g.reroute n _, by rw [all_setCaller, all_onHub]; exact List.mem_map_of_mem hgall,
          by rw [session_reroute, hgs]⟩, fun b hb hbs => ⟨?_, (emptyAt_iff _).1 hempty b hb hbs⟩⟩
        rw [all_setCaller, all_onHub] at hb
        obtain ⟨c, hc, rfl⟩ := List.mem_map.1 hb
        rw [session_reroute] at hbs
        rw [key_reroute, honly c hc hbs, hgk]
      · cases hv
    obtain ⟨⟨a, ha, has⟩, hemp⟩ := h.emptied j key' n' hj
    -- the hub of the route still held one, so it is not a hub that another caller emptied
    have hne : n' ≠ n := fun e => by
      have := (hemp g hgall (hgs.trans e.symm)).2
      rw [this] at hgr
      cases hgr
    refine ⟨⟨a.reroute n _, by rw [all_setCaller, all_onHub]; exact List.mem_map_of_mem ha,
      by rw [session_reroute, has]⟩, fun b hb hbs => ?_⟩
    rw [all_setCaller, all_onHub] at hb
    obtain ⟨c, hc, rfl⟩ := List.mem_map.1 hb
    rw [session_reroute] at hbs
    rw [reroute_of_ne (hbs ▸ hne)]
    exact hemp c hc hbs
  · intro j key' n' hj k n'' t' d' hk
    rcases update_cases hk with ⟨-, hv⟩ | ⟨hki, hk⟩
    · split at hv <;> cases hv
    rcases update_cases hj with ⟨-, hv⟩ | ⟨-, hj⟩
    · split at hv
      · cases hv
        exact hq k n'' t' d' hk
      · cases hv
    · exact h.quiet j key' n' hj k n'' t' d' hk
  · exact distinct_update h.distinct fun x hx => by split at hx <;> cases hx

theorem Inv.unfile (h : Inv m) {key : String} {n : Nat} (hi : m.callers i = .emptied key n)
    {g : Hub} (hg : m.current.find? (·.key == key) = some g) (hgs : g.session = n) :
    Inv ({ m with current := m.current.filter (·.key != key), dropped := m.dropped ++ [g] } :
      Listeners) := by
  have hgc : g ∈ m.current := List.mem_of_find?_eq_some hg
  have hgk : g.key = key := by simpa using List.find?_some hg
  have hgr : g.routes = [] := ((h.emptied i key n hi).2 g (mem_all_of_filed (List.mem_append_left _ hgc)) hgs).2
  -- the hub filed for the database is the only one of its key
  have honly : ∀ a ∈ m.current, a.key = key → a = g := fun a ha e => by
    have := find?_eq_of_mem h.keysNodup ha
    rw [e, hg] at this
    exact (Option.some.inj this).symm
  have hsplit : (m.current.filter (·.key != key) ++ [g]).Perm m.current := by
    have hp := List.filter_append_perm (·.key == key) m.current
    rw [filter_eq_find? h.keysNodup key, hg] at hp
    exact List.perm_append_comm.trans hp
  have hperm : (m.current.filter (·.key != key) ++ (m.dropped ++ [g]) ++ m.shut).Perm m.all := by
    refine List.Perm.append_right _ (List.perm_append_comm.append_left _ |>.trans ?_)
    rw [← List.append_assoc]
    exact hsplit.append_right _
  have hkeep : ∀ a ∈ m.current, a.key ≠ key → a ∈ m.current.filter (·.key != key) := fun a ha e =>
    List.mem_filter.2 ⟨ha, by simpa using e⟩
  exact {
    sessionsNodup := (hperm.map Hub.session).nodup_iff.2 h.sessionsNodup
    fresh := fun a ha => h.fresh a (hperm.mem_iff.1 ha)
    keysNodup := h.keysNodup.sublist (List.filter_sublist.map Hub.key)
    droppedEmpty := by
      intro a ha
      rcases List.mem_append.1 ha with ha | ha
      · exact h.droppedEmpty a ha
      · rw [List.mem_singleton.1 ha, hgr]
    adding := by
      intro j key' n' t d hj
      obtain ⟨a, ha, hak, has⟩ := h.adding j key' n' t d hj
      -- no registration of the unfiled database is pending
      have hne : key' ≠ key := fun e => h.quiet i key n hi j n' t d (e ▸ hj)
      refine ⟨a, ?_, hak, has⟩
      rcases List.mem_append.1 ha with ha | ha
      · exact List.mem_append_left _ (hkeep a ha (hak ▸ hne))
      · exact List.mem_append_right _ ha
    registered := by
      intro j key' n' t d hj
      obtain ⟨a, ha, hak, has, hr⟩ := h.registered j key' n' t d hj
      refine ⟨a, ?_, hak, has, hr⟩
      rcases List.mem_append.1 ha with ha | ha
      · -- a route in a filed hub is not in the emptied one
        refine List.mem_append_left _ (hkeep a ha fun e => ?_)
        rw [honly a ha e, hgr] at hr
        cases hr
      · exact List.mem_append_right _ ha
    emptied := by
      intro j key' n' hj
      obtain ⟨⟨a, ha, has⟩, hemp⟩ := h.emptied j key' n' hj
      exact ⟨⟨a, hperm.mem_iff.2 ha, has⟩, fun b hb => hemp b (hperm.mem_iff.1 hb)⟩
    quiet := h.quiet
    distinct := h.distinct }

theorem Inv.detach (h : Inv m) {key : String} {n : Nat} (hi : m.callers i = .emptied key n)
    {g : Hub} (hg : m.current.find? (·.key == key) = some g) (hgs : g.session = n) :
    Inv (({ m with current := m.current.filter (·.key != key), dropped := m.dropped ++ [g] } :
      Listeners).setCaller i .idle) :=
  (h.unfile hi hg hgs).setIdle i

theorem Inv.closeAll (h : Inv m) : Inv m.closeAll := by
  have hperm : ([] ++ m.dropped ++ (m.shut ++ m.current)).Perm m.all := by
    rw [all, List.nil_append]
    refine (List.perm_append_comm.append_left _).trans ?_
    rw [← List.append_assoc]
    exact List.perm_append_comm.append_right _
  have hfiled : ∀ a, a ∈ m.current ++ m.shut → a ∈ m.closeAll.current ++ m.closeAll.shut := by
    intro a ha
    simp only [Listeners.closeAll, List.nil_append, List.mem_append] at ha ⊢
    tauto
  exact {
    sessionsNodup := (hperm.map Hub.session).nodup_iff.2 h.sessionsNodup
    fresh := fun a ha => h.fresh a (hperm.mem_iff.1 ha)
    keysNodup := List.nodup_nil
    droppedEmpty := h.droppedEmpty
    adding := fun j key n t d hj => by
      obtain ⟨a, ha, hak, has⟩ := h.adding j key n t d hj
      exact ⟨a, hfiled a ha, hak, has⟩
    registered := fun j key n t d hj => by
      obtain ⟨a, ha, hak, has, hr⟩ := h.registered j key n t d hj
      exact ⟨a, hfiled a ha, hak, has, hr⟩
    emptied := fun j key n hj => by
      obtain ⟨⟨a, ha, has⟩, hemp⟩ := h.emptied j key n hj
      exact ⟨⟨a, hperm.mem_iff.2 ha, has⟩, fun b hb => hemp b (hperm.mem_iff.1 hb)⟩
    quiet := h.quiet
    distinct := h.distinct }

/-! ### Runs -/

theorem Inv.step (h : Inv m) : ∀ a, m.Apart a → Inv (m.step a)
  | .find i key table id opens, ⟨hq, hd⟩ => by
    simp only [Listeners.step, Listeners.find]
    split
    · split
      · exact h.findFiled ‹_› hq hd
      · split
        · exact h.findOpen ‹_› hq hd
        · exact h
    · exact h
  | .add i, _ => by
    simp only [Listeners.step, Listeners.add]
    split
    · exact h.add ‹_›
    · exact h
  | .drop i, hq => by
    simp only [Listeners.step, Listeners.drop]
    split
    · exact h.drop ‹_› (hq _ _ _ _ ‹_›)
    · exact h
  | .detach i, _ => by
    simp only [Listeners.step, Listeners.detach]
    split
    · split
      · split
        · exact h.detach ‹_› ‹_› (beq_iff_eq.1 ‹_›)
        · exact h.setIdle i
      · exact h.setIdle i
    · exact h
  | .closeAll, _ => h.closeAll

theorem Inv.run (h : Inv m) (acts : List ListenStep) (hs : m.Serial acts) : Inv (m.run acts) := by
  induction acts generalizing m with
  | nil => exact h
  | cons a acts ih => exact ih (h.step a hs.1) hs.2

/-! ### The two halves back to back -/

theorem Inv.session_iff_key (h : Inv m) {g : Hub} (hg : g ∈ m.current) {b : Hub} (hb : b ∈ m.current) :
    b.session = g.session ↔ b.key = g.key := by
  have hmem : ∀ {a}, a ∈ m.current → a ∈ m.all := fun ha => mem_all_of_filed (List.mem_append_left _ ha)
  constructor
  · intro e
    rw [h.eq_of_session (hmem hb) (hmem hg) e]
  · intro e
    rw [List.inj_on_of_nodup_map h.keysNodup hb hg e]

theorem Inv.onHub_current (h : Inv m) {g : Hub} (hg : g ∈ m.current) {n : Nat} (hgs : g.session = n)
    {key : String} (hgk : g.key = key) {f : List (String × String) → List (String × String)} :
    (m.onHub n f).current =
      m.current.map fun b => if b.key == key then { b with routes := f b.routes } else b := by
  refine List.map_congr_left fun b hb => ?_
  have e : (b.session == n) = (b.key == key) := by
    rw [Bool.eq_iff_iff, beq_iff_eq, beq_iff_eq, ← hgs, ← hgk]
    exact h.session_iff_key hg hb
  simp only [Hub.reroute, e]

/-- Adding a route to a filed hub is the service's own `addRoute` on the filed hubs. -/
theorem Inv.add_eq_addRoute (h : Inv m) {key : String} {n : Nat} {t d : String}
    (hi : m.callers i = .adding key n t d) {g : Hub} (hg : g ∈ m.current) (hgs : g.session = n) :
    (m.add i).current = (({ hubs := m.current } : Service).addRoute key t d).hubs := by
  obtain ⟨a, ha, hak, has⟩ := h.adding i key n t d hi
  have hgk : g.key = key := by
    rw [← hak, h.eq_of_session (mem_all_of_filed (List.mem_append_left _ hg)) (mem_all_of_filed ha)
      (hgs.trans has.symm)]
  simp only [Listeners.add, hi, Listeners.setCaller, Service.addRoute]
  exact h.onHub_current hg hgs hgk

/-- Taking a route out of a filed hub, then unfiling the hub if that emptied it, is the
service's own `dropRoute` on the filed hubs. -/
theorem Inv.detach_drop_eq_dropRoute (h : Inv m) {key : String} {n : Nat} {t d : String}
    (hi : m.callers i = .registered key n t d) {g : Hub} (hg : g ∈ m.current) (hgs : g.session = n) :
    ((m.drop i).detach i).current =
      (({ hubs := m.current } : Service).dropRoute
        { (default : Subscription) with id := d, route := some (key, t) }).hubs := by
  obtain ⟨a, ha, hak, has, -⟩ := h.registered i key n t d hi
  have hgall := mem_all_of_filed (List.mem_append_left m.shut hg)
  have hgk : g.key = key := by
    rw [← hak, h.eq_of_session hgall (mem_all_of_filed ha) (hgs.trans has.symm)]
  set f : List (String × String) → List (String × String) := (·.filter (· != (t, d))) with hf
  obtain ⟨hs', -, hk', -⟩ := h.frame_onHub (n := n) (f := f) fun _ _ _ => List.filter_nil
  -- the filed hubs after the route is taken out, as the service maps them
  have hmap := h.onHub_current (f := f) hg hgs hgk
  have hg' : g.reroute n f ∈ (m.onHub n f).current := List.mem_map_of_mem hg
  have hgall' : g.reroute n f ∈ (m.onHub n f).all := by
    rw [all_onHub]
    exact List.mem_map_of_mem hgall
  -- the filed hub of the database is the hub of the session
  have honly : ∀ b ∈ (m.onHub n f).current, b.key = key → b = g.reroute n f := fun b hb e =>
    List.inj_on_of_nodup_map hk' hb hg' (by rw [e, key_reroute, hgk])
  have hsess : ∀ b ∈ (m.onHub n f).all, b.session = n → b = g.reroute n f := fun b hb e =>
    List.inj_on_of_nodup_map hs' hb hgall' (by rw [e, session_reroute, hgs])
  have hdrop : ({ hubs := m.current } : Service).dropRoute
      { (default : Subscription) with id := d, route := some (key, t) } =
      { hubs := ((m.onHub n f).current).filter fun b => !(b.key == key && b.routes.isEmpty) } := by
    rw [hmap]
    rfl
  rw [hdrop]
  by_cases he : (m.onHub n f).emptyAt n = true
  · have hfind : (m.onHub n f).current.find? (·.key == key) = some (g.reroute n f) := by
      have := find?_eq_of_mem hk' hg'
      rwa [key_reroute, hgk] at this
    simp only [Listeners.drop, hi, ← hf, he, if_true, Listeners.detach, Listeners.setCaller,
      Function.update_self, hfind, session_reroute, hgs, beq_self_eq_true]
    refine List.filter_congr fun b hb => ?_
    by_cases hbk : b.key = key
    · have hr := (emptyAt_iff _).1 he b (by rw [honly b hb hbk]; exact hgall')
        (by rw [honly b hb hbk, session_reroute, hgs])
      simp [hbk, hr]
    · have hb' : (b.key == key) = false := beq_eq_false_iff_ne.2 hbk
      simp [bne, hb']
  · simp only [Listeners.drop, hi, ← hf, he, Bool.false_eq_true, if_false, Listeners.detach,
      Listeners.setCaller, Function.update_self]
    refine (List.filter_eq_self.2 fun b hb => ?_).symm
    by_cases hbk : b.key = key
    · -- the hub kept a route, so the service keeps it filed
      have hne : b.routes ≠ [] := by
        intro hr
        apply he
        rw [emptyAt_iff]
        intro c hc hcs
        rw [hsess c hc hcs, ← honly b hb hbk, hr]
      simp [hbk, hne]
    · simp [hbk]

/-! ### What every run that keeps registrations apart shows -/

theorem Inv.filed_not_cancelled (h : Inv m) {a : Hub} (ha : a ∈ m.current) :
    a.session ∉ (m.dropped ++ m.shut).map Hub.session := by
  have hn := h.sessionsNodup
  rw [all, List.append_assoc, List.map_append, List.nodup_append] at hn
  exact fun hb => hn.2.2 _ (List.mem_map_of_mem ha) _ hb rfl

/-- The promises of the listener registry: one hub filed per database; every route registered
and not taken out is in the hub filed for its database, which is not cancelled, or in a hub a
close shut; and a hub an unregister cancelled holds no route. -/
structure Safe (m : Listeners) : Prop where
  filedOnce : (m.current.map Hub.key).Nodup
  reaches : ∀ i key n t d, m.callers i = .registered key n t d →
    (∃ g, m.current.find? (·.key == key) = some g ∧ g.session = n ∧ (t, d) ∈ g.routes ∧
      g.session ∉ (m.dropped ++ m.shut).map Hub.session) ∨
    ∃ g ∈ m.shut, g.session = n ∧ (t, d) ∈ g.routes
  droppedEmpty : ∀ g ∈ m.dropped, g.routes = []

theorem Inv.safe (h : Inv m) : Safe m where
  filedOnce := h.keysNodup
  reaches i key n t d hi := by
    obtain ⟨a, ha, hak, has, hr⟩ := h.registered i key n t d hi
    rcases List.mem_append.1 ha with ha | ha
    · refine .inl ⟨a, ?_, has, hr, h.filed_not_cancelled ha⟩
      rw [← hak]
      exact find?_eq_of_mem h.keysNodup ha
    · exact .inr ⟨a, ha, has, hr⟩
  droppedEmpty := h.droppedEmpty

end Listeners

/-- While no registration of a database overlaps an unregistration of it and each route is its
own, every state of a run keeps one hub per database, every route registered and not taken out
in the uncancelled hub filed for its database or in a hub a close shut, and no route in a hub an
unregister cancelled. -/
theorem serial_listeners_keep_routes (acts : List ListenStep) (hs : ({} : Listeners).Serial acts) :
    (({} : Listeners).run acts).Safe :=
  (Listeners.inv_init.run acts hs).safe

/-- Two subscriptions on one database: taking one out leaves the hub filed, with the other. -/
theorem shared_hub_outlives_one_route :
    ({} : Listeners).Serial [.find 0 "db" "public.t" "sub-1" true, .add 0,
      .find 1 "db" "public.u" "sub-2" true, .add 1, .drop 0] ∧
    (({} : Listeners).run [.find 0 "db" "public.t" "sub-1" true, .add 0,
      .find 1 "db" "public.u" "sub-2" true, .add 1, .drop 0]).Safe := by
  -- the callers after the first registration, and after the second
  have hc2 : ((({} : Listeners).step (.find 0 "db" "public.t" "sub-1" true)).step (.add 0)).callers =
      Function.update (Function.update (fun _ => .idle) 0 (.adding "db" 0 "public.t" "sub-1")) 0
        (.registered "db" 0 "public.t" "sub-1") := rfl
  have hc4 : ((((({} : Listeners).step (.find 0 "db" "public.t" "sub-1" true)).step (.add 0)).step
      (.find 1 "db" "public.u" "sub-2" true)).step (.add 1)).callers =
      Function.update (Function.update ((({} : Listeners).step (.find 0 "db" "public.t" "sub-1" true)).step
        (.add 0)).callers 1 (.adding "db" 0 "public.u" "sub-2")) 1
        (.registered "db" 0 "public.u" "sub-2") := rfl
  have hs : ({} : Listeners).Serial [.find 0 "db" "public.t" "sub-1" true, .add 0,
      .find 1 "db" "public.u" "sub-2" true, .add 1, .drop 0] := by
    refine ⟨⟨(fun j n hj => by cases hj), (fun j hj => by cases hj)⟩, trivial,
      ⟨(fun j n hj => ?_), (fun j hj => ?_)⟩, trivial, (fun key n t d _ j n' t' d' hj => ?_), trivial⟩
    · rw [hc2, Function.update_apply, Function.update_apply] at hj
      split_ifs at hj
    · rw [hc2, Function.update_apply, Function.update_apply] at hj
      split_ifs at hj <;> simp [Listen.handler] at hj
    · rw [hc4, Function.update_apply, Function.update_apply, hc2, Function.update_apply,
        Function.update_apply] at hj
      split_ifs at hj
  exact ⟨hs, serial_listeners_keep_routes _ hs⟩

/-- A registration that finds the hub between the two halves of the unregistration that empties
it adds its route to that hub, which the unregistration then unfiles and cancels. -/
theorem register_during_unregister_is_lost :
    let m := ({} : Listeners).run [.find 0 "db" "public.t" "sub-1" true, .add 0,
      .find 1 "db" "public.t" "sub-2" true, .drop 0, .add 1, .detach 0]
    m.callers 1 = .registered "db" 0 "public.t" "sub-2" ∧ m.current = [] ∧
      m.dropped = [{ key := "db", session := 0, routes := [("public.t", "sub-2")] }] := by
  refine ⟨rfl, rfl, rfl⟩

end RowGate.Realtime

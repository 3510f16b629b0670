import Mathlib
import RowGate.Cache.Inflight
/-!
# The table of shared executions under concurrent callers

Every step of a caller, timer or closer keeps `Flights.Inv`, and from it every reachable state
keeps the table's promises (`run_safe`).
-/

namespace RowGate.Cache

/-! ### The table's operations -/

namespace Inflight

variable {α : Type} (g : Inflight α)

@[simp] theorem forget_keeps (key : String) (s : Nat) : (g.forget key s).keeps = g.keeps := rfl
@[simp] theorem forget_max (key : String) (s : Nat) : (g.forget key s).max = g.max := rfl
@[simp] theorem forget_closed (key : String) (s : Nat) : (g.forget key s).closed = g.closed := rfl
@[simp] theorem forget_nextSerial (key : String) (s : Nat) :
    (g.forget key s).nextSerial = g.nextSerial := rfl

theorem mem_forget {key k : String} {s : Nat} {f : Flight α} :
    (k, f) ∈ (g.forget key s).flights ↔ (k, f) ∈ g.flights ∧ (k = key → f.serial ≠ s) := by
  simp [forget, List.mem_filter, imp_iff_not_or]

theorem forget_sublist (key : String) (s : Nat) : (g.forget key s).flights.Sublist g.flights :=
  List.filter_sublist

@[simp] theorem update_keeps (key : String) (h : Flight α → Flight α) :
    (g.update key h).keeps = g.keeps := rfl
@[simp] theorem update_max (key : String) (h : Flight α → Flight α) :
    (g.update key h).max = g.max := rfl
@[simp] theorem update_closed (key : String) (h : Flight α → Flight α) :
    (g.update key h).closed = g.closed := rfl
@[simp] theorem update_nextSerial (key : String) (h : Flight α → Flight α) :
    (g.update key h).nextSerial = g.nextSerial := rfl

theorem keys_update (key : String) (h : Flight α → Flight α) :
    (g.update key h).flights.map Prod.fst = g.flights.map Prod.fst := by
  simp only [update, List.map_map]
  apply List.map_congr_left
  rintro ⟨k, f⟩ -
  by_cases hk : k = key <;> simp [hk]

theorem mem_update {key k : String} {h : Flight α → Flight α} {f : Flight α} :
    (k, f) ∈ (g.update key h).flights ↔ ∃ f₀, (k, f₀) ∈ g.flights ∧ f = if k = key then h f₀ else f₀ := by
  simp only [update, List.mem_map, Prod.exists]
  constructor
  · rintro ⟨k₀, f₀, hmem, heq⟩
    by_cases hk : k₀ = key
    · subst hk
      simp only [beq_self_eq_true, if_true, Prod.mk.injEq] at heq
      obtain ⟨rfl, rfl⟩ := heq
      exact ⟨f₀, hmem, by simp⟩
    · simp only [beq_iff_eq, hk, if_false, Prod.mk.injEq] at heq
      obtain ⟨rfl, rfl⟩ := heq
      exact ⟨f₀, hmem, by simp [hk]⟩
  · rintro ⟨f₀, hmem, rfl⟩
    exact ⟨k, f₀, hmem, by by_cases hk : k = key <;> simp [hk]⟩

theorem finish_eq (key : String) (s : Nat) (r : Except Fault α) :
    g.finish key s r = if r.isOk && g.keeps then
      g.update key (fun x => if x.serial == s then { x with result := some r } else x)
    else g.forget key s := by
  cases r <;> cases hk : g.keeps <;> simp [finish, hk, Except.isOk, Except.toBool]

theorem mem_of_find? {key : String} {f : Flight α} (h : g.find? key = some f) :
    (key, f) ∈ g.flights := by
  simp only [find?, Option.map_eq_some_iff] at h
  obtain ⟨⟨k, f'⟩, hfind, rfl⟩ := h
  have hk : k = key := by simpa using List.find?_some hfind
  exact hk ▸ List.mem_of_find?_eq_some hfind

theorem key_not_mem_of_find?_none {key : String} (h : g.find? key = none) :
    key ∉ g.flights.map Prod.fst := by
  intro hmem
  obtain ⟨⟨k, f⟩, hf, hk⟩ := List.mem_map.mp hmem
  simp only [find?, Option.map_eq_none_iff, List.find?_eq_none] at h
  exact h (k, f) hf (by simpa using hk)

/-- The table with a new execution of `key` recorded under the next serial number. -/
def record (key : String) : Inflight α :=
  { g with flights := g.flights ++ [(key, { serial := g.nextSerial })], nextSerial := g.nextSerial + 1 }

@[simp] theorem record_flights (key : String) :
    (g.record key).flights = g.flights ++ [(key, { serial := g.nextSerial })] := rfl
@[simp] theorem record_nextSerial (key : String) : (g.record key).nextSerial = g.nextSerial + 1 := rfl
@[simp] theorem record_keeps (key : String) : (g.record key).keeps = g.keeps := rfl
@[simp] theorem record_max (key : String) : (g.record key).max = g.max := rfl
@[simp] theorem record_closed (key : String) : (g.record key).closed = g.closed := rfl

theorem arrive_cases (key : String) :
    (∃ f, g.find? key = some f ∧ g.arrive key = (.joined f, g)) ∨
    (g.find? key = none ∧ (g.closed ∨ g.max ≤ g.size) ∧ g.arrive key = (.alone, g)) ∨
    (g.find? key = none ∧ g.closed = false ∧ g.size < g.max ∧
      g.arrive key = (.leader g.nextSerial, g.record key)) := by
  unfold arrive
  cases hf : g.find? key with
  | some f => exact .inl ⟨f, rfl, rfl⟩
  | none =>
    by_cases hc : g.closed || g.max ≤ g.size
    · refine .inr (.inl ⟨rfl, by simpa using hc, ?_⟩)
      simp [hc]
    · refine .inr (.inr ⟨rfl, by simp_all, by simp at hc; omega, ?_⟩)
      simp only [hc]
      rfl

@[simp] theorem arrive_keeps (key : String) : (g.arrive key).2.keeps = g.keeps := by
  rcases g.arrive_cases key with ⟨_, -, ha⟩ | ⟨-, -, ha⟩ | ⟨-, -, -, ha⟩ <;> simp [ha]

theorem arrive_of_closed {g : Inflight α} (hc : g.closed = true) (he : g.flights = []) (key : String) :
    g.arrive key = (.alone, g) := by
  rcases g.arrive_cases key with ⟨f, hf, -⟩ | ⟨-, -, ha⟩ | ⟨-, hopen, -⟩
  · exact absurd (he ▸ g.mem_of_find? hf) List.not_mem_nil
  · exact ha
  · simp [hc] at hopen

section finish

variable {key k : String} {s : Nat} {r : Except Fault α} {f : Flight α}

@[simp] theorem finish_keeps : (g.finish key s r).keeps = g.keeps := by
  rw [finish_eq]; split <;> rfl
@[simp] theorem finish_max : (g.finish key s r).max = g.max := by
  rw [finish_eq]; split <;> rfl
@[simp] theorem finish_closed : (g.finish key s r).closed = g.closed := by
  rw [finish_eq]; split <;> rfl
@[simp] theorem finish_nextSerial : (g.finish key s r).nextSerial = g.nextSerial := by
  rw [finish_eq]; split <;> rfl

theorem mem_finish_of_ne (h : (k, f) ∈ g.flights) (hne : ¬(k = key ∧ f.serial = s)) :
    (k, f) ∈ (g.finish key s r).flights := by
  rw [finish_eq]
  split
  · refine g.mem_update.mpr ⟨f, h, ?_⟩
    by_cases hk : k = key
    · have hs : f.serial ≠ s := fun hs => hne ⟨hk, hs⟩
      simp [hk, hs]
    · simp [hk]
  · exact g.mem_forget.mpr ⟨h, fun hk hs => hne ⟨hk, hs⟩⟩

theorem of_mem_finish (h : (k, f) ∈ (g.finish key s r).flights) :
    ∃ f₀, (k, f₀) ∈ g.flights ∧ f₀.serial = f.serial ∧
      (k = key ∧ f.serial = s → (r.isOk && g.keeps) = true ∧ f.result = some r) ∧
      (¬(k = key ∧ f.serial = s) → f = f₀) := by
  rw [finish_eq] at h
  split at h
  · next hkept =>
    obtain ⟨f₀, hmem, rfl⟩ := g.mem_update.mp h
    refine ⟨f₀, hmem, ?_, ?_, ?_⟩ <;>
      by_cases hk : k = key <;> by_cases hs : f₀.serial = s <;> simp [hk, hs, hkept]
  · next hkept =>
    obtain ⟨hmem, hne⟩ := g.mem_forget.mp h
    exact ⟨f, hmem, rfl, fun ⟨hk, hs⟩ => absurd hs (hne hk), fun _ => rfl⟩

theorem size_finish_le : (g.finish key s r).size ≤ g.size := by
  rw [finish_eq]
  split
  · simp [size, update]
  · exact (g.forget_sublist key s).length_le

theorem keys_finish_sublist :
    ((g.finish key s r).flights.map Prod.fst).Sublist (g.flights.map Prod.fst) := by
  rw [finish_eq]
  split
  · rw [keys_update]
  · exact (g.forget_sublist key s).map Prod.fst

end finish

@[simp] theorem close_flights : g.close.flights = [] := rfl
@[simp] theorem close_closed : g.close.closed = true := rfl
@[simp] theorem close_keeps : g.close.keeps = g.keeps := rfl
@[simp] theorem close_max : g.close.max = g.max := rfl
@[simp] theorem close_nextSerial : g.close.nextSerial = g.nextSerial := rfl

end Inflight

/-! ### Callers, timers and the closer -/

/-- How an execution ends: it returns a result, or it panics. -/
inductive Ending (α : Type) where
  | returned (r : Except Fault α)
  | panicked (p : String)

/-- Where a caller is in its call. -/
inductive Phase (α : Type) where
  /-- Has not arrived yet. -/
  | idle
  /-- Joined execution `serial` of its key and waits for it to end. -/
  | waiting (key : String) (serial : Nat)
  /-- Runs execution `serial` of its key, recorded in the table. -/
  | leading (key : String) (serial : Nat)
  /-- Its execution ended with `o` and the table was told; its waiters are not told yet. -/
  | settling (key : String) (serial : Nat) (o : Ending α)
  /-- Runs its own execution, recorded nowhere. -/
  | alone (key : String)
  /-- Returned the result of execution `serial`, with shared set. -/
  | shared (serial : Nat) (r : Except Fault α)
  /-- Returned the error of its own context, with shared set. -/
  | gaveUp (e : Fault)
  /-- Returned the result of its own execution, with shared unset. -/
  | ran (r : Except Fault α)
  /-- Its own execution panicked, and so does the call. -/
  | panicked (p : String)

namespace Ending

variable {α : Type}

/-- What the waiters of an execution receive: a panic reaches them as a failure naming it. -/
def result : Ending α → Except Fault α
  | returned r => r
  | panicked p => .error (.plain ("execution panicked: " ++ p))

/-- Whether the table keeps the execution after it ends: a success, when successes are kept. -/
def kept (o : Ending α) (keeps : Bool) : Bool := o.result.isOk && keeps

/-- How the caller that ran the execution itself ends. -/
def own : Ending α → Phase α
  | returned r => .ran r
  | panicked p => .panicked p

end Ending

/-- The phase a caller takes on arrival, by how the table served it. -/
def Arrival.phase {α : Type} (key : String) : Arrival α → Phase α
  | .joined f => .waiting key f.serial
  | .leader s => .leading key s
  | .alone => .alone key

namespace Phase

variable {α : Type}

/-- The phases of a caller that joined execution `serial` of `key`: it waits, or it has
returned that execution's result or its own context's error. -/
def Joined (key : String) (serial : Nat) : Phase α → Prop
  | waiting k s => k = key ∧ s = serial
  | shared s _ => s = serial
  | gaveUp e => ∃ expired, e = Fault.ofContext expired
  | _ => False

/-- Whether a caller waits for execution `serial` or has returned its result. -/
def Shares (serial : Nat) : Phase α → Prop
  | waiting _ s | shared s _ => s = serial
  | _ => False

/-- The phases of a caller that has not arrived, or that runs its own execution and returns
its own result unshared. -/
def Solo : Phase α → Prop
  | idle | alone _ | ran _ | panicked _ => True
  | _ => False

/-- How one step moves a caller, `g` being the table as it is before the step. -/
inductive Moves (g : Inflight α) : Phase α → Phase α → Prop
  | arrive (key : String) : Moves g idle (((g.arrive key).1).phase key)
  | complete (key : String) (s : Nat) (o : Ending α) : Moves g (leading key s) (settling key s o)
  | finish (key : String) (o : Ending α) : Moves g (alone key) o.own
  | release (key : String) (s : Nat) (o : Ending α) : Moves g (settling key s o) o.own
  | wake (key : String) (s : Nat) (r : Except Fault α) : Moves g (waiting key s) (shared s r)
  | abandon (key : String) (s : Nat) (expired : Bool) :
      Moves g (waiting key s) (gaveUp (Fault.ofContext expired))

end Phase

/-- One step of the callers, the grace timers or the closer. -/
inductive Event (α : Type) where
  /-- A caller arrives with its key and is served under the lock. -/
  | arrive (caller : Nat) (key : String)
  /-- The execution that a caller runs ends. -/
  | complete (caller : Nat) (o : Ending α)
  /-- A caller whose execution ended tells its waiters and returns. -/
  | release (caller : Nat)
  /-- A waiter sees its execution's waiters told and takes the result. -/
  | wake (caller : Nat)
  /-- A waiter's context ends before it is told: cancelled, or its deadline passed. -/
  | abandon (caller : Nat) (expired : Bool)
  /-- The grace timer of execution `serial` of `key` fires. -/
  | fire (key : String) (serial : Nat)
  /-- The table is closed. -/
  | close

/-- The table with its callers and grace timers. -/
structure Flights (α : Type) where
  table : Inflight α
  /-- How each execution ended. -/
  ended : Nat → Option (Ending α) := fun _ => none
  /-- The executions whose waiters have been told. -/
  told : List Nat := []
  /-- The grace timers set and neither fired nor stopped. -/
  timers : List (String × Nat) := []
  callers : Nat → Phase α := fun _ => .idle

namespace Flights

variable {α : Type}

/-- A caller arrives and is served: it joins the execution of its key, leads a new one, or runs
alone. -/
def arrive (st : Flights α) (i : Nat) (key : String) : Flights α :=
  match st.callers i with
  | .idle => { st with
      table := (st.table.arrive key).2
      callers := Function.update st.callers i ((st.table.arrive key).1.phase key) }
  | _ => st

/-- A caller's execution ends. A leader tells the table under the lock, which drops the
execution unless it is kept, and sets the grace timer of a kept one. -/
def complete (st : Flights α) (i : Nat) (o : Ending α) : Flights α :=
  match st.callers i with
  | .leading key s => { st with
      table := st.table.finish key s o.result
      ended := Function.update st.ended s (some o)
      timers := if o.kept st.table.keeps then (key, s) :: st.timers else st.timers
      callers := Function.update st.callers i (.settling key s o) }
  | .alone _ => { st with callers := Function.update st.callers i o.own }
  | _ => st

/-- A leader tells its waiters after releasing the lock, and returns. -/
def release (st : Flights α) (i : Nat) : Flights α :=
  match st.callers i with
  | .settling _ s o => { st with
      told := s :: st.told
      callers := Function.update st.callers i o.own }
  | _ => st

/-- A waiter whose execution's waiters have been told takes its result. -/
def wake (st : Flights α) (i : Nat) : Flights α :=
  match st.callers i with
  | .waiting _ s =>
    match st.ended s with
    | some o =>
      if s ∈ st.told then { st with callers := Function.update st.callers i (.shared s o.result) }
      else st
    | none => st
  | _ => st

/-- A waiter returns its context's error. -/
def abandon (st : Flights α) (i : Nat) (expired : Bool) : Flights α :=
  match st.callers i with
  | .waiting _ _ => { st with callers := Function.update st.callers i (.gaveUp (Fault.ofContext expired)) }
  | _ => st

/-- A grace timer that is set fires once and forgets its own execution. -/
def fire (st : Flights α) (key : String) (s : Nat) : Flights α :=
  if (key, s) ∈ st.timers then
    { st with table := st.table.forget key s, timers := st.timers.erase (key, s) }
  else st

/-- Closing empties the table and stops the timers. -/
def close (st : Flights α) : Flights α := { st with table := st.table.close, timers := [] }

def step (st : Flights α) : Event α → Flights α
  | .arrive i key => st.arrive i key
  | .complete i o => st.complete i o
  | .release i => st.release i
  | .wake i => st.wake i
  | .abandon i expired => st.abandon i expired
  | .fire key s => st.fire key s
  | .close => st.close

/-- The state after a sequence of steps. -/
def run (st : Flights α) (es : List (Event α)) : Flights α := es.foldl step st

/-- A new table whose callers have not arrived. -/
def init (keeps : Bool) (max : Int) : Flights α := { table := Inflight.empty keeps max }

end Flights

namespace Flights

variable {α : Type}

@[simp] theorem run_nil (st : Flights α) : st.run [] = st := rfl
@[simp] theorem run_cons (st : Flights α) (e : Event α) (es : List (Event α)) :
    st.run (e :: es) = (st.step e).run es := rfl

theorem run_induction {P : Flights α → Prop} (hstep : ∀ st e, P st → P (st.step e))
    {st : Flights α} (h : P st) (es : List (Event α)) : P (st.run es) := by
  induction es generalizing st with
  | nil => exact h
  | cons e es ih => exact ih (hstep st e h)

/-! ### The invariant -/

/-- What every reachable state satisfies: the table's bounds, and the bookkeeping of serial
numbers that the promises rest on. Serial numbers in use are below the next one; each leader has
its own, has not ended, and its execution is in the table under its key without a result. -/
structure Inv (st : Flights α) : Prop where
  bounded : st.table.size ≤ st.table.max
  keysUnique : (st.table.flights.map Prod.fst).Nodup
  closedEmpty : st.table.closed = true → st.table.flights = []
  flightFresh : ∀ k f, (k, f) ∈ st.table.flights → f.serial < st.table.nextSerial
  endedFresh : ∀ s o, st.ended s = some o → s < st.table.nextSerial
  leadingFresh : ∀ i k s, st.callers i = .leading k s → s < st.table.nextSerial
  leaderOnce : ∀ i j k k' s, st.callers i = .leading k s → st.callers j = .leading k' s → i = j
  leadingOpen : ∀ i k s, st.callers i = .leading k s → st.ended s = none
  leadingKey : ∀ i k s k' f, st.callers i = .leading k s → (k', f) ∈ st.table.flights →
    f.serial = s → k' = k ∧ f.result = none
  /-- An execution kept with its result has its grace timer set. -/
  keptTimed : ∀ k f, (k, f) ∈ st.table.flights → f.result.isSome → (k, f.serial) ∈ st.timers
  /-- An execution that ended and is not kept is gone from the table. -/
  droppedGone : ∀ s o, st.ended s = some o → o.kept st.table.keeps = false →
    ∀ k f, (k, f) ∈ st.table.flights → f.serial ≠ s
  settlingEnded : ∀ i k s o, st.callers i = .settling k s o → st.ended s = some o
  /-- Waiters are told only of an execution that ended. -/
  toldEnded : ∀ s ∈ st.told, (st.ended s).isSome
  sharedResult : ∀ i s r, st.callers i = .shared s r → ∃ o, st.ended s = some o ∧ o.result = r

theorem inv_init (keeps : Bool) (max : Int) : (init keeps max : Flights α).Inv where
  bounded := Nat.zero_le _
  keysUnique := List.nodup_nil
  closedEmpty _ := rfl
  flightFresh := by simp [init, Inflight.empty]
  endedFresh := by simp [init]
  leadingFresh := by simp [init]
  leaderOnce := by simp [init]
  leadingOpen := by simp [init]
  leadingKey := by simp [init]
  keptTimed := by simp [init, Inflight.empty]
  droppedGone := by simp [init]
  settlingEnded := by simp [init]
  toldEnded := by simp [init]
  sharedResult := by simp [init]

variable {st : Flights α} {i : Nat}

theorem leading_of_update {p : Phase α} (hp : ∀ k s, p ≠ .leading k s) {j : Nat} {k : String}
    {s : Nat} (hj : Function.update st.callers i p j = .leading k s) :
    st.callers j = .leading k s ∧ j ≠ i := by
  rw [Function.update_apply] at hj
  split at hj
  · exact absurd hj (hp k s)
  · exact ⟨hj, ‹_›⟩

theorem Inv.move (h : st.Inv) {p : Phase α} (hp : ∀ k s, p ≠ .leading k s)
    (hsettling : ∀ k s o, p ≠ .settling k s o)
    (hshared : ∀ s r, p = .shared s r → ∃ o, st.ended s = some o ∧ o.result = r) (i : Nat) :
    Inv { st with callers := Function.update st.callers i p } where
  bounded := h.bounded
  keysUnique := h.keysUnique
  closedEmpty := h.closedEmpty
  flightFresh := h.flightFresh
  endedFresh := h.endedFresh
  leadingFresh j k s hj := h.leadingFresh j k s (leading_of_update hp hj).1
  leaderOnce j j' k k' s hj hj' :=
    h.leaderOnce j j' k k' s (leading_of_update hp hj).1 (leading_of_update hp hj').1
  leadingOpen j k s hj := h.leadingOpen j k s (leading_of_update hp hj).1
  leadingKey j k s k' f hj := h.leadingKey j k s k' f (leading_of_update hp hj).1
  keptTimed := h.keptTimed
  droppedGone := h.droppedGone
  settlingEnded j k s o hj := by
    simp only [Function.update_apply] at hj
    split at hj
    · exact absurd hj (hsettling k s o)
    · exact h.settlingEnded j k s o hj
  toldEnded := h.toldEnded
  sharedResult j s r hj := by
    simp only [Function.update_apply] at hj
    split at hj
    · exact hshared s r hj
    · exact h.sharedResult j s r hj

theorem Inv.lead (h : st.Inv) {key : String} (hnone : st.table.find? key = none)
    (hopen : st.table.closed = false) (hroom : st.table.size < st.table.max) (i : Nat) :
    Inv { st with
      table := st.table.record key
      callers := Function.update st.callers i (.leading key st.table.nextSerial) } := by
  -- a leader after the step is the new one, or was one before with an older serial number
  have lead : ∀ j k s, Function.update st.callers i (.leading key st.table.nextSerial) j =
      .leading k s → s = st.table.nextSerial ∧ (k = key ∧ j = i) ∨ st.callers j = .leading k s := by
    intro j k s hj
    simp only [Function.update_apply] at hj
    split at hj
    · cases hj
      exact .inl ⟨rfl, rfl, ‹_›⟩
    · exact .inr hj
  -- an execution after the step is the new one, or was there before
  have mem : ∀ k f, (k, f) ∈ (st.table.record key).flights →
      (k = key ∧ f = { serial := st.table.nextSerial }) ∨ (k, f) ∈ st.table.flights := by
    intro k f hf
    simpa [or_comm] using hf
  have fresh : ∀ {s}, s < st.table.nextSerial → s ≠ st.table.nextSerial := Nat.ne_of_lt
  exact {
    bounded := by simpa [Inflight.size] using hroom
    keysUnique := by
      rw [Inflight.record_flights, List.map_append, List.nodup_append_comm]
      exact List.nodup_cons.mpr ⟨st.table.key_not_mem_of_find?_none hnone, h.keysUnique⟩
    closedEmpty := by simp [hopen]
    flightFresh := by
      intro k f hf
      rcases mem k f hf with ⟨-, hf⟩ | hf
      · simp [hf]
      · simpa using Nat.lt_succ_of_lt (h.flightFresh k f hf)
    endedFresh := fun s o hs => by simpa using Nat.lt_succ_of_lt (h.endedFresh s o hs)
    leadingFresh := by
      intro j k s hj
      rcases lead j k s hj with ⟨hs, -⟩ | hj
      · simp [hs]
      · simpa using Nat.lt_succ_of_lt (h.leadingFresh j k s hj)
    leaderOnce := by
      intro j j' k k' s hj hj'
      rcases lead j k s hj with ⟨hs, -, hji⟩ | hj <;> rcases lead j' k' s hj' with ⟨hs', -, hji'⟩ | hj'
      · exact hji.trans hji'.symm
      · exact absurd hs (fresh (h.leadingFresh j' k' s hj'))
      · exact absurd hs' (fresh (h.leadingFresh j k s hj))
      · exact h.leaderOnce j j' k k' s hj hj'
    leadingOpen := by
      intro j k s hj
      rcases lead j k s hj with ⟨rfl, -⟩ | hj
      · exact Option.eq_none_iff_forall_ne_some.mpr fun o he =>
          Nat.lt_irrefl _ (h.endedFresh _ o he)
      · exact h.leadingOpen j k s hj
    leadingKey := by
      intro j k s k' f hj hf hs
      rcases lead j k s hj with ⟨hs', hk, -⟩ | hj <;> rcases mem k' f hf with ⟨hk', rfl⟩ | hf
      · exact ⟨hk'.trans hk.symm, rfl⟩
      · exact absurd (hs.trans hs') (fresh (h.flightFresh k' f hf))
      · exact absurd hs (fresh (h.leadingFresh j k s hj)).symm
      · exact h.leadingKey j k s k' f hj hf hs
    keptTimed := by
      intro k f hf hr
      rcases mem k f hf with ⟨-, rfl⟩ | hf
      · simp at hr
      · exact h.keptTimed k f hf hr
    droppedGone := by
      intro s o hs hkept k f hf
      rcases mem k f hf with ⟨-, rfl⟩ | hf
      · exact (fresh (h.endedFresh s o hs)).symm
      · exact h.droppedGone s o hs hkept k f hf
    settlingEnded := by
      intro j k s o hj
      simp only [Function.update_apply] at hj
      split at hj
      · cases hj
      · exact h.settlingEnded j k s o hj
    toldEnded := h.toldEnded
    sharedResult := by
      intro j s r hj
      simp only [Function.update_apply] at hj
      split at hj
      · cases hj
      · exact h.sharedResult j s r hj }

theorem Inv.complete (h : st.Inv) {key : String} {s : Nat} (hi : st.callers i = .leading key s)
    (o : Ending α) :
    Inv { st with
      table := st.table.finish key s o.result
      ended := Function.update st.ended s (some o)
      timers := if o.kept st.table.keeps then (key, s) :: st.timers else st.timers
      callers := Function.update st.callers i (.settling key s o) } := by
  -- every other leader was one before, with another serial number
  have lead : ∀ j k s', Function.update st.callers i (.settling key s o) j = .leading k s' →
      st.callers j = .leading k s' ∧ s' ≠ s := by
    intro j k s' hj
    have hp : ∀ k s', Phase.settling key s o ≠ .leading k s' := fun _ _ => nofun
    obtain ⟨hj, hji⟩ := leading_of_update hp hj
    refine ⟨hj, fun hs => hji ?_⟩
    exact h.leaderOnce j i k key s' hj (hs ▸ hi)
  -- what had ended before ended the same way
  have same : ∀ {s' o'}, st.ended s' = some o' → Function.update st.ended s (some o) s' = some o' := by
    intro s' o' hs'
    have hne : s' ≠ s := by
      rintro rfl
      simp [h.leadingOpen i key s' hi] at hs'
    rwa [Function.update_of_ne hne]
  -- what has ended after the step is this execution, or another that had ended before
  have back : ∀ {s' o'}, Function.update st.ended s (some o) s' = some o' →
      (s' = s ∧ o' = o) ∨ (s' ≠ s ∧ st.ended s' = some o') := by
    intro s' o' hs'
    rw [Function.update_apply] at hs'
    split at hs'
    · exact .inl ⟨‹_›, (Option.some.inj hs').symm⟩
    · exact .inr ⟨‹_›, hs'⟩
  exact {
    bounded := by simpa using st.table.size_finish_le.trans h.bounded
    keysUnique := st.table.keys_finish_sublist.nodup h.keysUnique
    closedEmpty := by
      intro hc
      have he := h.closedEmpty (by simpa using hc)
      refine List.eq_nil_iff_forall_not_mem.mpr fun ⟨k, f⟩ hf => ?_
      obtain ⟨f₀, hf₀, -⟩ := st.table.of_mem_finish hf
      simp [he] at hf₀
    flightFresh := by
      intro k f hf
      obtain ⟨f₀, hf₀, hs, -⟩ := st.table.of_mem_finish hf
      simpa [← hs] using h.flightFresh k f₀ hf₀
    endedFresh := by
      intro s' o' hs'
      rcases back hs' with ⟨rfl, -⟩ | ⟨-, hs'⟩
      · simpa using h.leadingFresh i key s' hi
      · simpa using h.endedFresh s' o' hs'
    leadingFresh := fun j k s' hj => by simpa using h.leadingFresh j k s' (lead j k s' hj).1
    leaderOnce := fun j j' k k' s' hj hj' => h.leaderOnce j j' k k' s' (lead j k s' hj).1 (lead j' k' s' hj').1
    leadingOpen := by
      intro j k s' hj
      obtain ⟨hj, hss⟩ := lead j k s' hj
      simpa [Function.update_of_ne hss] using h.leadingOpen j k s' hj
    leadingKey := by
      intro j k s' k' f hj hf hs
      obtain ⟨hj, hss⟩ := lead j k s' hj
      obtain ⟨f₀, hf₀, hs₀, -, hkeep⟩ := st.table.of_mem_finish hf
      have hf : f = f₀ := hkeep fun hks => hss (hs ▸ hks.2)
      subst hf
      exact h.leadingKey j k s' k' f hj hf₀ hs
    keptTimed := by
      intro k f hf hr
      obtain ⟨f₀, hf₀, hs₀, hfin, hkeep⟩ := st.table.of_mem_finish hf
      by_cases hks : k = key ∧ f.serial = s
      · have hkept : o.kept st.table.keeps = true := (hfin hks).1
        simp [hkept, hks]
      · have hold := hkeep hks
        subst hold
        have := h.keptTimed k f hf₀ hr
        split <;> simp [this]
    droppedGone := by
      intro s' o' hs' hkept k f hf hfs
      obtain ⟨f₀, hf₀, hs₀, hfin, -⟩ := st.table.of_mem_finish hf
      rw [Inflight.finish_keeps] at hkept
      rcases back hs' with ⟨rfl, rfl⟩ | ⟨-, hs'⟩
      · -- the execution of this serial number in the table is under the leader's key, so the
        -- table kept it, which only a kept ending does
        have hk : k = key := (h.leadingKey i key s' k f₀ hi hf₀ (hs₀.trans hfs)).1
        have hkept' : o'.kept st.table.keeps = true := (hfin ⟨hk, hfs⟩).1
        simp [hkept'] at hkept
      · exact h.droppedGone s' o' hs' hkept k f₀ hf₀ (hs₀.trans hfs)
    settlingEnded := by
      intro j k s' o' hj
      simp only [Function.update_apply] at hj
      split at hj
      · cases hj
        simp
      · exact same (h.settlingEnded j k s' o' hj)
    toldEnded := by
      intro s' hs'
      obtain ⟨o', ho'⟩ := Option.isSome_iff_exists.mp (h.toldEnded s' hs')
      simp [same ho']
    sharedResult := by
      intro j s' r hj
      simp only [Function.update_apply] at hj
      split at hj
      · cases hj
      · obtain ⟨o', ho', hr⟩ := h.sharedResult j s' r hj
        exact ⟨o', same ho', hr⟩ }

theorem Inv.shrink (h : st.Inv) {table : Inflight α} {timers : List (String × Nat)}
    (hsub : table.flights.Sublist st.table.flights) (hkeeps : table.keeps = st.table.keeps)
    (hmax : table.max = st.table.max) (hnext : table.nextSerial = st.table.nextSerial)
    (hclosed : table.closed = true → table.flights = [])
    (htimed : ∀ k f, (k, f) ∈ table.flights → f.result.isSome → (k, f.serial) ∈ timers) :
    Inv { st with table, timers } where
  bounded := by
    show table.flights.length ≤ table.max
    simpa [hmax] using hsub.length_le.trans h.bounded
  keysUnique := (hsub.map Prod.fst).nodup h.keysUnique
  closedEmpty := hclosed
  flightFresh k f hf := hnext ▸ h.flightFresh k f (hsub.subset hf)
  endedFresh s o hs := hnext ▸ h.endedFresh s o hs
  leadingFresh i k s hi := hnext ▸ h.leadingFresh i k s hi
  leaderOnce := h.leaderOnce
  leadingOpen := h.leadingOpen
  leadingKey i k s k' f hi hf := h.leadingKey i k s k' f hi (hsub.subset hf)
  keptTimed := htimed
  droppedGone s o hs hkept k f hf := h.droppedGone s o hs (hkeeps ▸ hkept) k f (hsub.subset hf)
  settlingEnded := h.settlingEnded
  toldEnded := h.toldEnded
  sharedResult := h.sharedResult

theorem inv_step (h : st.Inv) : ∀ e, (st.step e).Inv
  | .arrive i key => by
    simp only [step, arrive]
    split
    · rcases st.table.arrive_cases key with ⟨f, -, ha⟩ | ⟨-, -, ha⟩ | ⟨hnone, hopen, hroom, ha⟩ <;>
        rw [ha]
      · exact h.move (p := .waiting key f.serial) nofun nofun nofun i
      · exact h.move (p := .alone key) nofun nofun nofun i
      · exact h.lead hnone hopen hroom i
    · exact h
  | .complete i o => by
    simp only [step, complete]
    split
    · next hi => exact h.complete hi o
    · exact h.move (p := o.own) (by cases o <;> nofun) (by cases o <;> nofun)
        (by cases o <;> nofun) i
    · exact h
  | .release i => by
    simp only [step, release]
    split
    · next k s o hi =>
      have h' := h.move (p := o.own) (by cases o <;> nofun) (by cases o <;> nofun)
        (by cases o <;> nofun) i
      exact { h' with
        toldEnded := by
          intro s' hs'
          rcases List.mem_cons.mp hs' with rfl | hs'
          · simp [h.settlingEnded i k s' o hi]
          · exact h.toldEnded s' hs' }
    · exact h
  | .wake i => by
    simp only [step, wake]
    split
    · next k s _ =>
      split
      · next o he =>
        split
        · exact h.move (p := .shared s o.result) nofun nofun (by rintro s r ⟨⟩; exact ⟨o, he, rfl⟩) i
        · exact h
      · exact h
    · exact h
  | .abandon i expired => by
    simp only [step, abandon]
    split
    · exact h.move (p := .gaveUp (Fault.ofContext expired)) nofun nofun nofun i
    · exact h
  | .fire key s => by
    simp only [step, fire]
    split
    · refine h.shrink (st.table.forget_sublist key s) rfl rfl rfl
        (fun hc => List.eq_nil_of_sublist_nil ((st.table.forget_sublist key s).trans
          (by simpa using h.closedEmpty hc))) ?_
      intro k f hf hr
      obtain ⟨hf, hne⟩ := st.table.mem_forget.mp hf
      refine List.mem_erase_of_ne ?_ |>.mpr (h.keptTimed k f hf hr)
      rintro ⟨⟩
      exact hne rfl rfl
    · exact h
  | .close => h.shrink (List.nil_sublist _) rfl rfl rfl (fun _ => rfl) (by simp)

theorem inv_run (keeps : Bool) (max : Int) (es : List (Event α)) :
    ((init keeps max : Flights α).run es).Inv :=
  run_induction (P := Inv) (fun _ e h => inv_step h e) (inv_init keeps max) es

/-! ### What one step does to the table and to each caller -/

theorem release_frame (st : Flights α) (i : Nat) :
    (st.release i).table = st.table ∧ (st.release i).ended = st.ended := by
  unfold release
  split <;> exact ⟨rfl, rfl⟩

theorem wake_frame (st : Flights α) (i : Nat) :
    (st.wake i).table = st.table ∧ (st.wake i).ended = st.ended := by
  unfold wake
  split
  · split
    · split <;> exact ⟨rfl, rfl⟩
    · exact ⟨rfl, rfl⟩
  · exact ⟨rfl, rfl⟩

theorem abandon_frame (st : Flights α) (i : Nat) (expired : Bool) :
    (st.abandon i expired).table = st.table ∧ (st.abandon i expired).ended = st.ended := by
  unfold abandon
  split <;> exact ⟨rfl, rfl⟩

@[simp] theorem keeps_step (st : Flights α) (e : Event α) : (st.step e).table.keeps = st.table.keeps := by
  cases e with
  | arrive i key => simp only [step, arrive]; split <;> simp
  | complete i o => simp only [step, complete]; split <;> simp
  | release i => simp [step, release_frame]
  | wake i => simp [step, wake_frame]
  | abandon i expired => simp [step, abandon_frame]
  | fire key s => simp only [step, fire]; split <;> simp
  | close => rfl

theorem ended_step (h : st.Inv) {s : Nat} {o : Ending α} (hs : st.ended s = some o) (e : Event α) :
    (st.step e).ended s = some o := by
  cases e with
  | arrive i key => simp only [step, arrive]; split <;> exact hs
  | complete i o' =>
    simp only [step, complete]
    split
    · next key s' hi =>
      have hne : s ≠ s' := by
        rintro rfl
        simp [h.leadingOpen i key s hi] at hs
      simpa [Function.update_of_ne hne] using hs
    · exact hs
    · exact hs
  | release i => simpa [step, release_frame] using hs
  | wake i => simpa [step, wake_frame] using hs
  | abandon i expired => simpa [step, abandon_frame] using hs
  | fire key s' => simp only [step, fire]; split <;> exact hs
  | close => exact hs

theorem moves_update {g : Inflight α} {c : Nat → Phase α} {j : Nat} {p : Phase α}
    (hm : Phase.Moves g (c j) p) (i : Nat) :
    Function.update c j p i = c i ∨ Phase.Moves g (c i) (Function.update c j p i) := by
  by_cases hij : i = j
  · subst hij
    exact .inr (by simpa using hm)
  · exact .inl (Function.update_of_ne hij _ _)

theorem callers_step (st : Flights α) (e : Event α) (i : Nat) :
    (st.step e).callers i = st.callers i ∨
      Phase.Moves st.table (st.callers i) ((st.step e).callers i) := by
  cases e with
  | arrive j key =>
    simp only [step, arrive]
    split
    · next hj => exact moves_update (by rw [hj]; exact .arrive key) i
    · exact .inl rfl
  | complete j o =>
    simp only [step, complete]
    split
    · next key s hj => exact moves_update (by rw [hj]; exact .complete key s o) i
    · next key hj => exact moves_update (by rw [hj]; exact .finish key o) i
    · exact .inl rfl
  | release j =>
    simp only [step, release]
    split
    · next key s o hj => exact moves_update (by rw [hj]; exact .release key s o) i
    · exact .inl rfl
  | wake j =>
    simp only [step, wake]
    split
    · next key s hj =>
      split
      · next o _ =>
        split
        · exact moves_update (by rw [hj]; exact .wake key s o.result) i
        · exact .inl rfl
      · exact .inl rfl
    · exact .inl rfl
  | abandon j expired =>
    simp only [step, abandon]
    split
    · next key s hj => exact moves_update (by rw [hj]; exact .abandon key s expired) i
    · exact .inl rfl
  | fire key s => simp only [step, fire]; split <;> exact .inl rfl
  | close => exact .inl rfl

theorem mem_step {k : String} {f : Flight α} (hf : (k, f) ∈ st.table.flights) {e : Event α}
    (hfire : e ≠ .fire k f.serial) (hclose : e ≠ .close)
    (hlead : ∀ j o, e = .complete j o → st.callers j ≠ .leading k f.serial) :
    (k, f) ∈ (st.step e).table.flights := by
  cases e with
  | arrive i key =>
    simp only [step, arrive]
    split
    · rcases st.table.arrive_cases key with ⟨_, -, ha⟩ | ⟨-, -, ha⟩ | ⟨-, -, -, ha⟩ <;>
        simp [ha, hf]
    · exact hf
  | complete j o =>
    simp only [step, complete]
    split
    · next key s hj =>
      refine st.table.mem_finish_of_ne hf ?_
      rintro ⟨rfl, rfl⟩
      exact hlead j o rfl hj
    · exact hf
    · exact hf
  | release i => simpa [step, release_frame] using hf
  | wake i => simpa [step, wake_frame] using hf
  | abandon i expired => simpa [step, abandon_frame] using hf
  | fire key s =>
    simp only [step, fire]
    split
    · refine st.table.mem_forget.mpr ⟨hf, ?_⟩
      rintro rfl rfl
      exact hfire rfl
    · exact hf
  | close => exact absurd rfl hclose

theorem closed_step (hc : st.table.closed = true) (he : st.table.flights = []) (e : Event α) :
    (st.step e).table.closed = true ∧ (st.step e).table.flights = [] := by
  cases e with
  | arrive i key =>
    simp only [step, arrive]
    split
    · simp [Inflight.arrive_of_closed hc he, hc, he]
    · exact ⟨hc, he⟩
  | complete j o =>
    simp only [step, complete]
    split
    · refine ⟨by simpa using hc, List.eq_nil_iff_forall_not_mem.mpr fun ⟨k, f⟩ hf => ?_⟩
      obtain ⟨f₀, hf₀, -⟩ := st.table.of_mem_finish hf
      simp [he] at hf₀
    · exact ⟨hc, he⟩
    · exact ⟨hc, he⟩
  | release i => simpa [step, release_frame] using And.intro hc he
  | wake i => simpa [step, wake_frame] using And.intro hc he
  | abandon i expired => simpa [step, abandon_frame] using And.intro hc he
  | fire key s =>
    simp only [step, fire]
    split
    · exact ⟨hc, List.eq_nil_of_sublist_nil (he ▸ st.table.forget_sublist key s)⟩
    · exact ⟨hc, he⟩
  | close => exact ⟨rfl, rfl⟩

end Flights

namespace Phase

variable {α : Type} {g : Inflight α} {p q : Phase α}

theorem Moves.joined {key : String} {s : Nat} (hm : Moves g p q) (hp : p.Joined key s) :
    q.Joined key s := by
  cases hm with
  | wake k s' r => exact hp.2
  | abandon k s' expired => exact ⟨expired, rfl⟩
  | arrive k => exact (hp : False).elim
  | complete k s' o => exact (hp : False).elim
  | finish k o => exact (hp : False).elim
  | release k s' o => exact (hp : False).elim

theorem Moves.solo (hm : Moves g p q) (hc : g.closed = true) (he : g.flights = []) (hp : p.Solo) :
    q.Solo := by
  cases hm with
  | arrive key => simp [Inflight.arrive_of_closed hc he, Arrival.phase, Solo]
  | finish k o => cases o <;> trivial
  | complete k s o => exact (hp : False).elim
  | release k s o => exact (hp : False).elim
  | wake k s r => exact (hp : False).elim
  | abandon k s expired => exact (hp : False).elim

theorem Moves.shares {s : Nat} (hm : Moves g p q) (hq : q.Shares s) :
    p.Shares s ∨ (p = idle ∧ ∃ k f, (k, f) ∈ g.flights ∧ f.serial = s) := by
  cases hm with
  | arrive key =>
    refine .inr ⟨rfl, ?_⟩
    rcases g.arrive_cases key with ⟨f, hf, ha⟩ | ⟨-, -, ha⟩ | ⟨-, -, -, ha⟩ <;>
      simp only [ha, Arrival.phase, Shares] at hq
    exact ⟨key, f, g.mem_of_find? hf, hq⟩
  | wake k s' r => exact .inl hq
  | complete k s' o => exact (hq : False).elim
  | finish k o => cases o <;> exact (hq : False).elim
  | release k s' o => cases o <;> exact (hq : False).elim
  | abandon k s' expired => exact (hq : False).elim

end Phase

namespace Flights

variable {α : Type} {st : Flights α}

/-! ### Runs -/

theorem joined_run {i : Nat} {k : String} {s : Nat} (hp : (st.callers i).Joined k s)
    (es : List (Event α)) : ((st.run es).callers i).Joined k s := by
  refine run_induction (P := fun st => (st.callers i).Joined k s) (fun st e hp => ?_) hp es
  rcases callers_step st e i with he | hm
  · exact he ▸ hp
  · exact hm.joined hp

theorem closed_run (hc : st.table.closed = true) (he : st.table.flights = []) (es : List (Event α)) :
    (st.run es).table.closed = true ∧ (st.run es).table.flights = [] :=
  run_induction (P := fun st => st.table.closed = true ∧ st.table.flights = [])
    (fun _ e h => closed_step h.1 h.2 e) ⟨hc, he⟩ es

theorem solo_run (hc : st.table.closed = true) (he : st.table.flights = []) {i : Nat}
    (hp : (st.callers i).Solo) (es : List (Event α)) : ((st.run es).callers i).Solo := by
  refine (run_induction
    (P := fun st => (st.table.closed = true ∧ st.table.flights = []) ∧ (st.callers i).Solo)
    (fun st e h => ⟨closed_step h.1.1 h.1.2 e, ?_⟩) ⟨⟨hc, he⟩, hp⟩ es).2
  rcases callers_step st e i with hs | hm
  · exact hs ▸ h.2
  · exact hm.solo h.1.1 h.1.2 h.2

theorem not_shares_run (h : st.Inv) {s : Nat} {o : Ending α} (hs : st.ended s = some o)
    (hkept : o.kept st.table.keeps = false) {i : Nat} (hp : ¬(st.callers i).Shares s)
    (es : List (Event α)) : ¬((st.run es).callers i).Shares s := by
  refine (run_induction
    (P := fun st => (st.Inv ∧ st.ended s = some o ∧ o.kept st.table.keeps = false) ∧
      ¬(st.callers i).Shares s)
    (fun st e h => ⟨⟨inv_step h.1.1 e, ended_step h.1.1 h.1.2.1 e, by simpa using h.1.2.2⟩, ?_⟩)
    ⟨⟨h, hs, hkept⟩, hp⟩ es).2
  intro hq
  rcases callers_step st e i with he | hm
  · exact h.2 (he ▸ hq)
  · rcases hm.shares hq with hq | ⟨-, k, f, hf, hfs⟩
    · exact h.2 hq
    · exact h.1.1.droppedGone s o h.1.2.1 h.1.2.2 k f hf hfs

/-! ### The promises -/

/-- What the table promises in a state, however the run goes on from it. -/
structure Safe (st : Flights α) : Prop where
  /-- The table holds at most `max` keys, -/
  bounded : st.table.size ≤ st.table.max
  /-- and one execution per key. -/
  keysUnique : (st.table.flights.map Prod.fst).Nodup
  /-- A caller that joined an execution never runs one: from then on it waits, or has returned
  that execution's result shared, or its own context's error. -/
  joinedStays : ∀ i k s, st.callers i = .waiting k s → ∀ es, ((st.run es).callers i).Joined k s
  /-- A shared result is the one its execution ended with. -/
  sharedResult : ∀ i s r, st.callers i = .shared s r → ∃ o, st.ended s = some o ∧ o.result = r
  /-- Waiters are told only of an execution that ended, -/
  toldEnded : ∀ s ∈ st.told, (st.ended s).isSome
  /-- and an execution that ended and is not kept has left the table, -/
  droppedGone : ∀ s o, st.ended s = some o → o.kept st.table.keeps = false →
    ∀ k f, (k, f) ∈ st.table.flights → f.serial ≠ s
  /-- so that no caller arriving later waits for it or takes its result. -/
  droppedUnshared : ∀ s o, st.ended s = some o → o.kept st.table.keeps = false →
    ∀ i, st.callers i = .idle → ∀ es, ¬((st.run es).callers i).Shares s
  /-- An execution kept with its result has its grace timer set, -/
  keptTimed : ∀ k f, (k, f) ∈ st.table.flights → f.result.isSome → (k, f.serial) ∈ st.timers
  /-- and no step removes it but that timer or the closer. -/
  keptStays : ∀ k f, (k, f) ∈ st.table.flights → f.result.isSome →
    ∀ e, e ≠ .fire k f.serial → e ≠ .close → (k, f) ∈ (st.step e).table.flights
  /-- The timer or the end of another execution never removes an execution. -/
  othersStay : ∀ k f, (k, f) ∈ st.table.flights → ∀ e, e ≠ .fire k f.serial → e ≠ .close →
    (∀ j o, e = .complete j o → st.callers j ≠ .leading k f.serial) →
    (k, f) ∈ (st.step e).table.flights
  /-- Once closed, the table stays closed and empty, -/
  closedStays : st.table.closed = true →
    ∀ es, (st.run es).table.closed = true ∧ (st.run es).table.flights = []
  /-- and every caller that had not arrived runs its own execution and returns it unshared. -/
  closedAlone : st.table.closed = true →
    ∀ i, st.callers i = .idle → ∀ es, ((st.run es).callers i).Solo

theorem Inv.safe (h : st.Inv) : st.Safe where
  bounded := h.bounded
  keysUnique := h.keysUnique
  joinedStays i k s hi es := joined_run (by rw [hi]; exact ⟨rfl, rfl⟩) es
  sharedResult := h.sharedResult
  toldEnded := h.toldEnded
  droppedGone := h.droppedGone
  droppedUnshared s o hs hkept i hi es := not_shares_run h hs hkept (by rw [hi]; exact id) es
  keptTimed := h.keptTimed
  -- the leader of an execution with a result has completed, so only a timer or the closer is left
  keptStays k f hf hr e hfire hclose := mem_step hf hfire hclose fun j o _ hj => by
    simp [(h.leadingKey j k f.serial k f hj hf rfl).2] at hr
  othersStay k f hf _ hfire hclose hlead := mem_step hf hfire hclose hlead
  closedStays hc := closed_run hc (h.closedEmpty hc)
  closedAlone hc i hi := solo_run hc (h.closedEmpty hc) (by rw [hi]; trivial)

/-- Every state that callers, grace timers and the closer reach from a new table, in any order,
keeps the table's promises. -/
theorem run_safe (keeps : Bool) (max : Int) (es : List (Event α)) :
    ((init keeps max : Flights α).run es).Safe :=
  (inv_run keeps max es).safe

/-- A caller that arrives while another runs the execution of its key takes that execution's
result, shared. -/
example : ((init true 0 : Flights Nat).run [.arrive 0 "k", .arrive 1 "k",
    .complete 0 (.returned (.ok 5)), .release 0, .wake 1]).callers 1 = .shared 0 (.ok 5) := rfl

end Flights

end RowGate.Cache

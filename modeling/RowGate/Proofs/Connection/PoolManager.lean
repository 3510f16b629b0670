import Mathlib
import RowGate.Connection.Pools
/-!
# The connection pools under concurrent callers

A close between an opening's store of its executor and the marking of its slot ready leaks the
executor (`close_while_stored_leaks`); runs whose closes keep out of such windows keep every
promise of the pools (`serial_pools_safe`).
-/

namespace RowGate.Connection

/-! ### The pools' operations -/

namespace Pools

variable {α : Type} (p : Pools α)

theorem mem_of_find? {key : String} {s : Slot α} (h : p.find? key = some s) :
    (key, s) ∈ p.slots := by
  simp only [find?, Option.map_eq_some_iff] at h
  obtain ⟨⟨k, s'⟩, hfind, rfl⟩ := h
  have hk : k = key := by simpa using List.find?_some hfind
  exact hk ▸ List.mem_of_find?_eq_some hfind

theorem find?_eq_none_iff {key : String} : p.find? key = none ↔ key ∉ p.slots.map Prod.fst := by
  simp only [find?, Option.map_eq_none_iff, List.find?_eq_none, beq_iff_eq, List.mem_map,
    Prod.exists, exists_and_right, exists_eq_right, not_exists]
  constructor
  · intro h s hs
    exact h _ hs rfl
  · rintro h ⟨k, s⟩ hs rfl
    exact h s hs

theorem slot_unique (hk : (p.slots.map Prod.fst).Nodup) {key : String} {s s' : Slot α}
    (h : (key, s) ∈ p.slots) (h' : (key, s') ∈ p.slots) : s = s' := by
  have := List.inj_on_of_nodup_map hk h h' rfl
  simp only [Prod.mk.injEq, true_and] at this
  exact this

theorem reserve_cases (key : String) :
    (∃ ex, p.find? key = some (.ready ex) ∧ p.reserve key = (.found ex, p)) ∨
    (p.find? key = some .opening ∧ p.reserve key = (.waiting, p)) ∨
    (p.find? key = none ∧
      p.reserve key = (.opens, { p with slots := p.slots ++ [(key, .opening)] })) := by
  unfold reserve
  cases hf : p.find? key with
  | none => exact .inr (.inr ⟨rfl, rfl⟩)
  | some s =>
    cases s with
    | ready ex => exact .inl ⟨ex, rfl, rfl⟩
    | opening => exact .inr (.inl ⟨rfl, rfl⟩)

theorem lookup_closed {key : String} (hc : p.closed = true) : p.lookup key = (.refused, p) := by
  simp [lookup, hc]

theorem lookup_open {key : String} (hc : p.closed = false) : p.lookup key = p.reserve key := by
  simp [lookup, hc]

@[simp] theorem erase_closed (key : String) : (p.erase key).closed = p.closed := rfl

theorem mem_erase {key k : String} {s : Slot α} :
    (k, s) ∈ (p.erase key).slots ↔ (k, s) ∈ p.slots ∧ k ≠ key := by
  simp [erase]

theorem erase_sublist (key : String) : (p.erase key).slots.Sublist p.slots := List.filter_sublist

theorem find?_erase_self (key : String) : (p.erase key).find? key = none :=
  ((p.erase key).find?_eq_none_iff).mpr fun h => by
    obtain ⟨⟨k, s⟩, hs, rfl⟩ := List.mem_map.mp h
    exact (p.mem_erase.mp hs).2 rfl

theorem erase_of_slots_nil {key : String} (h : p.slots = []) : p.erase key = p := by
  cases p
  simp_all [erase]

@[simp] theorem markReady_closed (key : String) (ex : α) :
    (p.markReady key ex).closed = p.closed := rfl

theorem keys_markReady (key : String) (ex : α) :
    (p.markReady key ex).slots.map Prod.fst = p.slots.map Prod.fst := by
  simp only [markReady, List.map_map]
  apply List.map_congr_left
  rintro ⟨k, s⟩ -
  by_cases hk : k = key <;> simp [hk]

theorem mem_markReady {key k : String} {ex : α} {s : Slot α} :
    (k, s) ∈ (p.markReady key ex).slots ↔
      ∃ s₀, (k, s₀) ∈ p.slots ∧ s = if k = key then .ready ex else s₀ := by
  simp only [markReady, List.mem_map, Prod.exists]
  constructor
  · rintro ⟨k₀, s₀, hmem, heq⟩
    by_cases hk : k₀ = key
    · subst hk
      simp only [beq_self_eq_true, if_true, Prod.mk.injEq] at heq
      obtain ⟨rfl, rfl⟩ := heq
      exact ⟨s₀, hmem, by simp⟩
    · simp only [beq_iff_eq, hk, if_false, Prod.mk.injEq] at heq
      obtain ⟨rfl, rfl⟩ := heq
      exact ⟨s₀, hmem, by simp [hk]⟩
  · rintro ⟨s₀, hmem, rfl⟩
    exact ⟨k, s₀, hmem, by by_cases hk : k = key <;> simp [hk]⟩

theorem of_mem_markReady {key k : String} {ex : α} {s : Slot α}
    (h : (k, s) ∈ (p.markReady key ex).slots) :
    (k ≠ key ∧ (k, s) ∈ p.slots) ∨ (k = key ∧ s = .ready ex) := by
  obtain ⟨s₀, hs₀, rfl⟩ := p.mem_markReady.mp h
  by_cases hk : k = key <;> simp [hk, hs₀]

theorem mem_markReady_of_ne {key k : String} {ex : α} {s : Slot α} (h : (k, s) ∈ p.slots)
    (hk : k ≠ key) : (k, s) ∈ (p.markReady key ex).slots :=
  p.mem_markReady.mpr ⟨s, h, by simp [hk]⟩

theorem mem_markReady_self {key : String} {ex : α} {s : Slot α} (h : (key, s) ∈ p.slots) :
    (key, .ready ex) ∈ (p.markReady key ex).slots :=
  p.mem_markReady.mpr ⟨s, h, by simp⟩

theorem store_error (key type : String) (e : Fault) :
    p.store key type (.error e) =
      (.error (.wrapped ("failed to open " ++ type ++ " pool " ++ key) e), none, p.erase key) := rfl

theorem store_ok_closed {key type : String} {ex : α} (hc : p.closed = true) :
    p.store key type (.ok ex) = (.error managerClosed, some ex, p) := by
  simp [store, hc]

theorem store_ok_open {key type : String} {ex : α} (hc : p.closed = false) :
    p.store key type (.ok ex) = (.ok ex, none, p) := by
  simp [store, hc]

theorem discard_cases [BEq α] [LawfulBEq α] (key : String) (stale : α) :
    (p.find? key = some (.ready stale) ∧ p.discard key stale = (some stale, p.erase key)) ∨
    ((∀ ex, p.find? key = some (.ready ex) → ex ≠ stale) ∧
      p.discard key stale = (none, p)) := by
  unfold discard
  cases hf : p.find? key with
  | none => exact .inr ⟨by simp, rfl⟩
  | some s =>
    cases s with
    | opening => exact .inr ⟨by simp, rfl⟩
    | ready ex =>
      by_cases hs : ex = stale
      · subst hs
        exact .inl ⟨rfl, by simp⟩
      · refine .inr ⟨by simpa using hs, ?_⟩
        simp [hs]

@[simp] theorem close_pools : p.close.2 = { slots := [], closed := true } := rfl

theorem mem_close {k : String} {ex : α} :
    (k, ex) ∈ p.close.1 ↔ (k, .ready ex) ∈ p.slots := by
  simp only [close, List.mem_filterMap, Prod.exists]
  constructor
  · rintro ⟨k', s, hmem, hs⟩
    cases s with
    | ready ex' =>
      simp only [Option.some.injEq, Prod.mk.injEq] at hs
      obtain ⟨rfl, rfl⟩ := hs
      exact hmem
    | opening => simp at hs
  · intro h
    exact ⟨k, .ready ex, h, rfl⟩

end Pools

/-! ### Callers and the closer -/

/-- Where a call of the pools is. -/
inductive Call where
  | idle
  /-- A refresh that has dropped the stale executor, if it was still the open one. -/
  | refreshed (cfg : Config)
  /-- Found no slot under the read lock, and looks again under the write lock. -/
  | missed (cfg : Config)
  /-- Opens the executor of fingerprint `key` for a database of type `type`. -/
  | dialing (key type : String)
  /-- Stored the executor its opening returned, and marks the opening ready next. -/
  | stored (key : String) (ex : Nat)
  /-- Waits for the opening of caller `dialer`: the one it found, or its own. -/
  | waiting (dialer : Nat)
  | returned (r : Except Fault Nat)

namespace Call

/-- The fingerprint a caller opens, from filing its slot until it marks the opening ready. -/
def opens : Call → Option String
  | dialing key _ => some key
  | stored key _ => some key
  | _ => none

/-- The executor a caller has stored and not yet marked ready. -/
def holds : Call → Option Nat
  | stored _ ex => some ex
  | _ => none

/-- Whether a caller is inside a window a close must not split: between its look-ups under the
read and the write lock, or between storing its executor and marking its opening ready. -/
def midway : Call → Bool
  | missed _ => true
  | stored _ _ => true
  | _ => false

theorem holds_of_opens {c : Call} (h : c.opens = none) : c.holds = none := by
  cases c <;> simp_all [opens, holds]

theorem midway_of_holds {c : Call} {ex : Nat} (h : c.holds = some ex) : c.midway = true := by
  cases c <;> simp_all [holds, midway]

end Call

theorem update_some {β : Type} {f : Call → Option β} {c : Nat → Call} {i d : Nat} {p : Call}
    (hp : f p = none) {b : β} (hd : f (Function.update c i p d) = some b) :
    d ≠ i ∧ f (c d) = some b := by
  by_cases hdi : d = i
  · subst hdi
    simp [hp] at hd
  · exact ⟨hdi, by rwa [Function.update_of_ne hdi] at hd⟩

/-- One step of a caller or of the closer. Executors are numbered in the order they are opened. -/
inductive Event where
  | get (caller : Nat) (cfg : Config)
  /-- A caller refreshes a connection, holding the stale executor. -/
  | refresh (caller : Nat) (cfg : Config) (stale : Nat)
  /-- A refresh goes on to get its connection. -/
  | resume (caller : Nat)
  /-- A caller that missed looks again under the write lock. -/
  | reserve (caller : Nat)
  /-- The opener called by a caller returns the next executor, or fails. -/
  | dialed (caller : Nat) (failure : Option Fault)
  /-- A caller that stored its executor marks its opening ready. -/
  | publish (caller : Nat)
  /-- A waiter sees the opening it waits for ended and takes its result. -/
  | wake (caller : Nat)
  /-- A waiter's context ends first: cancelled, or its deadline passed. -/
  | abandon (caller : Nat) (expired : Bool)
  | close

/-- The pools with their callers and the executors opened and closed. -/
structure Manager where
  pools : Pools Nat := {}
  /-- The caller that filed each opening slot. -/
  dialers : List (String × Nat) := []
  /-- How many executors the opener has returned: executors `0` to `opened - 1`. -/
  opened : Nat := 0
  /-- The executors closed, in order. -/
  shut : List Nat := []
  /-- How the opening of each caller ended, as its waiters receive it. -/
  settled : Nat → Option (Except Fault Nat) := fun _ => none
  callers : Nat → Call := fun _ => .idle

namespace Manager

/-- The caller that filed the slot of a fingerprint. -/
def dialer? (m : Manager) (key : String) : Option Nat :=
  (m.dialers.find? (·.1 == key)).map (·.2)

/-- Where a caller goes on the pools' answer to a look-up of `key`, `onOpens` when there is no
slot. An opening slot always has its dialer, so the `idle` case never arises. -/
def reply (m : Manager) (key : String) (onOpens : Call) : Lookup Nat → Call
  | .refused => .returned (.error managerClosed)
  | .found ex => .returned (.ok ex)
  | .waiting =>
    match m.dialer? key with
    | some d => .waiting d
    | none => .idle
  | .opens => onOpens

/-- Where a caller goes from its look-up under the read lock. -/
def served (m : Manager) (cfg : Config) : Call :=
  m.reply cfg.fingerprint (.missed cfg) (m.pools.lookup cfg.fingerprint).1

/-- Where a caller that missed goes from its look-up under the write lock. -/
def filed (m : Manager) (cfg : Config) : Call :=
  m.reply cfg.fingerprint (.dialing cfg.fingerprint cfg.type) (m.pools.reserve cfg.fingerprint).1

/-- A caller looks its connection up under the read lock. -/
def lookup (m : Manager) (i : Nat) (cfg : Config) : Manager :=
  { m with callers := Function.update m.callers i (m.served cfg) }

def get (m : Manager) (i : Nat) (cfg : Config) : Manager :=
  match m.callers i with
  | .idle => m.lookup i cfg
  | _ => m

/-- A refresh drops and closes the executor of its connection when it is still the stale one. -/
def refresh (m : Manager) (i : Nat) (cfg : Config) (stale : Nat) : Manager :=
  match m.callers i with
  | .idle => { m with
      pools := (m.pools.discard cfg.fingerprint stale).2
      shut := m.shut ++ (m.pools.discard cfg.fingerprint stale).1.toList
      callers := Function.update m.callers i (.refreshed cfg) }
  | _ => m

def resume (m : Manager) (i : Nat) : Manager :=
  match m.callers i with
  | .refreshed cfg => m.lookup i cfg
  | _ => m

/-- A caller that missed looks again under the write lock, not at whether the pools closed
meanwhile, and files an opening slot when there is still none. -/
def reserve (m : Manager) (i : Nat) : Manager :=
  match m.callers i with
  | .missed cfg =>
    match m.pools.reserve cfg.fingerprint with
    | (.opens, pools) => { m with
        pools
        dialers := (cfg.fingerprint, i) :: m.dialers
        callers := Function.update m.callers i (.dialing cfg.fingerprint cfg.type) }
    | _ => { m with callers := Function.update m.callers i (m.filed cfg) }
  | _ => m

/-- The opener called by a dialer returns. Under the lock a failure drops the slot if it is
still the dialer's, an executor opened after the close is closed at once, and any other is
stored; the dialer then waits for its opening, or goes on to mark it ready. -/
def dialed (m : Manager) (i : Nat) (failure : Option Fault) : Manager :=
  match m.callers i with
  | .dialing key type =>
    match failure with
    | some f =>
      let s := m.pools.store key type (.error f)
      { m with
        pools := if m.dialer? key = some i then s.2.2 else m.pools
        dialers := m.dialers.filter (·.2 != i)
        settled := Function.update m.settled i (some s.1)
        callers := Function.update m.callers i (.waiting i) }
    | none =>
      match m.pools.store key type (.ok m.opened) with
      | (.ok ex, _, _) => { m with
          opened := m.opened + 1
          callers := Function.update m.callers i (.stored key ex) }
      | (r, extra, _) => { m with
          opened := m.opened + 1
          shut := m.shut ++ extra.toList
          settled := Function.update m.settled i (some r)
          callers := Function.update m.callers i (.waiting i) }
  | _ => m

/-- A dialer whose executor is stored marks its opening ready after releasing the lock: its
slot, if still filed, holds the executor, and its waiters and itself take it. -/
def publish (m : Manager) (i : Nat) : Manager :=
  match m.callers i with
  | .stored key ex => { m with
      pools := if m.dialer? key = some i then m.pools.markReady key ex else m.pools
      dialers := m.dialers.filter (·.2 != i)
      settled := Function.update m.settled i (some (.ok ex))
      callers := Function.update m.callers i (.waiting i) }
  | _ => m

/-- A waiter whose opening ended takes its result. -/
def wake (m : Manager) (i : Nat) : Manager :=
  match m.callers i with
  | .waiting d =>
    match m.settled d with
    | some r => { m with callers := Function.update m.callers i (.returned r) }
    | none => m
  | _ => m

/-- A waiter returns its context's error. -/
def abandon (m : Manager) (i : Nat) (expired : Bool) : Manager :=
  match m.callers i with
  | .waiting _ => { m with
      callers := Function.update m.callers i (.returned (.error (Fault.ofContext expired))) }
  | _ => m

/-- Closing the pools closes their ready executors and drops every slot. -/
def close (m : Manager) : Manager :=
  { m with pools := m.pools.close.2, dialers := [], shut := m.shut ++ m.pools.close.1.map (·.2) }

def step (m : Manager) : Event → Manager
  | .get i cfg => m.get i cfg
  | .refresh i cfg stale => m.refresh i cfg stale
  | .resume i => m.resume i
  | .reserve i => m.reserve i
  | .dialed i failure => m.dialed i failure
  | .publish i => m.publish i
  | .wake i => m.wake i
  | .abandon i expired => m.abandon i expired
  | .close => m.close

/-- The state after a sequence of steps. -/
def run (m : Manager) (es : List Event) : Manager := es.foldl step m

@[simp] theorem run_nil (m : Manager) : m.run [] = m := rfl
@[simp] theorem run_cons (m : Manager) (e : Event) (es : List Event) :
    m.run (e :: es) = (m.step e).run es := rfl

/-- Whether a step keeps a close out of the windows it must not split: a close comes only while
no caller is midway. -/
def Apart (m : Manager) : Event → Prop
  | .close => ∀ i, (m.callers i).midway = false
  | _ => True

/-- A run whose every close is kept apart. -/
def Serial (m : Manager) : List Event → Prop
  | [] => True
  | e :: es => m.Apart e ∧ (m.step e).Serial es

theorem run_induction {P : Manager → Prop} (hstep : ∀ m e, P m → P (m.step e)) {m : Manager}
    (h : P m) (es : List Event) : P (m.run es) := by
  induction es generalizing m with
  | nil => exact h
  | cons e es ih => exact ih (hstep m e h)

theorem serial_induction {P : Manager → Prop} (hstep : ∀ m e, P m → m.Apart e → P (m.step e))
    {m : Manager} (h : P m) (es : List Event) (hs : m.Serial es) : P (m.run es) := by
  induction es generalizing m with
  | nil => exact h
  | cons e es ih => exact ih (hstep m e h hs.1) hs.2

/-! ### The look-ups -/

variable {m : Manager} {i : Nat}

theorem mem_of_dialer? {key : String} {d : Nat} (h : m.dialer? key = some d) :
    (key, d) ∈ m.dialers := by
  simp only [dialer?, Option.map_eq_some_iff] at h
  obtain ⟨⟨k, d'⟩, hfind, rfl⟩ := h
  have hk : k = key := by simpa using List.find?_some hfind
  exact hk ▸ List.mem_of_find?_eq_some hfind

theorem dialer?_of_mem {key : String} {d : Nat} (h : (key, d) ∈ m.dialers) :
    ∃ d', m.dialer? key = some d' := by
  cases hf : m.dialers.find? (·.1 == key) with
  | none =>
    simp only [List.find?_eq_none] at hf
    exact absurd (by simp) (hf _ h)
  | some x => exact ⟨x.2, by simp [dialer?, hf]⟩

theorem reply_waiting (m : Manager) (key : String) (c : Call) :
    m.reply key c .waiting = ((m.dialer? key).map .waiting).getD .idle := by
  simp only [reply]
  cases m.dialer? key <;> rfl

theorem served_cases (m : Manager) (cfg : Config) :
    (m.pools.closed = true ∧ m.served cfg = .returned (.error managerClosed)) ∨
    (m.pools.closed = false ∧ ∃ ex, m.pools.find? cfg.fingerprint = some (.ready ex) ∧
      m.served cfg = .returned (.ok ex)) ∨
    (m.pools.closed = false ∧ m.pools.find? cfg.fingerprint = some .opening ∧
      m.served cfg = ((m.dialer? cfg.fingerprint).map .waiting).getD .idle) ∨
    (m.pools.closed = false ∧ m.pools.find? cfg.fingerprint = none ∧
      m.served cfg = .missed cfg) := by
  cases hc : m.pools.closed
  · rcases m.pools.reserve_cases cfg.fingerprint with ⟨ex, hf, hr⟩ | ⟨hf, hr⟩ | ⟨hf, hr⟩
    · exact .inr (.inl ⟨rfl, ex, hf, by simp [served, Pools.lookup_open _ hc, hr, reply]⟩)
    · exact .inr (.inr (.inl ⟨rfl, hf, by
        rw [served, Pools.lookup_open _ hc, hr, reply_waiting]⟩))
    · exact .inr (.inr (.inr ⟨rfl, hf, by simp [served, Pools.lookup_open _ hc, hr, reply]⟩))
  · exact .inl ⟨rfl, by simp [served, Pools.lookup_closed _ hc, reply]⟩

theorem filed_cases (m : Manager) (cfg : Config) :
    (∃ ex, m.pools.find? cfg.fingerprint = some (.ready ex) ∧
      m.pools.reserve cfg.fingerprint = (.found ex, m.pools) ∧
      m.filed cfg = .returned (.ok ex)) ∨
    (m.pools.find? cfg.fingerprint = some .opening ∧
      m.pools.reserve cfg.fingerprint = (.waiting, m.pools) ∧
      m.filed cfg = ((m.dialer? cfg.fingerprint).map .waiting).getD .idle) ∨
    (m.pools.find? cfg.fingerprint = none ∧
      m.pools.reserve cfg.fingerprint =
        (.opens, { m.pools with slots := m.pools.slots ++ [(cfg.fingerprint, .opening)] }) ∧
      m.filed cfg = .dialing cfg.fingerprint cfg.type) := by
  rcases m.pools.reserve_cases cfg.fingerprint with ⟨ex, hf, hr⟩ | ⟨hf, hr⟩ | ⟨hf, hr⟩
  · exact .inl ⟨ex, hf, hr, by simp [filed, hr, reply]⟩
  · exact .inr (.inl ⟨hf, hr, by rw [filed, hr, reply_waiting]⟩)
  · exact .inr (.inr ⟨hf, hr, by simp [filed, hr, reply]⟩)

theorem served_opens (m : Manager) (cfg : Config) : (m.served cfg).opens = none := by
  rcases m.served_cases cfg with ⟨-, h⟩ | ⟨-, ex, -, h⟩ | ⟨-, -, h⟩ | ⟨-, -, h⟩ <;> rw [h]
  · rfl
  · rfl
  · cases m.dialer? cfg.fingerprint <;> rfl
  · rfl

theorem open_of_served_midway (m : Manager) (cfg : Config) (h : (m.served cfg).midway = true) :
    m.pools.closed = false := by
  rcases m.served_cases cfg with ⟨-, hs⟩ | ⟨hc, -⟩ | ⟨hc, -⟩ | ⟨hc, -⟩
  · simp [hs, Call.midway] at h
  all_goals exact hc

theorem callers_reserve {cfg : Config} (hi : m.callers i = .missed cfg) :
    (m.reserve i).callers = Function.update m.callers i (m.filed cfg) := by
  rcases m.filed_cases cfg with ⟨ex, -, hr, -⟩ | ⟨-, hr, -⟩ | ⟨-, hr, hf⟩
  · simp [reserve, hi, hr]
  · simp [reserve, hi, hr]
  · simp [reserve, hi, hr, hf]

theorem reserve_eq_move {cfg : Config} (hi : m.callers i = .missed cfg)
    (hf : (m.pools.find? cfg.fingerprint).isSome) :
    m.reserve i = { m with callers := Function.update m.callers i (m.filed cfg) } := by
  rcases m.filed_cases cfg with ⟨ex, -, hr, -⟩ | ⟨-, hr, -⟩ | ⟨hn, -, -⟩
  · simp [reserve, hi, hr]
  · simp [reserve, hi, hr]
  · simp [hn] at hf

theorem reserve_eq_file {cfg : Config} (hi : m.callers i = .missed cfg)
    (hf : m.pools.find? cfg.fingerprint = none) :
    m.reserve i = { m with
      pools := { m.pools with slots := m.pools.slots ++ [(cfg.fingerprint, .opening)] }
      dialers := (cfg.fingerprint, i) :: m.dialers
      callers := Function.update m.callers i (.dialing cfg.fingerprint cfg.type) } := by
  rcases m.filed_cases cfg with ⟨ex, hf', -⟩ | ⟨hf', -⟩ | ⟨-, hr, -⟩
  · simp [hf] at hf'
  · simp [hf] at hf'
  · simp [reserve, hi, hr]

/-! ### The end of an opening -/

section dialed

variable {key type : String}

theorem dialed_failed (hi : m.callers i = .dialing key type) (f : Fault) :
    m.dialed i (some f) = { m with
      pools := if m.dialer? key = some i then m.pools.erase key else m.pools
      dialers := m.dialers.filter (·.2 != i)
      settled := Function.update m.settled i
        (some (.error (.wrapped ("failed to open " ++ type ++ " pool " ++ key) f)))
      callers := Function.update m.callers i (.waiting i) } := by
  simp [dialed, hi, Pools.store_error]

theorem dialed_refused (hi : m.callers i = .dialing key type) (hc : m.pools.closed = true) :
    m.dialed i none = { m with
      opened := m.opened + 1
      shut := m.shut ++ [m.opened]
      settled := Function.update m.settled i (some (.error managerClosed))
      callers := Function.update m.callers i (.waiting i) } := by
  simp [dialed, hi, Pools.store_ok_closed _ hc]

theorem dialed_stored (hi : m.callers i = .dialing key type) (hc : m.pools.closed = false) :
    m.dialed i none = { m with
      opened := m.opened + 1
      callers := Function.update m.callers i (.stored key m.opened) } := by
  simp [dialed, hi, Pools.store_ok_open _ hc]

end dialed

/-! ### The invariant -/

/-- What every state of a serial run satisfies. An opening slot has its dialer and a dialer its
slot while the pools are open; each fingerprint has one dialer; only open pools have callers
midway; an open executor has been opened, not closed, is in one slot only, and is what its
opening returned; a stored executor is in no slot yet; every executor opened is open in a
slot, stored, or closed, once. -/
structure Inv (m : Manager) : Prop where
  keysUnique : (m.pools.slots.map Prod.fst).Nodup
  closedEmpty : m.pools.closed = true → m.pools.slots = [] ∧ m.dialers = []
  dialerEntry : ∀ key d, (key, d) ∈ m.dialers →
    (key, .opening) ∈ m.pools.slots ∧ (m.callers d).opens = some key
  openingDialer : ∀ key, (key, .opening) ∈ m.pools.slots → ∃ d, (key, d) ∈ m.dialers
  opensListed : ∀ d key, (m.callers d).opens = some key → m.pools.closed = false →
    (key, d) ∈ m.dialers
  opensOnce : ∀ i j key, (m.callers i).opens = some key → (m.callers j).opens = some key → i = j
  midwayOpen : ∀ d, (m.callers d).midway = true → m.pools.closed = false
  settledDone : ∀ d r, m.settled d = some r →
    m.callers d = .waiting d ∨ ∃ r', m.callers d = .returned r'
  readyOpen : ∀ key ex, (key, .ready ex) ∈ m.pools.slots → ex ∉ m.shut ∧ ex < m.opened
  readyOnce : ∀ k k' ex, (k, .ready ex) ∈ m.pools.slots → (k', .ready ex) ∈ m.pools.slots →
    k = k'
  readySettled : ∀ key ex, (key, .ready ex) ∈ m.pools.slots → ∃ d, m.settled d = some (.ok ex)
  heldFresh : ∀ d ex, (m.callers d).holds = some ex →
    ex ∉ m.shut ∧ ex < m.opened ∧ ∀ k, (k, .ready ex) ∉ m.pools.slots
  heldOnce : ∀ d d' ex, (m.callers d).holds = some ex → (m.callers d').holds = some ex → d = d'
  shutOnce : m.shut.Nodup
  shutOpened : ∀ ex ∈ m.shut, ex < m.opened
  openedAccounted : ∀ ex < m.opened, ex ∈ m.shut ∨ (∃ key, (key, .ready ex) ∈ m.pools.slots) ∨
    ∃ d, (m.callers d).holds = some ex
  handedSettled : ∀ i ex, m.callers i = .returned (.ok ex) → ∃ d, m.settled d = some (.ok ex)
  settledOpened : ∀ d ex, m.settled d = some (.ok ex) → ex < m.opened

theorem inv_init : Inv {} where
  keysUnique := List.nodup_nil
  closedEmpty := by simp
  dialerEntry := by simp
  openingDialer := by simp
  opensListed := by simp [Call.opens]
  opensOnce := by simp [Call.opens]
  midwayOpen := by simp
  settledDone := by simp
  readyOpen := by simp
  readyOnce := by simp
  readySettled := by simp
  heldFresh := by simp [Call.holds]
  heldOnce := by simp [Call.holds]
  shutOnce := List.nodup_nil
  shutOpened := by simp
  openedAccounted := by simp
  handedSettled := by simp
  settledOpened := by simp

theorem Inv.settled_eq_none (h : m.Inv) (hw : m.callers i ≠ .waiting i)
    (hr : ∀ r, m.callers i ≠ .returned r) : m.settled i = none := by
  cases hs : m.settled i with
  | none => rfl
  | some r =>
    rcases h.settledDone i r hs with hw' | ⟨r', hr'⟩
    · exact absurd hw' hw
    · exact absurd hr' (hr r')

theorem Inv.move (h : m.Inv) {p : Call} (hi : (m.callers i).opens = none) (hp : p.opens = none)
    (hmid : p.midway = true → m.pools.closed = false)
    (hset : ∀ r, m.settled i = some r → p = .waiting i ∨ ∃ r', p = .returned r')
    (hhand : ∀ ex, p = .returned (.ok ex) → ∃ d, m.settled d = some (.ok ex)) :
    Inv { m with callers := Function.update m.callers i p } := by
  have hheld : (m.callers i).holds = none := Call.holds_of_opens hi
  have hpheld : p.holds = none := Call.holds_of_opens hp
  exact {
    keysUnique := h.keysUnique
    closedEmpty := h.closedEmpty
    dialerEntry := by
      intro key d hd
      obtain ⟨hslot, hopen⟩ := h.dialerEntry key d hd
      have hdi : d ≠ i := by
        rintro rfl
        simp [hi] at hopen
      exact ⟨hslot, by simpa only [Function.update_of_ne hdi] using hopen⟩
    openingDialer := h.openingDialer
    opensListed := fun d key hd hc => h.opensListed d key (update_some hp hd).2 hc
    opensOnce := fun j j' key hj hj' =>
      h.opensOnce j j' key (update_some hp hj).2 (update_some hp hj').2
    midwayOpen := by
      intro d hd
      by_cases hdi : d = i
      · subst hdi
        exact hmid (by simpa using hd)
      · exact h.midwayOpen d (by simpa [Function.update_of_ne hdi] using hd)
    settledDone := by
      intro d r hd
      by_cases hdi : d = i
      · subst hdi
        simpa using hset r hd
      · simpa [Function.update_of_ne hdi] using h.settledDone d r hd
    readyOpen := h.readyOpen
    readyOnce := h.readyOnce
    readySettled := h.readySettled
    heldFresh := fun d ex hd => h.heldFresh d ex (update_some hpheld hd).2
    heldOnce := fun d d' ex hd hd' =>
      h.heldOnce d d' ex (update_some hpheld hd).2 (update_some hpheld hd').2
    shutOnce := h.shutOnce
    shutOpened := h.shutOpened
    openedAccounted := by
      intro ex hex
      rcases h.openedAccounted ex hex with hs | hr | ⟨d, hd⟩
      · exact .inl hs
      · exact .inr (.inl hr)
      · have hdi : d ≠ i := by
          rintro rfl
          simp [hheld] at hd
        exact .inr (.inr ⟨d, by simpa only [Function.update_of_ne hdi] using hd⟩)
    handedSettled := by
      intro j ex hj
      simp only [Function.update_apply] at hj
      split at hj
      · exact hhand ex hj
      · exact h.handedSettled j ex hj
    settledOpened := h.settledOpened }

theorem Inv.lookup (h : m.Inv) (hi : (m.callers i).opens = none)
    (hsettled : m.settled i = none) (cfg : Config) : (m.lookup i cfg).Inv := by
  refine h.move hi (m.served_opens cfg) (m.open_of_served_midway cfg) (by simp [hsettled]) ?_
  intro ex hex
  rcases m.served_cases cfg with ⟨-, hs⟩ | ⟨-, ex', hf, hs⟩ | ⟨-, -, hs⟩ | ⟨-, -, hs⟩
  · simp [hs] at hex
  · rw [hs] at hex
    cases hex
    exact h.readySettled _ _ (m.pools.mem_of_find? hf)
  · rcases hd : m.dialer? cfg.fingerprint with _ | d <;> simp [hs, hd] at hex
  · simp [hs] at hex

theorem Inv.file (h : m.Inv) {cfg : Config} (hi : m.callers i = .missed cfg)
    (hf : m.pools.find? cfg.fingerprint = none) :
    Inv { m with
      pools := { m.pools with slots := m.pools.slots ++ [(cfg.fingerprint, .opening)] }
      dialers := (cfg.fingerprint, i) :: m.dialers
      callers := Function.update m.callers i (.dialing cfg.fingerprint cfg.type) } := by
  have hc : m.pools.closed = false := h.midwayOpen i (by simp [hi, Call.midway])
  have hsettled : m.settled i = none := h.settled_eq_none (by simp [hi]) (by simp [hi])
  have absent := (m.pools.find?_eq_none_iff).mp hf
  have other : ∀ {d}, d ≠ i →
      Function.update m.callers i (.dialing cfg.fingerprint cfg.type) d = m.callers d :=
    fun hd => Function.update_of_ne hd _ _
  -- a slot after the step is the new opening one, or was there before
  have slot : ∀ {k s}, (k, s) ∈ m.pools.slots ++ [(cfg.fingerprint, .opening)] →
      (k, s) ∈ m.pools.slots ∨ (k = cfg.fingerprint ∧ s = .opening) := by
    intro k s hk
    simpa using hk
  have readyOld : ∀ {k ex}, (k, .ready ex) ∈ m.pools.slots ++ [(cfg.fingerprint, .opening)] →
      (k, .ready ex) ∈ m.pools.slots := by
    intro k ex hk
    rcases slot hk with hk | ⟨-, hs⟩
    · exact hk
    · cases hs
  -- an opener after the step is `i`, opening the fingerprint, or another caller that opened before
  have opener : ∀ {d k}, (Function.update m.callers i (.dialing cfg.fingerprint cfg.type) d).opens =
      some k → (d = i ∧ k = cfg.fingerprint) ∨ (d ≠ i ∧ (m.callers d).opens = some k) := by
    intro d k hd
    by_cases hdi : d = i
    · subst hdi
      simp only [Function.update_self, Call.opens, Option.some.injEq] at hd
      exact .inl ⟨rfl, hd.symm⟩
    · exact .inr ⟨hdi, by rwa [other hdi] at hd⟩
  -- no other caller opens the fingerprint: it would have its slot
  have alone : ∀ {j}, (m.callers j).opens = some cfg.fingerprint → False := by
    intro j hj
    have hslot := (h.dialerEntry _ j (h.opensListed j _ hj hc)).1
    exact absent (List.mem_map_of_mem (f := Prod.fst) hslot)
  have held : ∀ {d ex}, (Function.update m.callers i (.dialing cfg.fingerprint cfg.type) d).holds =
      some ex → (m.callers d).holds = some ex := fun hd => (update_some rfl hd).2
  exact {
    keysUnique := by
      simp only [List.map_append, List.map_cons, List.map_nil]
      rw [List.nodup_append_comm]
      exact List.nodup_cons.mpr ⟨absent, h.keysUnique⟩
    closedEmpty := by simp [hc]
    dialerEntry := by
      intro key d hd
      rcases List.mem_cons.mp hd with hd | hd
      · cases hd
        exact ⟨by simp, by simp [Call.opens]⟩
      · obtain ⟨hslot, hopen⟩ := h.dialerEntry key d hd
        have hdi : d ≠ i := by
          rintro rfl
          simp [hi, Call.opens] at hopen
        exact ⟨List.mem_append_left _ hslot, by simpa only [other hdi] using hopen⟩
    openingDialer := by
      intro key hk
      rcases slot hk with hk | ⟨rfl, -⟩
      · obtain ⟨d, hd⟩ := h.openingDialer key hk
        exact ⟨d, List.mem_cons_of_mem _ hd⟩
      · exact ⟨i, List.mem_cons_self⟩
    opensListed := by
      intro d key hd _
      rcases opener hd with ⟨hdi, hkey⟩ | ⟨-, hd⟩
      · rw [hdi, hkey]
        exact List.mem_cons_self
      · exact List.mem_cons_of_mem _ (h.opensListed d key hd hc)
    opensOnce := by
      intro j j' key hj hj'
      rcases opener hj with ⟨hji, hkey⟩ | ⟨-, hj⟩ <;>
        rcases opener hj' with ⟨hji', hkey'⟩ | ⟨-, hj'⟩
      · exact hji.trans hji'.symm
      · rw [hkey] at hj'
        exact (alone hj').elim
      · rw [hkey'] at hj
        exact (alone hj).elim
      · exact h.opensOnce j j' key hj hj'
    midwayOpen := by
      intro d hd
      by_cases hdi : d = i
      · subst hdi
        simp [Call.midway] at hd
      · exact h.midwayOpen d (by simpa only [other hdi] using hd)
    settledDone := by
      intro d r hd
      have hdi : d ≠ i := by
        rintro rfl
        simp [hsettled] at hd
      simpa [other hdi] using h.settledDone d r hd
    readyOpen := fun key ex hk => h.readyOpen key ex (readyOld hk)
    readyOnce := fun k k' ex hk hk' => h.readyOnce k k' ex (readyOld hk) (readyOld hk')
    readySettled := fun key ex hk => h.readySettled key ex (readyOld hk)
    heldFresh := by
      intro d ex hd
      obtain ⟨hs, hlt, hnot⟩ := h.heldFresh d ex (held hd)
      exact ⟨hs, hlt, fun k hk => hnot k (readyOld hk)⟩
    heldOnce := fun d d' ex hd hd' => h.heldOnce d d' ex (held hd) (held hd')
    shutOnce := h.shutOnce
    shutOpened := h.shutOpened
    openedAccounted := by
      intro ex hex
      rcases h.openedAccounted ex hex with hs | ⟨key, hk⟩ | ⟨d, hd⟩
      · exact .inl hs
      · exact .inr (.inl ⟨key, List.mem_append_left _ hk⟩)
      · have hdi : d ≠ i := by
          rintro rfl
          simp [hi, Call.holds] at hd
        exact .inr (.inr ⟨d, by simpa only [other hdi] using hd⟩)
    handedSettled := by
      intro j ex hj
      have hji : j ≠ i := by
        rintro rfl
        simp at hj
      simp only [other hji] at hj
      exact h.handedSettled j ex hj
    settledOpened := h.settledOpened }

theorem Inv.reserve (h : m.Inv) {cfg : Config} (hi : m.callers i = .missed cfg) :
    (m.reserve i).Inv := by
  have hsettled : m.settled i = none := h.settled_eq_none (by simp [hi]) (by simp [hi])
  have hopens : (m.callers i).opens = none := by simp [hi, Call.opens]
  rcases m.filed_cases cfg with ⟨ex, hf, -, hs⟩ | ⟨hf, -, hs⟩ | ⟨hf, -, -⟩
  · rw [reserve_eq_move hi (by simp [hf]), hs]
    refine h.move hopens rfl (fun hm => by cases hm) (by simp [hsettled]) ?_
    rintro ex' ⟨⟩
    exact h.readySettled _ ex (m.pools.mem_of_find? hf)
  · rw [reserve_eq_move hi (by simp [hf]), hs]
    cases m.dialer? cfg.fingerprint with
    | none => exact h.move hopens rfl (fun hm => by cases hm) (by simp [hsettled]) nofun
    | some d => exact h.move hopens rfl (fun hm => by cases hm) (by simp [hsettled]) nofun
  · rw [reserve_eq_file hi hf]
    exact h.file hi hf

theorem Inv.drop (h : m.Inv) {key : String} {stale : Nat}
    (hf : m.pools.find? key = some (.ready stale)) :
    Inv { m with pools := m.pools.erase key, shut := m.shut ++ [stale] } := by
  have hstale := m.pools.mem_of_find? hf
  have old : ∀ {k s}, (k, s) ∈ (m.pools.erase key).slots → (k, s) ∈ m.pools.slots :=
    fun hk => (m.pools.mem_erase.mp hk).1
  exact {
    keysUnique := ((m.pools.erase_sublist key).map Prod.fst).nodup h.keysUnique
    closedEmpty := fun hc => ⟨List.eq_nil_of_sublist_nil
      ((h.closedEmpty hc).1 ▸ m.pools.erase_sublist key), (h.closedEmpty hc).2⟩
    dialerEntry := by
      intro k d hd
      obtain ⟨hslot, hdial⟩ := h.dialerEntry k d hd
      -- the dropped slot held an open executor, so it is no dialer's
      have hk : k ≠ key := by
        rintro rfl
        cases m.pools.slot_unique h.keysUnique hslot hstale
      exact ⟨m.pools.mem_erase.mpr ⟨hslot, hk⟩, hdial⟩
    openingDialer := fun k hk => h.openingDialer k (old hk)
    opensListed := h.opensListed
    opensOnce := h.opensOnce
    midwayOpen := h.midwayOpen
    settledDone := h.settledDone
    readyOpen := by
      intro k ex hk
      obtain ⟨hmem, hne⟩ := m.pools.mem_erase.mp hk
      have hex : ex ≠ stale := fun hex => hne (h.readyOnce k key ex hmem (hex ▸ hstale))
      simpa [hex] using h.readyOpen k ex hmem
    readyOnce := fun k k' ex hk hk' => h.readyOnce k k' ex (old hk) (old hk')
    readySettled := fun k ex hk => h.readySettled k ex (old hk)
    heldFresh := by
      intro d ex hd
      obtain ⟨hs, hlt, hnot⟩ := h.heldFresh d ex hd
      -- the stale executor is open in its slot, and a stored one is in none
      have hex : ex ≠ stale := fun hex => hnot key (hex ▸ hstale)
      exact ⟨by simpa [hex] using hs, hlt, fun k hk => hnot k (old hk)⟩
    heldOnce := h.heldOnce
    shutOnce := by
      refine List.nodup_append.mpr ⟨h.shutOnce, List.nodup_singleton _, ?_⟩
      intro a ha b hb hab
      rw [List.mem_singleton] at hb
      rw [hab, hb] at ha
      exact (h.readyOpen key stale hstale).1 ha
    shutOpened := by
      intro ex hex
      rcases List.mem_append.mp hex with hex | hex
      · exact h.shutOpened ex hex
      · rw [List.mem_singleton.mp hex]
        exact (h.readyOpen key stale hstale).2
    openedAccounted := by
      intro ex hex
      rcases h.openedAccounted ex hex with hs | ⟨k, hk⟩ | hd
      · exact .inl (List.mem_append_left _ hs)
      · by_cases hkey : k = key
        · subst hkey
          cases m.pools.slot_unique h.keysUnique hk hstale
          exact .inl (by simp)
        · exact .inr (.inl ⟨k, m.pools.mem_erase.mpr ⟨hk, hkey⟩⟩)
      · exact .inr (.inr hd)
    handedSettled := h.handedSettled
    settledOpened := h.settledOpened }

theorem Inv.close (h : m.Inv) (hap : ∀ i, (m.callers i).midway = false) :
    Inv { m with
      pools := m.pools.close.2
      dialers := []
      shut := m.shut ++ m.pools.close.1.map (·.2) } := by
  -- no executor is stored, since a caller holding one is midway
  have unheld : ∀ d ex, (m.callers d).holds ≠ some ex := fun d ex hd => by
    have hmid := Call.midway_of_holds hd
    simp [hap d] at hmid
  -- the executors closed now are the open ones, each in one slot
  have closing : (m.pools.close.1.map (·.2)).Nodup := by
    have hslots : m.pools.slots.Nodup := h.keysUnique.of_map _
    have hlist : m.pools.close.1.Nodup := by
      refine hslots.filterMap ?_
      rintro ⟨k, s⟩ ⟨k', s'⟩ ⟨k'', ex⟩ hs hs'
      cases s <;> cases s' <;> simp_all
    refine hlist.map_on ?_
    rintro ⟨k, ex⟩ hk ⟨k', ex'⟩ hk' (rfl : ex = ex')
    rw [h.readyOnce k k' ex (m.pools.mem_close.mp hk) (m.pools.mem_close.mp hk')]
  have closed : ∀ ex ∈ m.pools.close.1.map (·.2), ∃ k, (k, .ready ex) ∈ m.pools.slots := by
    intro ex hex
    obtain ⟨⟨k, ex'⟩, hk, rfl⟩ := List.mem_map.mp hex
    exact ⟨k, m.pools.mem_close.mp hk⟩
  exact {
    keysUnique := List.nodup_nil
    closedEmpty := fun _ => ⟨rfl, rfl⟩
    dialerEntry := by simp
    openingDialer := by simp
    opensListed := by simp
    opensOnce := h.opensOnce
    midwayOpen := fun d hd => by simp [hap d] at hd
    settledDone := h.settledDone
    readyOpen := by simp
    readyOnce := by simp
    readySettled := by simp
    heldFresh := fun d ex hd => absurd hd (unheld d ex)
    heldOnce := fun d _ ex hd => absurd hd (unheld d ex)
    shutOnce := List.nodup_append.mpr ⟨h.shutOnce, closing, fun a ha b hb hab => by
      obtain ⟨k, hk⟩ := closed b hb
      exact (h.readyOpen k b hk).1 (hab ▸ ha)⟩
    shutOpened := by
      intro ex hex
      rcases List.mem_append.mp hex with hex | hex
      · exact h.shutOpened ex hex
      · obtain ⟨k, hk⟩ := closed ex hex
        exact (h.readyOpen k ex hk).2
    openedAccounted := by
      intro ex hex
      rcases h.openedAccounted ex hex with hs | ⟨k, hk⟩ | ⟨d, hd⟩
      · exact .inl (List.mem_append_left _ hs)
      · exact .inl (List.mem_append_right _
          (List.mem_map.mpr ⟨(k, ex), m.pools.mem_close.mpr hk, rfl⟩))
      · exact absurd hd (unheld d ex)
    handedSettled := h.handedSettled
    settledOpened := h.settledOpened }

/-! ### The end of an opening -/

section opener

variable {key type : String}

theorem Inv.settled_of_opens (h : m.Inv) (hi : (m.callers i).opens = some key) :
    m.settled i = none := by
  cases hs : m.settled i with
  | none => rfl
  | some r =>
    rcases h.settledDone i r hs with hw | ⟨r', hr⟩
    · simp [hw, Call.opens] at hi
    · simp [hr, Call.opens] at hi

theorem Inv.ready_ne_of_opens (h : m.Inv) (hi : (m.callers i).opens = some key) {k : String}
    {ex : Nat} (hk : (k, .ready ex) ∈ m.pools.slots) : k ≠ key := by
  rintro rfl
  cases hc : m.pools.closed
  · have hslot := (h.dialerEntry _ i (h.opensListed i k hi hc)).1
    cases m.pools.slot_unique h.keysUnique hk hslot
  · simp [(h.closedEmpty hc).1] at hk

theorem Inv.key_ne_of_opens (h : m.Inv) (hi : (m.callers i).opens = some key) {k : String}
    {d : Nat} (hd : (k, d) ∈ m.dialers) (hdi : d ≠ i) : k ≠ key := by
  rintro rfl
  exact hdi (h.opensOnce d i k (h.dialerEntry k d hd).2 hi)

theorem Inv.dialer?_of_opens (h : m.Inv) (hi : (m.callers i).opens = some key)
    (hc : m.pools.closed = false) : m.dialer? key = some i := by
  obtain ⟨d, hd⟩ := dialer?_of_mem (h.opensListed i key hi hc)
  rw [hd, h.opensOnce d i key (h.dialerEntry key d (mem_of_dialer? hd)).2 hi]

theorem Inv.dialer?_of_closed (h : m.Inv) (hc : m.pools.closed = true) (key : String) :
    m.dialer? key = none := by
  simp [dialer?, (h.closedEmpty hc).2]

theorem Inv.failed_pools (h : m.Inv) (hi : (m.callers i).opens = some key) :
    (if m.dialer? key = some i then m.pools.erase key else m.pools) = m.pools.erase key := by
  cases hc : m.pools.closed
  · rw [if_pos (h.dialer?_of_opens hi hc)]
  · rw [h.dialer?_of_closed hc, m.pools.erase_of_slots_nil (h.closedEmpty hc).1]
    simp

theorem mem_retire {k : String} {d : Nat} :
    (k, d) ∈ m.dialers.filter (·.2 != i) ↔ (k, d) ∈ m.dialers ∧ d ≠ i := by
  simp

theorem Inv.dialerEntry_retire (h : m.Inv) (hi : (m.callers i).opens = some key) {k : String}
    {d : Nat} (hd : (k, d) ∈ m.dialers.filter (·.2 != i)) :
    k ≠ key ∧ (k, .opening) ∈ m.pools.slots ∧
      (Function.update m.callers i (.waiting i) d).opens = some k := by
  obtain ⟨hd, hdi⟩ := mem_retire.mp hd
  obtain ⟨hslot, hopen⟩ := h.dialerEntry k d hd
  exact ⟨h.key_ne_of_opens hi hd hdi, hslot, by simpa only [Function.update_of_ne hdi] using hopen⟩

theorem Inv.opensListed_retire (h : m.Inv) :
    ∀ d k, (Function.update m.callers i (.waiting i) d).opens = some k →
      m.pools.closed = false → (k, d) ∈ m.dialers.filter (·.2 != i) := fun d k hd hc =>
  mem_retire.mpr ⟨h.opensListed d k (update_some rfl hd).2 hc, (update_some rfl hd).1⟩

theorem Inv.opensOnce_retire (h : m.Inv) :
    ∀ j j' k, (Function.update m.callers i (.waiting i) j).opens = some k →
      (Function.update m.callers i (.waiting i) j').opens = some k → j = j' :=
  fun j j' k hj hj' => h.opensOnce j j' k (update_some rfl hj).2 (update_some rfl hj').2

theorem Inv.midway_retire (h : m.Inv) :
    ∀ d, (Function.update m.callers i (.waiting i) d).midway = true → m.pools.closed = false := by
  intro d hd
  by_cases hdi : d = i
  · subst hdi
    simp [Call.midway] at hd
  · exact h.midwayOpen d (by simpa only [Function.update_of_ne hdi] using hd)

theorem Inv.openingDialer_retire (h : m.Inv) (hi : (m.callers i).opens = some key) {k : String}
    (hk : (k, .opening) ∈ m.pools.slots) (hne : k ≠ key) :
    ∃ d, (k, d) ∈ m.dialers.filter (·.2 != i) := by
  obtain ⟨d, hd⟩ := h.openingDialer k hk
  refine ⟨d, mem_retire.mpr ⟨hd, fun hdi => hne ?_⟩⟩
  -- the retiring dialer opens `key`, and `d` opens `k`
  have hdk := (h.dialerEntry k d hd).2
  rw [hdi, hi] at hdk
  exact (Option.some.inj hdk).symm

theorem Inv.settledDone_retire (h : m.Inv) (x : Except Fault Nat) (d : Nat)
    (r : Except Fault Nat) (hd : Function.update m.settled i (some x) d = some r) :
    Function.update m.callers i (.waiting i) d = .waiting d ∨
      ∃ r', Function.update m.callers i (.waiting i) d = .returned r' := by
  by_cases hdi : d = i
  · subst hdi
    simp
  · rw [Function.update_of_ne hdi] at hd ⊢
    exact h.settledDone d r hd

theorem Inv.settled_retire (h : m.Inv) (hi : (m.callers i).opens = some key)
    (x : Except Fault Nat) {d : Nat} {r : Except Fault Nat} (hd : m.settled d = some r) :
    Function.update m.settled i (some x) d = some r := by
  have hdi : d ≠ i := by
    rintro rfl
    simp [h.settled_of_opens hi] at hd
  rwa [Function.update_of_ne hdi]

theorem Inv.handed_retire (h : m.Inv) (hi : (m.callers i).opens = some key)
    (x : Except Fault Nat) (j ex : Nat)
    (hj : Function.update m.callers i (.waiting i) j = .returned (.ok ex)) :
    ∃ d, Function.update m.settled i (some x) d = some (.ok ex) := by
  rw [Function.update_apply] at hj
  split at hj
  · cases hj
  · obtain ⟨d, hd⟩ := h.handedSettled j ex hj
    exact ⟨d, h.settled_retire hi x hd⟩

theorem Inv.dialFailed (h : m.Inv) (hi : m.callers i = .dialing key type) (x : Except Fault Nat)
    (hx : ∀ ex, x ≠ .ok ex) :
    Inv { m with
      pools := m.pools.erase key
      dialers := m.dialers.filter (·.2 != i)
      settled := Function.update m.settled i (some x)
      callers := Function.update m.callers i (.waiting i) } := by
  have hopens : (m.callers i).opens = some key := by simp [hi, Call.opens]
  have old : ∀ {k s}, (k, s) ∈ (m.pools.erase key).slots → (k, s) ∈ m.pools.slots :=
    fun hk => (m.pools.mem_erase.mp hk).1
  exact {
    keysUnique := ((m.pools.erase_sublist key).map Prod.fst).nodup h.keysUnique
    closedEmpty := fun hc => ⟨List.eq_nil_of_sublist_nil
      ((h.closedEmpty hc).1 ▸ m.pools.erase_sublist key), by simp [(h.closedEmpty hc).2]⟩
    dialerEntry := by
      intro k d hd
      obtain ⟨hne, hslot, hopen⟩ := h.dialerEntry_retire hopens hd
      exact ⟨m.pools.mem_erase.mpr ⟨hslot, hne⟩, hopen⟩
    openingDialer := by
      intro k hk
      obtain ⟨hk, hne⟩ := m.pools.mem_erase.mp hk
      exact h.openingDialer_retire hopens hk hne
    opensListed := h.opensListed_retire
    opensOnce := h.opensOnce_retire
    midwayOpen := h.midway_retire
    settledDone := h.settledDone_retire x
    readyOpen := fun k ex hk => h.readyOpen k ex (old hk)
    readyOnce := fun k k' ex hk hk' => h.readyOnce k k' ex (old hk) (old hk')
    readySettled := fun k ex hk =>
      (h.readySettled k ex (old hk)).imp fun _ => h.settled_retire hopens x
    heldFresh := by
      intro d ex hd
      obtain ⟨hs, hlt, hnot⟩ := h.heldFresh d ex (update_some (f := Call.holds) rfl hd).2
      exact ⟨hs, hlt, fun k hk => hnot k (old hk)⟩
    heldOnce := fun d d' ex hd hd' => h.heldOnce d d' ex (update_some (f := Call.holds) rfl hd).2
      (update_some (f := Call.holds) rfl hd').2
    shutOnce := h.shutOnce
    shutOpened := h.shutOpened
    openedAccounted := by
      intro ex hex
      rcases h.openedAccounted ex hex with hs | ⟨k, hk⟩ | ⟨d, hd⟩
      · exact .inl hs
      · exact .inr (.inl ⟨k, m.pools.mem_erase.mpr ⟨hk, h.ready_ne_of_opens hopens hk⟩⟩)
      · have hdi : d ≠ i := by
          rintro rfl
          simp [hi, Call.holds] at hd
        exact .inr (.inr ⟨d, by simpa only [Function.update_of_ne hdi] using hd⟩)
    handedSettled := h.handed_retire hopens x
    settledOpened := by
      intro d ex hd
      simp only [Function.update_apply] at hd
      split at hd
      · cases hd
        exact absurd rfl (hx ex)
      · exact h.settledOpened d ex hd }

theorem Inv.dialRefused (h : m.Inv) (hi : m.callers i = .dialing key type)
    (hc : m.pools.closed = true) :
    Inv { m with
      opened := m.opened + 1
      shut := m.shut ++ [m.opened]
      settled := Function.update m.settled i (some (.error managerClosed))
      callers := Function.update m.callers i (.waiting i) } := by
  obtain ⟨hslots, hdialers⟩ := h.closedEmpty hc
  have hopens : (m.callers i).opens = some key := by simp [hi, Call.opens]
  -- in closed pools nobody is midway, so nobody holds a stored executor
  have unheld : ∀ d ex, (Function.update m.callers i (.waiting i) d).holds ≠ some ex := by
    intro d ex hd
    have hopen := h.midway_retire d (Call.midway_of_holds hd)
    simp [hc] at hopen
  exact {
    keysUnique := h.keysUnique
    closedEmpty := fun _ => ⟨hslots, hdialers⟩
    dialerEntry := by simp [hdialers]
    openingDialer := by simp [hslots]
    opensListed := by simp [hc]
    opensOnce := h.opensOnce_retire
    midwayOpen := h.midway_retire
    settledDone := h.settledDone_retire _
    readyOpen := by simp [hslots]
    readyOnce := by simp [hslots]
    readySettled := by simp [hslots]
    heldFresh := fun d ex hd => absurd hd (unheld d ex)
    heldOnce := fun d _ ex hd => absurd hd (unheld d ex)
    shutOnce := List.nodup_append.mpr ⟨h.shutOnce, List.nodup_singleton _, fun a ha b hb hab => by
      rw [List.mem_singleton] at hb
      rw [hab, hb] at ha
      exact Nat.lt_irrefl _ (h.shutOpened _ ha)⟩
    shutOpened := by
      intro ex hex
      rcases List.mem_append.mp hex with hex | hex
      · exact Nat.lt_succ_of_lt (h.shutOpened ex hex)
      · rw [List.mem_singleton.mp hex]
        exact Nat.lt_succ_self _
    openedAccounted := by
      intro ex hex
      rcases Nat.lt_succ_iff_lt_or_eq.mp hex with hex | rfl
      · rcases h.openedAccounted ex hex with hs | ⟨k, hk⟩ | ⟨d, hd⟩
        · exact .inl (List.mem_append_left _ hs)
        · simp [hslots] at hk
        · have hopen := h.midwayOpen d (Call.midway_of_holds hd)
          simp [hc] at hopen
      · exact .inl (by simp)
    handedSettled := h.handed_retire hopens _
    settledOpened := by
      intro d ex hd
      simp only [Function.update_apply] at hd
      split at hd
      · cases hd
      · exact Nat.lt_succ_of_lt (h.settledOpened d ex hd) }

theorem Inv.dialStored (h : m.Inv) (hi : m.callers i = .dialing key type)
    (hc : m.pools.closed = false) :
    Inv { m with
      opened := m.opened + 1
      callers := Function.update m.callers i (.stored key m.opened) } := by
  have hsettled :=
    h.settled_of_opens (show (m.callers i).opens = some key by simp [hi, Call.opens])
  -- the caller still opens its fingerprint, now holding the new executor
  have opens_eq : ∀ d, (Function.update m.callers i (.stored key m.opened) d).opens =
      (m.callers d).opens := by
    intro d
    by_cases hdi : d = i
    · subst hdi
      simp [hi, Call.opens]
    · simp [Function.update_of_ne hdi]
  have held : ∀ {d ex}, (Function.update m.callers i (.stored key m.opened) d).holds = some ex →
      (d = i ∧ ex = m.opened) ∨ (d ≠ i ∧ (m.callers d).holds = some ex) := by
    intro d ex hd
    by_cases hdi : d = i
    · subst hdi
      simp only [Function.update_self, Call.holds, Option.some.injEq] at hd
      exact .inl ⟨rfl, hd.symm⟩
    · exact .inr ⟨hdi, by simpa only [Function.update_of_ne hdi] using hd⟩
  have older : ∀ {k ex}, (k, .ready ex) ∈ m.pools.slots → ex < m.opened := fun hk =>
    (h.readyOpen _ _ hk).2
  exact {
    keysUnique := h.keysUnique
    closedEmpty := h.closedEmpty
    dialerEntry := fun k d hd => by simpa only [opens_eq] using h.dialerEntry k d hd
    openingDialer := h.openingDialer
    opensListed := fun d k hd => h.opensListed d k (by simpa only [opens_eq] using hd)
    opensOnce := fun j j' k hj hj' =>
      h.opensOnce j j' k (by simpa only [opens_eq] using hj) (by simpa only [opens_eq] using hj')
    midwayOpen := by
      intro d hd
      by_cases hdi : d = i
      · exact hc
      · exact h.midwayOpen d (by simpa only [Function.update_of_ne hdi] using hd)
    settledDone := by
      intro d r hd
      have hdi : d ≠ i := by
        rintro rfl
        simp [hsettled] at hd
      simpa only [Function.update_of_ne hdi] using h.settledDone d r hd
    readyOpen := fun k ex hk => ⟨(h.readyOpen k ex hk).1, Nat.lt_succ_of_lt (older hk)⟩
    readyOnce := h.readyOnce
    readySettled := h.readySettled
    heldFresh := by
      intro d ex hd
      rcases held hd with ⟨-, rfl⟩ | ⟨-, hd⟩
      · exact ⟨fun hs => Nat.lt_irrefl _ (h.shutOpened _ hs), Nat.lt_succ_self _,
          fun k hk => Nat.lt_irrefl _ (older hk)⟩
      · obtain ⟨hs, hlt, hnot⟩ := h.heldFresh d ex hd
        exact ⟨hs, Nat.lt_succ_of_lt hlt, hnot⟩
    heldOnce := by
      intro d d' ex hd hd'
      rcases held hd with ⟨hdi, hex⟩ | ⟨-, hd⟩ <;> rcases held hd' with ⟨hdi', hex'⟩ | ⟨-, hd'⟩
      · exact hdi.trans hdi'.symm
      · rw [hex] at hd'
        exact absurd (h.heldFresh d' _ hd').2.1 (Nat.lt_irrefl _)
      · rw [hex'] at hd
        exact absurd (h.heldFresh d _ hd).2.1 (Nat.lt_irrefl _)
      · exact h.heldOnce d d' ex hd hd'
    shutOnce := h.shutOnce
    shutOpened := fun ex hex => Nat.lt_succ_of_lt (h.shutOpened ex hex)
    openedAccounted := by
      intro ex hex
      rcases Nat.lt_succ_iff_lt_or_eq.mp hex with hex | rfl
      · rcases h.openedAccounted ex hex with hs | hr | ⟨d, hd⟩
        · exact .inl hs
        · exact .inr (.inl hr)
        · have hdi : d ≠ i := by
            rintro rfl
            simp [hi, Call.holds] at hd
          exact .inr (.inr ⟨d, by simpa only [Function.update_of_ne hdi] using hd⟩)
      · exact .inr (.inr ⟨i, by simp [Call.holds]⟩)
    handedSettled := by
      intro j ex hj
      have hji : j ≠ i := by
        rintro rfl
        simp at hj
      exact h.handedSettled j ex (by simpa only [Function.update_of_ne hji] using hj)
    settledOpened := fun d ex hd => Nat.lt_succ_of_lt (h.settledOpened d ex hd) }

theorem Inv.publish (h : m.Inv) {ex : Nat} (hi : m.callers i = .stored key ex) :
    Inv { m with
      pools := m.pools.markReady key ex
      dialers := m.dialers.filter (·.2 != i)
      settled := Function.update m.settled i (some (.ok ex))
      callers := Function.update m.callers i (.waiting i) } := by
  have hopens : (m.callers i).opens = some key := by simp [hi, Call.opens]
  have hc : m.pools.closed = false := h.midwayOpen i (by simp [hi, Call.midway])
  have hkey := (h.dialerEntry _ i (h.opensListed i key hopens hc)).1
  obtain ⟨hfresh, hlt, hnot⟩ := h.heldFresh i ex (by simp [hi, Call.holds])
  exact {
    keysUnique := by rw [Pools.keys_markReady]; exact h.keysUnique
    closedEmpty := by simp [hc]
    dialerEntry := by
      intro k d hd
      obtain ⟨hne, hslot, hopen⟩ := h.dialerEntry_retire hopens hd
      exact ⟨m.pools.mem_markReady_of_ne hslot hne, hopen⟩
    openingDialer := by
      intro k hk
      rcases m.pools.of_mem_markReady hk with ⟨hne, hk⟩ | ⟨-, hs⟩
      · exact h.openingDialer_retire hopens hk hne
      · cases hs
    opensListed := h.opensListed_retire
    opensOnce := h.opensOnce_retire
    midwayOpen := h.midway_retire
    settledDone := h.settledDone_retire _
    readyOpen := by
      intro k ex' hk
      rcases m.pools.of_mem_markReady hk with ⟨-, hk⟩ | ⟨-, hs⟩
      · exact h.readyOpen k ex' hk
      · cases hs
        exact ⟨hfresh, hlt⟩
    readyOnce := by
      intro k k' ex' hk hk'
      rcases m.pools.of_mem_markReady hk with ⟨-, hmem⟩ | ⟨hkk, hs⟩ <;>
        rcases m.pools.of_mem_markReady hk' with ⟨-, hmem'⟩ | ⟨hkk', hs'⟩
      · exact h.readyOnce k k' ex' hmem hmem'
      · cases hs'
        exact absurd hmem (hnot k)
      · cases hs
        exact absurd hmem' (hnot k')
      · exact hkk.trans hkk'.symm
    readySettled := by
      intro k ex' hk
      rcases m.pools.of_mem_markReady hk with ⟨-, hk⟩ | ⟨-, hs⟩
      · exact (h.readySettled k ex' hk).imp fun _ => h.settled_retire hopens _
      · cases hs
        exact ⟨i, by simp⟩
    heldFresh := by
      intro d ex' hd
      obtain ⟨hdi, hd⟩ := update_some (f := Call.holds) rfl hd
      obtain ⟨hs, hlt', hnot'⟩ := h.heldFresh d ex' hd
      -- another stored executor is not this one, so it is still in no slot
      have hne : ex' ≠ ex := fun he =>
        hdi (h.heldOnce d i ex' hd (by simp [hi, Call.holds, he]))
      refine ⟨hs, hlt', fun k hk => ?_⟩
      rcases m.pools.of_mem_markReady hk with ⟨-, hk⟩ | ⟨-, hs'⟩
      · exact hnot' k hk
      · cases hs'
        exact hne rfl
    heldOnce := fun d d' ex' hd hd' => h.heldOnce d d' ex' (update_some (f := Call.holds) rfl hd).2
      (update_some (f := Call.holds) rfl hd').2
    shutOnce := h.shutOnce
    shutOpened := h.shutOpened
    openedAccounted := by
      intro ex' hex
      rcases h.openedAccounted ex' hex with hs | ⟨k, hk⟩ | ⟨d, hd⟩
      · exact .inl hs
      · exact .inr (.inl ⟨k, m.pools.mem_markReady_of_ne hk (h.ready_ne_of_opens hopens hk)⟩)
      · by_cases hdi : d = i
        · -- the executor marked ready now sits in the opener's slot
          subst hdi
          rw [hi] at hd
          obtain rfl : ex = ex' := by simpa [Call.holds] using hd
          exact .inr (.inl ⟨key, m.pools.mem_markReady_self hkey⟩)
        · exact .inr (.inr ⟨d, by simpa only [Function.update_of_ne hdi] using hd⟩)
    handedSettled := h.handed_retire hopens _
    settledOpened := by
      intro d ex' hd
      simp only [Function.update_apply] at hd
      split at hd
      · cases hd
        exact hlt
      · exact h.settledOpened d ex' hd }

end opener

/-! ### Every step -/

theorem reserve_of_not_missed (hi : ∀ cfg, m.callers i ≠ .missed cfg) : m.reserve i = m := by
  unfold Manager.reserve
  split
  · next cfg hc => exact absurd hc (hi cfg)
  · rfl

theorem dialed_of_not_dialing (hi : ∀ key type, m.callers i ≠ .dialing key type)
    (failure : Option Fault) : m.dialed i failure = m := by
  unfold dialed
  split
  · next key type hc => exact absurd hc (hi key type)
  · rfl

theorem publish_of_not_stored (hi : ∀ key ex, m.callers i ≠ .stored key ex) : m.publish i = m := by
  unfold publish
  split
  · next key ex hc => exact absurd hc (hi key ex)
  · rfl

theorem Inv.publish_eq (h : m.Inv) {key : String} {ex : Nat} (hi : m.callers i = .stored key ex) :
    m.publish i = { m with
      pools := m.pools.markReady key ex
      dialers := m.dialers.filter (·.2 != i)
      settled := Function.update m.settled i (some (.ok ex))
      callers := Function.update m.callers i (.waiting i) } := by
  have hc := h.midwayOpen i (by simp [hi, Call.midway])
  have hown : m.dialer? key = some i := h.dialer?_of_opens (by simp [hi, Call.opens]) hc
  simp [Manager.publish, hi, hown]

theorem inv_step (h : m.Inv) : ∀ e, m.Apart e → (m.step e).Inv
  | .get i cfg, _ => by
    simp only [step, get]
    split
    · next hi =>
      exact h.lookup (by simp [hi, Call.opens])
        (h.settled_eq_none (by simp [hi]) (by simp [hi])) cfg
    · exact h
  | .refresh i cfg stale, _ => by
    simp only [step, refresh]
    split
    · next hi =>
      have hset := h.settled_eq_none (i := i) (by simp [hi]) (by simp [hi])
      have hopens : (m.callers i).opens = none := by simp [hi, Call.opens]
      rcases m.pools.discard_cases cfg.fingerprint stale with ⟨hf, hd⟩ | ⟨-, hd⟩
      · rw [hd]
        exact (h.drop hf).move (p := .refreshed cfg) hopens rfl (by simp [Call.midway])
          (by simp [hset]) nofun
      · simp only [hd, Option.toList_none, List.append_nil]
        exact h.move (p := .refreshed cfg) hopens rfl (by simp [Call.midway]) (by simp [hset]) nofun
    · exact h
  | .resume i, _ => by
    simp only [step, resume]
    split
    · next cfg hi =>
      exact h.lookup (by simp [hi, Call.opens])
        (h.settled_eq_none (by simp [hi]) (by simp [hi])) cfg
    · exact h
  | .reserve i, _ => by
    by_cases hi : ∃ cfg, m.callers i = .missed cfg
    · obtain ⟨cfg, hi⟩ := hi
      exact h.reserve hi
    · rw [step, reserve_of_not_missed fun cfg hc => hi ⟨cfg, hc⟩]
      exact h
  | .dialed i failure, _ => by
    by_cases hi : ∃ key type, m.callers i = .dialing key type
    · obtain ⟨key, type, hi⟩ := hi
      cases failure with
      | some f =>
        rw [step, dialed_failed hi, h.failed_pools (by simp [hi, Call.opens])]
        exact h.dialFailed hi _ nofun
      | none =>
        cases hc : m.pools.closed
        · rw [step, dialed_stored hi hc]
          exact h.dialStored hi hc
        · rw [step, dialed_refused hi hc]
          exact h.dialRefused hi hc
    · rw [step, dialed_of_not_dialing (fun key type hc => hi ⟨key, type, hc⟩)]
      exact h
  | .publish i, _ => by
    by_cases hi : ∃ key ex, m.callers i = .stored key ex
    · obtain ⟨key, ex, hi⟩ := hi
      rw [step, h.publish_eq hi]
      exact h.publish hi
    · rw [step, publish_of_not_stored (fun key ex hc => hi ⟨key, ex, hc⟩)]
      exact h
  | .wake i, _ => by
    simp only [step, wake]
    split
    · next d hi =>
      split
      · next r hr =>
        refine h.move (by simp [hi, Call.opens]) rfl (by simp [Call.midway])
          (fun _ _ => .inr ⟨r, rfl⟩) ?_
        rintro ex ⟨⟩
        exact ⟨d, hr⟩
      · exact h
    · exact h
  | .abandon i expired, _ => by
    simp only [step, abandon]
    split
    · next d hi =>
      exact h.move (by simp [hi, Call.opens]) rfl (by simp [Call.midway])
        (fun _ _ => .inr ⟨_, rfl⟩) nofun
    · exact h
  | .close, hap => h.close hap

theorem Inv.run (h : m.Inv) (es : List Event) (hs : m.Serial es) : (m.run es).Inv :=
  serial_induction (P := Inv) (fun _ e h ha => inv_step h e ha) h es hs

theorem closed_step (hc : m.pools.closed = true) : ∀ e, (m.step e).pools.closed = true
  | .get i cfg => by simp only [step, get]; split <;> exact hc
  | .refresh i cfg stale => by
    simp only [step, refresh]
    split
    · rcases m.pools.discard_cases cfg.fingerprint stale with ⟨-, hd⟩ | ⟨-, hd⟩ <;> simp [hd, hc]
    · exact hc
  | .resume i => by simp only [step, resume]; split <;> exact hc
  | .reserve i => by
    by_cases hi : ∃ cfg, m.callers i = .missed cfg
    · obtain ⟨cfg, hi⟩ := hi
      rcases hf : m.pools.find? cfg.fingerprint with _ | s
      · rw [step, reserve_eq_file hi hf]
        exact hc
      · rw [step, reserve_eq_move hi (by simp [hf])]
        exact hc
    · rw [step, reserve_of_not_missed fun cfg hc => hi ⟨cfg, hc⟩]
      exact hc
  | .dialed i failure => by
    simp only [step, dialed]
    split
    · split
      · dsimp only
        split <;> simp [Pools.store_error, hc]
      · split <;> exact hc
    · exact hc
  | .publish i => by
    simp only [step, publish]
    split
    · dsimp only
      split <;> simp [hc]
    · exact hc
  | .wake i => by
    simp only [step, wake]
    split
    · split <;> exact hc
    · exact hc
  | .abandon i expired => by simp only [step, abandon]; split <;> exact hc
  | .close => rfl

theorem Inv.apart_of_closed (h : m.Inv) (hc : m.pools.closed = true) : ∀ e, m.Apart e
  | .close => fun i => by
    cases hm : (m.callers i).midway
    · rfl
    · simp [h.midwayOpen i hm] at hc
  | .get .. | .refresh .. | .resume _ | .reserve _ | .dialed .. | .publish _ | .wake _
  | .abandon .. => trivial

theorem Inv.serial_of_closed (h : m.Inv) (hc : m.pools.closed = true) (es : List Event) :
    m.Serial es := by
  induction es generalizing m with
  | nil => trivial
  | cons e es ih =>
    have ha := h.apart_of_closed hc e
    exact ⟨ha, ih (inv_step h e ha) (closed_step hc e)⟩

/-! ### What one step does to each caller -/

/-- How one step moves a caller, `m` being the state before it. -/
inductive Moves (m : Manager) : Call → Call → Prop
  | get (cfg : Config) : Moves m .idle (m.served cfg)
  | refresh (cfg : Config) : Moves m .idle (.refreshed cfg)
  | resume (cfg : Config) : Moves m (.refreshed cfg) (m.served cfg)
  | reserve (cfg : Config) : Moves m (.missed cfg) (m.filed cfg)
  | dialed (key type : String) (i : Nat) : Moves m (.dialing key type) (.waiting i)
  | stored (key type : String) (ex : Nat) : Moves m (.dialing key type) (.stored key ex)
  | publish (key : String) (ex i : Nat) : Moves m (.stored key ex) (.waiting i)
  | wake (d : Nat) (r : Except Fault Nat) :
      m.settled d = some r → Moves m (.waiting d) (.returned r)
  | abandon (d : Nat) (expired : Bool) :
      Moves m (.waiting d) (.returned (.error (Fault.ofContext expired)))

theorem moves_update {c : Nat → Call} {j : Nat} {p : Call} (hm : Moves m (c j) p) (i : Nat) :
    Function.update c j p i = c i ∨ Moves m (c i) (Function.update c j p i) := by
  by_cases hij : i = j
  · subst hij
    exact .inr (by simpa using hm)
  · exact .inl (Function.update_of_ne hij _ _)

theorem callers_dialed {key type : String} (hi : m.callers i = .dialing key type)
    (failure : Option Fault) :
    (m.dialed i failure).callers = Function.update m.callers i (.waiting i) ∨
      (m.dialed i failure).callers = Function.update m.callers i (.stored key m.opened) := by
  cases failure with
  | some f => exact .inl (by rw [dialed_failed hi])
  | none =>
    cases hc : m.pools.closed
    · exact .inr (by rw [dialed_stored hi hc])
    · exact .inl (by rw [dialed_refused hi hc])

theorem callers_publish {key : String} {ex : Nat} (hi : m.callers i = .stored key ex) :
    (m.publish i).callers = Function.update m.callers i (.waiting i) := by
  simp [Manager.publish, hi]

theorem callers_step (m : Manager) (e : Event) (i : Nat) :
    (m.step e).callers i = m.callers i ∨ Moves m (m.callers i) ((m.step e).callers i) := by
  cases e with
  | get j cfg =>
    simp only [step, get]
    split
    · next hj => exact moves_update (by rw [hj]; exact .get cfg) i
    · exact .inl rfl
  | refresh j cfg stale =>
    simp only [step, refresh]
    split
    · next hj => exact moves_update (by rw [hj]; exact .refresh cfg) i
    · exact .inl rfl
  | resume j =>
    simp only [step, resume]
    split
    · next cfg hj => exact moves_update (by rw [hj]; exact .resume cfg) i
    · exact .inl rfl
  | reserve j =>
    by_cases hj : ∃ cfg, m.callers j = .missed cfg
    · obtain ⟨cfg, hj⟩ := hj
      rw [step, callers_reserve hj]
      exact moves_update (by rw [hj]; exact .reserve cfg) i
    · rw [step, reserve_of_not_missed fun cfg hc => hj ⟨cfg, hc⟩]
      exact .inl rfl
  | dialed j failure =>
    by_cases hj : ∃ key type, m.callers j = .dialing key type
    · obtain ⟨key, type, hj⟩ := hj
      rcases callers_dialed hj failure with hc | hc <;> rw [step, hc]
      · exact moves_update (by rw [hj]; exact .dialed key type j) i
      · exact moves_update (by rw [hj]; exact .stored key type m.opened) i
    · rw [step, dialed_of_not_dialing (fun key type hc => hj ⟨key, type, hc⟩)]
      exact .inl rfl
  | publish j =>
    by_cases hj : ∃ key ex, m.callers j = .stored key ex
    · obtain ⟨key, ex, hj⟩ := hj
      rw [step, callers_publish hj]
      exact moves_update (by rw [hj]; exact .publish key ex j) i
    · rw [step, publish_of_not_stored (fun key ex hc => hj ⟨key, ex, hc⟩)]
      exact .inl rfl
  | wake j =>
    simp only [step, wake]
    split
    · next d hj =>
      split
      · next r hr => exact moves_update (by rw [hj]; exact .wake d r hr) i
      · exact .inl rfl
    · exact .inl rfl
  | abandon j expired =>
    simp only [step, abandon]
    split
    · next d hj => exact moves_update (by rw [hj]; exact .abandon d expired) i
    · exact .inl rfl
  | close => exact .inl rfl

theorem settled_step_cases (m : Manager) (e : Event) :
    (m.step e).settled = m.settled ∨
    (∃ j key type x, m.callers j = .dialing key type ∧ (∀ ex, x ≠ .ok ex) ∧
      (m.step e).settled = Function.update m.settled j (some x)) ∨
    (∃ j key ex, m.callers j = .stored key ex ∧
      (m.step e).settled = Function.update m.settled j (some (.ok ex))) := by
  cases e with
  | get j cfg => simp only [step, get]; split <;> exact .inl rfl
  | refresh j cfg stale => simp only [step, refresh]; split <;> exact .inl rfl
  | resume j => simp only [step, resume]; split <;> exact .inl rfl
  | reserve j =>
    by_cases hj : ∃ cfg, m.callers j = .missed cfg
    · obtain ⟨cfg, hj⟩ := hj
      rcases hf : m.pools.find? cfg.fingerprint with _ | s
      · exact .inl (by rw [step, reserve_eq_file hj hf])
      · exact .inl (by rw [step, reserve_eq_move hj (by simp [hf])])
    · exact .inl (by rw [step, reserve_of_not_missed fun cfg hc => hj ⟨cfg, hc⟩])
  | dialed j failure =>
    by_cases hj : ∃ key type, m.callers j = .dialing key type
    · obtain ⟨key, type, hj⟩ := hj
      cases failure with
      | some f =>
        exact .inr (.inl ⟨j, key, type, .error _, hj, nofun, by rw [step, dialed_failed hj]⟩)
      | none =>
        cases hc : m.pools.closed
        · exact .inl (by rw [step, dialed_stored hj hc])
        · exact .inr (.inl ⟨j, key, type, .error _, hj, nofun, by rw [step, dialed_refused hj hc]⟩)
    · exact .inl (by rw [step, dialed_of_not_dialing (fun key type hc => hj ⟨key, type, hc⟩)])
  | publish j =>
    by_cases hj : ∃ key ex, m.callers j = .stored key ex
    · obtain ⟨key, ex, hj⟩ := hj
      exact .inr (.inr ⟨j, key, ex, hj, by simp [step, Manager.publish, hj]⟩)
    · exact .inl (by rw [step, publish_of_not_stored (fun key ex hc => hj ⟨key, ex, hc⟩)])
  | wake j =>
    simp only [step, wake]
    split
    · split <;> exact .inl rfl
    · exact .inl rfl
  | abandon j expired => simp only [step, abandon]; split <;> exact .inl rfl
  | close => exact .inl rfl

theorem settled_step (h : m.Inv) {d : Nat} {r : Except Fault Nat} (hd : m.settled d = some r)
    (e : Event) : (m.step e).settled d = some r := by
  rcases settled_step_cases m e with he | ⟨j, key, type, x, hj, -, he⟩ | ⟨j, key, ex, hj, he⟩
  · rwa [he]
  · rw [he]
    exact h.settled_retire (show (m.callers j).opens = some key by simp [hj, Call.opens]) x hd
  · rw [he]
    exact h.settled_retire (show (m.callers j).opens = some key by simp [hj, Call.opens]) _ hd

theorem shut_step {ex : Nat} (hex : ex ∈ m.shut) : ∀ e, ex ∈ (m.step e).shut
  | .get i cfg => by simp only [step, get]; split <;> exact hex
  | .refresh i cfg stale => by
    simp only [step, refresh]
    split
    · exact List.mem_append_left _ hex
    · exact hex
  | .resume i => by simp only [step, resume]; split <;> exact hex
  | .reserve i => by
    by_cases hi : ∃ cfg, m.callers i = .missed cfg
    · obtain ⟨cfg, hi⟩ := hi
      rcases hf : m.pools.find? cfg.fingerprint with _ | s
      · rw [step, reserve_eq_file hi hf]
        exact hex
      · rw [step, reserve_eq_move hi (by simp [hf])]
        exact hex
    · rw [step, reserve_of_not_missed fun cfg hc => hi ⟨cfg, hc⟩]
      exact hex
  | .dialed i failure => by
    by_cases hi : ∃ key type, m.callers i = .dialing key type
    · obtain ⟨key, type, hi⟩ := hi
      cases failure with
      | some f => rw [step, dialed_failed hi]; exact hex
      | none =>
        cases hc : m.pools.closed
        · rw [step, dialed_stored hi hc]
          exact hex
        · rw [step, dialed_refused hi hc]
          exact List.mem_append_left _ hex
    · rw [step, dialed_of_not_dialing (fun key type hc => hi ⟨key, type, hc⟩)]
      exact hex
  | .publish i => by simp only [step, Manager.publish]; split <;> exact hex
  | .wake i => by
    simp only [step, wake]
    split
    · split <;> exact hex
    · exact hex
  | .abandon i expired => by simp only [step, abandon]; split <;> exact hex
  | .close => List.mem_append_left _ hex

theorem settled_ok_of_closed (h : m.Inv) (hc : m.pools.closed = true) {e : Event} {d ex : Nat}
    (hd : (m.step e).settled d = some (.ok ex)) : m.settled d = some (.ok ex) := by
  rcases settled_step_cases m e with he | ⟨j, key, type, x, -, hx, he⟩ | ⟨j, key, ex', hj, he⟩
  · rwa [he] at hd
  · rw [he, Function.update_apply] at hd
    split at hd
    · cases hd
      exact absurd rfl (hx ex)
    · exact hd
  · -- nobody holds a stored executor in closed pools
    have hopen := h.midwayOpen j (by simp [hj, Call.midway])
    simp [hc] at hopen

/-! ### Runs -/

/-- Where a caller that waits for the opening of `dialer` can be: still waiting, or returned
with that opening's result, or with its own context's error. -/
def Awaits (dialer : Nat) (settled : Nat → Option (Except Fault Nat)) : Call → Prop
  | .waiting d => d = dialer
  | .returned r => settled dialer = some r ∨ ∃ expired, r = .error (Fault.ofContext expired)
  | _ => False

theorem Moves.awaits (h : m.Inv) {p q : Call} (hm : Moves m p q) {d : Nat}
    (hp : Awaits d m.settled p) (e : Event) : Awaits d (m.step e).settled q := by
  cases hm with
  | wake d' r hr =>
    cases (hp : d' = d)
    exact .inl (settled_step h hr e)
  | abandon d' expired => exact .inr ⟨expired, rfl⟩
  | get cfg => exact (hp : False).elim
  | refresh cfg => exact (hp : False).elim
  | resume cfg => exact (hp : False).elim
  | reserve cfg => exact (hp : False).elim
  | dialed key type j => exact (hp : False).elim
  | stored key type ex => exact (hp : False).elim
  | publish key ex j => exact (hp : False).elim

theorem Moves.handed {p q : Call} (hm : Moves m p q) {ex : Nat} (hq : q = .returned (.ok ex)) :
    (∃ cfg, m.served cfg = .returned (.ok ex)) ∨ (∃ cfg, m.filed cfg = .returned (.ok ex)) ∨
      ∃ d, m.settled d = some (.ok ex) := by
  cases hm with
  | get cfg => exact .inl ⟨cfg, hq⟩
  | resume cfg => exact .inl ⟨cfg, hq⟩
  | reserve cfg => exact .inr (.inl ⟨cfg, hq⟩)
  | wake d r hr =>
    cases hq
    exact .inr (.inr ⟨d, hr⟩)
  | refresh cfg => cases hq
  | dialed key type j => cases hq
  | stored key type ex' => cases hq
  | publish key ex' j => cases hq
  | abandon d expired => cases hq

theorem Moves.opens {p q : Call} (hm : Moves m p q)
    (hmid : p.midway = true → m.pools.closed = false) {key : String} (hp : p.opens ≠ some key)
    (hq : q.opens = some key) : m.pools.closed = false ∧ m.pools.find? key = none := by
  cases hm with
  | get cfg => simp [served_opens] at hq
  | resume cfg => simp [served_opens] at hq
  | reserve cfg =>
    rcases m.filed_cases cfg with ⟨ex, -, -, hs⟩ | ⟨-, -, hs⟩ | ⟨hf, -, hs⟩ <;> rw [hs] at hq
    · simp [Call.opens] at hq
    · rcases hd : m.dialer? cfg.fingerprint with _ | d <;> simp [hd, Call.opens] at hq
    · simp only [Call.opens, Option.some.injEq] at hq
      subst hq
      exact ⟨hmid rfl, hf⟩
  | stored key' type ex =>
    simp only [Call.opens] at hp hq
    exact absurd hq hp
  | refresh cfg => simp [Call.opens] at hq
  | dialed key' type j => simp [Call.opens] at hq
  | publish key' ex j => simp [Call.opens] at hq
  | wake d r hr => simp [Call.opens] at hq
  | abandon d expired => simp [Call.opens] at hq

theorem awaits_run (h : m.Inv) {i d : Nat} (hi : Awaits d m.settled (m.callers i))
    (es : List Event) (hs : m.Serial es) : Awaits d (m.run es).settled ((m.run es).callers i) := by
  refine (serial_induction (P := fun m => m.Inv ∧ Awaits d m.settled (m.callers i))
    (fun m e hm ha => ⟨inv_step hm.1 e ha, ?_⟩) ⟨h, hi⟩ es hs).2
  obtain ⟨hinv, hw⟩ := hm
  rcases callers_step m e i with he | hmv
  · -- a returned caller keeps what it returned, since an opening's result never changes
    rw [he]
    cases hp : m.callers i with
    | waiting d' => rw [hp] at hw; exact hw
    | returned r =>
      rw [hp] at hw
      exact hw.imp (settled_step hinv · e) id
    | _ => rw [hp] at hw; exact hw.elim
  · exact hmv.awaits hinv hw e

theorem shut_run {ex : Nat} (hex : ex ∈ m.shut) (es : List Event) : ex ∈ (m.run es).shut :=
  run_induction (P := fun m => ex ∈ m.shut) (fun _ e h => shut_step h e) hex es

theorem closed_run (hc : m.pools.closed = true) (es : List Event) :
    (m.run es).pools.closed = true :=
  run_induction (P := fun m => m.pools.closed = true) (fun _ e h => closed_step h e) hc es

theorem Inv.filed_ne_ok (h : m.Inv) (hc : m.pools.closed = true) (cfg : Config) {ex : Nat} :
    m.filed cfg ≠ .returned (.ok ex) := by
  rcases m.filed_cases cfg with ⟨ex', hf, -, -⟩ | ⟨-, -, hs⟩ | ⟨-, -, hs⟩
  · have hmem := m.pools.mem_of_find? hf
    simp [(h.closedEmpty hc).1] at hmem
  · rw [hs]
    cases m.dialer? cfg.fingerprint <;> simp
  · simp [hs]

theorem handed_run (h : m.Inv) (hc : m.pools.closed = true) (es : List Event) :
    ∀ i ex, (m.run es).callers i = .returned (.ok ex) → ex < m.opened := by
  refine (serial_induction (P := fun m' => (m'.Inv ∧ m'.pools.closed = true) ∧
      (∀ d ex, m'.settled d = some (.ok ex) → ex < m.opened) ∧
      (∀ i ex, m'.callers i = .returned (.ok ex) → ex < m.opened))
    (fun m' e hm ha => ⟨⟨inv_step hm.1.1 e ha, closed_step hm.1.2 e⟩,
      fun d ex hd => hm.2.1 d ex (settled_ok_of_closed hm.1.1 hm.1.2 hd), ?_⟩)
    ⟨⟨h, hc⟩, h.settledOpened, fun i ex hi => ?_⟩ es (h.serial_of_closed hc es)).2.2
  · intro i ex hi
    rcases callers_step m' e i with he | hmv
    · exact hm.2.2 i ex (he ▸ hi)
    · rcases hmv.handed hi with ⟨cfg, hs⟩ | ⟨cfg, hs⟩ | ⟨d, hd⟩
      · rcases m'.served_cases cfg with ⟨-, hs'⟩ | ⟨hc', -⟩ | ⟨hc', -⟩ | ⟨hc', -⟩
        · rw [hs'] at hs
          cases hs
        all_goals simp [hm.1.2] at hc'
      · exact absurd hs (hm.1.1.filed_ne_ok hm.1.2 cfg)
      · exact hm.2.1 d ex hd
  · obtain ⟨d, hd⟩ := h.handedSettled i ex hi
    exact h.settledOpened d ex hd

theorem refresh_cases (hi : m.callers i = .idle) (cfg : Config) (stale : Nat) :
    ((m.step (.refresh i cfg stale)).pools = m.pools ∧
      (m.step (.refresh i cfg stale)).shut = m.shut) ∨
    (m.pools.find? cfg.fingerprint = some (.ready stale) ∧
      (m.step (.refresh i cfg stale)).pools = m.pools.erase cfg.fingerprint ∧
      (m.step (.refresh i cfg stale)).shut = m.shut ++ [stale]) := by
  simp only [step, refresh, hi]
  rcases m.pools.discard_cases cfg.fingerprint stale with ⟨hf, hd⟩ | ⟨-, hd⟩
  · exact .inr ⟨hf, by simp [hd], by simp [hd]⟩
  · exact .inl ⟨by simp [hd], by simp [hd]⟩

theorem callers_get_self (hi : m.callers i = .idle) (cfg : Config) :
    (m.step (.get i cfg)).callers i = m.served cfg := by
  simp only [step, get, hi, lookup, Function.update_self]

theorem Inv.open_of_find? (h : m.Inv) {key : String} {s : Slot Nat}
    (hf : m.pools.find? key = some s) : m.pools.closed = false := by
  cases hc : m.pools.closed
  · rfl
  · have := m.pools.mem_of_find? hf
    simp [(h.closedEmpty hc).1] at this

theorem Inv.dialer_of_opening (h : m.Inv) {key : String} (hf : m.pools.find? key = some .opening) :
    ∃ d, m.dialer? key = some d ∧ (m.callers d).opens = some key := by
  obtain ⟨d₀, hd₀⟩ := h.openingDialer _ (m.pools.mem_of_find? hf)
  obtain ⟨d, hd⟩ := dialer?_of_mem hd₀
  exact ⟨d, hd, (h.dialerEntry _ d (mem_of_dialer? hd)).2⟩

/-- Step `e` is caller `i`'s look-up of `cfg`: a get, or a refresh going on to get, under the read
lock, or the look-up under the write lock after a miss. -/
def LooksUp (m : Manager) (i : Nat) (cfg : Config) : Event → Prop
  | .get j c => j = i ∧ c = cfg ∧ m.callers i = .idle
  | .resume j => j = i ∧ m.callers i = .refreshed cfg
  | .reserve j => j = i ∧ m.callers i = .missed cfg
  | _ => False

theorem callers_looksUp {cfg : Config} {e : Event} (h : m.LooksUp i cfg e) :
    (m.step e).callers i = m.served cfg ∨ (m.step e).callers i = m.filed cfg := by
  cases e with
  | get j c =>
    obtain ⟨rfl, rfl, hi⟩ := h
    exact .inl (callers_get_self hi c)
  | resume j =>
    obtain ⟨rfl, hi⟩ := h
    exact .inl (by simp only [step, resume, hi, lookup, Function.update_self])
  | reserve j =>
    obtain ⟨rfl, hi⟩ := h
    exact .inr (by rw [step, callers_reserve hi, Function.update_self])
  | _ => exact h.elim

/-! ### The promises -/

/-- What the pools promise in a state, however a serial run goes on from it. -/
structure Safe (m : Manager) : Prop where
  /-- The pools hold one entry per fingerprint, -/
  keysUnique : (m.pools.slots.map Prod.fst).Nodup
  /-- at most one caller opens a fingerprint, -/
  opensOnce : ∀ i j key, (m.callers i).opens = some key → (m.callers j).opens = some key → i = j
  /-- and a caller starts opening it only when the pools are open and have no entry for it. -/
  opensAbsent : ∀ e i key, (m.callers i).opens ≠ some key →
    ((m.step e).callers i).opens = some key → m.pools.closed = false ∧ m.pools.find? key = none
  /-- A caller that finds its connection being opened, by either look-up, waits for that opening, -/
  joinsOpening : ∀ i cfg e, m.LooksUp i cfg e → m.pools.find? cfg.fingerprint = some .opening →
    ∃ d, (m.callers d).opens = some cfg.fingerprint ∧ (m.step e).callers i = .waiting d
  /-- and from then on waits, or returns exactly that opening's result, or its context's error. -/
  waitersShare : ∀ i d, m.callers i = .waiting d → ∀ es, m.Serial es →
    Awaits d (m.run es).settled ((m.run es).callers i)
  /-- A caller that finds its connection open, by either look-up, takes the open executor, -/
  takesReady : ∀ i cfg e ex, m.LooksUp i cfg e →
    m.pools.find? cfg.fingerprint = some (.ready ex) → (m.step e).callers i = .returned (.ok ex)
  /-- which is the executor its opening returned. -/
  readySettled : ∀ key ex, (key, .ready ex) ∈ m.pools.slots → ∃ d, m.settled d = some (.ok ex)
  /-- A failed opening leaves no entry, its waiters receive the failure, named by the database
  type and the fingerprint, and the next caller opens the connection again. -/
  failedRetries : ∀ i key type f, m.callers i = .dialing key type →
    (m.step (.dialed i (some f))).pools.find? key = none ∧
    (m.step (.dialed i (some f))).settled i =
      some (.error (.wrapped ("failed to open " ++ type ++ " pool " ++ key) f)) ∧
    ∀ j cfg, cfg.fingerprint = key → j ≠ i → m.callers j = .idle →
      (m.step (.dialed i (some f))).pools.closed = false →
      (((m.step (.dialed i (some f))).step (.get j cfg)).step (.reserve j)).callers j =
        .dialing key cfg.type
  /-- A refresh drops and closes an entry only when it holds the stale executor, -/
  refreshDrops : ∀ i cfg stale, m.callers i = .idle →
    ((m.step (.refresh i cfg stale)).pools = m.pools ∧
      (m.step (.refresh i cfg stale)).shut = m.shut) ∨
    (m.pools.find? cfg.fingerprint = some (.ready stale) ∧
      (m.step (.refresh i cfg stale)).pools = m.pools.erase cfg.fingerprint ∧
      (m.step (.refresh i cfg stale)).shut = m.shut ++ [stale])
  /-- A closed executor is never an entry again, -/
  shutGone : ∀ ex ∈ m.shut, ∀ es, m.Serial es → ∀ key, (key, .ready ex) ∉ (m.run es).pools.slots
  /-- and once an executor is closed no refresh of it drops anything. -/
  refreshOnce : ∀ stale ∈ m.shut, ∀ es, m.Serial es → ∀ i cfg, (m.run es).callers i = .idle →
    ((m.run es).step (.refresh i cfg stale)).pools = (m.run es).pools ∧
    ((m.run es).step (.refresh i cfg stale)).shut = (m.run es).shut
  /-- No executor is closed twice, -/
  shutOnce : m.shut.Nodup
  /-- and every executor opened is open in its entry, stored by its opener, or closed. -/
  openedAccounted : ∀ ex < m.opened, ex ∈ m.shut ∨ (∃ key, (key, .ready ex) ∈ m.pools.slots) ∨
    ∃ i key, m.callers i = .stored key ex
  /-- Once the pools are closed every executor opened has been closed, -/
  closedShut : m.pools.closed = true → ∀ ex < m.opened, ex ∈ m.shut
  /-- they stay closed and empty, -/
  closedStays : m.pools.closed = true →
    ∀ es, (m.run es).pools.closed = true ∧ (m.run es).pools.slots = []
  /-- every get arriving is refused, -/
  closedRefuses : m.pools.closed = true → ∀ i cfg, m.callers i = .idle →
    (m.step (.get i cfg)).callers i = .returned (.error managerClosed)
  /-- and no executor opened later is handed to any caller. -/
  closedHandsOld : m.pools.closed = true →
    ∀ es i ex, (m.run es).callers i = .returned (.ok ex) → ex < m.opened

theorem Inv.failed_step (h : m.Inv) {key type : String} (hi : m.callers i = .dialing key type)
    (f : Fault) :
    m.step (.dialed i (some f)) = { m with
      pools := m.pools.erase key
      dialers := m.dialers.filter (·.2 != i)
      settled := Function.update m.settled i
        (some (.error (.wrapped ("failed to open " ++ type ++ " pool " ++ key) f)))
      callers := Function.update m.callers i (.waiting i) } := by
  rw [step, dialed_failed hi, h.failed_pools (by simp [hi, Call.opens])]

theorem Inv.retries_after_failure (h : m.Inv) {key type : String}
    (hi : m.callers i = .dialing key type) (f : Fault) {j : Nat} {cfg : Config}
    (hkey : cfg.fingerprint = key) (hji : j ≠ i) (hj : m.callers j = .idle)
    (hc : (m.step (.dialed i (some f))).pools.closed = false) :
    (((m.step (.dialed i (some f))).step (.get j cfg)).step (.reserve j)).callers j =
      .dialing key cfg.type := by
  subst hkey
  set m' := m.step (.dialed i (some f)) with hm'
  have hidle : m'.callers j = .idle := by
    rw [hm', h.failed_step hi f]
    simpa only [Function.update_of_ne hji] using hj
  have hnone : m'.pools.find? cfg.fingerprint = none := by
    rw [hm', h.failed_step hi f]
    exact m.pools.find?_erase_self _
  -- the get misses under the read lock, and the look-up under the write lock files the slot
  have hmissed : (m'.step (.get j cfg)).callers j = .missed cfg := by
    rw [callers_get_self hidle]
    rcases m'.served_cases cfg with ⟨hc', -⟩ | ⟨-, ex, hf, -⟩ | ⟨-, hf, -⟩ | ⟨-, -, hs⟩
    · simp [hc] at hc'
    · simp [hnone] at hf
    · simp [hnone] at hf
    · exact hs
  show ((m'.step (.get j cfg)).reserve j).callers j = _
  rw [callers_reserve hmissed, Function.update_self]
  have hpools : (m'.step (.get j cfg)).pools = m'.pools := by
    simp only [step, get, hidle, Manager.lookup]
  rcases (m'.step (.get j cfg)).filed_cases cfg with ⟨ex, hf, -⟩ | ⟨hf, -⟩ | ⟨-, -, hs⟩
  · simp [hpools, hnone] at hf
  · simp [hpools, hnone] at hf
  · exact hs

theorem Inv.safe (h : m.Inv) : m.Safe where
  keysUnique := h.keysUnique
  opensOnce := h.opensOnce
  opensAbsent e i key hi hi' := by
    rcases callers_step m e i with he | hm
    · exact absurd (he ▸ hi') hi
    · exact hm.opens (h.midwayOpen i) hi hi'
  joinsOpening i cfg e hl hf := by
    obtain ⟨d, hd, hopen⟩ := h.dialer_of_opening hf
    refine ⟨d, hopen, ?_⟩
    rcases callers_looksUp hl with hs | hs <;> rw [hs]
    · rcases m.served_cases cfg with ⟨hc, -⟩ | ⟨-, ex, hf', -⟩ | ⟨-, -, hs'⟩ | ⟨-, hf', -⟩
      · simp [h.open_of_find? hf] at hc
      · simp [hf] at hf'
      · rw [hs', hd]
        rfl
      · simp [hf] at hf'
    · rcases m.filed_cases cfg with ⟨ex, hf', -⟩ | ⟨-, -, hs'⟩ | ⟨hf', -⟩
      · simp [hf] at hf'
      · rw [hs', hd]
        rfl
      · simp [hf] at hf'
  waitersShare i d hi es hs := awaits_run h (by rw [hi]; rfl) es hs
  takesReady i cfg e ex hl hf := by
    rcases callers_looksUp hl with hs | hs <;> rw [hs]
    · rcases m.served_cases cfg with ⟨hc, -⟩ | ⟨-, ex', hf', hs'⟩ | ⟨-, hf', -⟩ | ⟨-, hf', -⟩
      · simp [h.open_of_find? hf] at hc
      · rw [hf] at hf'
        cases hf'
        exact hs'
      · simp [hf] at hf'
      · simp [hf] at hf'
    · rcases m.filed_cases cfg with ⟨ex', hf', -, hs'⟩ | ⟨hf', -⟩ | ⟨hf', -⟩
      · rw [hf] at hf'
        cases hf'
        exact hs'
      · simp [hf] at hf'
      · simp [hf] at hf'
  readySettled := h.readySettled
  failedRetries i key type f hi := by
    refine ⟨?_, ?_, fun j cfg hkey hji hj hc => h.retries_after_failure hi f hkey hji hj hc⟩
    · rw [h.failed_step hi f]
      exact m.pools.find?_erase_self key
    · rw [h.failed_step hi f]
      simp
  refreshDrops i cfg stale hi := refresh_cases hi cfg stale
  shutGone ex hs es hser key hk := ((h.run es hser).readyOpen key ex hk).1 (shut_run hs es)
  refreshOnce stale hs es hser i cfg hi := by
    rcases refresh_cases hi cfg stale with hsame | ⟨hf, -⟩
    · exact hsame
    · -- a ready executor is open, and this one was closed
      have hopen := ((h.run es hser).readyOpen _ _ ((m.run es).pools.mem_of_find? hf)).1
      exact absurd (shut_run hs es) hopen
  shutOnce := h.shutOnce
  openedAccounted ex hex := by
    rcases h.openedAccounted ex hex with hs | hr | ⟨d, hd⟩
    · exact .inl hs
    · exact .inr (.inl hr)
    · cases hc : m.callers d with
      | stored key ex' =>
        rw [hc] at hd
        obtain rfl : ex' = ex := by simpa [Call.holds] using hd
        exact .inr (.inr ⟨d, key, hc⟩)
      | _ => simp [hc, Call.holds] at hd
  closedShut hc ex hex := by
    rcases h.openedAccounted ex hex with hs | ⟨k, hk⟩ | ⟨d, hd⟩
    · exact hs
    · simp [(h.closedEmpty hc).1] at hk
    · have hopen := h.midwayOpen d (Call.midway_of_holds hd)
      simp [hc] at hopen
  closedStays hc es := ⟨closed_run hc es,
    ((h.run es (h.serial_of_closed hc es)).closedEmpty (closed_run hc es)).1⟩
  closedRefuses hc i cfg hi := by
    rw [callers_get_self hi]
    rcases m.served_cases cfg with ⟨-, hs⟩ | ⟨hc', -⟩ | ⟨hc', -⟩ | ⟨hc', -⟩
    · exact hs
    all_goals simp [hc] at hc'
  closedHandsOld hc es := handed_run h hc es

/-- In every state of a run from new pools whose closes keep out of the windows a close must not
split, the pools keep their promises. -/
theorem serial_pools_safe (es : List Event) (hs : ({} : Manager).Serial es) :
    (({} : Manager).run es).Safe :=
  (inv_init.run es hs).safe

/-- Two callers of one connection: the second joins the first one's opening, both take its
executor, and the close that follows closes it. -/
theorem serial_pools_safe_shared_opening :
    let cfg : Config := { type := "postgres", host := "db" }
    let es : List Event := [.get 0 cfg, .reserve 0, .get 1 cfg, .dialed 0 none, .publish 0,
      .wake 1, .wake 0, .close]
    ({} : Manager).Serial es ∧ (({} : Manager).run es).Safe := by
  intro cfg es
  have hs : ({} : Manager).Serial es := by
    simp [es, Serial, Apart, step, get, Manager.lookup, served, reply, Manager.reserve, dialed,
      Manager.publish, wake, Pools.lookup, Pools.reserve, Pools.find?, Pools.store,
      Pools.markReady, dialer?, Function.update_apply]
    -- at the close both callers have returned
    intro i
    split_ifs <;> rfl
  exact ⟨hs, serial_pools_safe es hs⟩

/-- A close between an opening's store of its executor and the marking of its slot ready skips
the slot, which is not ready yet: the executor is handed to its caller and never closed. -/
theorem close_while_stored_leaks :
    let cfg : Config := { type := "postgres", host := "db" }
    let m := ({} : Manager).run
      [.get 0 cfg, .reserve 0, .dialed 0 none, .close, .publish 0, .wake 0]
    m.pools.closed = true ∧ m.opened = 1 ∧ m.callers 0 = .returned (.ok 0) ∧ m.shut = [] := by
  simp [Manager.run, step, get, Manager.lookup, served, reply, Manager.reserve, dialed,
    Manager.publish, wake, Manager.close, Pools.lookup, Pools.reserve, Pools.find?, Pools.store,
    Pools.close, dialer?, Function.update]

/-- A get that missed before a close looks again under the write lock after it without seeing it,
and files a slot in the closed pools; its opening is refused and closed, and the slot stays. -/
theorem reserve_after_close_files_slot :
    let cfg : Config := { type := "postgres", host := "db" }
    let m := ({} : Manager).run [.get 0 cfg, .close, .reserve 0, .dialed 0 none, .wake 0]
    m.pools.closed = true ∧ m.pools.slots = [(cfg.fingerprint, .opening)] ∧ m.shut = [0] ∧
      m.callers 0 = .returned (.error managerClosed) := by
  simp [Manager.run, step, get, Manager.lookup, served, reply, Manager.reserve, dialed, wake,
    Manager.close, Pools.lookup, Pools.reserve, Pools.find?, Pools.store, Pools.close,
    Function.update]

end Manager

end RowGate.Connection

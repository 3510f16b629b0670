import RowGate.Engine.Read
/-!
# Retrying a stale connection

The action runs at most twice, the second time only after a stale failure and a refresh, and
the read settles on the last run or on a coded failure.
-/

namespace RowGate.Engine

variable {ε α : Type}

/-- A call a read's execution makes outside: acquiring an executor, refreshing a stale one, or
running its action on one. -/
inductive Call (ε : Type) where
  | acquire
  | refresh (stale : ε)
  | run (ex : ε)

/-- The executor a call ran the action on, if it is a run. -/
def Call.ran? : Call ε → Option ε
  | .run ex => some ex
  | _ => none

/-- The executors a log of calls ran the action on, in order. -/
def Call.runs (calls : List (Call ε)) : List ε := calls.filterMap Call.ran?

@[simp] theorem Call.runs_nil : Call.runs ([] : List (Call ε)) = [] := rfl

@[simp] theorem Call.runs_run (ex : ε) (calls : List (Call ε)) :
    Call.runs (.run ex :: calls) = ex :: Call.runs calls := rfl

@[simp] theorem Call.runs_refresh (ex : ε) (calls : List (Call ε)) :
    Call.runs (.refresh ex :: calls) = Call.runs calls := rfl

@[simp] theorem Call.runs_acquire (calls : List (Call ε)) :
    Call.runs (.acquire :: calls) = Call.runs calls := rfl

@[simp] theorem Call.runs_append (calls more : List (Call ε)) :
    Call.runs (calls ++ more) = Call.runs calls ++ Call.runs more := List.filterMap_append

/-- A behaviour of the pools and of a read's action: what acquiring gives, what refreshing a
stale executor gives, and what the `n`-th run of the action gives on an executor. -/
structure Script (ε α : Type) where
  acquired : Except Fault ε
  refreshed : ε → Except Fault ε
  answer : Nat → ε → Except Fault α

/-- The state a script runs in: the calls made so far. -/
abbrev Logged (ε : Type) := StateM (List (Call ε))

namespace Script

/-- Acquiring an executor, as the script answers. -/
def acquire (s : Script ε α) : ExceptT Fault (Logged ε) ε :=
  ExceptT.mk (modifyGet fun calls => (s.acquired, calls ++ [.acquire]))

/-- Refreshing a stale executor, as the script answers. -/
def refresh (s : Script ε α) (stale : ε) : ExceptT Fault (Logged ε) ε :=
  ExceptT.mk (modifyGet fun calls => (s.refreshed stale, calls ++ [.refresh stale]))

/-- Running the action on an executor: the answer for as many runs as came before. -/
def act (s : Script ε α) (ex : ε) : ExceptT Fault (Logged ε) α :=
  ExceptT.mk (modifyGet fun calls => (s.answer (Call.runs calls).length ex, calls ++ [.run ex]))

/-- A backend whose pools follow the script; its other operations are those of `base`. -/
def backend (s : Script ε α) (base : Backend (Logged ε) ε) : Backend (Logged ε) ε :=
  { base with acquire := fun _ => s.acquire, refresh := fun _ stale => s.refresh stale }

@[simp] theorem backend_refresh (s : Script ε α) (base : Backend (Logged ε) ε)
    (conn : Connection.Config) (stale : ε) : (s.backend base).refresh conn stale = s.refresh stale :=
  rfl

@[simp] theorem backend_acquire (s : Script ε α) (base : Backend (Logged ε) ε)
    (conn : Connection.Config) : (s.backend base).acquire conn = s.acquire := rfl

theorem run_acquire (s : Script ε α) (calls : List (Call ε)) :
    s.acquire.run.run calls = (s.acquired, calls ++ [.acquire]) := rfl

theorem run_refresh (s : Script ε α) (stale : ε) (calls : List (Call ε)) :
    (s.refresh stale).run.run calls = (s.refreshed stale, calls ++ [.refresh stale]) := rfl

theorem run_act (s : Script ε α) (ex : ε) (calls : List (Call ε)) :
    (s.act ex).run.run calls = (s.answer (Call.runs calls).length ex, calls ++ [.run ex]) := rfl

end Script

theorem run_bind {σ β γ : Type} (x : ExceptT Fault (StateM σ) β)
    (f : β → ExceptT Fault (StateM σ) γ) (s : σ) :
    (x >>= f).run.run s = match x.run.run s with
      | (.ok b, s') => (f b).run.run s'
      | (.error e, s') => (.error e, s') := by
  simp only [ExceptT.run_bind, StateT.run_bind]
  rcases x.run.run s with ⟨_ | _, s'⟩ <;> rfl

theorem run_pure {σ β : Type} (b : β) (s : σ) :
    (pure b : ExceptT Fault (StateM σ) β).run.run s = (.ok b, s) := rfl

theorem run_throw {σ β : Type} (e : Fault) (s : σ) :
    (throw e : ExceptT Fault (StateM σ) β).run.run s = (.error e, s) := rfl

theorem run_ite {σ β : Type} (c : Prop) [Decidable c] (x y : ExceptT Fault (StateM σ) β) (s : σ) :
    (if c then x else y).run.run s = if c then x.run.run s else y.run.run s := by
  split <;> rfl

theorem run_caught {σ β : Type} (x : ExceptT Fault (StateM σ) β) (s : σ) :
    (caught x).run.run s = (.ok (x.run.run s).1, (x.run.run s).2) := rfl

@[simp] theorem code_wrap (c : Code) (e : Fault) (m : String) :
    (Fault.wrap c e m).code = c := rfl

@[simp] theorem unwrap_wrap (c : Code) (e : Fault) (m : String) :
    (Fault.wrap c e m).unwrap = some e := rfl

/-- How a read's execution ends on the outcome of its last attempt, on `ex`: with the value and
`ex`, or with a coded failure that wraps the error, a timeout exactly when the error's chain
holds an expired deadline and a query failure otherwise. -/
def Settles (outcome : Except Fault α) (ex : ε) (r : Except Fault (α × ε)) : Prop :=
  match outcome with
  | .ok a => r = .ok (a, ex)
  | .error e => ∃ f, r = .error f ∧ f.unwrap = some e ∧
      f.code = if e.holds .deadlineExceeded then .timeout else .queryExecution

/-- How a read's execution goes once it holds executor `x`: its result and the calls it made. -/
inductive Retries (s : Script ε α) (x : ε) : Except Fault (α × ε) × List (Call ε) → Prop
  /-- The first run settles it: it succeeded, or failed without a stale connection. -/
  | once {out} : Call.runs out.2 = [x] → (∀ e, s.answer 0 x = .error e → e.isStale = false) →
      Settles (s.answer 0 x) x out.1 → Retries s x out
  /-- The first run failed stale and the refresh failed: both failures settle it. -/
  | refreshFailed {out e e'} : Call.runs out.2 = [x] → s.answer 0 x = .error e →
      e.isStale = true → s.refreshed x = .error e' → Settles (.error (.joined [e, e'])) x out.1 →
      Retries s x out
  /-- The first run failed stale, the refresh gave `y`, and the second run, on `y`, settles it. -/
  | twice {out e y} : Call.runs out.2 = [x, y] → s.answer 0 x = .error e → e.isStale = true →
      s.refreshed x = .ok y → Settles (s.answer 1 y) y out.1 → Retries s x out

theorem Retries.runs_length_le {s : Script ε α} {x : ε} {out : Except Fault (α × ε) × List (Call ε)}
    (h : Retries s x out) : (Call.runs out.2).length ≤ 2 := by
  cases h with
  | once hr => simp [hr]
  | refreshFailed hr => simp [hr]
  | twice hr => simp [hr]

section

variable (s : Script ε α) (base : Backend (Logged ε) ε) (conn : Connection.Config)
  (serviceId entityName : String)

theorem classified {e : Fault} {ex : ε} {msgT msgF : String} {l : List (Call ε)} :
    let r : Except Fault (α × ε) × List (Call ε) :=
      if e.holds .deadlineExceeded = true then (.error (.wrap .timeout e msgT), l)
      else (.error (.wrap .queryExecution e msgF), l)
    r.2 = l ∧ Settles (.error e) ex r.1 := by
  by_cases hd : e.holds .deadlineExceeded <;> simp [hd, Settles]

variable {x : ε} {calls : List (Call ε)}

theorem execute_settles_first (hc : Call.runs calls = [])
    (h0 : ∀ e, s.answer 0 x = .error e → e.isStale = false) :
    let out := (execute (s.backend base) conn serviceId entityName (some x) s.act).run.run calls
    out.2 = calls ++ [.run x] ∧ Settles (s.answer 0 x) x out.1 := by
  intro out
  simp only [out, execute, run_bind, run_caught, run_pure, Script.run_act, hc, List.length_nil]
  rcases ha : s.answer 0 x with e | a
  · simp only [run_bind, run_pure, run_throw, run_ite, h0 e ha, Bool.false_eq_true, if_false]
    exact classified
  · exact ⟨rfl, rfl⟩

theorem execute_refresh_fails (hc : Call.runs calls = []) {e e' : Fault}
    (h0 : s.answer 0 x = .error e) (hs : e.isStale = true) (hr : s.refreshed x = .error e') :
    let out := (execute (s.backend base) conn serviceId entityName (some x) s.act).run.run calls
    out.2 = calls ++ [.run x, .refresh x] ∧ Settles (.error (.joined [e, e'])) x out.1 := by
  intro out
  simp only [out, execute, run_bind, run_caught, run_pure, run_throw, run_ite, Script.run_act,
    Script.backend_refresh, Script.run_refresh, hc, List.length_nil, h0, hs, hr, if_true,
    List.append_assoc, List.cons_append, List.nil_append]
  exact classified

theorem execute_retried (hc : Call.runs calls = []) {e : Fault} {y : ε}
    (h0 : s.answer 0 x = .error e) (hs : e.isStale = true) (hr : s.refreshed x = .ok y) :
    let out := (execute (s.backend base) conn serviceId entityName (some x) s.act).run.run calls
    out.2 = calls ++ [.run x, .refresh x, .run y] ∧ Settles (s.answer 1 y) y out.1 := by
  intro out
  simp only [out, execute, run_bind, run_caught, run_pure, Script.run_act, Script.backend_refresh,
    Script.run_refresh, hc, List.length_nil, h0, hs, hr, if_true, List.append_assoc,
    List.cons_append, List.nil_append, Call.runs_append, Call.runs_run, Call.runs_refresh,
    Call.runs_nil, List.length_cons, Nat.zero_add]
  -- the second run settles the execution on its own outcome
  rcases s.answer 1 y with e₁ | a
  · simp only [run_throw, run_ite]
    exact classified
  · exact ⟨rfl, rfl⟩

theorem execute_given (x : ε) {calls : List (Call ε)} (hc : Call.runs calls = []) :
    Retries s x ((execute (s.backend base) conn serviceId entityName (some x) s.act).run.run calls) := by
  by_cases hfirst : ∀ e, s.answer 0 x = .error e → e.isStale = false
  · obtain ⟨hlog, hset⟩ := execute_settles_first s base conn serviceId entityName hc hfirst
    exact .once (by simp [hlog, hc]) hfirst hset
  -- the first run failed stale
  obtain ⟨e, h0, hs⟩ : ∃ e, s.answer 0 x = .error e ∧ e.isStale = true := by
    simpa using hfirst
  rcases hr : s.refreshed x with e' | y
  · obtain ⟨hlog, hset⟩ := execute_refresh_fails s base conn serviceId entityName hc h0 hs hr
    exact .refreshFailed (by simp [hlog, hc]) h0 hs hr hset
  · obtain ⟨hlog, hset⟩ := execute_retried s base conn serviceId entityName hc h0 hs hr
    exact .twice (by simp [hlog, hc]) h0 hs hr hset

theorem execute_acquired {x : ε} (h : s.acquired = .ok x) (calls : List (Call ε)) :
    (execute (s.backend base) conn serviceId entityName none s.act).run.run calls =
      (execute (s.backend base) conn serviceId entityName (some x) s.act).run.run
        (calls ++ [.acquire]) := by
  simp only [execute, run_bind, run_caught, run_pure, wrapFailure, Script.backend_acquire,
    Script.run_acquire, h]

theorem execute_acquire_fails {e : Fault} (h : s.acquired = .error e) (calls : List (Call ε)) :
    ∃ f, (execute (s.backend base) conn serviceId entityName none s.act).run.run calls =
      (.error f, calls ++ [.acquire]) ∧ f.code = .queryExecution := by
  simp only [execute, run_bind, run_caught, wrapFailure, Script.backend, Script.run_acquire, h]
  exact ⟨_, rfl, rfl⟩

end

/-- Whatever the pools and the action do, a read's execution acquires an executor only when it
holds none, a failed acquisition is a query failure with no run, and once it holds an executor
the action runs once, or twice after a stale failure and a successful refresh, and the
execution settles on the last run (or on both failures when the refresh failed). -/
theorem execute_retries_stale_once (s : Script ε α) (base : Backend (Logged ε) ε)
    (conn : Connection.Config) (serviceId entityName : String) (given : Option ε) :
    let out := (execute (s.backend base) conn serviceId entityName given s.act).run.run []
    (Call.runs out.2).length ≤ 2 ∧
    (∀ e, given = none → s.acquired = .error e →
      Call.runs out.2 = [] ∧ ∃ f, out.1 = .error f ∧ f.code = .queryExecution) ∧
    ∀ x, (given = some x ∨ given = none ∧ s.acquired = .ok x) → Retries s x out := by
  intro out
  have hacq : ∀ e, given = none → s.acquired = .error e →
      Call.runs out.2 = [] ∧ ∃ f, out.1 = .error f ∧ f.code = .queryExecution := by
    intro e hg he
    obtain ⟨f, hf, hcode⟩ := execute_acquire_fails s base conn serviceId entityName he []
    simp only [out, hg, hf]
    exact ⟨rfl, f, rfl, hcode⟩
  have hheld : ∀ x, (given = some x ∨ given = none ∧ s.acquired = .ok x) → Retries s x out := by
    rintro x (rfl | ⟨rfl, hx⟩)
    · exact execute_given s base conn serviceId entityName x rfl
    · simp only [out, execute_acquired s base conn serviceId entityName hx]
      exact execute_given s base conn serviceId entityName x rfl
  refine ⟨?_, hacq, hheld⟩
  -- either an executor is held or the acquisition failed
  rcases given with _ | x
  · rcases hg : s.acquired with e | x
    · simp [(hacq e rfl hg).1]
    · exact (hheld x (.inr ⟨rfl, hg⟩)).runs_length_le
  · exact (hheld x (.inl rfl)).runs_length_le

end RowGate.Engine

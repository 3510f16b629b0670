import RowGate.Backend.Memory
/-!
# Steps over the memory

`Stays S x Q`: from a memory satisfying `S`, the action `x` leaves one satisfying `S` and answers
with a value satisfying `Q`; its rules follow the shape of a `do` block.
-/

namespace RowGate.Backend.Memory

variable {α β : Type}

theorem run_bind (x : ExceptT Fault (StateM Memory) α) (f : α → ExceptT Fault (StateM Memory) β)
    (mem : Memory) :
    (x >>= f).run.run mem = match x.run.run mem with
      | (.ok a, mem') => (f a).run.run mem'
      | (.error e, mem') => (.error e, mem') := by
  simp only [ExceptT.run_bind, StateT.run_bind]
  rcases x.run.run mem with ⟨_ | _, _⟩ <;> rfl

/-- An action on the memory that keeps `S` and, when it succeeds, answers with a value
satisfying `Q`. -/
def Stays (S : Memory → Prop) (x : ExceptT Fault (StateM Memory) α) (Q : α → Prop) : Prop :=
  ∀ mem, S mem → S (x.run.run mem).2 ∧ ∀ a, (x.run.run mem).1 = .ok a → Q a

namespace Stays

variable {S : Memory → Prop} {x : ExceptT Fault (StateM Memory) α} {Q R : α → Prop}

protected theorem pure {a : α} (h : Q a) : Stays S (pure a) Q := fun _ hs =>
  ⟨hs, fun b hb => by cases hb; exact h⟩

protected theorem throw {e : Fault} : Stays S (throw e) Q := fun _ hs =>
  ⟨hs, fun b hb => by cases hb⟩

protected theorem bind {f : α → ExceptT Fault (StateM Memory) β} {R : β → Prop}
    (hx : Stays S x Q) (hf : ∀ a, Q a → Stays S (f a) R) : Stays S (x >>= f) R := by
  intro mem hs
  obtain ⟨hstay, hres⟩ := hx mem hs
  rw [run_bind]
  rcases h : x.run.run mem with ⟨_ | a, mem'⟩
  · rw [h] at hstay
    exact ⟨hstay, fun b hb => by cases hb⟩
  · rw [h] at hstay hres
    exact hf a (hres a rfl) mem' hstay

theorem throw_bind {e : Fault} {f : α → ExceptT Fault (StateM Memory) β} {R : β → Prop} :
    Stays S (throw e >>= f) R :=
  (Stays.throw (Q := fun _ => False)).bind fun _ h => h.elim

theorem mono (hx : Stays S x Q) (h : ∀ a, Q a → R a) : Stays S x R := fun mem hs =>
  ⟨(hx mem hs).1, fun a ha => h a ((hx mem hs).2 a ha)⟩

theorem caught (hx : Stays S x Q) : Stays S (caught x) (fun r => ∀ a, r = .ok a → Q a) := by
  intro mem hs
  obtain ⟨hstay, hres⟩ := hx mem hs
  refine ⟨hstay, fun r hr a ha => hres a ?_⟩
  simp only [RowGate.caught, ExceptT.run_lift, StateT.run_map] at hr
  cases hr
  exact ha

theorem explainFailure {c : String} (hx : Stays S x Q) : Stays S (RowGate.explainFailure c x) Q := by
  refine hx.caught.bind fun r hr => ?_
  cases r with
  | ok a => exact Stays.pure (hr a rfl)
  | error e => exact Stays.throw

theorem wrapFailure {c : Code} {msg : String} (hx : Stays S x Q) :
    Stays S (RowGate.wrapFailure c msg x) Q := by
  refine hx.caught.bind fun r hr => ?_
  cases r with
  | ok a => exact Stays.pure (hr a rfl)
  | error e => exact Stays.throw

theorem lift {y : StateM Memory α} (hy : ∀ mem, S mem → S (y.run mem).2) :
    Stays S (liftM y) (fun _ => True) := by
  intro mem hs
  refine ⟨?_, fun _ _ => trivial⟩
  simp only [liftM, monadLift, MonadLift.monadLift, ExceptT.lift, ExceptT.run_mk, StateT.run_map]
  exact hy mem hs

theorem ite {c : Prop} [Decidable c] {t e : ExceptT Fault (StateM Memory) α}
    (ht : c → Stays S t Q) (he : ¬c → Stays S e Q) : Stays S (if c then t else e) Q := by
  by_cases hc : c
  · rw [if_pos hc]
    exact ht hc
  · rw [if_neg hc]
    exact he hc

theorem except {e : Except Fault α} :
    Stays S (monadLift e : ExceptT Fault (StateM Memory) α) (fun a => e = .ok a) := by
  intro mem hs
  cases e with
  | error err => exact ⟨hs, fun a ha => by cases ha⟩
  | ok a => exact ⟨hs, fun b hb => by cases hb; rfl⟩

protected theorem get : Stays S (get : ExceptT Fault (StateM Memory) Memory) S := fun _ hs =>
  ⟨hs, fun _ h => by cases h; exact hs⟩

protected theorem modify {f : Memory → Memory} (hf : ∀ mem, S mem → S (f mem)) :
    Stays S (modify f : ExceptT Fault (StateM Memory) PUnit) (fun _ => True) := fun mem hs =>
  ⟨hf mem hs, fun _ _ => trivial⟩

end Stays

/-! ### Scripted failures -/

/-- A condition on the memory that ignores its scripts. -/
def ScriptFree (S : Memory → Prop) : Prop := ∀ mem scripts, S mem → S { mem with scripts }

theorem takeFault_stays {S : Memory → Prop} (hS : ScriptFree S) (stage : Stage) (mem : Memory)
    (hs : S mem) : S ((takeFault stage).run mem).2 := by
  unfold takeFault
  simp only [StateT.run_bind, StateT.run_get, pure_bind]
  split
  · exact hs
  · split
    · exact hs
    · exact hs
    · exact hS _ _ hs

theorem stays_serve {S : Memory → Prop} (hS : ScriptFree S) {stage : Stage} {v : α} :
    Stays S (serve stage v) (· = v) := by
  unfold serve
  refine (Stays.lift (takeFault_stays hS stage)).bind fun o _ => ?_
  cases o with
  | some f => exact Stays.throw
  | none => exact Stays.pure rfl

end RowGate.Backend.Memory

import Mathlib
import RowGate.Engine.Read
/-!
# What resolving a read settles

Over any lawful monad, a resolved read carries its request, the access a field policy grants
and the scope a row policy gives the caller's role.
-/

namespace RowGate.Engine

open Policy

variable {ε : Type} {m : Type → Type} [Monad m] [LawfulMonad m]

theorem satisfiesM_bind_of {α β : Type} {p : β → Prop} {x : m α} {f : α → m β}
    (h : ∀ a, SatisfiesM p (f a)) : SatisfiesM p (x >>= f) :=
  SatisfiesM.bind_pre (SatisfiesM.of_true h)

theorem satisfiesM_throw_bind {α β : Type} {p : β → Prop} {e : Fault}
    {f : α → ExceptT Fault m β} : SatisfiesM p (throw e >>= f) := by
  refine SatisfiesM.bind (p := fun _ => False) ?_ fun a h => h.elim
  exact SatisfiesM_ExceptT_eq.2 (SatisfiesM.pure fun a h => nomatch h)

/-- What a resolved read carries: its request, the access a field policy grants the caller's
role on the live columns (some of them readable), and the scope a row policy gives the role. -/
structure Prepared.Resolves (o : Options) (rq : Request) (req : Prepared ε) : Prop where
  request_eq : req.request = rq
  access_eq : ∃ fps, req.access = resolveFields fps rq.caller.roleId (req.columns.map (·.name))
  readable_ne_nil : req.access.readable ≠ []
  scope_eq : ∃ rps, req.scope = resolveRows rps rq.caller.roleId rq.renderContext
    (req.columns.map (·.name)) req.entity.primaryKey o.failMode

/-- Every read that resolves is resolved for its caller: the steps before the result only
fail or pass values along, and the result is built from the policies it loaded. -/
theorem prepare_resolves (b : Backend m ε) (o : Options) (rq : Request) (ref : String) :
    SatisfiesM (Prepared.Resolves o rq) (prepare b o rq ref) := by
  unfold prepare
  refine satisfiesM_bind_of fun r => ?_
  dsimp only
  -- the entity lookup: found, absent, or failed
  split
  · rw [pure_bind]
    split
    · exact satisfiesM_throw_bind
    refine satisfiesM_bind_of fun conn => ?_
    refine satisfiesM_bind_of fun kind => ?_
    refine satisfiesM_bind_of fun ⟨columns, ex⟩ => ?_
    dsimp only
    split
    · exact satisfiesM_throw_bind
    refine satisfiesM_bind_of fun fps => ?_
    split
    · exact satisfiesM_throw_bind
    rename_i hread
    refine satisfiesM_bind_of fun rps => ?_
    exact SatisfiesM.pure ⟨rfl, ⟨fps, rfl⟩, by simpa using hread, ⟨rps, rfl⟩⟩
  · exact satisfiesM_throw_bind
  · exact satisfiesM_throw_bind

end RowGate.Engine

import Mathlib.Data.List.Induction
import RowGate.Proofs.Realtime.Registry
/-!
# Change detection

`Watch` follows one subscription through checks, reads and its end (`Tick`); `Agrees` ties it
to its ticks, and `changes_offered_exactly` reads the offered and received events off it.
-/

namespace RowGate.Realtime

open Engine

theorem find?_map_of_comp {α β : Type} {l : List α} {p : β → Bool} {q : α → Bool} {g : α → β}
    (h : ∀ a, p (g a) = q a) : (l.map g).find? p = (l.find? q).map g := by
  rw [List.find?_map, show p ∘ g = q from funext h]

theorem find?_map_of_found {α : Type} {l : List α} {p : α → Bool} {g h : α → α}
    (hp : ∀ a, p (g a) = p a) (hg : ∀ a, p a = true → g a = h a) :
    (l.map g).find? p = (l.find? p).map h := by
  rw [find?_map_of_comp hp]
  apply Option.map_congr
  intro a ha
  exact hg a (List.find?_some ha)

theorem Subscription.change_with_last (sub : Subscription) (l : Option UInt64) :
    { sub with last := l }.change = sub.change := rfl

/-- The page a listing gave and its checksum, when the listing succeeded and the page has one. -/
def pageOf : Except Fault (Envelope × Handler) → Option (Envelope × UInt64)
  | .error _ => none
  | .ok (env, _) => (pageChecksum env).toOption.map (env, ·)

theorem pageOf_eq_some {r : Except Fault (Envelope × Handler)} {env : Envelope} {sum : UInt64} :
    pageOf r = some (env, sum) ↔ ∃ eng, r = .ok (env, eng) ∧ pageChecksum env = .ok sum := by
  rcases r with _ | ⟨env', eng⟩
  · simp [pageOf]
  · rcases hc : pageChecksum env' with _ | sum' <;> simp [pageOf, hc, Except.toOption] <;> grind

namespace Service

/-- The feed of a subscription: the first one filed under its id. -/
def feedOf (s : Service) (id : String) : Option Feed := (s.feeds.find? (·.1 == id)).map Prod.snd

/-- The events waiting in a subscription's feed. -/
def pending (s : Service) (id : String) : List Event := ((s.feedOf id).map Feed.events).getD []

/-- One check of a subscription, given what its listing gave: the event it offers, if any, and
the service after. A subscription that is not live is not checked. -/
def checkWith (s : Service) (id : String) (listing : Except Fault (Envelope × Handler)) :
    Option Event × Service :=
  match s.subscriptions.find? (·.id == id) with
  | none => (none, s)
  | some sub => s.observe sub listing

variable {s : Service} {sub : Subscription} {id : String}

section Check

variable {m : Type → Type} [Monad m] {ε : Type} (b : Backend m ε) (e : Handler)

/-- A check of an id that is not live lists nothing and changes nothing. -/
theorem check_of_find?_none (h : s.subscriptions.find? (·.id == id) = none) :
    check b e s id = pure s := by
  simp [check, h]

/-- A check of a live subscription runs its listing, then does what `checkWith` does with it. -/
theorem check_of_find?_some [LawfulMonad m] (h : s.subscriptions.find? (·.id == id) = some sub) :
    check b e s id =
      (fun r => (s.checkWith id r).2) <$> (e.list b sub.request sub.entity sub.params).run := by
  rw [map_eq_pure_bind]
  simp only [check, checkWith, h]

end Check

theorem checkWith_of_find?_none (h : s.subscriptions.find? (·.id == id) = none)
    (r : Except Fault (Envelope × Handler)) : s.checkWith id r = (none, s) := by
  simp [checkWith, h]

theorem checkWith_of_find?_some (h : s.subscriptions.find? (·.id == id) = some sub)
    (r : Except Fault (Envelope × Handler)) : s.checkWith id r = s.observe sub r := by
  simp [checkWith, h]

/-! ### One observation

What a check makes of a listing, by the page it saw and the subscription's baseline. -/

theorem observe_of_pageOf_none {r : Except Fault (Envelope × Handler)} (h : pageOf r = none) :
    s.observe sub r = (none, s) := by
  rcases r with _ | ⟨env, _⟩
  · rfl
  · rcases hc : pageChecksum env with _ | sum
    · simp [observe, hc]
    · simp [pageOf, hc, Except.toOption] at h

section Seen

variable {r : Except Fault (Envelope × Handler)} {env : Envelope} {sum : UInt64}

theorem observe_first (h : pageOf r = some (env, sum)) (hl : sub.last = none) :
    s.observe sub r = (none, s.setLast sub.id sum) := by
  obtain ⟨_, rfl, hc⟩ := pageOf_eq_some.1 h
  simp [observe, hc, hl]

theorem observe_same (h : pageOf r = some (env, sum)) (hl : sub.last = some sum) :
    s.observe sub r = (none, s) := by
  obtain ⟨_, rfl, hc⟩ := pageOf_eq_some.1 h
  simp [observe, hc, hl]

theorem observe_changed {c : UInt64} (h : pageOf r = some (env, sum)) (hl : sub.last = some c)
    (hc : c ≠ sum) :
    s.observe sub r = (some (sub.change env sum), (s.setLast sub.id sum).send (sub.change env sum)) := by
  obtain ⟨_, rfl, hsum⟩ := pageOf_eq_some.1 h
  simp [observe, hsum, hl, hc]

end Seen

/-! ### Feeds -/

theorem feedOf_updateFeed (s : Service) (id : String) (g : Feed → Feed) :
    (s.updateFeed id g).feedOf id = (s.feedOf id).map g := by
  unfold feedOf updateFeed
  rw [find?_map_of_found (h := fun p => (p.1, g p.2)) (by rintro ⟨k, x⟩; dsimp only; split <;> rfl)
    (by rintro ⟨k, x⟩ hk; simp_all), Option.map_map, Option.map_map]
  rfl

theorem feedOf_send (s : Service) (ev : Event) :
    (s.send ev).feedOf ev.subscription = (s.feedOf ev.subscription).map fun f =>
      if f.closed || s.buffer ≤ f.events.length then f else { f with events := f.events ++ [ev] } :=
  feedOf_updateFeed _ _ _

@[simp] theorem feedOf_setLast (s : Service) (id k : String) (sum : UInt64) :
    (s.setLast id sum).feedOf k = s.feedOf k := rfl

@[simp] theorem feedOf_remove (s : Service) (id k : String) : (s.remove id).2.feedOf k = s.feedOf k := by
  rw [feedOf, remove_feeds]
  rfl

theorem feedOf_release (s : Service) (sub : Subscription) :
    (s.release sub).feedOf sub.id = (s.feedOf sub.id).map fun f => { f with closed := true } := by
  rw [release, feedOf_updateFeed, dropRoute_eq]
  rfl

theorem feedOf_drain (s : Service) (id : String) :
    s.drain.2.feedOf id = (s.feedOf id).map fun f => { f with events := [], ended := f.closed } := by
  unfold feedOf drain
  rw [find?_map_of_comp (q := (·.1 == id)) (fun _ => rfl), Option.map_map, Option.map_map]
  rfl

theorem pending_drain (s : Service) (id : String) : s.drain.2.pending id = [] := by
  rw [pending, feedOf_drain]
  cases s.feedOf id <;> rfl

@[simp] theorem pending_setLast (s : Service) (id k : String) (sum : UInt64) :
    (s.setLast id sum).pending k = s.pending k := rfl

theorem send_of_open {ev : Event} {f : Feed} (hf : s.feedOf ev.subscription = some f)
    (hopen : f.closed = false) :
    (s.send ev).feedOf ev.subscription = some (if f.events.length < s.buffer then
      { f with events := f.events ++ [ev] } else f) := by
  rw [feedOf_send, hf, Option.map_some, hopen, Bool.false_or]
  by_cases hlen : f.events.length < s.buffer
  · simp [hlen, Nat.not_le.2 hlen]
  · simp [hlen, Nat.le_of_not_lt hlen]

/-- What a subscriber reads off a drain of the feeds: the events of its own. -/
def readOf (out : List (String × List Event × Bool)) (id : String) : List Event :=
  ((out.find? (·.1 == id)).map (·.2.1)).getD []

theorem readOf_drain (s : Service) (id : String) : readOf s.drain.1 id = s.pending id := by
  unfold readOf pending feedOf drain
  rw [find?_map_of_comp (q := (·.1 == id)) (fun _ => rfl), Option.map_map, Option.map_map]
  rfl

/-! ### Subscriptions -/

theorem find?_setLast (s : Service) (id : String) (sum : UInt64) :
    (s.setLast id sum).subscriptions.find? (·.id == id) =
      (s.subscriptions.find? (·.id == id)).map fun x => { x with last := some sum } := by
  unfold setLast
  exact find?_map_of_found (by intro x; split <;> rfl) (by intro x hx; simp [hx])

theorem unsubscribe_of_find?_none (h : s.subscriptions.find? (·.id == id) = none) :
    (s.unsubscribe id).2 = s := by
  simp [unsubscribe, remove_of_find?_none h]

theorem unsubscribe_of_find?_some (h : s.subscriptions.find? (·.id == id) = some sub) :
    (s.unsubscribe id).2 = (s.remove id).2.release sub := by
  simp [unsubscribe, remove_of_find?_some h]

theorem find?_unsubscribe (s : Service) (id : String) :
    (s.unsubscribe id).2.subscriptions.find? (·.id == id) = none := by
  have hsubs : (s.unsubscribe id).2.subscriptions = s.subscriptions.filter (·.id != id) := by
    rcases h : s.subscriptions.find? (·.id == id) with _ | sub
    · rw [unsubscribe_of_find?_none h, ← remove_subscriptions, remove_of_find?_none h]
    · rw [unsubscribe_of_find?_some h, release_subscriptions, remove_subscriptions]
  rw [hsubs, List.find?_eq_none]
  intro x hx
  simpa using (List.mem_filter.1 hx).2

@[simp] theorem unsubscribe_buffer (s : Service) (id : String) :
    (s.unsubscribe id).2.buffer = s.buffer := by
  rcases h : s.subscriptions.find? (·.id == id) with _ | sub
  · rw [unsubscribe_of_find?_none h]
  · rw [unsubscribe_of_find?_some h, release, updateFeed, dropRoute_eq, remove_of_find?_some h]

end Service

/-! ### Following one subscription -/

/-- What befalls a subscription: a check, given what its listing gave; a read of the feeds by
their subscribers; or its end. -/
inductive Tick where
  | check (listing : Except Fault (Envelope × Handler))
  | read
  | close

/-- Whether a tick ends the subscription. -/
def Tick.ends : Tick → Bool
  | .close => true
  | _ => false

/-- A service followed from one subscription: the events its checks offered to the feed, each
with the number of events waiting in the feed then, and the events its subscriber read. -/
structure Watch where
  service : Service
  offered : List (Event × Nat) := []
  received : List Event := []

namespace Watch

/-- One tick in the life of the subscription `id`. -/
def step (id : String) (w : Watch) : Tick → Watch
  | .check r =>
    { w with service := (w.service.checkWith id r).2
             offered := w.offered ++ (w.service.checkWith id r).1.toList.map
               fun ev => (ev, (w.service.pending id).length) }
  | .read =>
    { w with service := w.service.drain.2
             received := w.received ++ Service.readOf w.service.drain.1 id }
  | .close => { w with service := (w.service.unsubscribe id).2 }

/-- Ticks one after another. -/
def run (id : String) (w : Watch) (ticks : List Tick) : Watch := ticks.foldl (step id) w

theorem run_concat (id : String) (w : Watch) (ticks : List Tick) (t : Tick) :
    w.run id (ticks ++ [t]) = (w.run id ticks).step id t := by
  simp [run, List.foldl_append]

variable {w : Watch} {id : String} {r : Except Fault (Envelope × Handler)}

theorem step_check_of {ev : Option Event} {s : Service} (h : w.service.checkWith id r = (ev, s)) :
    w.step id (.check r) = { w with service := s, offered := w.offered ++
      (ev.toList.map fun e => (e, (w.service.pending id).length)) } := by
  simp [step, h]

theorem step_check_of_none (h : w.service.checkWith id r = (none, w.service)) :
    w.step id (.check r) = w := by
  rw [step_check_of h]
  simp

end Watch

/-! ### What a run should do -/

/-- The listings of the checks made before the subscription ends. -/
def listings : List Tick → List (Except Fault (Envelope × Handler))
  | [] => []
  | .check r :: ticks => r :: listings ticks
  | .read :: ticks => listings ticks
  | .close :: _ => []

/-- The pages seen before the subscription ends, each with its checksum. -/
def seen (ticks : List Tick) : List (Envelope × UInt64) := (listings ticks).filterMap pageOf

/-- The pages, after the first, whose checksum differs from that of the page before. -/
def changes (ps : List (Envelope × UInt64)) : List (Envelope × UInt64) :=
  (ps.zip ps.tail).filterMap fun (p, q) => if p.2 = q.2 then none else some q

section Spec

variable {ts : List Tick}

theorem listings_append_of_ends (h : ts.any Tick.ends = true) (us : List Tick) :
    listings (ts ++ us) = listings ts := by
  induction ts with
  | nil => simp at h
  | cons t ts ih =>
    rw [List.any_cons] at h
    cases t with
    | check r => rw [List.cons_append, listings, listings, ih (by simpa [Tick.ends] using h)]
    | read => rw [List.cons_append, listings, listings, ih (by simpa [Tick.ends] using h)]
    | close => rfl

theorem listings_append_of_live (h : ts.any Tick.ends = false) (us : List Tick) :
    listings (ts ++ us) = listings ts ++ listings us := by
  induction ts with
  | nil => rfl
  | cons t ts ih =>
    rw [List.any_cons] at h
    cases t with
    | check r =>
      rw [List.cons_append, listings, listings, ih (by simpa [Tick.ends] using h), List.cons_append]
    | read => rw [List.cons_append, listings, listings, ih (by simpa [Tick.ends] using h)]
    | close => simp [Tick.ends] at h

theorem seen_append_of_ends (h : ts.any Tick.ends = true) (us : List Tick) :
    seen (ts ++ us) = seen ts := by
  rw [seen, listings_append_of_ends h, seen]

theorem seen_append_of_live (h : ts.any Tick.ends = false) (us : List Tick) :
    seen (ts ++ us) = seen ts ++ seen us := by
  rw [seen, listings_append_of_live h, List.filterMap_append, seen, seen]

theorem seen_concat_of_not_check {t : Tick} (ht : ∀ r, t ≠ .check r) : seen (ts ++ [t]) = seen ts := by
  cases hend : ts.any Tick.ends
  · rw [seen_append_of_live hend]
    cases t with
    | check r => exact absurd rfl (ht r)
    | read => simp [seen, listings]
    | close => simp [seen, listings]
  · exact seen_append_of_ends hend _

theorem seen_concat_check (h : ts.any Tick.ends = false) {r : Except Fault (Envelope × Handler)}
    {q : Option (Envelope × UInt64)} (hp : pageOf r = q) : seen (ts ++ [.check r]) = seen ts ++ q.toList := by
  rw [seen_append_of_live h, ← hp]
  simp only [seen, listings, List.filterMap_cons, List.filterMap_nil]
  cases pageOf r <;> rfl

theorem zip_tail_concat {α : Type} (l : List α) (b : α) :
    (l ++ [b]).zip (l ++ [b]).tail = l.zip l.tail ++ (l.getLast?.map (·, b)).toList := by
  induction l with
  | nil => rfl
  | cons a l ih =>
    cases l with
    | nil => rfl
    | cons c l =>
      simp only [List.cons_append, List.tail_cons, List.zip_cons_cons, List.getLast?_cons_cons] at ih ⊢
      rw [ih]

theorem changes_concat {ps : List (Envelope × UInt64)} {p : Envelope × UInt64} (h : ps.getLast? = some p)
    (q : Envelope × UInt64) : changes (ps ++ [q]) = changes ps ++ if p.2 = q.2 then [] else [q] := by
  rw [changes, zip_tail_concat, h, List.filterMap_append, changes]
  by_cases hq : p.2 = q.2 <;> simp [hq]

end Spec

/-! ### The invariant -/

/-- What a watch of `sub` owes the ticks it ran. It offered the changes among the pages seen,
each as the subscription's event of that page. Until the end the subscription is live, with the
checksum of the last page seen as its baseline, and its feed is open; after it, neither. And
the subscriber has read, or finds waiting, the events `E` first waiting and then every event
offered while fewer than `B` waited. -/
structure Agrees (sub : Subscription) (E : List Event) (B : Nat) (w : Watch) (ticks : List Tick) :
    Prop where
  offered : w.offered.map Prod.fst = (changes (seen ticks)).map fun p => sub.change p.1 p.2
  live : w.service.subscriptions.find? (·.id == sub.id) =
    if ticks.any Tick.ends then none else some { sub with last := (seen ticks).getLast?.map Prod.snd }
  feed : ∃ f, w.service.feedOf sub.id = some f ∧ f.closed = ticks.any Tick.ends
  delivered : w.received ++ w.service.pending sub.id = E ++ (w.offered.filter (·.2 < B)).map Prod.fst
  buffer : w.service.buffer = B

namespace Agrees

variable {sub : Subscription} {E : List Event} {B : Nat} {w : Watch} {ts : List Tick}

theorem start {s : Service} {f : Feed} (hsub : s.subscriptions.find? (·.id == sub.id) = some sub)
    (hfresh : sub.last = none) (hfeed : s.feedOf sub.id = some f) (hopen : f.closed = false) :
    Agrees sub f.events s.buffer { service := s } [] where
  offered := rfl
  live := by
    have hsame : { sub with last := none } = sub := by cases sub; simp_all
    simpa [seen, listings, hsame] using hsub
  feed := ⟨f, hfeed, hopen⟩
  delivered := by simp [Service.pending, hfeed]
  buffer := rfl

theorem congr {ts' : List Tick} (h : Agrees sub E B w ts)
    (hchanges : changes (seen ts') = changes (seen ts))
    (hlast : (seen ts').getLast?.map Prod.snd = (seen ts).getLast?.map Prod.snd)
    (hends : ts'.any Tick.ends = ts.any Tick.ends) : Agrees sub E B w ts' where
  offered := by rw [hchanges]; exact h.offered
  live := by rw [hlast, hends]; exact h.live
  feed := by rw [hends]; exact h.feed
  delivered := h.delivered
  buffer := h.buffer

theorem find?_of_live (h : Agrees sub E B w ts) (hend : ts.any Tick.ends = false) :
    w.service.subscriptions.find? (·.id == sub.id) =
      some { sub with last := (seen ts).getLast?.map Prod.snd } := by
  rw [h.live, hend]
  rfl

theorem find?_of_ended (h : Agrees sub E B w ts) (hend : ts.any Tick.ends = true) :
    w.service.subscriptions.find? (·.id == sub.id) = none := by
  rw [h.live, hend]
  rfl

section Check

variable {r : Except Fault (Envelope × Handler)} {env : Envelope} {sum : UInt64}

theorem check_ended (h : Agrees sub E B w ts) (hend : ts.any Tick.ends = true) :
    Agrees sub E B (w.step sub.id (.check r)) (ts ++ [.check r]) := by
  rw [Watch.step_check_of_none (Service.checkWith_of_find?_none (h.find?_of_ended hend) r)]
  exact h.congr (by rw [seen_append_of_ends hend]) (by rw [seen_append_of_ends hend])
    (by simp [hend])

theorem check_unseen (h : Agrees sub E B w ts) (hend : ts.any Tick.ends = false)
    (hp : pageOf r = none) : Agrees sub E B (w.step sub.id (.check r)) (ts ++ [.check r]) := by
  rw [Watch.step_check_of_none ((Service.checkWith_of_find?_some (h.find?_of_live hend) r).trans
    (Service.observe_of_pageOf_none hp))]
  have hseen : seen (ts ++ [.check r]) = seen ts := by
    rw [seen_concat_check hend hp, Option.toList_none, List.append_nil]
  exact h.congr (by rw [hseen]) (by rw [hseen]) (by simp [hend, Tick.ends])

theorem check_first (h : Agrees sub E B w ts) (hend : ts.any Tick.ends = false)
    (hp : pageOf r = some (env, sum)) (hfirst : seen ts = []) :
    Agrees sub E B (w.step sub.id (.check r)) (ts ++ [.check r]) := by
  have hfind := h.find?_of_live hend
  rw [Watch.step_check_of ((Service.checkWith_of_find?_some hfind r).trans
    (Service.observe_first hp (by simp [hfirst])))]
  have hseen : seen (ts ++ [.check r]) = [(env, sum)] := by
    rw [seen_concat_check hend hp, hfirst]
    rfl
  have hends : (ts ++ [Tick.check r]).any Tick.ends = false := by simp [hend, Tick.ends]
  obtain ⟨f, hf, hclosed⟩ := h.feed
  refine ⟨?_, ?_, ⟨f, hf, by rw [hclosed, hends, hend]⟩, by simpa using h.delivered, h.buffer⟩
  · simpa [hseen, hfirst, changes] using h.offered
  · rw [hends, hseen, Service.find?_setLast, hfind]
    rfl

theorem check_same (h : Agrees sub E B w ts) (hend : ts.any Tick.ends = false)
    (hp : pageOf r = some (env, sum)) {p : Envelope × UInt64} (hlast : (seen ts).getLast? = some p)
    (hsum : p.2 = sum) : Agrees sub E B (w.step sub.id (.check r)) (ts ++ [.check r]) := by
  rw [Watch.step_check_of_none ((Service.checkWith_of_find?_some (h.find?_of_live hend) r).trans
    (Service.observe_same hp (by simp [hlast, hsum])))]
  have hseen : seen (ts ++ [.check r]) = seen ts ++ [(env, sum)] := seen_concat_check hend hp
  refine h.congr ?_ ?_ (by simp [hend, Tick.ends])
  · rw [hseen, changes_concat hlast, if_pos hsum, List.append_nil]
  · simp [hseen, hlast, hsum]

theorem check_changed (h : Agrees sub E B w ts) (hend : ts.any Tick.ends = false)
    (hp : pageOf r = some (env, sum)) {p : Envelope × UInt64} (hlast : (seen ts).getLast? = some p)
    (hsum : p.2 ≠ sum) : Agrees sub E B (w.step sub.id (.check r)) (ts ++ [.check r]) := by
  have hfind := h.find?_of_live hend
  rw [Watch.step_check_of ((Service.checkWith_of_find?_some hfind r).trans
    (Service.observe_changed hp (by simp [hlast]) hsum)), Subscription.change_with_last]
  have hseen : seen (ts ++ [.check r]) = seen ts ++ [(env, sum)] := seen_concat_check hend hp
  have hends : (ts ++ [Tick.check r]).any Tick.ends = false := by simp [hend, Tick.ends]
  obtain ⟨f, hf, hclosed⟩ := h.feed
  have hopen : f.closed = false := hclosed.trans hend
  -- the event names the subscription, whose feed is open
  have hsend : ((w.service.setLast sub.id sum).send (sub.change env sum)).feedOf sub.id =
      some (if f.events.length < w.service.buffer then
        { f with events := f.events ++ [sub.change env sum] } else f) :=
    Service.send_of_open hf hopen
  have hpending : w.service.pending sub.id = f.events := by simp [Service.pending, hf]
  refine ⟨?_, ?_, ⟨_, hsend, ?_⟩, ?_, h.buffer⟩
  · simp [hseen, changes_concat hlast, hsum, h.offered]
  · rw [hends, hseen, Service.send_subscriptions, Service.find?_setLast, hfind]
    simp
  · split <;> simp [hopen, hends]
  · have hafter : ((w.service.setLast sub.id sum).send (sub.change env sum)).pending sub.id =
        if f.events.length < B then f.events ++ [sub.change env sum] else f.events := by
      rw [Service.pending, hsend, h.buffer]
      split <;> rfl
    dsimp only
    rw [hafter, hpending, List.filter_append, List.map_append, ← List.append_assoc, ← h.delivered,
      hpending]
    by_cases hlen : f.events.length < B <;> simp [hlen]

end Check

theorem check (h : Agrees sub E B w ts) (r : Except Fault (Envelope × Handler)) :
    Agrees sub E B (w.step sub.id (.check r)) (ts ++ [.check r]) := by
  cases hend : ts.any Tick.ends
  case true => exact h.check_ended hend
  case false =>
    rcases hp : pageOf r with _ | ⟨env, sum⟩
    · exact h.check_unseen hend hp
    · rcases hlast : (seen ts).getLast? with _ | p
      · exact h.check_first hend hp (List.getLast?_eq_none_iff.1 hlast)
      · by_cases hsum : p.2 = sum
        · exact h.check_same hend hp hlast hsum
        · exact h.check_changed hend hp hlast hsum

theorem read (h : Agrees sub E B w ts) : Agrees sub E B (w.step sub.id .read) (ts ++ [.read]) := by
  have hseen : seen (ts ++ [.read]) = seen ts := seen_concat_of_not_check (by intro _ h; cases h)
  have hends : (ts ++ [Tick.read]).any Tick.ends = ts.any Tick.ends := by simp [Tick.ends]
  obtain ⟨f, hf, hclosed⟩ := h.feed
  refine ⟨?_, ?_, ⟨{ f with events := [], ended := f.closed }, ?_, ?_⟩, ?_, h.buffer⟩
  · rw [hseen]
    exact h.offered
  · rw [hseen, hends]
    exact h.live
  · rw [Watch.step, Service.feedOf_drain, hf]
    rfl
  · rw [hends]
    exact hclosed
  · simp only [Watch.step]
    rw [Service.readOf_drain, Service.pending_drain, List.append_nil]
    exact h.delivered

theorem close (h : Agrees sub E B w ts) : Agrees sub E B (w.step sub.id .close) (ts ++ [.close]) := by
  have hseen : seen (ts ++ [.close]) = seen ts := seen_concat_of_not_check (by intro _ h; cases h)
  have hends : (ts ++ [Tick.close]).any Tick.ends = true := by simp [Tick.ends]
  cases hend : ts.any Tick.ends
  case true =>
    have hw : w.step sub.id .close = w := by
      simp [Watch.step, Service.unsubscribe_of_find?_none (h.find?_of_ended hend)]
    rw [hw]
    exact h.congr (by rw [hseen]) (by rw [hseen]) (by rw [hends, hend])
  case false =>
    have hw := Service.unsubscribe_of_find?_some (h.find?_of_live hend)
    obtain ⟨f, hf, -⟩ := h.feed
    have hfeed : (w.step sub.id .close).service.feedOf sub.id = some { f with closed := true } := by
      rw [Watch.step, hw]
      exact (Service.feedOf_release _ _).trans (by rw [Service.feedOf_remove, hf]; rfl)
    have hpending : (w.step sub.id .close).service.pending sub.id = w.service.pending sub.id := by
      simp [Service.pending, hfeed, hf]
    refine ⟨?_, ?_, ⟨_, hfeed, by rw [hends]⟩, ?_, ?_⟩
    · rw [hseen]
      exact h.offered
    · rw [hends]
      exact Service.find?_unsubscribe _ _
    · rw [hpending]
      exact h.delivered
    · exact (Service.unsubscribe_buffer _ _).trans h.buffer

theorem step (h : Agrees sub E B w ts) : ∀ t, Agrees sub E B (w.step sub.id t) (ts ++ [t])
  | .check r => h.check r
  | .read => h.read
  | .close => h.close

theorem run (h : Agrees sub E B w []) (ticks : List Tick) :
    Agrees sub E B (w.run sub.id ticks) ticks := by
  induction ticks using List.reverseRecOn with
  | nil => exact h
  | append_singleton ts t ih =>
    rw [Watch.run_concat]
    exact ih.step t

end Agrees

/-- Change detection, over any life of a subscription made with no baseline and an open feed,
whatever its listings give and whenever its subscriber reads. The events offered are, in order,
the pages seen after the first whose checksum differs from that of the page seen before, each
with its own checksum, total and rows. Until it ends the subscription is live with the checksum
of the last page seen as its baseline, and after its end it is gone, so nothing more is offered.
The subscriber gets, in order, the events first waiting and then each offered event that found
fewer than `buffer` events waiting; the others are dropped. -/
theorem changes_offered_exactly {s : Service} {sub : Subscription} {f : Feed}
    (hsub : s.subscriptions.find? (·.id == sub.id) = some sub) (hfresh : sub.last = none)
    (hfeed : s.feedOf sub.id = some f) (hopen : f.closed = false) (ticks : List Tick) :
    (Watch.run sub.id { service := s } ticks).offered.map Prod.fst =
        (changes (seen ticks)).map (fun p => sub.change p.1 p.2) ∧
      (Watch.run sub.id { service := s } ticks).service.subscriptions.find? (·.id == sub.id) =
        (if ticks.any Tick.ends then none
          else some { sub with last := (seen ticks).getLast?.map Prod.snd }) ∧
      (Watch.run sub.id { service := s } ticks).received ++
          (Watch.run sub.id { service := s } ticks).service.pending sub.id =
        f.events ++ ((Watch.run sub.id { service := s } ticks).offered.filter (·.2 < s.buffer)).map
          Prod.fst := by
  have h := (Agrees.start hsub hfresh hfeed hopen).run ticks
  exact ⟨h.offered, h.live, h.delivered⟩

/-- A subscription on a service whose feeds hold one event sees the same page twice, a failed
listing and two new pages, and then its subscriber reads. Each new page is offered, the second
while the first still waits, so only the first is received. -/
theorem changes_offered_exactly_pages :
    let page (n : Int) : Engine.Envelope :=
      { data := [], page := 1, pageSize := 10, total := n, hasNext := false }
    let h : Handler := Handler.new {} none false
    let s : Service := ({ buffer := 1 } : Service).link default
    let ticks : List Tick := [.check (.ok (page 0, h)), .check (.ok (page 0, h)),
      .check (.error (.plain "down")), .check (.ok (page 1, h)), .check (.ok (page 2, h)), .read,
      .close]
    let w := Watch.run (default : Subscription).id { service := s } ticks
    s.subscriptions.find? (·.id == (default : Subscription).id) = some default ∧
      (default : Subscription).last = none ∧ s.feedOf (default : Subscription).id = some {} ∧
      ({} : Feed).closed = false ∧
      (changes (seen ticks)).map (·.1.total) = [1, 2] ∧ w.offered.map Prod.snd = [0, 1] ∧
      w.received.map (·.total) = [1] ∧
      (w.offered.map Prod.fst =
          (changes (seen ticks)).map (fun p => (default : Subscription).change p.1 p.2) ∧
        w.service.subscriptions.find? (·.id == (default : Subscription).id) =
          (if ticks.any Tick.ends then none
            else some { (default : Subscription) with last := (seen ticks).getLast?.map Prod.snd }) ∧
        w.received ++ w.service.pending (default : Subscription).id =
          ({} : Feed).events ++ (w.offered.filter (·.2 < s.buffer)).map Prod.fst) := by
  intro page h s ticks w
  -- the checksums are computed: the repeated page has its own, each new page another
  exact ⟨rfl, rfl, rfl, rfl, by decide +kernel, by decide +kernel, by decide +kernel,
    changes_offered_exactly rfl rfl rfl rfl ticks⟩

end RowGate.Realtime

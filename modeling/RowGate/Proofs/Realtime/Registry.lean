import Mathlib.Logic.Function.Basic
import RowGate.Proofs.Realtime.Index
/-!
# Subscriptions under concurrent calls

Every step of a call keeps `Registry.Inv`, and every reachable state keeps the service's
promises (`run_registry_safe`), save a shutdown answering before a release in flight.
-/

namespace RowGate.Realtime

/-! ### Feeds -/

namespace Service

variable {s : Service}

theorem keys_updateFeed (s : Service) (id : String) (f : Feed → Feed) :
    (s.updateFeed id f).feeds.map Prod.fst = s.feeds.map Prod.fst := by
  simp only [updateFeed, List.map_map]
  apply List.map_congr_left
  rintro ⟨k, x⟩ -
  simp only [Function.comp]
  split <;> rfl

theorem mem_updateFeed {id : String} {f : Feed → Feed} {p : String × Feed} :
    p ∈ (s.updateFeed id f).feeds ↔ ∃ x, (p.1, x) ∈ s.feeds ∧ p.2 = if p.1 = id then f x else x := by
  simp only [updateFeed, List.mem_map, Prod.exists]
  constructor
  · rintro ⟨k, x, hmem, rfl⟩
    by_cases hk : k = id
    · subst hk
      exact ⟨x, by simpa using hmem, by simp⟩
    · exact ⟨x, by simpa [hk] using hmem, by simp [hk]⟩
  · obtain ⟨k, y⟩ := p
    rintro ⟨x, hmem, hp⟩
    refine ⟨k, x, hmem, ?_⟩
    by_cases hk : k = id
    · subst hk
      simp_all
    · simp_all

theorem keys_release (s : Service) (sub : Subscription) :
    (s.release sub).feeds.map Prod.fst = s.feeds.map Prod.fst := by
  rw [release, keys_updateFeed, dropRoute_eq]

theorem mem_release {sub : Subscription} {p : String × Feed} :
    p ∈ (s.release sub).feeds ↔
      ∃ x, (p.1, x) ∈ s.feeds ∧ p.2 = if p.1 = sub.id then { x with closed := true } else x := by
  rw [release, mem_updateFeed, dropRoute_eq]

theorem keys_send (s : Service) (ev : Event) : (s.send ev).feeds.map Prod.fst = s.feeds.map Prod.fst :=
  keys_updateFeed _ _ _

theorem closed_of_mem_send {ev : Event} {p : String × Feed} (h : p ∈ (s.send ev).feeds) :
    ∃ x, (p.1, x) ∈ s.feeds ∧ p.2.closed = x.closed := by
  obtain ⟨x, hx, hp⟩ := mem_updateFeed.1 h
  refine ⟨x, hx, ?_⟩
  rw [hp]
  split
  · split <;> rfl
  · rfl

@[simp] theorem send_subscriptions (s : Service) (ev : Event) :
    (s.send ev).subscriptions = s.subscriptions := rfl

@[simp] theorem send_closed (s : Service) (ev : Event) : (s.send ev).closed = s.closed := rfl

@[simp] theorem setLast_feeds (s : Service) (id : String) (sum : UInt64) :
    (s.setLast id sum).feeds = s.feeds := rfl

@[simp] theorem setLast_closed (s : Service) (id : String) (sum : UInt64) :
    (s.setLast id sum).closed = s.closed := rfl

theorem ids_setLast (s : Service) (id : String) (sum : UInt64) :
    (s.setLast id sum).subscriptions.map Subscription.id = s.subscriptions.map Subscription.id := by
  simp only [setLast, List.map_map]
  apply List.map_congr_left
  intro x _
  simp only [Function.comp]
  split <;> rfl

end Service

/-! ### Calls in flight -/

/-- What a call of the service answers. -/
inductive Answer where
  | subscribed (sub : Subscription)
  /-- The service was shut down when the subscription came to be linked. -/
  | refused (sub : Subscription)
  /-- Whether the id was live. -/
  | unsubscribed (id : String) (found : Bool)
  /-- How many subscriptions of the client ended. -/
  | disconnected (client : String) (count : Nat)
  | shut

/-- Where a call of the service is. -/
inductive Call where
  | idle
  /-- Has built its subscription, which waits for the lock to be linked. -/
  | linking (sub : Subscription)
  /-- Has left the lock; releases these subscriptions, then answers. -/
  | releasing (gone : List Subscription) (answer : Answer)
  | returned (answer : Answer)

namespace Call

/-- The subscriptions a call holds outside the lock: the one it links, or those it releases. -/
def held : Call → List Subscription
  | .linking sub => [sub]
  | .releasing gone _ => gone
  | _ => []

/-- The answer of a call, once it has one. -/
def answer : Call → Option Answer
  | .releasing _ a => some a
  | .returned a => some a
  | _ => none

@[simp] theorem held_idle : idle.held = [] := rfl
@[simp] theorem held_linking (sub : Subscription) : (linking sub).held = [sub] := rfl
@[simp] theorem held_releasing (gone : List Subscription) (a : Answer) :
    (releasing gone a).held = gone := rfl
@[simp] theorem held_returned (a : Answer) : (returned a).held = [] := rfl
@[simp] theorem answer_idle : idle.answer = none := rfl
@[simp] theorem answer_linking (sub : Subscription) : (linking sub).answer = none := rfl
@[simp] theorem answer_releasing (gone : List Subscription) (a : Answer) :
    (releasing gone a).answer = some a := rfl
@[simp] theorem answer_returned (a : Answer) : (returned a).answer = some a := rfl

end Call

/-- One step of one call, or of a check. -/
inductive Action where
  /-- A subscribe builds its subscription, of a new id, outside the lock. -/
  | build (caller : Nat) (sub : Subscription)
  /-- The subscribe takes the lock and links its subscription, or is refused. -/
  | link (caller : Nat)
  /-- An unsubscribe takes the lock and unlinks the id. -/
  | unsubscribe (caller : Nat) (id : String)
  /-- A disconnect takes the lock and unlinks the ids filed under the client. -/
  | disconnect (caller : Nat) (client : String)
  /-- A shutdown takes the lock, closes the service and unlinks every subscription. -/
  | shutdown (caller : Nat)
  /-- A call releases the next subscription it unlinked, or answers when none is left. -/
  | release (caller : Nat)
  /-- A check records the checksum it saw. -/
  | observe (id : String) (sum : UInt64)
  /-- A check sends an event, for a subscription live or gone. -/
  | send (ev : Event)

/-- The service with the calls in flight, the ids of every subscription built, and those of the
subscriptions released, in order. -/
structure Registry where
  service : Service := {}
  built : List String := []
  released : List String := []
  callers : Nat → Call := fun _ => .idle

namespace Registry

/-- The service after a call's last release: a shutdown ends the listening sessions. -/
def finish (s : Service) : Answer → Service
  | .shut => { s with hubs := [] }
  | _ => s

def build (m : Registry) (i : Nat) (sub : Subscription) : Registry :=
  match m.callers i with
  | .idle =>
    if sub.id ∈ m.built then m
    else { m with built := m.built ++ [sub.id], callers := Function.update m.callers i (.linking sub) }
  | _ => m

def link (m : Registry) (i : Nat) : Registry :=
  match m.callers i with
  | .linking sub =>
    if m.service.closed then
      { m with callers := Function.update m.callers i (.releasing [sub] (.refused sub)) }
    else
      { m with service := m.service.link sub
               callers := Function.update m.callers i (.returned (.subscribed sub)) }
  | _ => m

/-- A call that took the lock, finding the service `s` there, unlinks `ids` and goes on to
release what it unlinked. -/
def unlink (m : Registry) (i : Nat) (s : Service) (ids : List String)
    (answer : List Subscription → Answer) : Registry :=
  { m with service := (s.removeAll ids).2
           callers := Function.update m.callers i
             (.releasing (s.removeAll ids).1 (answer (s.removeAll ids).1)) }

def unsubscribe (m : Registry) (i : Nat) (id : String) : Registry :=
  match m.callers i with
  | .idle =>
    { m with service := (m.service.remove id).2
             callers := Function.update m.callers i
               (.releasing (m.service.remove id).1.toList
                 (.unsubscribed id (m.service.remove id).1.isSome)) }
  | _ => m

def disconnect (m : Registry) (i : Nat) (client : String) : Registry :=
  match m.callers i with
  | .idle => m.unlink i m.service (m.service.idsOf client) fun gone => .disconnected client gone.length
  | _ => m

def shutdown (m : Registry) (i : Nat) : Registry :=
  match m.callers i with
  | .idle =>
    if m.service.closed then { m with callers := Function.update m.callers i (.returned .shut) }
    else m.unlink i { m.service with closed := true }
      (m.service.subscriptions.map Subscription.id) fun _ => .shut
  | _ => m

def release (m : Registry) (i : Nat) : Registry :=
  match m.callers i with
  | .releasing (sub :: rest) a =>
    { m with service := m.service.release sub, released := m.released ++ [sub.id]
             callers := Function.update m.callers i (.releasing rest a) }
  | .releasing [] a =>
    { m with service := finish m.service a, callers := Function.update m.callers i (.returned a) }
  | _ => m

def step (m : Registry) : Action → Registry
  | .build i sub => m.build i sub
  | .link i => m.link i
  | .unsubscribe i id => m.unsubscribe i id
  | .disconnect i client => m.disconnect i client
  | .shutdown i => m.shutdown i
  | .release i => m.release i
  | .observe id sum => { m with service := m.service.setLast id sum }
  | .send ev => { m with service := m.service.send ev }

/-- The state after a sequence of steps. -/
def run (m : Registry) (acts : List Action) : Registry := acts.foldl step m

@[simp] theorem run_nil (m : Registry) : m.run [] = m := rfl
@[simp] theorem run_cons (m : Registry) (a : Action) (acts : List Action) :
    m.run (a :: acts) = (m.step a).run acts := rfl

theorem run_induction {P : Registry → Prop} (hstep : ∀ m a, P m → P (m.step a)) {m : Registry}
    (h : P m) (acts : List Action) : P (m.run acts) := by
  induction acts generalizing m with
  | nil => exact h
  | cons a acts ih => exact ih (hstep m a h)

/-! ### The invariant -/

/-- The ids of the live subscriptions. -/
def live (m : Registry) : List String := m.service.subscriptions.map Subscription.id

/-- The ids of the subscriptions with a feed: every subscription ever linked. -/
def fed (m : Registry) : List String := m.service.feeds.map Prod.fst

/-- An id the registry accounts for: live, released, or held by a call outside the lock. -/
def Tracks (m : Registry) (id : String) : Prop :=
  id ∈ m.live ∨ id ∈ m.released ∨ ∃ i, ∃ sub ∈ (m.callers i).held, sub.id = id

/-- Every subscription is in one place: live, held by one call, or released, once; a feed is
closed exactly when its subscription was released; a closed service has no live subscription;
and each answer is borne out: an unsubscribe that found its id unlinked it and no other did, a
refused subscription is released or about to be, a shutdown's service is closed. -/
structure Inv (m : Registry) : Prop where
  indexed : Indexed m.service
  closedEmpty : m.service.closed = true → m.service.subscriptions = []
  fedNodup : m.fed.Nodup
  feedClosed : ∀ p ∈ m.service.feeds, p.2.closed = true ↔ p.1 ∈ m.released
  releasedNodup : m.released.Nodup
  liveUnreleased : ∀ id ∈ m.live, id ∉ m.released
  heldNodup : ∀ i, ((m.callers i).held.map Subscription.id).Nodup
  heldApart : ∀ i j, ∀ sub ∈ (m.callers i).held, ∀ sub' ∈ (m.callers j).held,
    sub.id = sub'.id → i = j
  heldNotLive : ∀ i, ∀ sub ∈ (m.callers i).held, sub.id ∉ m.live
  heldUnreleased : ∀ i, ∀ sub ∈ (m.callers i).held, sub.id ∉ m.released
  linkingUnfed : ∀ i sub, m.callers i = .linking sub → sub.id ∉ m.fed
  tracksBuilt : ∀ id, m.Tracks id → id ∈ m.built
  fedTracked : ∀ id ∈ m.fed, m.Tracks id
  unsubscribedGone : ∀ i id, (m.callers i).answer = some (.unsubscribed id true) →
    id ∈ m.released ∨ ∃ sub ∈ (m.callers i).held, sub.id = id
  unsubscribedOnce : ∀ i j id, (m.callers i).answer = some (.unsubscribed id true) →
    (m.callers j).answer = some (.unsubscribed id true) → i = j
  refusedGone : ∀ i sub, (m.callers i).answer = some (.refused sub) →
    (m.callers i).held = [sub] ∨ sub.id ∈ m.released
  shutClosed : ∀ i, (m.callers i).answer = some .shut → m.service.closed = true

theorem inv_init : Inv {} where
  indexed := ⟨List.nodup_nil, fun _ => rfl, List.nodup_nil, by simp⟩
  closedEmpty := by simp
  fedNodup := List.nodup_nil
  feedClosed := by simp
  releasedNodup := List.nodup_nil
  liveUnreleased := by simp
  heldNodup := by simp
  heldApart := by simp
  heldNotLive := by simp
  heldUnreleased := by simp
  linkingUnfed := by simp
  tracksBuilt := by simp [Tracks, live]
  fedTracked := by simp [fed]
  unsubscribedGone := by simp
  unsubscribedOnce := by simp
  refusedGone := by simp
  shutClosed := by simp

variable {m : Registry} {i : Nat}

theorem held_update (c : Nat → Call) (i : Nat) (p : Call) (j : Nat) :
    (Function.update c i p j).held = if j = i then p.held else (c j).held := by
  rw [Function.update_apply]
  split <;> rfl

theorem answer_update (c : Nat → Call) (i : Nat) (p : Call) (j : Nat) :
    (Function.update c i p j).answer = if j = i then p.answer else (c j).answer := by
  rw [Function.update_apply]
  split <;> rfl

theorem Inv.service (h : m.Inv) {s : Service} (hind : Indexed s)
    (hlive : s.subscriptions.map Subscription.id = m.live) (hclosed : s.closed = m.service.closed)
    (hkeys : s.feeds.map Prod.fst = m.fed)
    (hfeeds : ∀ p ∈ s.feeds, ∃ x, (p.1, x) ∈ m.service.feeds ∧ p.2.closed = x.closed) :
    Inv { m with service := s } := by
  have htracks : ∀ id, Tracks { m with service := s } id ↔ m.Tracks id := by
    intro id
    simp only [Tracks, live, hlive]
  exact {
    indexed := hind
    closedEmpty := fun hc => List.map_eq_nil_iff.1 (hlive.trans
      (by rw [live, h.closedEmpty (hclosed ▸ hc), List.map_nil]))
    fedNodup := by
      simp only [fed, hkeys]
      exact h.fedNodup
    feedClosed := by
      intro p hp
      obtain ⟨x, hx, hcl⟩ := hfeeds p hp
      rw [hcl]
      exact h.feedClosed _ hx
    releasedNodup := h.releasedNodup
    liveUnreleased := by
      simp only [live, hlive]
      exact h.liveUnreleased
    heldNodup := h.heldNodup
    heldApart := h.heldApart
    heldNotLive := by
      simp only [live, hlive]
      exact h.heldNotLive
    heldUnreleased := h.heldUnreleased
    linkingUnfed := by
      simp only [fed, hkeys]
      exact h.linkingUnfed
    tracksBuilt := fun id ht => h.tracksBuilt id ((htracks id).1 ht)
    fedTracked := by
      intro id hid
      simp only [fed, hkeys] at hid
      exact (htracks id).2 (h.fedTracked id hid)
    unsubscribedGone := h.unsubscribedGone
    unsubscribedOnce := h.unsubscribedOnce
    refusedGone := h.refusedGone
    shutClosed := by
      simp only [hclosed]
      exact h.shutClosed }

theorem Inv.move (h : m.Inv) {p : Call} (hheld : p.held = (m.callers i).held)
    (hlink : ∀ sub, p = .linking sub → m.callers i = .linking sub)
    (hunsub : ∀ id, p.answer = some (.unsubscribed id true) →
      (m.callers i).answer = some (.unsubscribed id true))
    (hrefused : ∀ sub, p.answer = some (.refused sub) → p.held = [sub] ∨ sub.id ∈ m.released)
    (hshut : p.answer = some .shut → m.service.closed = true) :
    Inv { m with callers := Function.update m.callers i p } := by
  -- every call holds what it held before
  have hsame : ∀ j, (Function.update m.callers i p j).held = (m.callers j).held := by
    intro j
    rw [held_update]
    split
    · subst j
      exact hheld
    · rfl
  have htracks : ∀ id, Tracks { m with callers := Function.update m.callers i p } id ↔
      m.Tracks id := by
    intro id
    simp only [Tracks, live, hsame]
  -- an answer about an unsubscribed id is one that call gave before
  have hans : ∀ j id, (Function.update m.callers i p j).answer = some (.unsubscribed id true) →
      (m.callers j).answer = some (.unsubscribed id true) := by
    intro j id hj
    rw [answer_update] at hj
    split at hj
    · subst j
      exact hunsub id hj
    · exact hj
  exact {
    indexed := h.indexed
    closedEmpty := h.closedEmpty
    fedNodup := h.fedNodup
    feedClosed := h.feedClosed
    releasedNodup := h.releasedNodup
    liveUnreleased := h.liveUnreleased
    heldNodup := fun j => by
      simp only [hsame]
      exact h.heldNodup j
    heldApart := fun j k => by
      simp only [hsame]
      exact h.heldApart j k
    heldNotLive := fun j => by
      simp only [hsame]
      exact h.heldNotLive j
    heldUnreleased := fun j => by
      simp only [hsame]
      exact h.heldUnreleased j
    linkingUnfed := by
      intro j sub hj
      dsimp only at hj
      rw [Function.update_apply] at hj
      split at hj
      · subst j
        exact h.linkingUnfed i sub (hlink sub hj)
      · exact h.linkingUnfed j sub hj
    tracksBuilt := fun id ht => h.tracksBuilt id ((htracks id).1 ht)
    fedTracked := fun id hid => (htracks id).2 (h.fedTracked id hid)
    unsubscribedGone := by
      intro j id hj
      simp only [hsame]
      exact h.unsubscribedGone j id (hans j id hj)
    unsubscribedOnce := fun j k id hj hk => h.unsubscribedOnce j k id (hans j id hj) (hans k id hk)
    refusedGone := by
      intro j sub hj
      rw [answer_update] at hj
      simp only [hsame]
      split at hj
      · subst j
        rw [← hheld]
        exact hrefused sub hj
      · exact h.refusedGone j sub hj
    shutClosed := by
      intro j hj
      rw [answer_update] at hj
      split at hj
      · exact hshut hj
      · exact h.shutClosed j hj }

theorem mem_held_update {c : Nat → Call} {p : Call} {j : Nat} {sub : Subscription}
    (hsub : sub ∈ (Function.update c i p j).held) :
    (j = i ∧ sub ∈ p.held) ∨ (j ≠ i ∧ sub ∈ (c j).held) := by
  rw [held_update] at hsub
  split at hsub
  · exact .inl ⟨‹_›, hsub⟩
  · exact .inr ⟨‹_›, hsub⟩

theorem answer_of_update {c : Nat → Call} {p : Call} {j : Nat} {a : Answer}
    (h : (Function.update c i p j).answer = some a) (hp : p.answer ≠ some a) :
    j ≠ i ∧ (c j).answer = some a := by
  rw [answer_update] at h
  split at h
  · exact absurd h hp
  · exact ⟨‹_›, h⟩

theorem tracks_of_held {j : Nat} {sub : Subscription} (hsub : sub ∈ (m.callers j).held) :
    m.Tracks sub.id :=
  .inr (.inr ⟨j, sub, hsub, rfl⟩)

theorem finish_eq (s : Service) (a : Answer) : finish s a = { s with hubs := (finish s a).hubs } := by
  cases a <;> rfl

@[simp] theorem finish_subscriptions (s : Service) (a : Answer) :
    (finish s a).subscriptions = s.subscriptions := by
  rw [finish_eq]

@[simp] theorem finish_byClient (s : Service) (a : Answer) : (finish s a).byClient = s.byClient := by
  rw [finish_eq]

@[simp] theorem finish_feeds (s : Service) (a : Answer) : (finish s a).feeds = s.feeds := by
  rw [finish_eq]

@[simp] theorem finish_closed (s : Service) (a : Answer) : (finish s a).closed = s.closed := by
  rw [finish_eq]

theorem unsubscribe_eq (hi : m.callers i = .idle) (id : String) :
    m.unsubscribe i id = m.unlink i m.service [id] fun gone => .unsubscribed id !gone.isEmpty := by
  simp only [unsubscribe, hi, unlink, Service.removeAll, List.append_nil]
  cases (m.service.remove id).1 <;> rfl

theorem Inv.build (h : m.Inv) (hi : m.callers i = .idle) {sub : Subscription}
    (hfresh : sub.id ∉ m.built) :
    Inv { m with built := m.built ++ [sub.id]
                 callers := Function.update m.callers i (.linking sub) } := by
  have hnil : (m.callers i).held = [] := by rw [hi]; rfl
  -- the new id is nowhere yet
  have hnew : ¬ m.Tracks sub.id := fun ht => hfresh (h.tracksBuilt _ ht)
  have hheld : ∀ {j} {x : Subscription}, x ∈ (Function.update m.callers i (.linking sub) j).held →
      (j = i ∧ x = sub) ∨ (j ≠ i ∧ x ∈ (m.callers j).held) := by
    intro j x hx
    rcases mem_held_update hx with ⟨hj, hx⟩ | hx
    · exact .inl ⟨hj, by simpa using hx⟩
    · exact .inr hx
  have hanswer : ∀ {j a}, (Function.update m.callers i (.linking sub) j).answer = some a →
      (m.callers j).answer = some a := by
    intro j a hj
    rw [answer_update] at hj
    split at hj
    · cases hj
    · exact hj
  have htracks : ∀ id, m.Tracks id →
      Tracks { m with built := m.built ++ [sub.id]
                      callers := Function.update m.callers i (.linking sub) } id := by
    rintro id (hl | hr | ⟨j, x, hx, rfl⟩)
    · exact .inl hl
    · exact .inr (.inl hr)
    · have hj : j ≠ i := by
        rintro rfl
        rw [hnil] at hx
        cases hx
      refine .inr (.inr ⟨j, x, ?_, rfl⟩)
      rw [held_update, if_neg hj]
      exact hx
  exact {
    indexed := h.indexed
    closedEmpty := h.closedEmpty
    fedNodup := h.fedNodup
    feedClosed := h.feedClosed
    releasedNodup := h.releasedNodup
    liveUnreleased := h.liveUnreleased
    heldNodup := by
      intro j
      rw [held_update]
      split
      · simp
      · exact h.heldNodup j
    heldApart := by
      intro j k x hx y hy hxy
      rcases hheld hx with ⟨hj, hxs⟩ | ⟨-, hx'⟩ <;> rcases hheld hy with ⟨hk, hys⟩ | ⟨-, hy'⟩
      · exact hj.trans hk.symm
      · exact absurd (by rw [← hxs, hxy]; exact tracks_of_held hy') hnew
      · exact absurd (by rw [← hys, ← hxy]; exact tracks_of_held hx') hnew
      · exact h.heldApart j k x hx' y hy' hxy
    heldNotLive := by
      intro j x hx
      rcases hheld hx with ⟨-, rfl⟩ | ⟨-, hx⟩
      · exact fun hl => hnew (.inl hl)
      · exact h.heldNotLive j x hx
    heldUnreleased := by
      intro j x hx
      rcases hheld hx with ⟨-, rfl⟩ | ⟨-, hx⟩
      · exact fun hr => hnew (.inr (.inl hr))
      · exact h.heldUnreleased j x hx
    linkingUnfed := by
      intro j x hj
      dsimp only at hj
      rw [Function.update_apply] at hj
      split at hj
      · cases hj
        exact fun hf => hnew (h.fedTracked _ hf)
      · exact h.linkingUnfed j x hj
    tracksBuilt := by
      rintro id (hl | hr | ⟨j, x, hx, rfl⟩)
      · exact List.mem_append_left _ (h.tracksBuilt id (.inl hl))
      · exact List.mem_append_left _ (h.tracksBuilt id (.inr (.inl hr)))
      · rcases hheld hx with ⟨-, rfl⟩ | ⟨-, hx⟩
        · exact List.mem_append_right _ (List.mem_singleton_self _)
        · exact List.mem_append_left _ (h.tracksBuilt _ (tracks_of_held hx))
    fedTracked := fun id hid => htracks id (h.fedTracked id hid)
    unsubscribedGone := by
      intro j id hj
      have hj' := hanswer hj
      rcases h.unsubscribedGone j id hj' with hr | ⟨x, hx, rfl⟩
      · exact .inl hr
      · have hji : j ≠ i := by
          rintro rfl
          rw [hi] at hj'
          cases hj'
        refine .inr ⟨x, ?_, rfl⟩
        rw [held_update, if_neg hji]
        exact hx
    unsubscribedOnce := fun j k id hj hk => h.unsubscribedOnce j k id (hanswer hj) (hanswer hk)
    refusedGone := by
      intro j x hj
      have hj' := hanswer hj
      have hji : j ≠ i := by
        rintro rfl
        rw [hi] at hj'
        cases hj'
      rw [held_update, if_neg hji]
      exact h.refusedGone j x hj'
    shutClosed := fun j hj => h.shutClosed j (hanswer hj) }

theorem Inv.linkOpen (h : m.Inv) {sub : Subscription} (hi : m.callers i = .linking sub)
    (hopen : m.service.closed = false) :
    Inv { m with service := m.service.link sub
                 callers := Function.update m.callers i (.returned (.subscribed sub)) } := by
  have hsub : sub ∈ (m.callers i).held := by simp [hi]
  have hlive : sub.id ∉ m.live := h.heldNotLive i sub hsub
  have hrel : sub.id ∉ m.released := h.heldUnreleased i sub hsub
  have hfed : sub.id ∉ m.fed := h.linkingUnfed i sub hi
  -- no other call holds the subscription
  have hother : ∀ j ≠ i, ∀ x ∈ (m.callers j).held, x.id ≠ sub.id :=
    fun j hj x hx e => hj (h.heldApart j i x hx sub hsub e)
  have hheld : ∀ {j} {x : Subscription},
      x ∈ (Function.update m.callers i (.returned (.subscribed sub)) j).held →
      j ≠ i ∧ x ∈ (m.callers j).held := by
    intro j x hx
    rcases mem_held_update hx with ⟨-, hx⟩ | hx
    · cases hx
    · exact hx
  have hanswer : ∀ {j a}, (∀ s, a ≠ .subscribed s) →
      (Function.update m.callers i (.returned (.subscribed sub)) j).answer = some a →
      j ≠ i ∧ (m.callers j).answer = some a := by
    intro j a ha hj
    exact answer_of_update hj (by simpa using (ha sub).symm)
  have hlive' : (m.service.link sub).subscriptions.map Subscription.id = m.live ++ [sub.id] := by
    simp [Service.link, live]
  have hfed' : (m.service.link sub).feeds.map Prod.fst = m.fed ++ [sub.id] := by
    simp [Service.link, fed]
  exact {
    indexed := h.indexed.link hlive
    closedEmpty := fun hc => absurd (hc.symm.trans hopen) Bool.noConfusion
    fedNodup := by
      change ((m.service.link sub).feeds.map Prod.fst).Nodup
      rw [hfed']
      exact List.Nodup.append h.fedNodup (List.nodup_singleton _) (List.disjoint_singleton.2 hfed)
    feedClosed := by
      intro p hp
      rcases List.mem_append.1 hp with hp | hp
      · exact h.feedClosed p hp
      · rw [List.mem_singleton.1 hp]
        simpa using hrel
    releasedNodup := h.releasedNodup
    liveUnreleased := by
      intro id hid
      change id ∈ (m.service.link sub).subscriptions.map Subscription.id at hid
      rw [hlive'] at hid
      rcases List.mem_append.1 hid with hid | hid
      · exact h.liveUnreleased id hid
      · rw [List.mem_singleton.1 hid]
        exact hrel
    heldNodup := by
      intro j
      rw [held_update]
      split
      · simp
      · exact h.heldNodup j
    heldApart := fun j k x hx y hy => h.heldApart j k x (hheld hx).2 y (hheld hy).2
    heldNotLive := by
      intro j x hx hxl
      obtain ⟨hj, hx⟩ := hheld hx
      change x.id ∈ (m.service.link sub).subscriptions.map Subscription.id at hxl
      rw [hlive'] at hxl
      rcases List.mem_append.1 hxl with hxl | hxl
      · exact h.heldNotLive j x hx hxl
      · exact hother j hj x hx (List.mem_singleton.1 hxl)
    heldUnreleased := fun j x hx => h.heldUnreleased j x (hheld hx).2
    linkingUnfed := by
      intro j x hj hxf
      dsimp only at hj
      rw [Function.update_apply] at hj
      split at hj
      · cases hj
      · rename_i hji
        change x.id ∈ (m.service.link sub).feeds.map Prod.fst at hxf
        rw [hfed'] at hxf
        have hx : x ∈ (m.callers j).held := by simp [hj]
        rcases List.mem_append.1 hxf with hxf | hxf
        · exact h.linkingUnfed j x hj hxf
        · exact hother j hji x hx (List.mem_singleton.1 hxf)
    tracksBuilt := by
      rintro id (hl | hr | ⟨j, x, hx, rfl⟩)
      · change id ∈ (m.service.link sub).subscriptions.map Subscription.id at hl
        rw [hlive'] at hl
        rcases List.mem_append.1 hl with hl | hl
        · exact h.tracksBuilt id (.inl hl)
        · rw [List.mem_singleton.1 hl]
          exact h.tracksBuilt _ (tracks_of_held hsub)
      · exact h.tracksBuilt id (.inr (.inl hr))
      · exact h.tracksBuilt _ (tracks_of_held (hheld hx).2)
    fedTracked := by
      intro id hid
      change id ∈ (m.service.link sub).feeds.map Prod.fst at hid
      have hlink : ∀ id, id ∈ m.live ∨ id = sub.id →
          id ∈ (m.service.link sub).subscriptions.map Subscription.id := by
        intro id hid
        rw [hlive']
        rcases hid with hid | rfl
        · exact List.mem_append_left _ hid
        · exact List.mem_append_right _ (List.mem_singleton_self _)
      rw [hfed'] at hid
      rcases List.mem_append.1 hid with hid | hid
      · rcases h.fedTracked id hid with hl | hr | ⟨j, x, hx, rfl⟩
        · exact .inl (hlink id (.inl hl))
        · exact .inr (.inl hr)
        · by_cases hj : j = i
          · subst hj
            rw [hi, Call.held_linking, List.mem_singleton] at hx
            exact .inl (hlink _ (.inr (congrArg Subscription.id hx)))
          · refine .inr (.inr ⟨j, x, ?_, rfl⟩)
            rw [held_update, if_neg hj]
            exact hx
      · exact .inl (hlink id (.inr (List.mem_singleton.1 hid)))
    unsubscribedGone := by
      intro j id hj
      obtain ⟨hji, hj⟩ := hanswer (fun _ => Answer.noConfusion) hj
      rw [held_update, if_neg hji]
      exact h.unsubscribedGone j id hj
    unsubscribedOnce := fun j k id hj hk =>
      h.unsubscribedOnce j k id (hanswer (fun _ => Answer.noConfusion) hj).2
        (hanswer (fun _ => Answer.noConfusion) hk).2
    refusedGone := by
      intro j x hj
      obtain ⟨hji, hj⟩ := hanswer (fun _ => Answer.noConfusion) hj
      rw [held_update, if_neg hji]
      exact h.refusedGone j x hj
    shutClosed := fun j hj => h.shutClosed j (hanswer (fun _ => Answer.noConfusion) hj).2 }

theorem Inv.unlink (h : m.Inv) (hi : m.callers i = .idle) {s : Service} {ids : List String}
    (hs : s.subscriptions = m.service.subscriptions) (hb : s.byClient = m.service.byClient)
    (hf : s.feeds = m.service.feeds) (hclosed : m.service.closed = true → s.closed = true)
    (hshut : s.closed = true → (s.removeAll ids).2.subscriptions = [])
    {answer : List Subscription → Answer}
    (hunsub : ∀ id, answer (s.removeAll ids).1 = .unsubscribed id true →
      ∃ sub ∈ (s.removeAll ids).1, sub.id = id)
    (hrefused : ∀ sub, answer (s.removeAll ids).1 ≠ .refused sub)
    (hshutA : answer (s.removeAll ids).1 = .shut → s.closed = true) :
    Inv (m.unlink i s ids answer) := by
  have hind : Indexed s := h.indexed.of_eq hs hb
  have hnil : (m.callers i).held = [] := by rw [hi]; rfl
  -- what was unlinked: live subscriptions of the ids, each once
  have hperm := hind.removeAll_perm ids
  have hgone : ∀ x ∈ (s.removeAll ids).1, x ∈ m.service.subscriptions ∧ x.id ∈ ids := by
    intro x hx
    have := List.mem_filter.1 (hperm.mem_iff.1 hx)
    exact ⟨hs ▸ this.1, by simpa using this.2⟩
  have hgoneLive : ∀ x ∈ (s.removeAll ids).1, x.id ∈ m.live :=
    fun x hx => List.mem_map_of_mem (hgone x hx).1
  have hrest : (s.removeAll ids).2.subscriptions = m.service.subscriptions.filter (·.id ∉ ids) := by
    rw [Service.removeAll_subscriptions, hs]
  have hrestLive : ∀ {id}, id ∈ (s.removeAll ids).2.subscriptions.map Subscription.id →
      id ∈ m.live ∧ id ∉ ids := by
    intro id hid
    rw [hrest] at hid
    obtain ⟨x, hx, rfl⟩ := List.mem_map.1 hid
    have := List.mem_filter.1 hx
    exact ⟨List.mem_map_of_mem this.1, by simpa using this.2⟩
  have hliveSplit : ∀ id ∈ m.live, id ∈ (s.removeAll ids).2.subscriptions.map Subscription.id ∨
      ∃ x ∈ (s.removeAll ids).1, x.id = id := by
    intro id hid
    obtain ⟨x, hx, rfl⟩ := List.mem_map.1 hid
    by_cases hxi : x.id ∈ ids
    · exact .inr ⟨x, hperm.mem_iff.2 (List.mem_filter.2 ⟨hs ▸ hx, by simpa using hxi⟩), rfl⟩
    · exact .inl (List.mem_map_of_mem (hrest ▸ List.mem_filter.2 ⟨hx, by simpa using hxi⟩))
  have hheld : ∀ {j} {x : Subscription}, x ∈ (Function.update m.callers i
      (.releasing (s.removeAll ids).1 (answer (s.removeAll ids).1)) j).held →
      (j = i ∧ x ∈ (s.removeAll ids).1) ∨ (j ≠ i ∧ x ∈ (m.callers j).held) := by
    intro j x hx
    rcases mem_held_update hx with ⟨hj, hx⟩ | hx
    · exact .inl ⟨hj, hx⟩
    · exact .inr hx
  have hfeeds : (s.removeAll ids).2.feeds = m.service.feeds := by rw [Service.removeAll_feeds, hf]
  have hother : ∀ {j} {a}, (Function.update m.callers i
      (.releasing (s.removeAll ids).1 (answer (s.removeAll ids).1)) j).answer = some a →
      (j = i ∧ a = answer (s.removeAll ids).1) ∨ (j ≠ i ∧ (m.callers j).answer = some a) := by
    intro j a hj
    rw [answer_update] at hj
    split at hj
    · exact .inl ⟨‹_›, (Option.some.inj hj).symm⟩
    · exact .inr ⟨‹_›, hj⟩
  unfold Registry.unlink
  exact {
    indexed := hind.removeAll ids
    closedEmpty := fun hc => hshut (by simpa using hc)
    fedNodup := by
      change ((s.removeAll ids).2.feeds.map Prod.fst).Nodup
      rw [hfeeds]
      exact h.fedNodup
    feedClosed := by
      change ∀ p ∈ (s.removeAll ids).2.feeds, _
      rw [hfeeds]
      exact h.feedClosed
    releasedNodup := h.releasedNodup
    liveUnreleased := fun id hid => h.liveUnreleased id (hrestLive hid).1
    heldNodup := by
      intro j
      rw [held_update]
      split
      · exact (hperm.map Subscription.id).nodup_iff.2
          (hind.ids_nodup.sublist (List.filter_sublist.map _))
      · exact h.heldNodup j
    heldApart := by
      intro j k x hx y hy hxy
      rcases hheld hx with ⟨hj, hx⟩ | ⟨hj, hx⟩ <;> rcases hheld hy with ⟨hk, hy⟩ | ⟨hk, hy⟩
      · exact hj.trans hk.symm
      · exact absurd (hxy ▸ hgoneLive x hx) (h.heldNotLive k y hy)
      · exact absurd (hxy.symm ▸ hgoneLive y hy) (h.heldNotLive j x hx)
      · exact h.heldApart j k x hx y hy hxy
    heldNotLive := by
      intro j x hx hxl
      rcases hheld hx with ⟨-, hx⟩ | ⟨-, hx⟩
      · exact (hrestLive hxl).2 (hgone x hx).2
      · exact h.heldNotLive j x hx (hrestLive hxl).1
    heldUnreleased := by
      intro j x hx
      rcases hheld hx with ⟨-, hx⟩ | ⟨-, hx⟩
      · exact h.liveUnreleased _ (hgoneLive x hx)
      · exact h.heldUnreleased j x hx
    linkingUnfed := by
      intro j x hj
      dsimp only at hj
      rw [Function.update_apply] at hj
      split at hj
      · cases hj
      · change x.id ∉ (s.removeAll ids).2.feeds.map Prod.fst
        rw [hfeeds]
        exact h.linkingUnfed j x hj
    tracksBuilt := by
      rintro id (hl | hr | ⟨j, x, hx, rfl⟩)
      · exact h.tracksBuilt id (.inl (hrestLive hl).1)
      · exact h.tracksBuilt id (.inr (.inl hr))
      · rcases hheld hx with ⟨-, hx⟩ | ⟨-, hx⟩
        · exact h.tracksBuilt _ (.inl (hgoneLive x hx))
        · exact h.tracksBuilt _ (tracks_of_held hx)
    fedTracked := by
      intro id hid
      change id ∈ (s.removeAll ids).2.feeds.map Prod.fst at hid
      rw [hfeeds] at hid
      rcases h.fedTracked id hid with hl | hr | ⟨j, x, hx, rfl⟩
      · rcases hliveSplit id hl with hl | ⟨x, hx, rfl⟩
        · exact .inl hl
        · refine .inr (.inr ⟨i, x, ?_, rfl⟩)
          rw [held_update, if_pos rfl]
          exact hx
      · exact .inr (.inl hr)
      · have hj : j ≠ i := by
          rintro rfl
          rw [hnil] at hx
          cases hx
        refine .inr (.inr ⟨j, x, ?_, rfl⟩)
        rw [held_update, if_neg hj]
        exact hx
    unsubscribedGone := by
      intro j id hj
      rcases hother hj with ⟨rfl, ha⟩ | ⟨hji, hj⟩
      · obtain ⟨x, hx, hxid⟩ := hunsub id ha.symm
        refine .inr ⟨x, ?_, hxid⟩
        rw [held_update, if_pos rfl]
        exact hx
      · rw [held_update, if_neg hji]
        exact h.unsubscribedGone j id hj
    unsubscribedOnce := by
      -- the id this call unlinked was live, so no other call had answered it
      have hfresh : ∀ id, answer (s.removeAll ids).1 = .unsubscribed id true →
          ∀ k, (m.callers k).answer ≠ some (.unsubscribed id true) := by
        intro id ha k hk
        obtain ⟨x, hx, rfl⟩ := hunsub id ha
        rcases h.unsubscribedGone k x.id hk with hr | ⟨y, hy, hxy⟩
        · exact h.liveUnreleased _ (hgoneLive x hx) hr
        · exact h.heldNotLive k y hy (hxy ▸ hgoneLive x hx)
      intro j k id hj hk
      rcases hother hj with ⟨hji, ha⟩ | ⟨-, hj'⟩ <;> rcases hother hk with ⟨hki, hb⟩ | ⟨-, hk'⟩
      · exact hji.trans hki.symm
      · exact absurd hk' (hfresh id ha.symm k)
      · exact absurd hj' (hfresh id hb.symm j)
      · exact h.unsubscribedOnce j k id hj' hk'
    refusedGone := by
      intro j x hj
      rcases hother hj with ⟨-, ha⟩ | ⟨hji, hj⟩
      · exact absurd ha.symm (hrefused x)
      · rw [held_update, if_neg hji]
        exact h.refusedGone j x hj
    shutClosed := by
      intro j hj
      change (s.removeAll ids).2.closed = true
      rw [Service.removeAll_closed]
      rcases hother hj with ⟨-, ha⟩ | ⟨-, hj⟩
      · exact hshutA ha.symm
      · exact hclosed (h.shutClosed j hj) }

theorem Inv.releaseNext (h : m.Inv) {sub : Subscription} {rest : List Subscription} {a : Answer}
    (hi : m.callers i = .releasing (sub :: rest) a) :
    Inv { m with service := m.service.release sub, released := m.released ++ [sub.id]
                 callers := Function.update m.callers i (.releasing rest a) } := by
  have hsub : sub ∈ (m.callers i).held := by simp [hi]
  have hlive : sub.id ∉ m.live := h.heldNotLive i sub hsub
  have hrel : sub.id ∉ m.released := h.heldUnreleased i sub hsub
  have hrest : ∀ x ∈ rest, x.id ≠ sub.id := by
    have := h.heldNodup i
    rw [hi, Call.held_releasing, List.map_cons, List.nodup_cons] at this
    exact fun x hx e => this.1 (e ▸ List.mem_map_of_mem hx)
  -- every call holds what it held, the subscription released apart
  have hheld : ∀ {j} {x : Subscription},
      x ∈ (Function.update m.callers i (.releasing rest a) j).held →
      x ∈ (m.callers j).held ∧ x.id ≠ sub.id := by
    intro j x hx
    rcases mem_held_update hx with ⟨hj, hx'⟩ | ⟨hj, hx'⟩
    · subst hj
      rw [Call.held_releasing] at hx'
      exact ⟨by simp [hi, hx'], hrest x hx'⟩
    · exact ⟨hx', fun e => hj (h.heldApart j i x hx' sub hsub e)⟩
  have hanswer : ∀ j, (Function.update m.callers i (.releasing rest a) j).answer =
      (m.callers j).answer := by
    intro j
    rw [answer_update]
    split
    · subst j
      rw [hi]
      rfl
    · rfl
  have hlive' : (m.service.release sub).subscriptions.map Subscription.id = m.live := by
    simp [live]
  have hfed' : (m.service.release sub).feeds.map Prod.fst = m.fed := Service.keys_release _ _
  exact {
    indexed := h.indexed.of_eq (by simp) (by simp)
    closedEmpty := by
      simp only [Service.release_closed, Service.release_subscriptions]
      exact h.closedEmpty
    fedNodup := by
      change ((m.service.release sub).feeds.map Prod.fst).Nodup
      rw [hfed']
      exact h.fedNodup
    feedClosed := by
      intro p hp
      obtain ⟨x, hx, hp2⟩ := Service.mem_release.1 hp
      rw [hp2]
      by_cases hk : p.1 = sub.id
      · simp [hk]
      · simp only [hk, if_false, List.mem_append, List.mem_singleton, or_false]
        exact h.feedClosed _ hx
    releasedNodup := List.Nodup.append h.releasedNodup (List.nodup_singleton _)
      (List.disjoint_singleton.2 hrel)
    liveUnreleased := by
      intro id hid hr
      change id ∈ (m.service.release sub).subscriptions.map Subscription.id at hid
      rw [hlive'] at hid
      rcases List.mem_append.1 hr with hr | hr
      · exact h.liveUnreleased id hid hr
      · exact hlive (List.mem_singleton.1 hr ▸ hid)
    heldNodup := by
      intro j
      rw [held_update]
      split
      · have := h.heldNodup i
        rw [hi, Call.held_releasing, List.map_cons, List.nodup_cons] at this
        exact this.2
      · exact h.heldNodup j
    heldApart := fun j k x hx y hy => h.heldApart j k x (hheld hx).1 y (hheld hy).1
    heldNotLive := by
      intro j x hx
      change x.id ∉ (m.service.release sub).subscriptions.map Subscription.id
      rw [hlive']
      exact h.heldNotLive j x (hheld hx).1
    heldUnreleased := by
      intro j x hx hr
      rcases List.mem_append.1 hr with hr | hr
      · exact h.heldUnreleased j x (hheld hx).1 hr
      · exact (hheld hx).2 (List.mem_singleton.1 hr)
    linkingUnfed := by
      intro j x hj
      change x.id ∉ (m.service.release sub).feeds.map Prod.fst
      rw [hfed']
      dsimp only at hj
      rw [Function.update_apply] at hj
      split at hj
      · cases hj
      · exact h.linkingUnfed j x hj
    tracksBuilt := by
      rintro id (hl | hr | ⟨j, x, hx, rfl⟩)
      · change id ∈ (m.service.release sub).subscriptions.map Subscription.id at hl
        rw [hlive'] at hl
        exact h.tracksBuilt id (.inl hl)
      · rcases List.mem_append.1 hr with hr | hr
        · exact h.tracksBuilt id (.inr (.inl hr))
        · rw [List.mem_singleton.1 hr]
          exact h.tracksBuilt _ (tracks_of_held hsub)
      · exact h.tracksBuilt _ (tracks_of_held (hheld hx).1)
    fedTracked := by
      intro id hid
      change id ∈ (m.service.release sub).feeds.map Prod.fst at hid
      rw [hfed'] at hid
      have hl' : ∀ {id}, id ∈ m.live →
          id ∈ (m.service.release sub).subscriptions.map Subscription.id := by
        intro id hl
        rw [hlive']
        exact hl
      rcases h.fedTracked id hid with hl | hr | ⟨j, x, hx, rfl⟩
      · exact .inl (hl' hl)
      · exact .inr (.inl (List.mem_append_left _ hr))
      · by_cases hx' : x = sub
        · subst hx'
          exact .inr (.inl (List.mem_append_right _ (List.mem_singleton_self _)))
        · refine .inr (.inr ⟨j, x, ?_, rfl⟩)
          rw [held_update]
          split
          · subst j
            rw [hi, Call.held_releasing, List.mem_cons] at hx
            exact hx.resolve_left hx'
          · exact hx
    unsubscribedGone := by
      intro j id hj
      rw [hanswer] at hj
      rcases h.unsubscribedGone j id hj with hr | ⟨x, hx, rfl⟩
      · exact .inl (List.mem_append_left _ hr)
      · by_cases hx' : x = sub
        · subst hx'
          exact .inl (List.mem_append_right _ (List.mem_singleton_self _))
        · refine .inr ⟨x, ?_, rfl⟩
          rw [held_update]
          split
          · subst j
            rw [hi, Call.held_releasing, List.mem_cons] at hx
            exact hx.resolve_left hx'
          · exact hx
    unsubscribedOnce := by
      intro j k id hj hk
      rw [hanswer] at hj hk
      exact h.unsubscribedOnce j k id hj hk
    refusedGone := by
      intro j x hj
      rw [hanswer] at hj
      rw [held_update]
      split
      · subst j
        rcases h.refusedGone i x hj with hx | hr
        · rw [hi, Call.held_releasing, List.cons_eq_cons] at hx
          obtain ⟨rfl, rfl⟩ := hx
          exact .inr (List.mem_append_right _ (List.mem_singleton_self _))
        · exact .inr (List.mem_append_left _ hr)
      · rcases h.refusedGone j x hj with hx | hr
        · exact .inl hx
        · exact .inr (List.mem_append_left _ hr)
    shutClosed := by
      intro j hj
      rw [hanswer] at hj
      simpa using h.shutClosed j hj }

theorem inv_step (h : m.Inv) : ∀ a, (m.step a).Inv
  | .build i sub => by
    simp only [step, build]
    split
    · split
      · exact h
      · exact h.build ‹_› ‹_›
    · exact h
  | .link i => by
    simp only [step, link]
    split
    · rename_i sub hi
      split
      · -- the service is shut down: the subscription is refused, to be released
        refine h.move (by simp [hi]) (fun _ => Call.noConfusion) (fun _ => by simp) ?_ (by simp)
        intro x hx
        simp only [Call.answer_releasing, Option.some.injEq, Answer.refused.injEq] at hx
        subst hx
        exact .inl rfl
      · rename_i hopen
        exact h.linkOpen hi (by simpa using hopen)
    · exact h
  | .unsubscribe i id => by
    simp only [step]
    cases hi : m.callers i with
    | idle =>
      rw [unsubscribe_eq hi]
      refine h.unlink hi rfl rfl rfl (fun hc => hc) ?_ ?_ (fun _ => Answer.noConfusion)
        (fun e => Answer.noConfusion e)
      · intro hc
        rw [Service.removeAll_subscriptions, h.closedEmpty hc, List.filter_nil]
      · intro id' ha
        simp only [Answer.unsubscribed.injEq, Bool.not_eq_eq_eq_not, Bool.not_true,
          List.isEmpty_eq_false_iff] at ha
        obtain ⟨rfl, hne⟩ := ha
        obtain ⟨x, hx⟩ := List.exists_mem_of_ne_nil _ hne
        exact ⟨x, hx, List.mem_singleton.1 (h.indexed.mem_removeAll.1 hx).2⟩
    | _ => simp only [unsubscribe, hi]; exact h
  | .disconnect i c => by
    simp only [step]
    cases hi : m.callers i with
    | idle =>
      simp only [disconnect, hi]
      refine h.unlink hi rfl rfl rfl (fun hc => hc) ?_ (fun _ => Answer.noConfusion)
        (fun _ => Answer.noConfusion) (fun e => Answer.noConfusion e)
      intro hc
      rw [Service.removeAll_subscriptions, h.closedEmpty hc, List.filter_nil]
    | _ => simp only [disconnect, hi]; exact h
  | .shutdown i => by
    simp only [step]
    cases hi : m.callers i with
    | idle =>
      simp only [shutdown, hi]
      split
      · exact h.move (by simp [hi]) (fun _ => Call.noConfusion) (fun _ => by simp)
          (fun _ => by simp) (fun _ => ‹_›)
      · refine h.unlink (s := { m.service with closed := true }) hi rfl rfl rfl (fun _ => rfl) ?_
          (fun _ => Answer.noConfusion) (fun _ => Answer.noConfusion) (fun _ => rfl)
        intro _
        rw [Service.removeAll_subscriptions]
        exact List.filter_eq_nil_iff.2 fun x hx => by simpa using List.mem_map_of_mem hx
    | _ => simp only [shutdown, hi]; exact h
  | .release i => by
    simp only [step, release]
    split
    · exact h.releaseNext ‹_›
    · rename_i a hi
      have hmove := h.move (i := i) (p := .returned a) (by simp [hi]) (fun _ => Call.noConfusion)
        (fun _ ha => by simpa [hi] using ha)
        (fun x hx => .inr (by
          have := h.refusedGone i x (by simpa [hi] using hx)
          simpa [hi] using this))
        (fun ha => h.shutClosed i (by simpa [hi] using ha))
      exact hmove.service (h.indexed.of_eq (by simp) (by simp)) (by simp [live]) (by simp)
        (by simp [fed]) (fun p hp => ⟨p.2, by simpa using hp, rfl⟩)
    · exact h
  | .observe id sum => h.service (h.indexed.setLast id sum) (Service.ids_setLast _ _ _) rfl rfl
      fun p hp => ⟨p.2, hp, rfl⟩
  | .send ev => h.service (h.indexed.of_eq rfl rfl) rfl rfl (Service.keys_send _ _)
      fun _ hp => Service.closed_of_mem_send hp

theorem Inv.run (h : m.Inv) (acts : List Action) : (m.run acts).Inv :=
  run_induction (P := Inv) (fun _ a h => inv_step h a) h acts

theorem inv_run (acts : List Action) : (({} : Registry).run acts).Inv := inv_init.run acts

/-! ### What every reachable state shows -/

theorem closed_feed_step {p : String × Feed} (hp : p ∈ m.service.feeds) (hc : p.2.closed = true) :
    ∀ a, p ∈ (m.step a).service.feeds
  | .build i sub => by
    simp only [step, build]
    split
    · split <;> exact hp
    · exact hp
  | .link i => by
    simp only [step, link]
    split
    · split
      · exact hp
      · exact List.mem_append_left _ hp
    · exact hp
  | .unsubscribe i id => by
    simp only [step, unsubscribe]
    split
    · simpa using hp
    · exact hp
  | .disconnect i c => by
    simp only [step, disconnect]
    split
    · simpa [unlink] using hp
    · exact hp
  | .shutdown i => by
    simp only [step, shutdown]
    split
    · split
      · exact hp
      · simpa [unlink] using hp
    · exact hp
  | .release i => by
    simp only [step, release]
    split
    · rename_i sub rest a hi
      refine Service.mem_release.2 ⟨p.2, hp, ?_⟩
      split
      · obtain ⟨k, ⟨events, closed, ended⟩⟩ := p
        simp only at hc
        simp [hc]
      · rfl
    · simpa using hp
    · exact hp
  | .observe id sum => hp
  | .send ev => by
    refine Service.mem_updateFeed.2 ⟨p.2, hp, ?_⟩
    simp [hc]

theorem Inv.disconnect_unlinks (h : m.Inv) (hi : m.callers i = .idle) (c : String) :
    ∃ gone, (m.step (.disconnect i c)).callers i = .releasing gone (.disconnected c gone.length) ∧
      gone.Perm (m.service.subscriptions.filter (·.client == c)) ∧
      (m.step (.disconnect i c)).service.subscriptions =
        m.service.subscriptions.filter (·.client != c) := by
  obtain ⟨hgone, hrest⟩ := h.indexed.removeAll_idsOf c
  refine ⟨(m.service.removeAll (m.service.idsOf c)).1, ?_, hgone, ?_⟩
  · simp [step, disconnect, hi, Registry.unlink]
  · simpa [step, disconnect, hi, Registry.unlink] using hrest

theorem Inv.unsubscribe_unlinks (h : m.Inv) (hi : m.callers i = .idle) (id : String) :
    (m.step (.unsubscribe i id)).callers i =
        .releasing (m.service.subscriptions.filter (·.id == id)) (.unsubscribed id (id ∈ m.live)) ∧
      (m.step (.unsubscribe i id)).service.subscriptions =
        m.service.subscriptions.filter (·.id != id) := by
  have hfind := filter_eq_find? h.indexed.ids_nodup id
  refine ⟨?_, by simp [step, unsubscribe, hi, Service.remove_subscriptions]⟩
  simp only [step, unsubscribe, hi, Function.update_self, Service.remove_fst, hfind]
  congr 2
  rw [Bool.eq_iff_iff, List.find?_isSome]
  simp [live]

theorem Inv.shut_answered (h : m.Inv) (hi : m.callers i = .returned .shut) :
    m.service.closed = true ∧ m.service.subscriptions = [] ∧
      ∀ p ∈ m.service.feeds, p.2.closed = true ∨
        ∃ j gone a, m.callers j = .releasing gone a ∧ ∃ sub ∈ gone, sub.id = p.1 := by
  have hc : m.service.closed = true := h.shutClosed i (by simp [hi])
  refine ⟨hc, h.closedEmpty hc, fun p hp => ?_⟩
  have hfed : p.1 ∈ m.fed := List.mem_map_of_mem hp
  rcases h.fedTracked p.1 hfed with hl | hr | ⟨j, x, hx, hxp⟩
  · simp [live, h.closedEmpty hc] at hl
  · exact .inl ((h.feedClosed p hp).2 hr)
  · -- the call holding it is releasing: a linking call holds no fed subscription
    refine .inr ?_
    cases hj : m.callers j with
    | idle => simp [hj] at hx
    | linking sub =>
      rw [hj, Call.held_linking, List.mem_singleton] at hx
      subst hx
      exact absurd (hxp ▸ hfed) (h.linkingUnfed j x hj)
    | releasing gone a =>
      rw [hj, Call.held_releasing] at hx
      exact ⟨j, gone, a, hj, x, hx, hxp⟩
    | returned a => simp [hj] at hx

theorem link_closed (hc : m.service.closed = true) {sub : Subscription}
    (hi : m.callers i = .linking sub) :
    (m.step (.link i)).callers i = .releasing [sub] (.refused sub) := by
  simp [step, link, hi, hc]

theorem Inv.refused_released (h : m.Inv) {sub : Subscription}
    (hi : m.callers i = .returned (.refused sub)) : sub.id ∈ m.released := by
  rcases h.refusedGone i sub (by simp [hi]) with hheld | hr
  · simp [hi] at hheld
  · exact hr

/-- What the service promises in a state: the index agrees with the live subscriptions; a
disconnect unlinks exactly its client's subscriptions and an unsubscribe the live one of its id,
which no other unsubscribe reports; each subscription is released once and its feed closed exactly
then, and a closed feed is never written again; a closed service has no live subscription and
refuses every subscribe that reaches it, releasing its subscription; and once a shutdown has
answered, every feed is closed but those a call that unlinked them before is still releasing. -/
structure Safe (m : Registry) : Prop where
  indexed : Indexed m.service
  disconnects : ∀ i c, m.callers i = .idle → ∃ gone,
    (m.step (.disconnect i c)).callers i = .releasing gone (.disconnected c gone.length) ∧
    gone.Perm (m.service.subscriptions.filter (·.client == c)) ∧
    (m.step (.disconnect i c)).service.subscriptions = m.service.subscriptions.filter (·.client != c)
  unsubscribes : ∀ i id, m.callers i = .idle →
    (m.step (.unsubscribe i id)).callers i =
      .releasing (m.service.subscriptions.filter (·.id == id)) (.unsubscribed id (id ∈ m.live)) ∧
    (m.step (.unsubscribe i id)).service.subscriptions = m.service.subscriptions.filter (·.id != id)
  unsubscribedOnce : ∀ i j id, (m.callers i).answer = some (.unsubscribed id true) →
    (m.callers j).answer = some (.unsubscribed id true) → i = j
  releasedOnce : m.released.Nodup
  feedClosed : ∀ p ∈ m.service.feeds, p.2.closed = true ↔ p.1 ∈ m.released
  closedKept : ∀ a, ∀ p ∈ m.service.feeds, p.2.closed = true → p ∈ (m.step a).service.feeds
  closedEmpty : m.service.closed = true → m.service.subscriptions = []
  refusedAfterClose : m.service.closed = true → ∀ i sub, m.callers i = .linking sub →
    (m.step (.link i)).callers i = .releasing [sub] (.refused sub)
  refusedReleased : ∀ i sub, m.callers i = .returned (.refused sub) → sub.id ∈ m.released
  shutAnswered : ∀ i, m.callers i = .returned .shut →
    m.service.closed = true ∧ m.service.subscriptions = [] ∧
    ∀ p ∈ m.service.feeds, p.2.closed = true ∨
      ∃ j gone a, m.callers j = .releasing gone a ∧ ∃ sub ∈ gone, sub.id = p.1

theorem Inv.safe (h : m.Inv) : Safe m where
  indexed := h.indexed
  disconnects := fun _ c hi => h.disconnect_unlinks hi c
  unsubscribes := fun _ id hi => h.unsubscribe_unlinks hi id
  unsubscribedOnce := h.unsubscribedOnce
  releasedOnce := h.releasedNodup
  feedClosed := h.feedClosed
  closedKept := fun a _ hp hc => closed_feed_step hp hc a
  closedEmpty := h.closedEmpty
  refusedAfterClose := fun hc _ _ hi => link_closed hc hi
  refusedReleased := fun _ _ hi => h.refused_released hi
  shutAnswered := fun _ hi => h.shut_answered hi

/-- Every state that any interleaving of subscribes, unsubscribes, disconnects, shutdowns and
checks reaches keeps the service's promises. -/
theorem run_registry_safe (acts : List Action) : Safe (({} : Registry).run acts) :=
  (inv_run acts).safe

/-- A shutdown can answer while a feed is still open: an unsubscribe unlinked its subscription
before the shutdown took the lock, and has not released it yet. -/
theorem shutdown_answers_before_release :
    let sub : Subscription :=
      { id := "sub-1", client := "c", entity := "items", mode := "poll", request := default
        params := default }
    let m := ({} : Registry).run
      [.build 0 sub, .link 0, .unsubscribe 1 "sub-1", .shutdown 2, .release 2]
    m.callers 2 = .returned .shut ∧ m.callers 1 = .releasing [sub] (.unsubscribed "sub-1" true) ∧
      m.service.feeds = [("sub-1", {})] := by
  refine ⟨rfl, rfl, rfl⟩

end Registry

end RowGate.Realtime

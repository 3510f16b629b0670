import Mathlib.Data.List.Nodup
import Mathlib.Data.List.Perm.Basic
import RowGate.Realtime.Service
/-!
# The index of subscriptions by client

`Indexed`: the ids filed by client agree with the live subscriptions, kept by linking,
unlinking and recording checksums.
-/

namespace RowGate.Realtime

section Lookup

variable {l : List (String × List String)} {c client id : String} {ids : List String}

theorem find?_eq_of_mem {α β : Type} [BEq β] [LawfulBEq β] {f : α → β} {l : List α}
    (hk : (l.map f).Nodup) {a : α} (h : a ∈ l) : l.find? (f · == f a) = some a := by
  induction l with
  | nil => cases h
  | cons b l ih =>
    rw [List.map_cons, List.nodup_cons] at hk
    rcases List.mem_cons.1 h with rfl | h
    · simp
    · have hne : f b ≠ f a := fun e => hk.1 (e ▸ List.mem_map_of_mem h)
      simp [hne, ih hk.2 h]

theorem find?_key_of_mem (hk : (l.map Prod.fst).Nodup) (h : (c, ids) ∈ l) :
    l.find? (·.1 == c) = some (c, ids) :=
  find?_eq_of_mem hk h

theorem find?_key_of_not_mem (h : c ∉ l.map Prod.fst) : l.find? (·.1 == c) = none := by
  rw [List.find?_eq_none]
  intro p hp hc
  rw [beq_iff_eq] at hc
  exact h (hc ▸ List.mem_map_of_mem hp)

theorem filter_eq_find? {α β : Type} [BEq β] [LawfulBEq β] {f : α → β} {l : List α}
    (hk : (l.map f).Nodup) (b : β) : l.filter (f · == b) = (l.find? (f · == b)).toList := by
  induction l with
  | nil => rfl
  | cons a l ih =>
    rw [List.map_cons, List.nodup_cons] at hk
    by_cases ha : f a = b
    · subst ha
      have hrest : l.filter (f · == f a) = [] :=
        List.filter_eq_nil_iff.2 fun x hx e => hk.1 (beq_iff_eq.1 e ▸ List.mem_map_of_mem hx)
      simp [hrest]
    · simp [ha, ih hk.2]

theorem keys_fileUnder (l : List (String × List String)) (client id : String) :
    (fileUnder l client id).map Prod.fst =
      if client ∈ l.map Prod.fst then l.map Prod.fst else l.map Prod.fst ++ [client] := by
  have hany : l.any (·.1 == client) = true ↔ client ∈ l.map Prod.fst := by simp
  unfold fileUnder
  by_cases h : client ∈ l.map Prod.fst
  · rw [if_pos (hany.2 h), if_pos h, List.map_map]
    congr 1
    funext p
    simp only [Function.comp]
    split <;> rfl
  · rw [if_neg (mt hany.1 h), if_neg h, List.map_append]
    rfl

theorem keys_takeFrom_sublist (l : List (String × List String)) (client id : String) :
    List.Sublist ((takeFrom l client id).map Prod.fst) (l.map Prod.fst) := by
  have hkeys : (l.map fun (p : String × List String) =>
      if p.1 == client then (p.1, p.2.filter (· != id)) else (p.1, p.2)).map Prod.fst =
      l.map Prod.fst := by
    rw [List.map_map]
    congr 1
    funext p
    simp only [Function.comp]
    split <;> rfl
  unfold takeFrom
  exact hkeys ▸ List.filter_sublist.map Prod.fst

theorem entry_eq_of_mem {l : List (String × List String)} (hk : (l.map Prod.fst).Nodup)
    {a b : List String} (ha : (c, a) ∈ l) (hb : (c, b) ∈ l) : a = b := by
  have := (find?_key_of_mem hk ha).symm.trans (find?_key_of_mem hk hb)
  simpa using this

theorem mem_takeFrom {l : List (String × List String)} {client : String} {x : String × List String} :
    x ∈ takeFrom l client id ↔ ∃ y ∈ l,
      x = (y.1, if client = y.1 then y.2.filter (· != id) else y.2) ∧ ¬(x.1 = client ∧ x.2 = []) := by
  have hentry : ∀ y : String × List String,
      (if y.1 == client then (y.1, y.2.filter (· != id)) else (y.1, y.2)) =
        (y.1, if client = y.1 then y.2.filter (· != id) else y.2) := by
    intro y
    by_cases h : y.1 = client
    · simp [h]
    · simp [h, Ne.symm h]
  unfold takeFrom
  simp only [List.mem_filter, List.mem_map, hentry]
  constructor
  · rintro ⟨⟨y, hy, rfl⟩, hkeep⟩
    exact ⟨y, hy, rfl, by simpa [imp_iff_not_or] using hkeep⟩
  · rintro ⟨y, hy, rfl, hkeep⟩
    exact ⟨⟨y, hy, rfl⟩, by simpa [imp_iff_not_or] using hkeep⟩

end Lookup

namespace Service

variable {s : Service} {sub : Subscription} {c id : String} {ids : List String}

theorem idsOf_of_mem (hk : (s.byClient.map Prod.fst).Nodup) (h : (c, ids) ∈ s.byClient) :
    s.idsOf c = ids := by
  simp [idsOf, find?_key_of_mem hk h]

theorem idsOf_of_not_mem (h : c ∉ s.byClient.map Prod.fst) : s.idsOf c = [] := by
  simp [idsOf, find?_key_of_not_mem h]

theorem idsOf_link (s : Service) (sub : Subscription) (c : String) :
    (s.link sub).idsOf c = if sub.client = c then s.idsOf c ++ [sub.id] else s.idsOf c := by
  simp only [idsOf, link, fileUnder]
  split
  · rename_i hany
    -- filing under a client that is there appends to its entry and keeps every key
    have hkey : ((·.1 == c) ∘ fun (p : String × List String) =>
        if p.1 == sub.client then (p.1, p.2 ++ [sub.id]) else (p.1, p.2)) = (·.1 == c) := by
      funext p
      simp only [Function.comp]
      split <;> rfl
    rw [List.find?_map, hkey]
    rcases hf : s.byClient.find? (·.1 == c) with _ | p
    · have hc : sub.client ≠ c := by
        rintro rfl
        obtain ⟨p, hp, hpc⟩ := List.any_eq_true.1 hany
        exact List.find?_eq_none.1 hf p hp hpc
      simp [hf, hc]
    · have hpc : p.1 = c := by simpa using List.find?_some hf
      subst hpc
      by_cases h : sub.client = p.1
      · simp [hf, h]
      · have h' : p.1 ≠ sub.client := Ne.symm h
        simp [hf, h, h']
  · rename_i hany
    rw [List.find?_append]
    by_cases h : sub.client = c
    · subst h
      have hnone : s.byClient.find? (·.1 == sub.client) = none :=
        List.find?_eq_none.2 fun p hp hpc => hany (List.any_eq_true.2 ⟨p, hp, hpc⟩)
      simp [hnone]
    · have hnone : [(sub.client, [sub.id])].find? (·.1 == c) = none := by simp [h]
      simp [hnone, h]

theorem idsOf_takeFrom {s' : Service} (hk : (s.byClient.map Prod.fst).Nodup) {client : String}
    (hb : s'.byClient = takeFrom s.byClient client id) (c : String) :
    s'.idsOf c = if client = c then (s.idsOf c).filter (· != id) else s.idsOf c := by
  have hk' : (s'.byClient.map Prod.fst).Nodup := hb ▸ hk.sublist (keys_takeFrom_sublist _ _ _)
  by_cases hc : c ∈ s.byClient.map Prod.fst
  · obtain ⟨⟨c, ids⟩, hmem, rfl⟩ := List.mem_map.1 hc
    rw [idsOf_of_mem hk hmem]
    by_cases hgone : client = c ∧ ids.filter (· != id) = []
    · -- the client's last id goes, and the client with it
      obtain ⟨rfl, hnil⟩ := hgone
      rw [if_pos rfl, hnil]
      apply idsOf_of_not_mem
      intro hc'
      obtain ⟨x, hx, hxc⟩ := List.mem_map.1 hc'
      rw [hb, mem_takeFrom] at hx
      obtain ⟨⟨yc, yids⟩, hy, rfl, hkeep⟩ := hx
      simp only at hxc
      subst hxc
      rw [entry_eq_of_mem hk hy hmem] at hkeep
      simp [hnil] at hkeep
    · apply idsOf_of_mem hk'
      rw [hb, mem_takeFrom]
      refine ⟨(c, ids), hmem, ?_, ?_⟩
      · split <;> rfl
      · dsimp only
        rintro ⟨rfl, hnil⟩
        exact hgone ⟨rfl, by simpa using hnil⟩
  · rw [idsOf_of_not_mem hc]
    have hc' : c ∉ s'.byClient.map Prod.fst := by
      intro hc'
      obtain ⟨x, hx, rfl⟩ := List.mem_map.1 hc'
      rw [hb, mem_takeFrom] at hx
      obtain ⟨y, hy, rfl, -⟩ := hx
      exact hc (by simpa using List.mem_map_of_mem (f := Prod.fst) hy)
    rw [idsOf_of_not_mem hc']
    split <;> rfl

theorem remove_of_find?_none (h : s.subscriptions.find? (·.id == id) = none) :
    s.remove id = (none, s) := by
  simp [remove, h]

theorem remove_of_find?_some (h : s.subscriptions.find? (·.id == id) = some sub) :
    s.remove id = (some sub, { s with subscriptions := s.subscriptions.filter (·.id != id)
                                      byClient := takeFrom s.byClient sub.client id }) := by
  simp [remove, h]

@[simp] theorem remove_fst (s : Service) (id : String) :
    (s.remove id).1 = s.subscriptions.find? (·.id == id) := by
  rcases h : s.subscriptions.find? (·.id == id) with _ | sub
  · rw [remove_of_find?_none h]
    exact h.symm
  · rw [remove_of_find?_some h]
    exact h.symm

theorem remove_subscriptions (s : Service) (id : String) :
    (s.remove id).2.subscriptions = s.subscriptions.filter (·.id != id) := by
  rcases h : s.subscriptions.find? (·.id == id) with _ | sub
  · rw [remove_of_find?_none h, eq_comm, List.filter_eq_self]
    intro x hx
    simpa using List.find?_eq_none.1 h x hx
  · rw [remove_of_find?_some h]

@[simp] theorem remove_feeds (s : Service) (id : String) : (s.remove id).2.feeds = s.feeds := by
  unfold remove
  split <;> rfl

@[simp] theorem remove_closed (s : Service) (id : String) : (s.remove id).2.closed = s.closed := by
  unfold remove
  split <;> rfl

theorem removeAll_cons (s : Service) (id : String) (ids : List String) :
    s.removeAll (id :: ids) =
      ((s.remove id).1.toList ++ ((s.remove id).2.removeAll ids).1,
        ((s.remove id).2.removeAll ids).2) := rfl

@[simp] theorem removeAll_feeds (s : Service) (ids : List String) :
    (s.removeAll ids).2.feeds = s.feeds := by
  induction ids generalizing s with
  | nil => rfl
  | cons id ids ih => rw [removeAll_cons, ih, remove_feeds]

@[simp] theorem removeAll_closed (s : Service) (ids : List String) :
    (s.removeAll ids).2.closed = s.closed := by
  induction ids generalizing s with
  | nil => rfl
  | cons id ids ih => rw [removeAll_cons, ih, remove_closed]

theorem removeAll_subscriptions (s : Service) (ids : List String) :
    (s.removeAll ids).2.subscriptions = s.subscriptions.filter (·.id ∉ ids) := by
  induction ids generalizing s with
  | nil => simp [removeAll]
  | cons id ids ih =>
    rw [removeAll_cons, ih, remove_subscriptions, List.filter_filter]
    apply List.filter_congr
    intro x _
    by_cases hx : x.id = id <;> simp [hx]

@[simp] theorem updateFeed_subscriptions (s : Service) (id : String) (f : Feed → Feed) :
    (s.updateFeed id f).subscriptions = s.subscriptions := rfl

@[simp] theorem updateFeed_byClient (s : Service) (id : String) (f : Feed → Feed) :
    (s.updateFeed id f).byClient = s.byClient := rfl

@[simp] theorem updateFeed_closed (s : Service) (id : String) (f : Feed → Feed) :
    (s.updateFeed id f).closed = s.closed := rfl

theorem dropRoute_eq (s : Service) (sub : Subscription) :
    s.dropRoute sub = { s with hubs := (s.dropRoute sub).hubs } := by
  unfold dropRoute
  split <;> rfl

@[simp] theorem release_subscriptions (s : Service) (sub : Subscription) :
    (s.release sub).subscriptions = s.subscriptions := by
  rw [release, updateFeed_subscriptions, dropRoute_eq]

@[simp] theorem release_byClient (s : Service) (sub : Subscription) :
    (s.release sub).byClient = s.byClient := by
  rw [release, updateFeed_byClient, dropRoute_eq]

@[simp] theorem release_closed (s : Service) (sub : Subscription) :
    (s.release sub).closed = s.closed := by
  rw [release, updateFeed_closed, dropRoute_eq]

@[simp] theorem release_feeds (s : Service) (sub : Subscription) :
    (s.release sub).feeds = s.feeds.map fun (k, f) => if k == sub.id then (k, { f with closed := true }) else (k, f) := by
  rw [release, updateFeed, dropRoute_eq]

end Service

/-- The index of ids by client agrees with the live subscriptions: no id is live twice, each
client's ids are those of its live subscriptions in the order they were linked, and a client is
filed once and never with no id. -/
structure Indexed (s : Service) : Prop where
  ids_nodup : (s.subscriptions.map Subscription.id).Nodup
  idsOf_eq : ∀ c, s.idsOf c = (s.subscriptions.filter (·.client == c)).map Subscription.id
  keys_nodup : (s.byClient.map Prod.fst).Nodup
  nonempty : ∀ p ∈ s.byClient, p.2 ≠ []

namespace Indexed

variable {s : Service} {sub : Subscription} {id : String}

theorem eq_of_id_eq (h : Indexed s) {x y : Subscription} (hx : x ∈ s.subscriptions)
    (hy : y ∈ s.subscriptions) (e : x.id = y.id) : x = y :=
  List.inj_on_of_nodup_map h.ids_nodup hx hy e

theorem of_eq {s' : Service} (h : Indexed s) (hs : s'.subscriptions = s.subscriptions)
    (hb : s'.byClient = s.byClient) : Indexed s' := by
  have hids : s'.idsOf = s.idsOf := by
    funext c
    simp only [Service.idsOf, hb]
  exact ⟨hs ▸ h.ids_nodup, fun c => by rw [hids, hs, h.idsOf_eq], hb ▸ h.keys_nodup, hb ▸ h.nonempty⟩

theorem mem_idsOf (h : Indexed s) {c : String} :
    id ∈ s.idsOf c ↔ ∃ sub ∈ s.subscriptions, sub.id = id ∧ sub.client = c := by
  rw [h.idsOf_eq c]
  simp only [List.mem_map, List.mem_filter, beq_iff_eq]
  constructor
  · rintro ⟨sub, ⟨hsub, hc⟩, hid⟩
    exact ⟨sub, hsub, hid, hc⟩
  · rintro ⟨sub, hsub, hid, hc⟩
    exact ⟨sub, ⟨hsub, hc⟩, hid⟩

theorem setLast (h : Indexed s) (id : String) (sum : UInt64) : Indexed (s.setLast id sum) := by
  have hsame : ∀ x : Subscription,
      (if x.id == id then { x with last := some sum } else x).id = x.id ∧
      (if x.id == id then { x with last := some sum } else x).client = x.client := by
    intro x
    split <;> exact ⟨rfl, rfl⟩
  have hids : ((s.setLast id sum).subscriptions.map Subscription.id) =
      s.subscriptions.map Subscription.id := by
    simp only [Service.setLast, List.map_map]
    exact List.map_congr_left fun x _ => (hsame x).1
  refine ⟨hids ▸ h.ids_nodup, fun c => ?_, h.keys_nodup, h.nonempty⟩
  rw [show (s.setLast id sum).idsOf c = s.idsOf c from rfl, h.idsOf_eq c]
  simp only [Service.setLast, List.filter_map, List.map_map]
  congr 1
  · funext x
    exact ((hsame x).1).symm
  · apply List.filter_congr
    intro x _
    simp only [Function.comp, (hsame x).2]

theorem link (h : Indexed s) (hfresh : sub.id ∉ s.subscriptions.map Subscription.id) :
    Indexed (s.link sub) where
  ids_nodup := by
    simp only [Service.link, List.map_append, List.map_singleton]
    exact List.Nodup.append h.ids_nodup (List.nodup_singleton _) (List.disjoint_singleton.2 hfresh)
  idsOf_eq c := by
    rw [Service.idsOf_link, h.idsOf_eq c]
    simp only [Service.link, List.filter_append, List.map_append]
    by_cases hc : sub.client = c <;> simp [hc]
  keys_nodup := by
    simp only [Service.link, keys_fileUnder]
    split
    · exact h.keys_nodup
    · exact List.Nodup.append h.keys_nodup (List.nodup_singleton _) (List.disjoint_singleton.2 ‹_›)
  nonempty p hp := by
    simp only [Service.link, fileUnder] at hp
    split at hp
    · obtain ⟨q, hq, rfl⟩ := List.mem_map.1 hp
      split
      · simp
      · exact h.nonempty q hq
    · rcases List.mem_append.1 hp with hp | hp
      · exact h.nonempty p hp
      · rw [List.mem_singleton.1 hp]
        simp

theorem remove (h : Indexed s) (id : String) : Indexed (s.remove id).2 := by
  rcases hf : s.subscriptions.find? (·.id == id) with _ | sub
  · rw [Service.remove_of_find?_none hf]
    exact h
  have hsub := List.mem_of_find?_eq_some hf
  have hid : sub.id = id := by simpa using List.find?_some hf
  have hb : (s.remove id).2.byClient = takeFrom s.byClient sub.client id := by
    rw [Service.remove_of_find?_some hf]
  refine ⟨?_, fun c => ?_, ?_, ?_⟩
  · rw [Service.remove_subscriptions]
    exact h.ids_nodup.sublist (List.filter_sublist.map _)
  · rw [Service.idsOf_takeFrom h.keys_nodup hb, h.idsOf_eq c, Service.remove_subscriptions,
      List.filter_filter, List.filter_map, List.filter_filter]
    by_cases hc : sub.client = c
    · rw [if_pos hc]
      congr 2
      funext x
      exact Bool.and_comm _ _
    · -- the subscription of that id is not the client's, so the client keeps all its ids
      rw [if_neg hc]
      congr 1
      apply List.filter_congr
      intro x hx
      by_cases hxc : x.client = c
      · have hne : x.id ≠ id := fun e => hc (h.eq_of_id_eq hx hsub (e.trans hid.symm) ▸ hxc)
        simp [hxc, hne]
      · simp [hxc]
  · rw [hb]
    exact h.keys_nodup.sublist (keys_takeFrom_sublist _ _ _)
  · intro p hp
    rw [hb, mem_takeFrom] at hp
    obtain ⟨q, hq, rfl, hkeep⟩ := hp
    dsimp only at hkeep ⊢
    split
    · rename_i hcl
      exact fun e => hkeep ⟨hcl.symm, by rw [if_pos hcl]; exact e⟩
    · exact h.nonempty q hq

theorem removeAll (h : Indexed s) (ids : List String) : Indexed (s.removeAll ids).2 := by
  induction ids generalizing s with
  | nil => exact h
  | cons id ids ih => exact ih (h.remove id)

theorem removeAll_perm (h : Indexed s) (ids : List String) :
    (s.removeAll ids).1.Perm (s.subscriptions.filter (·.id ∈ ids)) := by
  induction ids generalizing s with
  | nil => simp [Service.removeAll]
  | cons id ids ih =>
    rw [Service.removeAll_cons, Service.remove_fst]
    refine ((ih (h.remove id)).append_left _).trans ?_
    rw [Service.remove_subscriptions, ← filter_eq_find? h.ids_nodup]
    -- split the subscriptions of `id :: ids` into the one of `id` and the others
    refine List.Perm.trans (List.Perm.of_eq ?_) (List.filter_append_perm (·.id == id) _)
    rw [List.filter_filter, List.filter_filter, List.filter_filter]
    congr 1 <;> apply List.filter_congr <;> intro x _ <;> by_cases hx : x.id = id <;>
      simp [hx, Bool.and_comm, bne]

theorem mem_removeAll (h : Indexed s) {ids : List String} {x : Subscription} :
    x ∈ (s.removeAll ids).1 ↔ x ∈ s.subscriptions ∧ x.id ∈ ids := by
  rw [(h.removeAll_perm ids).mem_iff, List.mem_filter, decide_eq_true_iff]

theorem mem_idsOf_iff (h : Indexed s) (hsub : sub ∈ s.subscriptions) {c : String} :
    sub.id ∈ s.idsOf c ↔ sub.client = c := by
  rw [h.mem_idsOf]
  constructor
  · rintro ⟨x, hx, hid, rfl⟩
    rw [h.eq_of_id_eq hx hsub hid]
  · exact fun hc => ⟨sub, hsub, rfl, hc⟩

theorem removeAll_idsOf (h : Indexed s) (c : String) :
    (s.removeAll (s.idsOf c)).1.Perm (s.subscriptions.filter (·.client == c)) ∧
      (s.removeAll (s.idsOf c)).2.subscriptions = s.subscriptions.filter (·.client != c) := by
  have hsame : ∀ x ∈ s.subscriptions, decide (x.id ∈ s.idsOf c) = (x.client == c) := by
    intro x hx
    rw [Bool.eq_iff_iff]
    simp [h.mem_idsOf_iff hx]
  refine ⟨(h.removeAll_perm _).trans (List.Perm.of_eq (List.filter_congr hsame)), ?_⟩
  rw [Service.removeAll_subscriptions]
  apply List.filter_congr
  intro x hx
  rw [Bool.eq_iff_iff]
  simp [h.mem_idsOf_iff hx]

end Indexed

namespace Service

variable {s : Service}

@[simp] theorem foldl_release_subscriptions (s : Service) (subs : List Subscription) :
    (subs.foldl release s).subscriptions = s.subscriptions := by
  induction subs generalizing s with
  | nil => rfl
  | cons sub subs ih => rw [List.foldl_cons, ih, release_subscriptions]

@[simp] theorem foldl_release_byClient (s : Service) (subs : List Subscription) :
    (subs.foldl release s).byClient = s.byClient := by
  induction subs generalizing s with
  | nil => rfl
  | cons sub subs ih => rw [List.foldl_cons, ih, release_byClient]

@[simp] theorem foldl_release_closed (s : Service) (subs : List Subscription) :
    (subs.foldl release s).closed = s.closed := by
  induction subs generalizing s with
  | nil => rfl
  | cons sub subs ih => rw [List.foldl_cons, ih, release_closed]

/-- Disconnecting a client ends exactly its subscriptions and counts them. -/
theorem disconnect_ends_client (h : Indexed s) (c : String) :
    (s.disconnect c).1 = (s.subscriptions.filter (·.client == c)).length ∧
      (s.disconnect c).2.subscriptions = s.subscriptions.filter (·.client != c) ∧
      Indexed (s.disconnect c).2 := by
  obtain ⟨hgone, hlive⟩ := h.removeAll_idsOf c
  refine ⟨hgone.length_eq, ?_, ?_⟩
  · simp only [disconnect, foldl_release_subscriptions, hlive]
  · exact (h.removeAll (s.idsOf c)).of_eq (by simp [disconnect]) (by simp [disconnect])

/-- Unsubscribing reports whether the id was live, and leaves it not live. -/
theorem unsubscribe_ends (h : Indexed s) (id : String) :
    ((s.unsubscribe id).1 = true ↔ id ∈ s.subscriptions.map Subscription.id) ∧
      (s.unsubscribe id).2.subscriptions = s.subscriptions.filter (·.id != id) ∧
      Indexed (s.unsubscribe id).2 := by
  have hind := h.remove id
  rcases hf : s.subscriptions.find? (·.id == id) with _ | sub
  · have hnone := remove_of_find?_none hf
    have hout : id ∉ s.subscriptions.map Subscription.id := by
      simpa using List.find?_eq_none.1 hf
    rw [hnone] at hind
    refine ⟨?_, ?_, ?_⟩
    · simpa [unsubscribe, hnone] using hout
    · rw [← remove_subscriptions, hnone]
      simp [unsubscribe, hnone]
    · simpa [unsubscribe, hnone] using hind
  · have hsome := remove_of_find?_some hf
    have hin : id ∈ s.subscriptions.map Subscription.id :=
      List.mem_map.2 ⟨sub, List.mem_of_find?_eq_some hf, by simpa using List.find?_some hf⟩
    refine ⟨?_, ?_, ?_⟩
    · simp [unsubscribe, hsome, hin]
    · simp [unsubscribe, hsome]
    · rw [hsome] at hind
      simp only [unsubscribe, hsome]
      exact hind.of_eq (by simp) (by simp)

/-- Shutting a service down leaves it closed with no live subscription, if a closed service
had none before. -/
theorem shutdown_empties (h : Indexed s) (hshut : s.closed = true → s.subscriptions = []) :
    s.shutdown.closed = true ∧ s.shutdown.subscriptions = [] ∧ Indexed s.shutdown := by
  unfold shutdown
  split
  · exact ⟨‹_›, hshut ‹_›, h⟩
  · have hind : Indexed { s with closed := true } := h.of_eq rfl rfl
    refine ⟨?_, ?_, ?_⟩
    · simp
    · simp only [foldl_release_subscriptions, removeAll_subscriptions]
      exact List.filter_eq_nil_iff.2 fun x hx => by simpa using List.mem_map_of_mem hx
    · exact (hind.removeAll (s.subscriptions.map Subscription.id)).of_eq (by simp) (by simp)

end Service

end RowGate.Realtime

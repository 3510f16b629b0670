import Mathlib
import RowGate.Executor.Document
import RowGate.Proofs.Engine.Plan
/-!
# Documents as rows

`Bson.toValue` normalises every node of a decoded document (`normalizes_toValue`) into JSON
friendly values that normalise back to themselves.
-/

namespace RowGate

/-! ## Entries sorted by key -/

theorem lookup_cons_eq_ite {α : Type} (k k' : String) (x : α) (ps : List (String × α)) :
    ((k', x) :: ps).lookup k = if k = k' then some x else ps.lookup k := by
  by_cases h : k = k'
  · simp [h]
  · simp [List.lookup_cons, beq_false_of_ne h, h]

namespace Entries

/-- Keys strictly increasing, so each key once. -/
def Sorted (es : Entries) : Prop := es.Pairwise fun a b => a.1 < b.1

theorem get?_eq_lookup (es : Entries) (k : String) : get? es k = es.lookup k := by
  induction es with
  | nil => rfl
  | cons e rest ih =>
    obtain ⟨k', w⟩ := e
    rw [get?_cons, ih, lookup_cons_eq_ite]

theorem mem_insert {key : String} {v : Value} {es : Entries} {e : String × Value}
    (h : e ∈ Entries.insert key v es) : e = (key, v) ∨ e ∈ es := by
  induction es with
  | nil => simpa [Entries.insert] using h
  | cons head rest ih =>
    obtain ⟨k, w⟩ := head
    simp only [Entries.insert] at h
    split_ifs at h with hlt heq
    · simpa using h
    · -- the entry of `key` is replaced
      rcases List.mem_cons.mp h with h | h
      · exact .inl h
      · exact .inr (List.mem_cons_of_mem _ h)
    · simp only [List.mem_cons] at h ⊢
      rcases h with rfl | h
      · exact .inr (.inl rfl)
      · rcases ih h with h | h
        · exact .inl h
        · exact .inr (.inr h)

theorem Sorted.insert {es : Entries} (h : Sorted es) (key : String) (v : Value) :
    Sorted (Entries.insert key v es) := by
  induction es with
  | nil => simp [Sorted, Entries.insert]
  | cons head rest ih =>
    obtain ⟨k, w⟩ := head
    obtain ⟨hk, hrest⟩ := List.pairwise_cons.mp h
    simp only [Entries.insert]
    split_ifs with hlt heq
    · -- `key` goes first, below `k` and so below every key after it
      refine List.pairwise_cons.mpr ⟨fun e he => ?_, h⟩
      rcases List.mem_cons.mp he with rfl | he
      · exact hlt
      · exact lt_trans hlt (hk e he)
    · obtain rfl : key = k := by simpa using heq
      exact List.pairwise_cons.mpr ⟨hk, hrest⟩
    · have hgt : k < key := lt_of_le_of_ne (not_lt.mp hlt) fun h => heq (by simp [h])
      refine List.pairwise_cons.mpr ⟨fun e he => ?_, ih hrest⟩
      rcases mem_insert he with rfl | he
      · exact hgt
      · exact hk e he

theorem insert_of_lt {key : String} {v : Value} {es : Entries} (h : ∀ e ∈ es, e.1 < key) :
    Entries.insert key v es = es ++ [(key, v)] := by
  induction es with
  | nil => rfl
  | cons head rest ih =>
    obtain ⟨k, w⟩ := head
    have hk : k < key := h (k, w) (by simp)
    have hne : (key == k) = false := by simpa using ne_of_gt hk
    simp only [Entries.insert, lt_asymm hk, hne, if_false, Bool.false_eq_true,
      ih fun e he => h e (List.mem_cons_of_mem _ he), List.cons_append]

theorem foldl_insert_of_sorted {ps acc : Entries} (h : Sorted (acc ++ ps)) :
    ps.foldl (fun acc p => Entries.insert p.1 p.2 acc) acc = acc ++ ps := by
  induction ps generalizing acc with
  | nil => simp
  | cons p ps ih =>
    have hp : ∀ e ∈ acc, e.1 < p.1 := fun e he => (List.pairwise_append.mp h).2.2 e he p (by simp)
    rw [List.foldl_cons, insert_of_lt hp, ih (by simpa using h)]
    simp

theorem ofList_of_sorted {es : Entries} (h : Sorted es) : ofList es = es :=
  @foldl_insert_of_sorted es [] (by simpa using h)

theorem sorted_ofList (ps : List (String × Value)) : Sorted (ofList ps) := by
  have hfold : ∀ acc : Entries, Sorted acc →
      Sorted (ps.foldl (fun acc p => Entries.insert p.1 p.2 acc) acc) := by
    induction ps with
    | nil => exact fun _ h => h
    | cons p ps ih => exact fun acc h => ih _ (h.insert p.1 p.2)
  exact hfold [] List.Pairwise.nil

theorem get?_ofList (ps : List (String × Value)) (k : String) :
    get? (ofList ps) k = ps.reverse.lookup k := by
  have hfold : ∀ acc : Entries,
      get? (ps.foldl (fun acc p => Entries.insert p.1 p.2 acc) acc) k =
        (ps.reverse.lookup k).or (get? acc k) := by
    induction ps with
    | nil => simp
    | cons p ps ih =>
      intro acc
      obtain ⟨k', w⟩ := p
      rw [List.foldl_cons, ih, get?_insert, List.reverse_cons, List.lookup_append, Option.or_assoc,
        lookup_cons_eq_ite]
      by_cases h : k = k' <;> simp [h]
  rw [ofList, hfold, show get? [] k = none from rfl, Option.or_none]

theorem get?_of_mem {es : Entries} (h : Sorted es) {e : String × Value} (he : e ∈ es) :
    get? es e.1 = some e.2 := by
  induction es with
  | nil => simp at he
  | cons head rest ih =>
    obtain ⟨hk, hrest⟩ := List.pairwise_cons.mp h
    rw [get?_cons]
    rcases List.mem_cons.mp he with rfl | he
    · simp
    · rw [if_neg (ne_of_gt (hk e he)), ih hrest he]

end Entries

theorem mem_of_lookup_eq_some {α : Type} {ps : List (String × α)} {k : String} {x : α}
    (h : ps.lookup k = some x) : (k, x) ∈ ps := by
  obtain ⟨l₁, l₂, rfl, -⟩ := List.lookup_eq_some_iff.mp h
  simp

theorem mem_keys_iff_isSome {α : Type} {ps : List (String × α)} {k : String} :
    k ∈ ps.map Prod.fst ↔ (ps.lookup k).isSome := by
  rw [List.lookup_isSome_iff]
  simp only [List.mem_map, beq_iff_eq]
  constructor <;> rintro ⟨p, hp, rfl⟩ <;> exact ⟨p, hp, rfl⟩

theorem lookup_map_snd {α β : Type} (f : α → β) (ps : List (String × α)) (k : String) :
    (ps.map fun e => (e.1, f e.2)).lookup k = (ps.lookup k).map f := by
  induction ps with
  | nil => rfl
  | cons e ps ih =>
    obtain ⟨k', x⟩ := e
    by_cases h : k = k' <;> simp [lookup_cons_eq_ite, h, ih]

/-! ## Ids and instants -/

namespace ObjectId

theorem digitChar_hex : ∀ k < 16,
    (Nat.digitChar k).isDigit ∨ ('a' ≤ Nat.digitChar k ∧ Nat.digitChar k ≤ 'f') := by
  decide

theorem length_hex (i : ObjectId) : i.hex.length = 2 * i.bytes.length := by
  obtain ⟨bytes⟩ := i
  rw [hex, String.length_ofList]
  induction bytes with
  | nil => rfl
  | cons b bs ih =>
    simp only [List.flatMap_cons, List.length_append, List.length_cons, List.length_nil] at ih ⊢
    omega

theorem hex_lower (i : ObjectId) : ∀ c ∈ i.hex.toList, c.isDigit ∨ ('a' ≤ c ∧ c ≤ 'f') := by
  intro c hc
  simp only [hex, String.toList_ofList, List.mem_flatMap, List.mem_cons, List.not_mem_nil,
    or_false] at hc
  obtain ⟨b, -, rfl | rfl⟩ := hc
  · have hb := b.toNat_lt
    exact digitChar_hex _ (by omega)
  · exact digitChar_hex _ (Nat.mod_lt _ (by decide))

theorem pairs_hex (d : Char → Option Nat) (hd : ∀ k < 16, d (Nat.digitChar k) = some k)
    (bytes : List UInt8) :
    ofHex?.pairs d (bytes.flatMap fun b =>
      [Nat.digitChar (b.toNat / 16), Nat.digitChar (b.toNat % 16)]) = some bytes := by
  induction bytes with
  | nil => rfl
  | cons b bs ih =>
    have hb := b.toNat_lt
    have hbyte : (b.toNat / 16 * 16 + b.toNat % 16).toUInt8 = b := by
      rw [Nat.div_add_mod']
      exact UInt8.ofNat_toNat
    simp only [List.flatMap_cons, List.cons_append, List.nil_append, ofHex?.pairs,
      hd _ (by omega : b.toNat / 16 < 16), hd _ (Nat.mod_lt _ (by decide)), ih, hbyte,
      Option.bind_eq_bind, Option.bind_some]

theorem ofHex?_hex {i : ObjectId} (h : i.bytes.length = 12) : ofHex? i.hex = some i := by
  have hlen : i.hex.length = 24 := by rw [length_hex, h]
  simp only [ofHex?, hlen]
  rw [hex, String.toList_ofList, pairs_hex _ (by decide)]
  rfl

end ObjectId

theorem Instant.ofMillis_exact (ms : Int) :
    (Instant.ofMillis ms).seconds * 1000000000 + (Instant.ofMillis ms).nanos = ms * 1000000 ∧
      (Instant.ofMillis ms).nanos < 1000000000 := by
  have hmod := Int.toNat_of_nonneg (Int.emod_nonneg ms (by decide : (1000 : Int) ≠ 0))
  have hlt := Int.emod_lt_of_pos ms (by decide : (0 : Int) < 1000)
  simp only [Instant.ofMillis]
  constructor
  · push_cast
    omega
  · omega

namespace Executor

/-! ## Normal forms -/

/-- A value with nothing inside it and no type of the database's own. -/
def isScalar : Value → Bool
  | .null | .bool _ | .str _ | .int .. | .float _ | .float32 _ | .number _ | .bytes _
  | .time _ => true
  | _ => false

/-- A value JSON carries as it is: scalars, lists, and objects with sorted, distinct keys, all
the way down. No id is left at any depth. -/
inductive JsonFriendly : Value → Prop
  | scalar {v : Value} : isScalar v = true → JsonFriendly v
  | list {vs : List Value} : (∀ v ∈ vs, JsonFriendly v) → JsonFriendly (.list vs)
  | obj {es : Entries} : es.Sorted → (∀ e ∈ es, JsonFriendly e.2) → JsonFriendly (.obj es)

namespace Bson

/-- A document value as the database hands it over: documents, ordered documents and arrays of
such values, twelve-byte ids, instants, decimals and scalars. -/
inductive Decoded : Bson → Prop
  | value {v : Value} : isScalar v = true → Decoded (.value v)
  | objectId {i : ObjectId} : i.bytes.length = 12 → Decoded (.objectId i)
  | dateTime (ms : Int) : Decoded (.dateTime ms)
  | decimal (text : String) : Decoded (.decimal text)
  | map {es : List (String × Bson)} : (∀ e ∈ es, Decoded e.2) → Decoded (.map es)
  | ordered {es : List (String × Bson)} : (∀ e ∈ es, Decoded e.2) → Decoded (.ordered es)
  | array {xs : List Bson} : (∀ x ∈ xs, Decoded x) → Decoded (.array xs)

/-- What normalising makes of each kind of document value, all the way down. -/
inductive Normalizes : Bson → Value → Prop
  /-- A scalar stays as it is. -/
  | value {v : Value} : isScalar v = true → Normalizes (.value v) v
  /-- An id becomes 24 lower-case hex digits that read back as the id. -/
  | objectId {i : ObjectId} {s : String} : s.length = 24 →
      (∀ c ∈ s.toList, c.isDigit ∨ ('a' ≤ c ∧ c ≤ 'f')) → ObjectId.ofHex? s = some i →
      Normalizes (.objectId i) (.str s)
  /-- An instant becomes the UTC instant `ms` milliseconds after the epoch. -/
  | dateTime {ms : Int} {t : Instant} : t.seconds * 1000000000 + t.nanos = ms * 1000000 →
      t.nanos < 1000000000 → Normalizes (.dateTime ms) (.time t)
  /-- A decimal becomes its text. -/
  | decimal (text : String) : Normalizes (.decimal text) (.str text)
  /-- A document becomes an object with sorted keys, the document's keys, each holding the
  normalised value of the last pair with that key. -/
  | map {es : List (String × Bson)} {E : Entries} : E.Sorted →
      (∀ k, k ∈ E.map Prod.fst ↔ k ∈ es.map Prod.fst) →
      (∀ k x w, es.reverse.lookup k = some x → Entries.get? E k = some w → Normalizes x w) →
      Normalizes (.map es) (.obj E)
  /-- An ordered document becomes an object in the same way. -/
  | ordered {es : List (String × Bson)} {E : Entries} : E.Sorted →
      (∀ k, k ∈ E.map Prod.fst ↔ k ∈ es.map Prod.fst) →
      (∀ k x w, es.reverse.lookup k = some x → Entries.get? E k = some w → Normalizes x w) →
      Normalizes (.ordered es) (.obj E)
  /-- An array becomes a list of the same length, item by item. -/
  | array {xs : List Bson} {ys : List Value} : ys.length = xs.length →
      (∀ i (hx : i < xs.length) (hy : i < ys.length), Normalizes xs[i] ys[i]) →
      Normalizes (.array xs) (.list ys)

mutual

/-- A value read as a document tree: objects as documents, lists as arrays. -/
def ofValue : Value → Bson
  | .obj es => .map (entriesOfValue es)
  | .list vs => .array (listOfValue vs)
  | v => .value v

/-- Values read as document values. -/
def listOfValue : List Value → List Bson
  | [] => []
  | v :: rest => ofValue v :: listOfValue rest

/-- The entries of an object read as a document's. -/
def entriesOfValue : List (String × Value) → List (String × Bson)
  | [] => []
  | (k, v) :: rest => (k, ofValue v) :: entriesOfValue rest

end

theorem listToValue_eq_map (xs : List Bson) : listToValue xs = xs.map toValue := by
  induction xs with
  | nil => rfl
  | cons x xs ih => simp [listToValue, ih]

theorem entriesToValue_eq_map (es : List (String × Bson)) :
    entriesToValue es = es.map fun e => (e.1, toValue e.2) := by
  induction es with
  | nil => rfl
  | cons e es ih =>
    obtain ⟨k, x⟩ := e
    simp [entriesToValue, ih]

theorem listOfValue_eq_map (vs : List Value) : listOfValue vs = vs.map ofValue := by
  induction vs with
  | nil => rfl
  | cons v vs ih => simp [listOfValue, ih]

theorem entriesOfValue_eq_map (es : List (String × Value)) :
    entriesOfValue es = es.map fun e => (e.1, ofValue e.2) := by
  induction es with
  | nil => rfl
  | cons e es ih =>
    obtain ⟨k, v⟩ := e
    simp [entriesOfValue, ih]

theorem ofValue_of_isScalar {v : Value} (h : isScalar v = true) : ofValue v = .value v := by
  cases v with
  | list => simp [isScalar] at h
  | obj => simp [isScalar] at h
  | _ => rfl

/-! ## Normalising -/

theorem ofList_document {es : List (String × Bson)}
    (ih : ∀ e ∈ es, Normalizes e.2 (toValue e.2)) :
    (Entries.ofList (entriesToValue es)).Sorted ∧
      (∀ k, k ∈ (Entries.ofList (entriesToValue es)).map Prod.fst ↔ k ∈ es.map Prod.fst) ∧
      ∀ k x w, es.reverse.lookup k = some x →
        Entries.get? (Entries.ofList (entriesToValue es)) k = some w → Normalizes x w := by
  have hget : ∀ k, Entries.get? (Entries.ofList (entriesToValue es)) k =
      (es.reverse.lookup k).map toValue := by
    intro k
    rw [Entries.get?_ofList, entriesToValue_eq_map, ← List.map_reverse, lookup_map_snd]
  refine ⟨Entries.sorted_ofList _, fun k => ?_, fun k x w hx hw => ?_⟩
  · rw [mem_keys_iff_isSome, ← Entries.get?_eq_lookup, hget, Option.isSome_map,
      ← mem_keys_iff_isSome]
    simp
  · rw [hget, hx, Option.map_some, Option.some_inj] at hw
    subst hw
    exact ih (k, x) (List.mem_reverse.mp (mem_of_lookup_eq_some hx))

theorem normalizes_toValue {b : Bson} (hb : b.Decoded) : Normalizes b (toValue b) := by
  induction hb with
  | value hv => exact .value hv
  | objectId h =>
    exact .objectId (by rw [ObjectId.length_hex, h]) (ObjectId.hex_lower _) (ObjectId.ofHex?_hex h)
  | dateTime ms => exact .dateTime (Instant.ofMillis_exact ms).1 (Instant.ofMillis_exact ms).2
  | decimal text => exact .decimal text
  | map _ ih =>
    obtain ⟨hs, hkeys, hvals⟩ := ofList_document ih
    exact .map hs hkeys hvals
  | ordered _ ih =>
    obtain ⟨hs, hkeys, hvals⟩ := ofList_document ih
    exact .ordered hs hkeys hvals
  | @array xs _ ih =>
    refine .array (by simp [listToValue_eq_map]) fun i hx hy => ?_
    simp only [listToValue_eq_map, List.getElem_map]
    exact ih _ (List.getElem_mem hx)

theorem friendly_document {es : List (String × Bson)} {E : Entries} (hs : E.Sorted)
    (hkeys : ∀ k, k ∈ E.map Prod.fst ↔ k ∈ es.map Prod.fst)
    (ih : ∀ k x w, es.reverse.lookup k = some x → Entries.get? E k = some w → JsonFriendly w) :
    JsonFriendly (.obj E) := by
  refine .obj hs fun e he => ?_
  have hkey : (es.reverse.lookup e.1).isSome := by
    rw [← mem_keys_iff_isSome, List.map_reverse, List.mem_reverse, ← hkeys]
    exact List.mem_map_of_mem he
  obtain ⟨x, hx⟩ := Option.isSome_iff_exists.mp hkey
  exact ih e.1 x e.2 hx (Entries.get?_of_mem hs he)

theorem Normalizes.friendly {b : Bson} {v : Value} (h : Normalizes b v) : JsonFriendly v := by
  induction h with
  | value hv => exact .scalar hv
  | objectId => exact .scalar rfl
  | dateTime => exact .scalar rfl
  | decimal => exact .scalar rfl
  | map hs hkeys _ ih => exact friendly_document hs hkeys ih
  | ordered hs hkeys _ ih => exact friendly_document hs hkeys ih
  | array hlen _ ih =>
    refine .list fun y hy => ?_
    obtain ⟨i, hi, rfl⟩ := List.getElem_of_mem hy
    exact ih i (hlen ▸ hi) hi

theorem toValue_ofValue {v : Value} (h : JsonFriendly v) : toValue (ofValue v) = v := by
  induction h with
  | scalar hv => rw [ofValue_of_isScalar hv]; rfl
  | @list vs _ ih =>
    have hitems : vs.map (fun v => toValue (ofValue v)) = vs := by
      rw [List.map_congr_left ih, List.map_id']
    simp only [ofValue, toValue, listToValue_eq_map, listOfValue_eq_map, List.map_map,
      Function.comp_def, hitems]
  | @obj es hs _ ih =>
    -- each value normalises back to itself, and the keys are sorted already
    have hentries : es.map (fun e => (e.1, toValue (ofValue e.2))) = es := by
      rw [List.map_congr_left fun e he => by rw [ih e he], List.map_id']
    simp only [ofValue, toValue, Value.ofPairs, entriesToValue_eq_map, entriesOfValue_eq_map,
      List.map_map, Function.comp_def, hentries, Entries.ofList_of_sorted hs]

/-- Normalising a document tree the database hands over removes every type of the database's
own at every depth: each node becomes what `Normalizes` says, the result is JSON friendly, and
normalising the result again, its objects read as documents and its lists as arrays, changes
nothing. -/
theorem toValue_normalizes (b : Bson) (hb : b.Decoded) :
    Normalizes b (toValue b) ∧ JsonFriendly (toValue b) ∧
      toValue (ofValue (toValue b)) = toValue b := by
  have hn := normalizes_toValue hb
  exact ⟨hn, hn.friendly, toValue_ofValue hn.friendly⟩

/-- An ordered document that repeats a key, with an id, and an instant and a decimal in an
array. -/
theorem toValue_normalizes_ordered :
    Decoded (.ordered [("a", .objectId ⟨List.replicate 12 171⟩),
        ("a", .array [.dateTime 1500, .decimal "1.5"])]) ∧
      Normalizes (.ordered [("a", .objectId ⟨List.replicate 12 171⟩),
          ("a", .array [.dateTime 1500, .decimal "1.5"])])
        (toValue (.ordered [("a", .objectId ⟨List.replicate 12 171⟩),
          ("a", .array [.dateTime 1500, .decimal "1.5"])])) ∧
      JsonFriendly (toValue (.ordered [("a", .objectId ⟨List.replicate 12 171⟩),
          ("a", .array [.dateTime 1500, .decimal "1.5"])])) ∧
      toValue (ofValue (toValue (.ordered [("a", .objectId ⟨List.replicate 12 171⟩),
          ("a", .array [.dateTime 1500, .decimal "1.5"])]))) =
        toValue (.ordered [("a", .objectId ⟨List.replicate 12 171⟩),
          ("a", .array [.dateTime 1500, .decimal "1.5"])]) := by
  have hb : Decoded (.ordered [("a", .objectId ⟨List.replicate 12 171⟩),
      ("a", .array [.dateTime 1500, .decimal "1.5"])]) := by
    refine .ordered fun e he => ?_
    simp only [List.mem_cons, List.not_mem_nil, or_false] at he
    rcases he with rfl | rfl
    · exact .objectId (by simp)
    · refine .array fun x hx => ?_
      simp only [List.mem_cons, List.not_mem_nil, or_false] at hx
      rcases hx with rfl | rfl
      · exact .dateTime 1500
      · exact .decimal "1.5"
  exact ⟨hb, toValue_normalizes _ hb⟩

end Bson

end Executor

end RowGate

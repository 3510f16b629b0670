import Mathlib.Data.List.Forall2
import RowGate.Policy.Template
import RowGate.Proofs.Filter.WellFormed
/-!
# Rendering a policy template

Rendering keeps a template's structure and rewrites its strings one by one
(`render_keeps_structure`).
-/

namespace RowGate

theorem bind_eq_error {ε α β : Type} {x : Except ε α} {f : α → Except ε β} {e : ε} :
    x >>= f = .error e ↔ x = .error e ∨ ∃ a, x = .ok a ∧ f a = .error e := by
  cases x <;> simp [bind, Except.bind]

theorem bind_bind_eq_ok {ε α β γ : Type} {x : Except ε α} {y : Except ε β} {g : α → β → γ} {r : γ} :
    (do let a ← x; let b ← y; Except.ok (g a b)) = .ok r ↔ ∃ a b, x = .ok a ∧ y = .ok b ∧ g a b = r := by
  cases x <;> cases y <;> simp [bind, Except.bind]

theorem exists_bind_bind_error_iff {ε α β γ : Type} {x : Except ε α} {y : Except ε β}
    {g : α → β → γ} :
    (∃ e, (do let a ← x; let b ← y; Except.ok (g a b)) = .error e) ↔
      (∃ e, x = .error e) ∨ ∃ e, y = .error e := by
  cases x <;> cases y <;> simp [bind, Except.bind]

end RowGate

namespace RowGate.Policy

/-! ### Pieces -/

theorem piecesAux_eq_nil {n : Nat} {cs : List Char} : piecesAux n cs = [] ↔ cs = [] := by
  cases n with
  | zero => simp [piecesAux]
  | succ n =>
    cases cs with
    | nil => simp [piecesAux]
    | cons c rest => simp only [piecesAux]; split <;> simp

theorem pieces_eq_hole_iff {s path : String} :
    pieces s = [.hole path] ↔ placeholderAt s.toList = some (path, []) := by
  unfold pieces
  cases h : s.toList with
  | nil => simp [piecesAux, placeholderAt]
  | cons c rest =>
    simp only [piecesAux]
    rcases hp : placeholderAt (c :: rest) with _ | ⟨path', after⟩
    · simp
    · simp [piecesAux_eq_nil]

theorem piecesAux_eq_map_text {n : Nat} {cs : List Char}
    (h : ∀ path, .hole path ∉ piecesAux n cs) : piecesAux n cs = cs.map .text := by
  induction n generalizing cs with
  | zero => rfl
  | succ n ih =>
    cases cs with
    | nil => rfl
    | cons c rest =>
      simp only [piecesAux] at h ⊢
      rcases hp : placeholderAt (c :: rest) with _ | ⟨path, after⟩
      · simp only [hp, List.mem_cons, reduceCtorEq, false_or] at h ⊢
        rw [ih h, List.map_cons]
      · simp only [hp, List.mem_cons, not_or] at h
        exact absurd rfl (h path).1

theorem pieces_eq_map_text {s : String} (h : hasPlaceholders s = false) :
    pieces s = s.toList.map .text := by
  have hnil : placeholders s = [] := by simpa [hasPlaceholders] using h
  apply piecesAux_eq_map_text
  intro path hmem
  have : path ∈ placeholders s := List.mem_filterMap.2 ⟨.hole path, hmem, rfl⟩
  simp [hnil] at this

/-! ### Placeholders inside a longer string -/

/-- The text a piece of a longer string stands for: a character itself, and a placeholder the
text of its value, which must be present, not null and a scalar. -/
inductive PieceText (context : Value) : Piece → String → Prop
  | text (c : Char) : PieceText context (.text c) (String.singleton c)
  | hole {path t : String} {v : Value} : lookup context path = some v → v ≠ .null →
      isScalar v = true → scalarText v = .ok t → PieceText context (.hole path) t

theorem scalarText_isOk_iff {v : Value} : (∃ t, scalarText v = .ok t) ↔ v ≠ .null ∧ isScalar v = true := by
  cases v with
  | int k n => cases k <;> simp [scalarText, isScalar]
  | _ => simp [scalarText, isScalar]

theorem holeText_eq_ok_iff {context : Value} {path t : String} :
    holeText context path = .ok t ↔ PieceText context (.hole path) t := by
  constructor
  · intro h
    rcases hl : lookup context path with _ | v
    · simp [holeText, hl] at h
    · by_cases hv : v = .null
      · subst hv; simp [holeText, hl] at h
      · have hs : scalarText v = .ok t := by
          cases v <;> simp_all [holeText] <;> split at h <;> simp_all
        exact .hole hl hv (scalarText_isOk_iff.1 ⟨t, hs⟩).2 hs
  · rintro ⟨⟩
    rename_i v hl hv _ hs
    cases v <;> simp_all [holeText]

theorem PieceText.unique {context : Value} {p : Piece} {t t' : String}
    (h : PieceText context p t) (h' : PieceText context p t') : t = t' := by
  cases h with
  | text c => cases h'; rfl
  | hole hl _ _ hs =>
    cases h' with
    | hole hl' _ _ hs' =>
      rw [hl] at hl'
      cases hl'
      rw [hs] at hs'
      cases hs'
      rfl

theorem not_pieceText_hole_iff {context : Value} {path : String} :
    (¬ ∃ t, PieceText context (.hole path) t) ↔
      ∀ v, lookup context path = some v → v = .null ∨ isScalar v = false := by
  constructor
  · intro h v hl
    by_contra hv
    simp only [not_or, Bool.not_eq_false] at hv
    obtain ⟨t, ht⟩ := scalarText_isOk_iff.2 hv
    exact h ⟨t, .hole hl hv.1 hv.2 ht⟩
  · rintro h ⟨t, ht⟩
    cases ht with
    | hole hl hv hsc _ =>
      rcases h _ hl with h | h
      · exact hv h
      · simp [hsc] at h

theorem exists_forall₂_pieceText_iff {context : Value} {ps : List Piece} :
    (∃ ts, List.Forall₂ (PieceText context) ps ts) ↔ ∀ p ∈ ps, ∃ t, PieceText context p t := by
  induction ps with
  | nil => simp
  | cons p ps ih =>
    simp only [List.forall₂_cons_left_iff, List.mem_cons, forall_eq_or_imp, ← ih]
    constructor
    · rintro ⟨_, t, ts, ht, hts, rfl⟩
      exact ⟨⟨t, ht⟩, ts, hts⟩
    · rintro ⟨⟨t, ht⟩, ts, hts⟩
      exact ⟨_, t, ts, ht, hts, rfl⟩

theorem forall₂_pieceText_unique {context : Value} {ps : List Piece} {ts ts' : List String}
    (h : List.Forall₂ (PieceText context) ps ts) (h' : List.Forall₂ (PieceText context) ps ts') :
    ts = ts' := by
  induction h generalizing ts' with
  | nil => cases h'; rfl
  | cons ht _ ih =>
    cases h' with
    | cons ht' hts' => rw [ht.unique ht', ih hts']

/-! ### Folding the pieces -/

section Fold

variable {context : Value}

theorem foldl_renderPiece_of_forall₂ {ps : List Piece} {ts : List String}
    (h : List.Forall₂ (PieceText context) ps ts) (out : List Char) (e : Option Fault) :
    ps.foldl (renderPiece context) (out, e) = (out ++ ts.flatMap String.toList, e) := by
  induction h generalizing out with
  | nil => simp
  | @cons p t ps ts hp _ ih =>
    rw [List.foldl_cons]
    have hstep : renderPiece context (out, e) p = (out ++ t.toList, e) := by
      cases hp with
      | text c => simp [renderPiece]
      | hole hl hv hsc hs => simp [renderPiece, holeText_eq_ok_iff.2 (.hole hl hv hsc hs)]
    rw [hstep, ih, List.flatMap_cons, List.append_assoc]

theorem foldl_renderPiece_isSome {ps : List Piece} {out : List Char} {e : Option Fault}
    (he : e.isSome) : (ps.foldl (renderPiece context) (out, e)).2.isSome := by
  induction ps generalizing out e with
  | nil => exact he
  | cons p ps ih =>
    rw [List.foldl_cons]
    cases p with
    | text c => exact ih he
    | hole path =>
      simp only [renderPiece]
      split
      · exact ih he
      · exact ih rfl

theorem foldl_renderPiece_fails {ps : List Piece} {p : Piece} (hp : p ∈ ps)
    (hno : ¬ ∃ t, PieceText context p t) (out : List Char) (e : Option Fault) :
    (ps.foldl (renderPiece context) (out, e)).2.isSome := by
  induction ps generalizing out e with
  | nil => simp at hp
  | cons q ps ih =>
    rw [List.foldl_cons]
    rcases List.mem_cons.1 hp with rfl | hp
    · cases p with
      | text c => exact absurd ⟨_, .text c⟩ hno
      | hole path =>
        simp only [renderPiece]
        split
        · rename_i t ht
          exact absurd ⟨t, holeText_eq_ok_iff.1 ht⟩ hno
        · exact foldl_renderPiece_isSome rfl
    · exact ih hp _ _

end Fold

/-! ### One string -/

/-- What a string of a template renders to. A string that is exactly one placeholder takes the
value at its path, null when absent, which must be a scalar. Any other string has each of its
placeholders, left to right, replaced by the text of its value. -/
inductive LeafRenders (context : Value) (s : String) : Value → Prop
  | whole {path : String} : pieces s = [.hole path] →
      isScalar ((lookup context path).getD .null) = true →
      LeafRenders context s ((lookup context path).getD .null)
  | embedded {texts : List String} : (∀ path, pieces s ≠ [.hole path]) →
      List.Forall₂ (PieceText context) (pieces s) texts →
      LeafRenders context s (.str (String.join texts))

/-- Why a string of a template fails: it is exactly one placeholder whose value is not a scalar,
or it is another string with a placeholder whose value is missing, null or not a scalar. -/
inductive LeafFails (context : Value) (s : String) : Prop
  | whole {path : String} : pieces s = [.hole path] →
      isScalar ((lookup context path).getD .null) = false → LeafFails context s
  | embedded {path : String} : (∀ path, pieces s ≠ [.hole path]) → .hole path ∈ pieces s →
      (∀ v, lookup context path = some v → v = .null ∨ isScalar v = false) → LeafFails context s

section Leaf

variable {context : Value} {s : String}

theorem renderString_of_whole {path : String} (h : pieces s = [.hole path]) :
    renderString context s =
      if isScalar ((lookup context path).getD .null) then .ok ((lookup context path).getD .null)
      else .error (renderFault ("placeholder " ++ Text.quote path ++ " does not resolve to a scalar")) := by
  rw [renderString, pieces_eq_hole_iff.1 h]

theorem renderString_of_embedded (h : ∀ path, pieces s ≠ [.hole path]) :
    renderString context s = match (pieces s).foldl (renderPiece context) ([], none) with
      | (_, some f) => .error f
      | (out, none) => .ok (.str (String.ofList out)) := by
  rw [renderString]
  split
  · rename_i path hp
    exact absurd (pieces_eq_hole_iff.2 hp) (h path)
  · rfl

/-! A string that is one placeholder, and any other string, each render and fail one way. -/

theorem leafRenders_whole_iff {path : String} {r : Value} (hp : pieces s = [.hole path]) :
    LeafRenders context s r ↔
      isScalar ((lookup context path).getD .null) = true ∧ r = (lookup context path).getD .null := by
  constructor
  · rintro (⟨hp', hsc⟩ | ⟨hne, _⟩)
    · rw [hp] at hp'
      cases hp'
      exact ⟨hsc, rfl⟩
    · exact absurd hp (hne path)
  · rintro ⟨hsc, rfl⟩
    exact .whole hp hsc

theorem leafFails_whole_iff {path : String} (hp : pieces s = [.hole path]) :
    LeafFails context s ↔ isScalar ((lookup context path).getD .null) = false := by
  constructor
  · rintro (⟨hp', hsc⟩ | ⟨hne, _, _⟩)
    · rw [hp] at hp'
      cases hp'
      exact hsc
    · exact absurd hp (hne path)
  · exact .whole hp

theorem leafRenders_embedded_iff (hw : ∀ path, pieces s ≠ [.hole path]) {r : Value} :
    LeafRenders context s r ↔
      ∃ texts, List.Forall₂ (PieceText context) (pieces s) texts ∧ r = .str (String.join texts) := by
  constructor
  · rintro (⟨hp, _⟩ | ⟨_, hts⟩)
    · exact absurd hp (hw _)
    · exact ⟨_, hts, rfl⟩
  · rintro ⟨texts, hts, rfl⟩
    exact .embedded hw hts

theorem leafFails_embedded_iff (hw : ∀ path, pieces s ≠ [.hole path]) :
    LeafFails context s ↔ ∃ p ∈ pieces s, ¬ ∃ t, PieceText context p t := by
  constructor
  · rintro (⟨hp, _⟩ | ⟨_, hmem, hfail⟩)
    · exact absurd hp (hw _)
    · exact ⟨_, hmem, not_pieceText_hole_iff.2 hfail⟩
  · rintro ⟨p, hp, hno⟩
    cases p with
    | text c => exact absurd ⟨_, .text c⟩ hno
    | hole path => exact .embedded hw hp (not_pieceText_hole_iff.1 hno)

theorem renderString_eq_ok_iff {r : Value} : renderString context s = .ok r ↔ LeafRenders context s r := by
  by_cases hw : ∃ path, pieces s = [.hole path]
  · obtain ⟨path, hp⟩ := hw
    rw [renderString_of_whole hp, leafRenders_whole_iff hp]
    by_cases hsc : isScalar ((lookup context path).getD .null) = true
    · simp only [hsc, if_true, Except.ok.injEq, true_and]
      exact eq_comm
    · simp [hsc]
  · simp only [not_exists] at hw
    rw [renderString_of_embedded hw, leafRenders_embedded_iff hw]
    by_cases hall : ∀ p ∈ pieces s, ∃ t, PieceText context p t
    · -- every piece has its text, and the texts are unique
      obtain ⟨ts, hts⟩ := exists_forall₂_pieceText_iff.2 hall
      have hjoin : String.ofList (ts.flatMap String.toList) = String.join ts := by
        rw [← String.toList_join, String.ofList_toList]
      rw [foldl_renderPiece_of_forall₂ hts, List.nil_append]
      dsimp only
      rw [hjoin]
      constructor
      · rintro ⟨⟩
        exact ⟨ts, hts, rfl⟩
      · rintro ⟨ts', hts', rfl⟩
        rw [forall₂_pieceText_unique hts hts']
    · -- a piece without text makes the fold fail
      simp only [not_forall, not_exists] at hall
      obtain ⟨p, hp, hno⟩ := hall
      have hsome := foldl_renderPiece_fails hp (by simpa using hno) [] none
      constructor
      · intro h
        split at h
        · cases h
        · rename_i heq
          simp [heq] at hsome
      · rintro ⟨ts, hts, -⟩
        obtain ⟨t, ht⟩ := exists_forall₂_pieceText_iff.1 ⟨_, hts⟩ p hp
        exact absurd ht (hno t)

theorem renderString_fails_iff : (∃ f, renderString context s = .error f) ↔ LeafFails context s := by
  by_cases hw : ∃ path, pieces s = [.hole path]
  · obtain ⟨path, hp⟩ := hw
    rw [renderString_of_whole hp, leafFails_whole_iff hp]
    split <;> simp_all
  · simp only [not_exists] at hw
    rw [renderString_of_embedded hw, leafFails_embedded_iff hw]
    constructor
    · rintro ⟨f, h⟩
      by_contra hno
      obtain ⟨ts, hts⟩ := exists_forall₂_pieceText_iff.2 (by simpa using hno)
      rw [foldl_renderPiece_of_forall₂ hts] at h
      cases h
    · rintro ⟨p, hp, hno⟩
      have hsome := foldl_renderPiece_fails hp hno [] none
      split
      · exact ⟨_, rfl⟩
      · rename_i heq
        simp [heq] at hsome

theorem renderString_of_hasPlaceholders (h : hasPlaceholders s = false) :
    renderString context s = .ok (.str s) := by
  have hp := pieces_eq_map_text h
  have hts : List.Forall₂ (PieceText context) (pieces s) (s.toList.map String.singleton) := by
    rw [hp, List.forall₂_map_left_iff, List.forall₂_map_right_iff]
    exact List.forall₂_same.2 fun c _ => .text c
  have hw : ∀ path, pieces s ≠ [.hole path] := by
    intro path hw
    rw [hp] at hw
    cases hs : s.toList with
    | nil => simp [hs] at hw
    | cons c rest =>
      rw [hs, List.map_cons] at hw
      cases (List.cons.inj hw).1
  have hjoin : String.join (s.toList.map String.singleton) = s := by
    apply String.toList_inj.1
    simp [String.toList_join, List.flatMap_map]
  have h := LeafRenders.embedded hw hts
  rw [hjoin] at h
  exact renderString_eq_ok_iff.2 h

end Leaf

/-! ### The whole template -/

/-- A value that is neither an object nor a list: a leaf of a template. -/
def Plain (v : Value) : Prop := (∀ es, v ≠ .obj es) ∧ (∀ vs, v ≠ .list vs)

theorem plain_of_isScalar {v : Value} (h : isScalar v = true) : Plain v := by
  refine ⟨?_, ?_⟩ <;> rintro _ rfl <;> simp [isScalar] at h

theorem LeafRenders.plain {context : Value} {s : String} {r : Value} (h : LeafRenders context s r) :
    Plain r := by
  cases h with
  | whole _ hsc => exact plain_of_isScalar hsc
  | embedded => exact ⟨nofun, nofun⟩

/-- A template and what it renders to: objects with the same keys in the same order, lists of
the same length, each string rendered on its own, and every other leaf kept. -/
inductive Renders (context : Value) : Value → Value → Prop
  | obj {es rs : List (String × Value)} : es.map Prod.fst = rs.map Prod.fst →
      List.Forall₂ (Renders context) (es.map Prod.snd) (rs.map Prod.snd) →
      Renders context (.obj es) (.obj rs)
  | list {vs rs : List Value} : List.Forall₂ (Renders context) vs rs →
      Renders context (.list vs) (.list rs)
  | str {s : String} {r : Value} : LeafRenders context s r → Renders context (.str s) r
  | keep {v : Value} : Plain v → (∀ s, v ≠ .str s) → Renders context v v

/-- A string that stands as a leaf of a template: the template itself, or a leaf of the value of
one of its entries or of one of its items. -/
inductive StringIn (s : String) : Value → Prop
  | str : StringIn s (.str s)
  | obj {es : List (String × Value)} {e : String × Value} : e ∈ es → StringIn s e.2 →
      StringIn s (.obj es)
  | list {vs : List Value} {v : Value} : v ∈ vs → StringIn s v → StringIn s (.list vs)

section Tree

variable {context : Value}

theorem renders_obj_iff {es : List (String × Value)} {r : Value} :
    Renders context (.obj es) r ↔ ∃ rs, r = .obj rs ∧ es.map Prod.fst = rs.map Prod.fst ∧
      List.Forall₂ (Renders context) (es.map Prod.snd) (rs.map Prod.snd) := by
  constructor
  · rintro (⟨hk, hv⟩ | _ | _ | ⟨⟨hobj, _⟩, _⟩)
    · exact ⟨_, rfl, hk, hv⟩
    · exact absurd rfl (hobj es)
  · rintro ⟨rs, rfl, hk, hv⟩
    exact .obj hk hv

theorem renders_list_iff {vs : List Value} {r : Value} :
    Renders context (.list vs) r ↔ ∃ rs, r = .list rs ∧ List.Forall₂ (Renders context) vs rs := by
  constructor
  · rintro (_ | hv | _ | ⟨⟨_, hlist⟩, _⟩)
    · exact ⟨_, rfl, hv⟩
    · exact absurd rfl (hlist vs)
  · rintro ⟨rs, rfl, hv⟩
    exact .list hv

theorem renders_str_iff {s : String} {r : Value} :
    Renders context (.str s) r ↔ LeafRenders context s r := by
  constructor
  · rintro (_ | _ | h | ⟨_, hstr⟩)
    · exact h
    · exact absurd rfl (hstr s)
  · exact .str

theorem render_eq_ok_iff (template : Value) :
    ∀ r, render context template = .ok r ↔ Renders context template r := by
  induction template using render.induct
    (motive_2 := fun vs => ∀ rs, renderList context vs = .ok rs ↔ List.Forall₂ (Renders context) vs rs)
    (motive_3 := fun es => ∀ rs, renderEntries context es = .ok rs ↔
      es.map Prod.fst = rs.map Prod.fst ∧
        List.Forall₂ (Renders context) (es.map Prod.snd) (rs.map Prod.snd)) with
  | case1 es ih =>
    intro r
    simp only [render, bind_eq_ok, ih, renders_obj_iff, Except.ok.injEq]
    constructor
    · rintro ⟨rs, h, rfl⟩; exact ⟨rs, rfl, h⟩
    · rintro ⟨rs, rfl, h⟩; exact ⟨rs, h, rfl⟩
  | case2 vs ih =>
    intro r
    simp only [render, bind_eq_ok, ih, renders_list_iff, Except.ok.injEq]
    constructor
    · rintro ⟨rs, h, rfl⟩; exact ⟨rs, rfl, h⟩
    · rintro ⟨rs, rfl, h⟩; exact ⟨rs, h, rfl⟩
  | case3 s =>
    intro r
    rw [render, renders_str_iff, renderString_eq_ok_iff]
  | case4 v hobj hlist hstr =>
    intro r
    rw [render.eq_4 context v hobj hlist hstr, Except.ok.injEq]
    constructor
    · rintro rfl
      exact .keep ⟨fun es h => hobj es h, fun vs h => hlist vs h⟩ fun s h => hstr s h
    · rintro (_ | _ | _ | _)
      · exact absurd rfl (hobj _)
      · exact absurd rfl (hlist _)
      · exact absurd rfl (hstr _)
      · rfl
  | case5 => simp [renderList, eq_comm]
  | case6 v rest ih ihs =>
    rename_i rs
    simp only [renderList, bind_eq_ok, ih, ihs, Except.ok.injEq, List.forall₂_cons_left_iff]
    constructor
    · rintro ⟨r, hr, rs', hrs, rfl⟩; exact ⟨r, rs', hr, hrs, rfl⟩
    · rintro ⟨r, rs', hr, hrs, rfl⟩; exact ⟨r, hr, rs', hrs, rfl⟩
  | case7 =>
    rename_i rs
    cases rs with
    | nil => simp [renderEntries]
    | cons p rs => simp [renderEntries]
  | case8 k v rest ih ihs =>
    rename_i rs
    simp only [renderEntries, bind_eq_ok, ih, ihs, Except.ok.injEq]
    constructor
    · rintro ⟨r, hr, rs', ⟨hk, hv⟩, rfl⟩
      simp only [List.map_cons]
      exact ⟨by rw [hk], .cons hr hv⟩
    · intro ⟨hk, hv⟩
      rcases rs with _ | ⟨⟨k', r⟩, rs'⟩
      · simp at hk
      · simp only [List.map_cons, List.cons.injEq] at hk hv
        rw [List.forall₂_cons] at hv
        exact ⟨r, hv.1, rs', ⟨hk.2, hv.2⟩, by rw [hk.1]⟩

theorem renderEntries_eq_ok_iff {es rs : List (String × Value)} :
    renderEntries context es = .ok rs ↔ es.map Prod.fst = rs.map Prod.fst ∧
      List.Forall₂ (Renders context) (es.map Prod.snd) (rs.map Prod.snd) := by
  have h := @render_eq_ok_iff context (.obj es) (.obj rs)
  rw [renders_obj_iff] at h
  simp only [render, bind_eq_ok, Except.ok.injEq, Value.obj.injEq, exists_eq_right,
    exists_eq_left'] at h
  exact h

theorem render_fails_iff (template : Value) :
    (∃ f, render context template = .error f) ↔ ∃ s, StringIn s template ∧ LeafFails context s := by
  induction template using render.induct
    (motive_2 := fun vs => (∃ f, renderList context vs = .error f) ↔
      ∃ v ∈ vs, ∃ s, StringIn s v ∧ LeafFails context s)
    (motive_3 := fun es => (∃ f, renderEntries context es = .error f) ↔
      ∃ e ∈ es, ∃ s, StringIn s e.2 ∧ LeafFails context s) with
  | case1 es ih =>
    rw [render]
    constructor
    · rintro ⟨f, h⟩
      rcases bind_eq_error.1 h with h | ⟨_, _, h⟩
      · obtain ⟨e, he, s, hs, hf⟩ := ih.1 ⟨f, h⟩
        exact ⟨s, .obj he hs, hf⟩
      · cases h
    · rintro ⟨s, hs, hf⟩
      cases hs with
      | obj he hs =>
        obtain ⟨f, h⟩ := ih.2 ⟨_, he, s, hs, hf⟩
        exact ⟨f, by rw [h]; rfl⟩
  | case2 vs ih =>
    rw [render]
    constructor
    · rintro ⟨f, h⟩
      rcases bind_eq_error.1 h with h | ⟨_, _, h⟩
      · obtain ⟨v, hv, s, hs, hf⟩ := ih.1 ⟨f, h⟩
        exact ⟨s, .list hv hs, hf⟩
      · cases h
    · rintro ⟨s, hs, hf⟩
      cases hs with
      | list hv hs =>
        obtain ⟨f, h⟩ := ih.2 ⟨_, hv, s, hs, hf⟩
        exact ⟨f, by rw [h]; rfl⟩
  | case3 s =>
    rw [render, renderString_fails_iff]
    constructor
    · intro h; exact ⟨s, .str, h⟩
    · rintro ⟨s', hs, hf⟩
      cases hs
      exact hf
  | case4 v hobj hlist hstr =>
    rw [render.eq_4 context v hobj hlist hstr]
    constructor
    · rintro ⟨f, ⟨⟩⟩
    · rintro ⟨s, hs, _⟩
      cases hs with
      | str => exact absurd rfl (hstr s)
      | obj => exact absurd rfl (hobj _)
      | list => exact absurd rfl (hlist _)
  | case5 => simp [renderList]
  | case6 v rest ih ihs =>
    rw [renderList, exists_bind_bind_error_iff, ih, ihs]
    simp only [List.mem_cons, exists_eq_or_imp]
  | case7 => simp [renderEntries]
  | case8 k v rest ih ihs =>
    rw [renderEntries, exists_bind_bind_error_iff, ih, ihs]
    simp only [List.mem_cons, exists_eq_or_imp]

end Tree

/-- Rendering keeps the template's structure and rewrites its strings only: it gives `r` exactly
when `r` has the template's keys, lengths and other leaves with each string rendered on its
own, and it fails exactly when some string of the template fails. -/
theorem render_keeps_structure (context template : Value) :
    (∀ r, render context template = .ok r ↔ Renders context template r) ∧
      ((∃ f, render context template = .error f) ↔
        ∃ s, StringIn s template ∧ LeafFails context s) :=
  ⟨render_eq_ok_iff template, render_fails_iff template⟩

end RowGate.Policy

import Mathlib
import RowGate.Proofs.Json.Grammar
/-!
# Splitting at top level

Joining the pieces gives the text back (`intercalate_splitTopLevel`), and JSON values joined by
a `Separator` split back into themselves (`splitTopLevel_intercalate`).
-/

namespace RowGate.Filter

open Json

/-! ## Joining the pieces -/

section Join

variable {sep : Char}

theorem splitAux_cons (st : SplitState) (cur : List Char) (c : Char) (rest : List Char) :
    (∃ st', splitTopLevelAux sep st cur (c :: rest) = splitTopLevelAux sep st' (c :: cur) rest) ∨
      c = sep ∧ splitTopLevelAux sep st cur (c :: rest) =
        String.ofList cur.reverse :: splitTopLevelAux sep st [] rest := by
  simp only [splitTopLevelAux]
  split
  · exact .inl ⟨_, rfl⟩
  · split_ifs with hq hb hc hs
    · exact .inl ⟨_, rfl⟩
    · exact .inl ⟨_, rfl⟩
    · exact .inl ⟨_, rfl⟩
    · simp only [Bool.and_eq_true, beq_iff_eq] at hs
      exact .inr ⟨hs.1, rfl⟩
    · exact .inl ⟨_, rfl⟩

theorem splitAux_ne_nil (st : SplitState) (cur cs : List Char) :
    splitTopLevelAux sep st cur cs ≠ [] := by
  induction cs generalizing st cur with
  | nil => simp [splitTopLevelAux]
  | cons c rest ih =>
    rcases splitAux_cons st cur c rest with ⟨st', h⟩ | ⟨-, h⟩ <;> rw [h]
    · exact ih st' (c :: cur)
    · exact List.cons_ne_nil _ _

theorem intercalate_splitAux (st : SplitState) (cur cs : List Char) :
    [sep].intercalate ((splitTopLevelAux sep st cur cs).map String.toList) = cur.reverse ++ cs := by
  induction cs generalizing st cur with
  | nil => simp [splitTopLevelAux]
  | cons c rest ih =>
    rcases @splitAux_cons sep st cur c rest with ⟨st', h⟩ | ⟨rfl, h⟩
    · rw [h, ih]
      simp
    · -- a new piece starts after the separator, and the pieces after it join to the rest
      obtain ⟨p, ps, hps⟩ := List.exists_cons_of_ne_nil (@splitAux_ne_nil c st [] rest)
      have ih' := ih st []
      rw [hps, List.map_cons] at ih'
      rw [h, hps, List.map_cons, List.map_cons, List.intercalate_cons_cons, ih']
      simp

end Join

theorem intercalate_splitTopLevel (s : String) (sep : Char) :
    String.intercalate (String.singleton sep) (splitTopLevel s sep) = s := by
  apply String.toList_inj.1
  rw [String.toList_intercalate, String.toList_singleton, splitTopLevel, intercalate_splitAux]
  simp

/-! ## The splitter over JSON texts -/

/-- A character the splitter passes over at depth `d` outside quotes: no quote or bracket, and
not the separator at top level. -/
def Plain (sep : Char) (d : Nat) (c : Char) : Prop :=
  c ∉ ['"', '\'', '[', '{', '(', ']', '}', ')'] ∧ (c = sep → d ≠ 0)

/-- A separator that leaves JSON values whole: not a quote or a bracket of the splitter, nor a
character of a number or of `true`, `false` and `null`, the only text JSON writes outside
strings and brackets. -/
def Separator (sep : Char) : Prop :=
  sep ∉ ['"', '\'', '[', '{', '(', ']', '}', ')'] ∧ sep.isDigit = false ∧
    sep ∉ ['-', '+', '.', 'e', 'E', 't', 'r', 'u', 'f', 'a', 'l', 's', 'n']

theorem comma_separator : Separator ',' := ⟨by decide, by decide, by decide⟩

section Splitter

variable {sep : Char} {d : Nat} {cur x : List Char}

theorem splitAux_plain {c : Char} (hc : Plain sep d c) :
    splitTopLevelAux sep ⟨none, false, d⟩ cur (c :: x) =
      splitTopLevelAux sep ⟨none, false, d⟩ (c :: cur) x := by
  obtain ⟨hmem, hsep⟩ := hc
  simp only [List.mem_cons, List.not_mem_nil, or_false, not_or] at hmem
  obtain ⟨h1, h2, h3, h4, h5, h6, h7, h8⟩ := hmem
  have hsep' : ¬(c = sep ∧ d = 0) := fun ⟨hc, hd⟩ => hsep hc hd
  simp [splitTopLevelAux, h1, h2, h3, h4, h5, h6, h7, h8, hsep']

theorem splitAux_plains {cs : List Char} (h : ∀ c ∈ cs, Plain sep d c) :
    splitTopLevelAux sep ⟨none, false, d⟩ cur (cs ++ x) =
      splitTopLevelAux sep ⟨none, false, d⟩ (cs.reverse ++ cur) x := by
  induction cs generalizing cur with
  | nil => rfl
  | cons c cs ih =>
    simp only [List.mem_cons, forall_eq_or_imp] at h
    rw [List.cons_append, splitAux_plain h.1, ih h.2]
    simp

theorem splitAux_open {c : Char} (hc : c = '[' ∨ c = '{') :
    splitTopLevelAux sep ⟨none, false, d⟩ cur (c :: x) =
      splitTopLevelAux sep ⟨none, false, d + 1⟩ (c :: cur) x := by
  rcases hc with rfl | rfl <;> simp [splitTopLevelAux]

theorem splitAux_close {c : Char} (hc : c = ']' ∨ c = '}') :
    splitTopLevelAux sep ⟨none, false, d + 1⟩ cur (c :: x) =
      splitTopLevelAux sep ⟨none, false, d⟩ (c :: cur) x := by
  rcases hc with rfl | rfl <;> simp [splitTopLevelAux]

theorem splitAux_openQuote :
    splitTopLevelAux sep ⟨none, false, d⟩ cur ('"' :: x) =
      splitTopLevelAux sep ⟨some '"', false, d⟩ ('"' :: cur) x := by
  simp [splitTopLevelAux]

theorem splitAux_closeQuote :
    splitTopLevelAux sep ⟨some '"', false, d⟩ cur ('"' :: x) =
      splitTopLevelAux sep ⟨none, false, d⟩ ('"' :: cur) x := by
  simp [splitTopLevelAux]

theorem splitAux_escaped (c : Char) :
    splitTopLevelAux sep ⟨some '"', false, d⟩ cur ('\\' :: c :: x) =
      splitTopLevelAux sep ⟨some '"', false, d⟩ (c :: '\\' :: cur) x := by
  simp [splitTopLevelAux]

theorem splitAux_quoted {c : Char} (hb : c ≠ '\\') (hq : c ≠ '"') :
    splitTopLevelAux sep ⟨some '"', false, d⟩ cur (c :: x) =
      splitTopLevelAux sep ⟨some '"', false, d⟩ (c :: cur) x := by
  simp [splitTopLevelAux, hb, hq]

theorem ne_of_hexDigit {c : Char} {n : Nat} (h : hexDigit? c = some n) : c ≠ '\\' ∧ c ≠ '"' := by
  constructor <;> (rintro rfl; simp [hexDigit?] at h)

theorem unit4_ok_chars {a b c e : Char} {u : Nat} (h : unit4 a b c e = .ok u) :
    ∀ y ∈ [a, b, c, e], y ≠ '\\' ∧ y ≠ '"' := by
  simp only [unit4] at h
  split at h
  · rename_i w x y z ha hb hc he
    simp only [List.mem_cons, List.not_mem_nil, or_false]
    rintro y (rfl | rfl | rfl | rfl)
    exacts [ne_of_hexDigit ha, ne_of_hexDigit hb, ne_of_hexDigit hc, ne_of_hexDigit he]
  all_goals simp at h

theorem splitAux_quoteds {cs : List Char} (h : ∀ c ∈ cs, c ≠ '\\' ∧ c ≠ '"') :
    splitTopLevelAux sep ⟨some '"', false, d⟩ cur (cs ++ x) =
      splitTopLevelAux sep ⟨some '"', false, d⟩ (cs.reverse ++ cur) x := by
  induction cs generalizing cur with
  | nil => rfl
  | cons c cs ih =>
    simp only [List.mem_cons, forall_eq_or_imp] at h
    rw [List.cons_append, splitAux_quoted h.1.1 h.1.2, ih h.2]
    simp

theorem splitAux_unitEscape {a b c e : Char} {u : Nat} (hu : unit4 a b c e = .ok u) :
    splitTopLevelAux sep ⟨some '"', false, d⟩ cur ('\\' :: 'u' :: a :: b :: c :: e :: x) =
      splitTopLevelAux sep ⟨some '"', false, d⟩ ([e, c, b, a, 'u', '\\'] ++ cur) x := by
  rw [splitAux_escaped]
  simpa using @splitAux_quoteds sep d ('u' :: '\\' :: cur) x [a, b, c, e] (unit4_ok_chars hu)

theorem splitAux_string {acc body : List Char} {s : String}
    (h : readString acc body = .ok (s, [])) :
    splitTopLevelAux sep ⟨some '"', false, d⟩ cur (body ++ x) =
      splitTopLevelAux sep ⟨none, false, d⟩ (body.reverse ++ cur) x := by
  fun_induction readString acc body generalizing s cur with
  | case2 acc rest =>
    obtain ⟨-, rfl⟩ : String.ofList acc.reverse = s ∧ rest = [] := by simpa using h
    exact splitAux_closeQuote
  | case4 acc a b c e rest u hu _ ih | case8 acc a b c e rest u hu _ _ ih =>
    simp only [List.cons_append]
    rw [splitAux_unitEscape hu, ih h]
    simp
  | case5 acc a b c e u hu _ e' f g h' rest' v hv _ ih =>
    simp only [List.cons_append]
    rw [splitAux_unitEscape hu, splitAux_unitEscape hv, ih h]
    simp
  | case6 acc a b c e u hu _ e' f g h' rest' v hv _ ih
    | case7 acc a b c e u hu _ e' f g h' rest' v hv ih =>
    -- the escape after a lone surrogate is read again on its own
    simp only [List.cons_append] at ih ⊢
    rw [splitAux_unitEscape hu, ih h]
    simp
  | case10 acc c rest _ _ e he ih =>
    simp only [List.cons_append]
    rw [splitAux_escaped, ih h]
    simp
  | case14 acc c rest hq _ _ hslash hnil _ ih =>
    simp only [List.cons_append]
    rw [splitAux_quoted (ne_backslash hslash hnil) hq, ih h]
    simp
  | case1 | case3 | case9 | case11 | case12 | case13 => simp at h

end Splitter

section Chars

variable {sep : Char} {d : Nat} {c : Char}

theorem plain_of_not_mem (hc : c ∉ ['"', '\'', '[', '{', '(', ']', '}', ')', sep]) :
    Plain sep d c := by
  refine ⟨fun h => hc ?_, fun h => (hc (by simp [h])).elim⟩
  simp only [List.mem_cons, List.not_mem_nil, or_false] at h ⊢
  tauto

theorem Plain.inside (hc : c ∉ ['"', '\'', '[', '{', '(', ']', '}', ')']) : Plain sep (d + 1) c :=
  ⟨hc, fun _ => Nat.succ_ne_zero d⟩

theorem Separator.plain (hsep : Separator sep)
    (hc : c.isDigit ∨ c ∈ ['-', '+', '.', 'e', 'E', 't', 'r', 'u', 'f', 'a', 'l', 's', 'n']) :
    Plain sep d c := by
  have hne : c ≠ sep := by
    rintro rfl
    rcases hc with hc | hc
    · simp [hsep.2.1] at hc
    · exact hsep.2.2 hc
  refine ⟨fun hmem => ?_, fun h => absurd h hne⟩
  simp only [List.mem_cons, List.not_mem_nil, or_false] at hmem
  rcases hmem with rfl | rfl | rfl | rfl | rfl | rfl | rfl | rfl <;> revert hc <;> decide

theorem not_mark_of_isSpace (hc : isSpace c) : c ∉ ['"', '\'', '[', '{', '(', ']', '}', ')'] := by
  simp only [isSpace, Bool.or_eq_true, beq_iff_eq] at hc
  rcases hc with ((rfl | rfl) | rfl) | rfl <;> decide

theorem plain_of_isSpace (hsep : isSpace sep = false) (hc : isSpace c) : Plain sep d c := by
  have hne : c ≠ sep := by
    rintro rfl
    simp [hsep] at hc
  exact ⟨not_mark_of_isSpace hc, fun h => absurd h hne⟩

theorem plain_of_blank (hsep : isSpace sep = false) {bl : List Char} (h : Blank bl) :
    ∀ c ∈ bl, Plain sep d c :=
  fun _ hc => plain_of_isSpace hsep (h _ hc)

theorem Blank.inside {bl : List Char} (h : Blank bl) : ∀ c ∈ bl, Plain sep (d + 1) c :=
  fun c hc => Plain.inside (not_mark_of_isSpace (h c hc))

theorem NumberText.plain (hsep : Separator sep) {cs : List Char} (h : NumberText cs) :
    ∀ c ∈ cs, Plain sep d c := by
  have hdigits : ∀ {ds : List Char}, (∀ c ∈ ds, c.isDigit) → ∀ c ∈ ds, Plain sep d c :=
    fun hds c hc => hsep.plain (.inl (hds c hc))
  have hsign : ∀ {sign : List Char}, (sign = [] ∨ sign = ['+'] ∨ sign = ['-']) →
      ∀ c ∈ sign, Plain sep d c := by
    rintro sign (rfl | rfl | rfl) c hc <;> simp at hc <;> subst hc <;>
      exact hsep.plain (.inr (by simp))
  obtain ⟨sign, whole, tail, rfl, hs, hw, fraction, exponent, rfl, hfr, hex⟩ := h
  intro c hc
  simp only [List.mem_append] at hc
  rcases hc with (hc | hc) | hc | hc
  · exact @hsign sign (by rcases hs with rfl | rfl <;> simp) c hc
  · rcases hw with rfl | ⟨e, ds, rfl, he, -, hall⟩
    · obtain rfl : c = '0' := by simpa using hc
      exact hsep.plain (.inl rfl)
    · exact @hdigits (e :: ds) (by simpa [he] using hall) c hc
  · rcases hfr with rfl | ⟨ds, rfl, -, hall⟩
    · simp at hc
    · simp only [List.mem_cons] at hc
      rcases hc with rfl | hc
      · exact hsep.plain (.inr (by simp))
      · exact hdigits hall c hc
  · rcases hex with rfl | ⟨e, ds, rfl, he, sign', ds', rfl, hs', -, hall⟩
    · simp at hc
    · simp only [List.mem_cons, List.mem_append] at hc
      rcases hc with rfl | hc | hc
      · rcases he with rfl | rfl <;> exact hsep.plain (.inr (by simp))
      · exact hsign hs' c hc
      · exact hdigits hall c hc

end Chars

/-- The splitter passes over spellings of length at most `n`, at any depth outside quotes. -/
def SpellsPass (sep : Char) (n : Nat) : Prop :=
  ∀ v pre, Spells v pre → pre.length ≤ n → ∀ d cur x,
    splitTopLevelAux sep ⟨none, false, d⟩ cur (pre ++ x) =
      splitTopLevelAux sep ⟨none, false, d⟩ (pre.reverse ++ cur) x

/-- The same for the elements of an array, from one level inside it to its level. -/
def ElementsPass (sep : Char) (n : Nat) : Prop :=
  ∀ vs cs, Elements vs cs → cs.length ≤ n → ∀ d cur x,
    splitTopLevelAux sep ⟨none, false, d + 1⟩ cur (cs ++ x) =
      splitTopLevelAux sep ⟨none, false, d⟩ (cs.reverse ++ cur) x

/-- The same for the members of an object. -/
def MembersPass (sep : Char) (n : Nat) : Prop :=
  ∀ ps cs, Members ps cs → cs.length ≤ n → ∀ d cur x,
    splitTopLevelAux sep ⟨none, false, d + 1⟩ cur (cs ++ x) =
      splitTopLevelAux sep ⟨none, false, d⟩ (cs.reverse ++ cur) x

section Passes

variable {sep : Char} {n : Nat}

theorem spellsPass_step (hsep : Separator sep) (hE : ElementsPass sep n) (hM : MembersPass sep n) :
    SpellsPass sep (n + 1) := by
  intro v pre h hn d cur x
  cases h with
  | str hbody =>
    rw [List.cons_append, splitAux_openQuote, splitAux_string hbody]
    simp
  | number hnum => exact splitAux_plains (NumberText.plain hsep hnum)
  | trueWord | falseWord | nullWord => exact splitAux_plains (fun c hc => hsep.plain (.inr (by
      simp only [List.mem_cons, List.not_mem_nil, or_false] at hc
      rcases hc with rfl | rfl | rfl | rfl | rfl <;> decide)))
  | emptyArray hbl | emptyObject hbl =>
    simp only [List.cons_append, List.append_assoc]
    rw [splitAux_open (by simp), splitAux_plains (Blank.inside hbl), splitAux_close (by simp)]
    simp
  | array hel =>
    rw [List.cons_append, splitAux_open (by simp), hE _ _ hel (by simpa using hn)]
    simp
  | object hmem =>
    rw [List.cons_append, splitAux_open (by simp), hM _ _ hmem (by simpa using hn)]
    simp

theorem elementsPass_step (hS : SpellsPass sep n) (hE : ElementsPass sep n) :
    ElementsPass sep (n + 1) := by
  intro vs cs h hn d cur x
  cases h with
  | @last v b₁ pre b₂ hb₁ hv hb₂ =>
    simp only [List.append_assoc, List.singleton_append]
    rw [splitAux_plains (Blank.inside hb₁), hS _ _ hv (by simp at hn; omega),
      splitAux_plains (Blank.inside hb₂), splitAux_close (by simp)]
    simp
  | @cons v vs b₁ pre b₂ cs hb₁ hv hb₂ hvs =>
    simp only [List.append_assoc, List.cons_append]
    rw [splitAux_plains (Blank.inside hb₁), hS _ _ hv (by simp at hn; omega),
      splitAux_plains (Blank.inside hb₂), splitAux_plain (Plain.inside (by decide)),
      hE _ _ hvs (by simp at hn; omega)]
    simp

theorem membersPass_step (hS : SpellsPass sep n) (hM : MembersPass sep n) :
    MembersPass sep (n + 1) := by
  intro ps cs h hn d cur x
  have hcolon : Plain sep (d + 1) ':' := Plain.inside (by decide)
  cases h with
  | @last k v b₁ key b₂ b₃ pre b₄ hb₁ hk hb₂ hb₃ hv hb₄ =>
    simp only [List.append_assoc, List.cons_append]
    rw [splitAux_plains (Blank.inside hb₁), hS _ _ hk (by simp at hn; omega),
      splitAux_plains (Blank.inside hb₂), splitAux_plain hcolon,
      splitAux_plains (Blank.inside hb₃), hS _ _ hv (by simp at hn; omega),
      splitAux_plains (Blank.inside hb₄), splitAux_close (by simp)]
    simp
  | @cons k v ps b₁ key b₂ b₃ pre b₄ cs hb₁ hk hb₂ hb₃ hv hb₄ hps =>
    simp only [List.append_assoc, List.cons_append]
    rw [splitAux_plains (Blank.inside hb₁), hS _ _ hk (by simp at hn; omega),
      splitAux_plains (Blank.inside hb₂), splitAux_plain hcolon,
      splitAux_plains (Blank.inside hb₃), hS _ _ hv (by simp at hn; omega),
      splitAux_plains (Blank.inside hb₄), splitAux_plain (Plain.inside (by decide)),
      hM _ _ hps (by simp at hn; omega)]
    simp

theorem splitsPass (hsep : Separator sep) (n : Nat) :
    SpellsPass sep n ∧ ElementsPass sep n ∧ MembersPass sep n := by
  induction n with
  | zero =>
    refine ⟨fun v pre h hn => ?_, fun vs cs h hn => ?_, fun ps cs h hn => ?_⟩
    · obtain ⟨c, y, rfl, -⟩ := h.head
      simp at hn
    · obtain ⟨init, rfl⟩ := h.eq_append_bracket
      simp at hn
    · obtain ⟨init, rfl⟩ := h.eq_append_brace
      simp at hn
  | succ n ih =>
    obtain ⟨hS, hE, hM⟩ := ih
    exact ⟨spellsPass_step hsep hE hM, elementsPass_step hS hE, membersPass_step hS hM⟩

theorem splitAux_spells (hsep : Separator sep) {v : Value} {pre : List Char} (h : Spells v pre)
    (d : Nat) (cur x : List Char) :
    splitTopLevelAux sep ⟨none, false, d⟩ cur (pre ++ x) =
      splitTopLevelAux sep ⟨none, false, d⟩ (pre.reverse ++ cur) x :=
  (splitsPass hsep pre.length).1 v pre h le_rfl d cur x

end Passes

/-! ## Pieces joined by a separator -/

/-- A text the splitter passes over at top level without splitting it. -/
def Passes (sep : Char) (cs : List Char) : Prop :=
  ∀ cur x, splitTopLevelAux sep ⟨none, false, 0⟩ cur (cs ++ x) =
    splitTopLevelAux sep ⟨none, false, 0⟩ (cs.reverse ++ cur) x

section Pieces

variable {sep : Char}

theorem Passes.append {a b : List Char} (ha : Passes sep a) (hb : Passes sep b) :
    Passes sep (a ++ b) := by
  intro cur x
  rw [List.append_assoc, ha, hb]
  simp

theorem passes_of_plain {cs : List Char} (h : ∀ c ∈ cs, Plain sep 0 c) : Passes sep cs :=
  fun _ _ => splitAux_plains h

theorem passes_prefix_spells (hsep : Separator sep) {pre cs : List Char} {v : Value}
    (hpre : ∀ c ∈ pre, c ≠ sep ∧ c ∉ ['"', '\'', '[', '{', '(', ']', '}', ')'])
    (hv : Spells v cs) : Passes sep (pre ++ cs) := by
  refine (passes_of_plain fun c hc => ?_).append fun cur x => splitAux_spells hsep hv 0 cur x
  obtain ⟨hne, hmem⟩ := hpre c hc
  exact ⟨hmem, fun h => absurd h hne⟩

theorem splitAux_sep (hsep : Separator sep) (cur x : List Char) :
    splitTopLevelAux sep ⟨none, false, 0⟩ cur (sep :: x) =
      String.ofList cur.reverse :: splitTopLevelAux sep ⟨none, false, 0⟩ [] x := by
  have h := hsep.1
  simp only [List.mem_cons, List.not_mem_nil, or_false, not_or] at h
  obtain ⟨h1, h2, h3, h4, h5, h6, h7, h8⟩ := h
  simp [splitTopLevelAux, h1, h2, h3, h4, h5, h6, h7, h8]

theorem splitAux_intercalate (hsep : Separator sep) {ps : List (List Char)} (hne : ps ≠ [])
    (h : ∀ p ∈ ps, Passes sep p) :
    splitTopLevelAux sep ⟨none, false, 0⟩ [] ([sep].intercalate ps) = ps.map String.ofList := by
  induction ps with
  | nil => exact absurd rfl hne
  | cons p ps ih =>
    have hp : Passes sep p := h p (by simp)
    rcases ps with _ | ⟨q, qs⟩
    case nil =>
      have hlast := hp [] []
      simp only [List.append_nil] at hlast
      simp [hlast, splitTopLevelAux]
    case cons =>
      rw [List.intercalate_cons_cons, List.append_assoc, hp, List.append_nil,
        List.singleton_append, splitAux_sep hsep,
        ih (List.cons_ne_nil _ _) (fun r hr => h r (List.mem_cons_of_mem _ hr))]
      simp

end Pieces

theorem splitTopLevel_intercalate {sep : Char} (hsep : Separator sep)
    {parts : List (String × String)} (hne : parts ≠ [])
    (h : ∀ p ∈ parts, (∀ c ∈ p.1.toList, c ≠ sep ∧ c ∉ ['"', '\'', '[', '{', '(', ']', '}', ')']) ∧
      ∃ v, Spells v p.2.toList) :
    splitTopLevel (String.intercalate (String.singleton sep) (parts.map fun p => p.1 ++ p.2)) sep =
      parts.map fun p => p.1 ++ p.2 := by
  have hpass : ∀ q ∈ parts.map (fun p => (p.1 ++ p.2).toList), Passes sep q := by
    simp only [List.mem_map]
    rintro q ⟨p, hp, rfl⟩
    obtain ⟨hpre, v, hv⟩ := h p hp
    simpa using passes_prefix_spells hsep hpre hv
  have hsplit := splitAux_intercalate hsep (by simpa using hne) hpass
  rw [splitTopLevel, String.toList_intercalate, String.toList_singleton, List.map_map]
  simpa [Function.comp_def] using hsplit

/-! ## The splitter's laws -/

/-- Splitting at top level loses nothing, and over JSON values it cuts only between them:
joining the pieces of any text with the separator gives the text back, and pieces that are a
prefix with no separator, quote or bracket followed by one JSON value, joined by a separator
that leaves values whole, split back into themselves. -/
theorem splitTopLevel_rejoins_keeping_values :
    (∀ (s : String) (sep : Char),
      String.intercalate (String.singleton sep) (splitTopLevel s sep) = s) ∧
    ∀ (sep : Char) (parts : List (String × String)), Separator sep → parts ≠ [] →
      (∀ p ∈ parts, (∀ c ∈ p.1.toList, c ≠ sep ∧ c ∉ ['"', '\'', '[', '{', '(', ']', '}', ')']) ∧
        ∃ v, Spells v p.2.toList) →
      splitTopLevel (String.intercalate (String.singleton sep) (parts.map fun p => p.1 ++ p.2))
        sep = parts.map fun p => p.1 ++ p.2 :=
  ⟨intercalate_splitTopLevel, fun _ _ hsep hne h => splitTopLevel_intercalate hsep hne h⟩

/-- A quoted comma stays in its term. -/
theorem splitTopLevel_keeps_quoted_comma :
    Separator ',' ∧ [("name:eq:", quote "Doe, John"), ("id:eq:", "true")] ≠ [] ∧
      (∀ p ∈ [("name:eq:", quote "Doe, John"), ("id:eq:", "true")],
        (∀ c ∈ p.1.toList, c ≠ ',' ∧ c ∉ ['"', '\'', '[', '{', '(', ']', '}', ')']) ∧
          ∃ v, Spells v p.2.toList) ∧
      splitTopLevel (String.intercalate (String.singleton ',')
          ([("name:eq:", quote "Doe, John"), ("id:eq:", "true")].map fun p => p.1 ++ p.2)) ',' =
        [("name:eq:", quote "Doe, John"), ("id:eq:", "true")].map fun p => p.1 ++ p.2 := by
  have hparts : ∀ p ∈ [("name:eq:", quote "Doe, John"), ("id:eq:", "true")],
      (∀ c ∈ p.1.toList, c ≠ ',' ∧ c ∉ ['"', '\'', '[', '{', '(', ']', '}', ')']) ∧
        ∃ v, Spells v p.2.toList := by
    intro p hp
    simp only [List.mem_cons, List.not_mem_nil, or_false] at hp
    rcases hp with rfl | rfl
    · refine ⟨?_, _, Spells.quote "Doe, John"⟩
      rw [show "name:eq:".toList = ['n', 'a', 'm', 'e', ':', 'e', 'q', ':'] by decide]
      simp
    · refine ⟨?_, .bool true, ?_⟩
      · rw [show "id:eq:".toList = ['i', 'd', ':', 'e', 'q', ':'] by decide]
        simp
      · rw [show "true".toList = ['t', 'r', 'u', 'e'] by decide]
        exact Spells.trueWord
  exact ⟨comma_separator, List.cons_ne_nil _ _, hparts,
    splitTopLevel_rejoins_keeping_values.2 ',' _ comma_separator (List.cons_ne_nil _ _) hparts⟩

/-- The pieces of a join are not always its parts: a digit separator cuts the number `1`, and
the join of no parts, the empty text, is one empty piece. -/
theorem splitTopLevel_misses_parts :
    (Spells (.number "1") "1".toList ∧ splitTopLevel "1" '1' = ["", ""]) ∧
      splitTopLevel "" ',' = [""] := by
  have hnum : NumberText ['1'] :=
    ⟨[], ['1'], [], rfl, .inl rfl, .inr ⟨'1', [], rfl, rfl, by decide, by simp⟩,
      [], [], rfl, .inl rfl, .inl rfl⟩
  have hone : Spells (.number "1") ['1'] :=
    (show String.ofList ['1'] = "1" by decide) ▸ Spells.number hnum
  exact ⟨⟨by rwa [show "1".toList = ['1'] by decide], by decide⟩, by decide⟩

end RowGate.Filter

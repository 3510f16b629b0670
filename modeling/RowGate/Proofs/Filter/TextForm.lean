import Mathlib
import RowGate.Proofs.Filter.Splitting
/-!
# The two written forms of a filter

Terms with bare fields and operators and JSON values read alike as text and as JSON
(`parse_textForm_eq_documentForm`); an empty field is where they part.
-/

namespace RowGate.Text

/-- A text that starts and ends with a character that is not blank. -/
def Unpadded (cs : List Char) : Prop :=
  cs ≠ [] ∧ (∀ c ∈ cs.head?, c.isBlank = false) ∧ ∀ c ∈ cs.getLast?, c.isBlank = false

theorem Unpadded.append {a x b : List Char} (ha : Unpadded a) (hb : Unpadded b) :
    Unpadded (a ++ x ++ b) := by
  obtain ⟨hne, hh, -⟩ := ha
  obtain ⟨hne', -, hl⟩ := hb
  obtain ⟨c, a, rfl⟩ := List.exists_cons_of_ne_nil hne
  refine ⟨by simp, by simpa using hh, ?_⟩
  rwa [List.getLast?_append_of_ne_nil _ hne']

theorem dropWhile_blank_of_head {cs x : List Char} (hne : cs ≠ [])
    (h : ∀ c ∈ cs.head?, c.isBlank = false) : (cs ++ x).dropWhile Char.isBlank = cs ++ x := by
  obtain ⟨c, cs, rfl⟩ := List.exists_cons_of_ne_nil hne
  simp [h c rfl]

theorem trim_ofList {bl core bl' : List Char} (hbl : ∀ c ∈ bl, c.isBlank) (hcore : Unpadded core)
    (hbl' : ∀ c ∈ bl', c.isBlank) : trim (String.ofList (bl ++ core ++ bl')) = String.ofList core := by
  obtain ⟨hne, hh, hl⟩ := hcore
  have hrev : ∀ c ∈ core.reverse.head?, c.isBlank = false := by simpa using hl
  simp only [trim, dropBlank, String.toList_ofList, List.append_assoc,
    List.dropWhile_append_of_pos hbl, dropWhile_blank_of_head hne hh, List.reverse_append,
    List.dropWhile_append_of_pos (by simpa using hbl' : ∀ a ∈ bl'.reverse, a.isBlank)]
  rw [← List.append_nil core.reverse, dropWhile_blank_of_head (by simpa using hne) hrev]
  simp

theorem head_not_blank_of_trim {s : String} (h : trim s = s) :
    ∀ c ∈ s.toList.head?, c.isBlank = false := by
  intro c hc
  obtain ⟨cs, hcs⟩ : ∃ cs, s.toList = c :: cs := by
    cases hs : s.toList with
    | nil => simp [hs] at hc
    | cons c' cs => simp [hs] at hc; exact ⟨cs, by rw [hc]⟩
  by_contra hb
  have hb' : c.isBlank = true := by simpa using hb
  -- trimming drops the blank head, so it would shorten the text
  have hshort : (trim s).toList.length ≤ cs.length := by
    simp only [trim, dropBlank, String.toList_ofList, List.length_reverse, hcs,
      List.dropWhile_cons, hb', if_true]
    calc _ ≤ (cs.dropWhile Char.isBlank).reverse.length := List.length_dropWhile_le _ _
      _ ≤ cs.length := by simpa using List.length_dropWhile_le Char.isBlank cs
  rw [h, hcs] at hshort
  simp at hshort

end RowGate.Text

namespace RowGate.Json

/-! ## The ends of a spelling -/

theorem isBlank_of_isSpace {c : Char} (h : isSpace c) : c.isBlank := by
  simp only [isSpace, Bool.or_eq_true, beq_iff_eq] at h
  rcases h with ((rfl | rfl) | rfl) | rfl <;> decide

theorem toNat_of_isDigit {c : Char} (h : c.isDigit) : 48 ≤ c.toNat ∧ c.toNat ≤ 57 := by
  simp only [Char.isDigit, Bool.and_eq_true, decide_eq_true_eq] at h
  exact ⟨UInt32.le_iff_toNat_le.1 h.1, UInt32.le_iff_toNat_le.1 h.2⟩

theorem isBlank_of_isDigit {c : Char} (h : c.isDigit) : c.isBlank = false := by
  have hn := toNat_of_isDigit h
  simp only [Char.isBlank, Bool.or_eq_false_iff, Bool.and_eq_false_iff, decide_eq_false_iff_not,
    beq_eq_false_iff_ne]
  omega

theorem ValueStart.not_blank {c : Char} (h : ValueStart c) : c.isBlank = false := by
  rcases h with hd | hc
  · exact isBlank_of_isDigit hd
  · simp only [List.mem_cons, List.not_mem_nil, or_false] at hc
    rcases hc with rfl | rfl | rfl | rfl | rfl | rfl | rfl <;> decide

theorem ValueEnd.not_blank {c : Char} (h : ValueEnd c) : c.isBlank = false := by
  rcases h with hd | hc
  · exact isBlank_of_isDigit hd
  · simp only [List.mem_cons, List.not_mem_nil, or_false] at hc
    rcases hc with rfl | rfl | rfl | rfl | rfl <;> decide

theorem Blank.isBlank {bl : List Char} (h : Blank bl) : ∀ c ∈ bl, c.isBlank :=
  fun c hc => isBlank_of_isSpace (h c hc)

theorem Blank.cons_space {bl : List Char} (h : Blank bl) : Blank (' ' :: bl) := by
  intro c hc
  rcases List.mem_cons.1 hc with rfl | hc
  · decide
  · exact h c hc

theorem Blank.nil : Blank [] := fun _ h => by simp at h

theorem Blank.noContinue {bl : List Char} (h : Blank bl) : NoContinue bl := by
  intro c hc
  have hs : isSpace c := h c (List.mem_of_mem_head? hc)
  simp only [isSpace, Bool.or_eq_true, beq_iff_eq] at hs
  rcases hs with ((rfl | rfl) | rfl) | rfl <;> decide

theorem Spells.readValue {v : Value} {pre : List Char} (h : Spells v pre) :
    readValue (String.ofList pre) = .ok (v, []) := by
  simpa using readValue_complete Blank.nil h (fun _ h => by simp at h : NoContinue [])

theorem Spells.unpadded {v : Value} {pre : List Char} (h : Spells v pre) : Text.Unpadded pre := by
  obtain ⟨c, x, rfl, hc⟩ := h.head
  obtain ⟨init, c', hlast, hc'⟩ := h.last
  refine ⟨List.cons_ne_nil c x, by simpa using hc.not_blank, ?_⟩
  rw [hlast]
  simpa using hc'.not_blank

theorem trim_spells {bl pre rest : List Char} {v : Value} (hbl : Blank bl) (hpre : Spells v pre)
    (hrest : Blank rest) : Text.trim (String.ofList (bl ++ pre ++ rest)) = String.ofList pre :=
  Text.trim_ofList hbl.isBlank hpre.unpadded hrest.isBlank

end RowGate.Json

namespace RowGate.Filter

open Json

/-! ## Pieces of the text form -/

/-- A term of the text form: a field, an operator and the text of a value. -/
structure Term where
  field : String
  op : String
  value : String

namespace Term

/-- The term as the text form writes it. -/
def text (t : Term) : String := t.field ++ ":" ++ t.op ++ ":" ++ t.value

/-- The term as a condition object of the JSON form. -/
def document (t : Term) : String :=
  "\x7b\"field\": " ++ Json.quote t.field ++ ", \"op\": " ++ Json.quote t.op ++ ", \"value\": " ++
    t.value ++ "\x7d"

/-- The value the term's text holds, as the JSON reader reads it. -/
def decoded (t : Term) : Value :=
  match Json.readValue t.value with
  | .ok (v, _) => v
  | .error _ => .null

/-- The condition object the term stands for. -/
def object (t : Term) : Value :=
  .obj (Entries.ofList [("field", .str t.field), ("op", .str t.op), ("value", t.decoded)])

end Term

/-- Terms joined by commas: the text form. -/
def textForm (ts : List Term) : String := ",".intercalate (ts.map Term.text)

/-- The JSON array of the terms' condition objects. -/
def documentForm (ts : List Term) : String := "[" ++ ",".intercalate (ts.map Term.document) ++ "]"

/-- A field or an operator the text form can carry: no colon, comma, quote, bracket, brace or
parenthesis in it and no blank at either end. -/
def Bare (s : String) : Prop :=
  (∀ c ∈ s.toList, c ∉ [':', ',', '"', '\'', '[', ']', '{', '}', '(', ')']) ∧ Text.trim s = s

/-- A term whose field and operator are bare and whose value text is a JSON text: a spelling of
one value, with at most blanks around it. -/
def Term.Valid (t : Term) : Prop :=
  Bare t.field ∧ Bare t.op ∧
    ∃ bl pre rest v, t.value.toList = bl ++ pre ++ rest ∧ Blank bl ∧ Spells v pre ∧ Blank rest

theorem Bare.plain {s : String} (h : Bare s) : ∀ c ∈ s.toList, Plain ',' 0 c := by
  intro c hc
  have hc' := h.1 c hc
  simp only [List.mem_cons, List.not_mem_nil, or_false, not_or] at hc'
  exact plain_of_not_mem (by simp [hc'])

theorem Bare.no_colon {s : String} (h : Bare s) : ':' ∉ s.toList :=
  fun hc => h.1 ':' hc (by simp)

theorem Term.Valid.spelled {t : Term} (h : t.Valid) :
    ∃ bl pre rest, t.value.toList = bl ++ pre ++ rest ∧ Blank bl ∧ Spells t.decoded pre ∧
      Blank rest := by
  obtain ⟨-, -, bl, pre, rest, v, hval, hbl, hpre, hrest⟩ := h
  have hread : readValue t.value = .ok (v, rest) := by
    rw [← String.ofList_toList (s := t.value), hval]
    exact readValue_complete hbl hpre hrest.noContinue
  have hv : t.decoded = v := by simp [Term.decoded, hread]
  exact ⟨bl, pre, rest, hval, hbl, hv ▸ hpre, hrest⟩

theorem splitTerm_eq {f o t : List Char} (hf : ':' ∉ f) (ho : ':' ∉ o) :
    splitTerm (String.ofList (f ++ ':' :: o ++ ':' :: t)) =
      [String.ofList f, String.ofList o, String.ofList t] := by
  unfold splitTerm
  simp only [String.toList_ofList, List.append_assoc, List.cons_append]
  rw [List.splitOn_append_cons_self_of_not_mem hf, List.splitOn_append_cons_self_of_not_mem ho]
  obtain ⟨c, rest, hsplit⟩ := List.exists_cons_of_ne_nil (List.splitOn_ne_nil ':' t)
  rw [hsplit]
  simp only [List.map_cons, List.cons.injEq, true_and, and_true]
  apply String.toList_inj.1
  have hjoin : [':'].intercalate (t.splitOn ':') = t := List.intercalate_splitOn ':'
  rw [hsplit] at hjoin
  simpa [Function.comp_def] using hjoin

theorem termValue_spells {v : Value} {pre : List Char} (h : Spells v pre) :
    termValue (String.ofList pre) = v := by
  have hne : (String.ofList pre).isEmpty = false := by
    rw [String.isEmpty_eq_false_iff, ne_eq, ← String.toList_inj]
    simpa using h.unpadded.1
  rw [termValue, hne, if_neg Bool.false_ne_true, decodeDocument, h.readValue]
  rfl

/-! ## Reading the text form -/

/-- What the text reader keeps of a term once trimmed: the field, a colon, the operator, a
colon, blanks and a spelling of the term's value. -/
def Term.Core (t : Term) (core : List Char) : Prop :=
  ∃ bl pre, core = t.field.toList ++ ':' :: t.op.toList ++ ':' :: bl ++ pre ∧ Blank bl ∧
    Spells t.decoded pre

theorem Term.Valid.core {t : Term} (h : t.Valid) :
    ∃ core rest, t.text.toList = core ++ rest ∧ t.Core core ∧ Blank rest := by
  obtain ⟨bl, pre, rest, hval, hbl, hpre, hrest⟩ := h.spelled
  exact ⟨_, rest, by simp [Term.text, hval], ⟨bl, pre, rfl, hbl, hpre⟩, hrest⟩

theorem Bare.unpadded_colon {s : String} (h : Bare s) : Text.Unpadded (s.toList ++ [':']) := by
  have hcolon : ':'.isBlank = false := by decide
  refine ⟨by simp, ?_, by simp [hcolon]⟩
  have hhead := Text.head_not_blank_of_trim h.2
  cases hs : s.toList with
  | nil => simp [hcolon]
  | cons c cs => simpa [hs] using hhead

theorem Term.Core.unpadded {t : Term} {core : List Char} (hf : Bare t.field) (h : t.Core core) :
    Text.Unpadded core := by
  obtain ⟨bl, pre, rfl, -, hpre⟩ := h
  simpa using Text.Unpadded.append (x := t.op.toList ++ ':' :: bl) hf.unpadded_colon hpre.unpadded

theorem Term.Core.passes {t : Term} {core : List Char} (hf : Bare t.field) (ho : Bare t.op)
    (h : t.Core core) : Passes ',' core := by
  obtain ⟨bl, pre, rfl, hbl, hpre⟩ := h
  have hplain : ∀ c ∈ t.field.toList ++ ':' :: t.op.toList ++ ':' :: bl, Plain ',' 0 c := by
    intro c hc
    simp only [List.mem_append, List.mem_cons] at hc
    rcases hc with (hc | rfl | hc) | rfl | hc
    · exact hf.plain c hc
    · exact plain_of_not_mem (by decide)
    · exact ho.plain c hc
    · exact plain_of_not_mem (by decide)
    · exact plain_of_blank (by decide) hbl c hc
  simpa using (passes_of_plain hplain).append
    (fun cur x => splitAux_spells comma_separator hpre 0 cur x)

theorem Term.Core.readTerms {t : Term} {core : List Char} (hf : Bare t.field) (ho : Bare t.op)
    (h : t.Core core) {piece : String} (htrim : Text.trim piece = String.ofList core)
    (L : List String) (count : Nat) (rest : List String) :
    readTerms L count (piece :: rest) = (do
      let (n, c) ← condition L count t.field t.op t.decoded
      let ns ← readTerms L c rest
      .ok (n :: ns)) := by
  obtain ⟨bl, pre, rfl, hbl, hpre⟩ := h
  have hne : (String.ofList (t.field.toList ++ ':' :: t.op.toList ++ ':' :: bl ++ pre)).isEmpty =
      false := by
    rw [String.isEmpty_eq_false_iff, ne_eq, ← String.toList_inj]
    simp
  have hvalue : Text.trim (String.ofList (bl ++ pre)) = String.ofList pre := by
    simpa using trim_spells hbl hpre Blank.nil
  rw [RowGate.Filter.readTerms]
  simp only [htrim, hne, Bool.false_eq_true, if_false]
  rw [show t.field.toList ++ ':' :: t.op.toList ++ ':' :: bl ++ pre =
    t.field.toList ++ ':' :: t.op.toList ++ ':' :: (bl ++ pre) by simp,
    splitTerm_eq hf.no_colon ho.no_colon]
  simp only [String.ofList_toList, hf.2, ho.2, hvalue, termValue_spells hpre]

/-- The conditions of terms, read in order, each counted after those before it. -/
def readConditions (L : List String) (count : Nat) : List Term → Except Fault (List Node × Nat)
  | [] => .ok ([], count)
  | t :: ts => do
    let (n, c) ← condition L count t.field t.op t.decoded
    let (ns, c) ← readConditions L c ts
    .ok (n :: ns, c)

/-- The filter of terms: their conditions joined by `and`. -/
def termsFilter (L : List String) (ts : List Term) : Except Fault Filter :=
  (readConditions L 0 ts).map fun r =>
    match r.1 with
    | [] => none
    | [n] => some n
    | ns => some (.group .and ns)

/-- Pieces of text, one for each term, each trimming to its term's core. -/
def PiecesOf (ps : List String) (ts : List Term) : Prop :=
  List.Forall₂ (fun p t => ∃ core, t.Core core ∧ Text.trim p = String.ofList core) ps ts

theorem readTerms_piecesOf {ps : List String} {ts : List Term}
    (hb : ∀ t ∈ ts, Bare t.field ∧ Bare t.op) (h : PiecesOf ps ts) (L : List String) (count : Nat) :
    readTerms L count ps = (readConditions L count ts).map Prod.fst := by
  induction h generalizing count with
  | nil => rfl
  | @cons p t ps ts hp _ ih =>
    obtain ⟨core, hcore, htrim⟩ := hp
    obtain ⟨hf, ho⟩ := hb t (by simp)
    rw [hcore.readTerms hf ho htrim, readConditions]
    -- both readers stop at the first condition that fails, with its error
    cases condition L count t.field t.op t.decoded with
    | error e => rfl
    | ok r =>
      simp only [bind, Except.bind]
      rw [ih (fun t ht => hb t (by simp [ht])) r.2]
      cases readConditions L r.2 ts <;> rfl

theorem textForm_cons_cons (t t' : Term) (ts : List Term) :
    textForm (t :: t' :: ts) = t.text ++ "," ++ textForm (t' :: ts) := by
  simp [textForm]

theorem textForm_pieces {ts : List Term} (hv : ∀ t ∈ ts, t.Valid) (hne : ts ≠ []) :
    ∃ X trail, (textForm ts).toList = X ++ trail ∧ Blank trail ∧ Text.Unpadded X ∧
      PiecesOf (splitTopLevelAux ',' ⟨none, false, 0⟩ [] X) ts := by
  induction ts with
  | nil => exact absurd rfl hne
  | cons t ts ih =>
    have ht := hv t (by simp)
    obtain ⟨core, rest, htext, hcore, hrest⟩ := ht.core
    have hpasses := hcore.passes ht.1 ht.2.1
    have hpiece : Text.trim (String.ofList (core ++ rest)) = String.ofList core := by
      simpa using @Text.trim_ofList [] core rest (by simp) (hcore.unpadded ht.1) hrest.isBlank
    rcases ts with _ | ⟨t', ts⟩
    case nil =>
      -- a single term: its core is the text, its trailing blanks the padding
      refine ⟨core, rest, by simp [textForm, htext], hrest, hcore.unpadded ht.1, ?_⟩
      have hsplit := hpasses [] []
      simp only [List.append_nil] at hsplit
      rw [hsplit]
      simp only [splitTopLevelAux, List.reverse_reverse]
      refine List.Forall₂.cons ⟨core, hcore, ?_⟩ List.Forall₂.nil
      simpa using @Text.trim_ofList [] core [] (by simp) (hcore.unpadded ht.1) (by simp)
    case cons =>
      -- the first term's text, a comma, then the rest's unpadded text and its padding
      obtain ⟨X, trail, hX, htrail, hunX, hps⟩ :=
        ih (fun t ht => hv t (List.mem_cons_of_mem _ ht)) (List.cons_ne_nil _ _)
      have hfirst : Passes ',' (core ++ rest) :=
        hpasses.append (passes_of_plain (plain_of_blank (by decide) hrest))
      refine ⟨core ++ rest ++ ',' :: X, trail, ?_, htrail, ?_, ?_⟩
      · simp [textForm_cons_cons, htext, hX]
      · simpa using Text.Unpadded.append (x := rest ++ [',']) (hcore.unpadded ht.1) hunX
      · rw [hfirst [] _]
        simp only [splitTopLevelAux, List.append_nil, List.reverse_reverse]
        exact List.Forall₂.cons ⟨core, hcore, hpiece⟩ hps

theorem textForm_head (t : Term) (ts : List Term) :
    (textForm (t :: ts)).toList.head? = (t.field.toList ++ [':']).head? := by
  cases ts with
  | nil => simp [textForm, Term.text]
  | cons t' ts => simp [textForm_cons_cons, Term.text]

theorem Bare.head_colon {s : String} (h : Bare s) :
    ∀ c ∈ (s.toList ++ [':']).head?, (c == '\x7b' || c == '[') = false := by
  cases hs : s.toList with
  | nil => simp
  | cons d ds =>
    have hd := h.1 d (by simp [hs])
    simp only [List.mem_cons, List.not_mem_nil, or_false, not_or] at hd
    simp [hd]

theorem parse_textForm {ts : List Term} (hv : ∀ t ∈ ts, t.Valid) (hne : ts ≠ [])
    (L : List String) : parse (textForm ts) L = termsFilter L ts := by
  obtain ⟨X, trail, hX, htrail, hunX, hps⟩ := textForm_pieces hv hne
  have htrim : Text.trim (textForm ts) = String.ofList X := by
    rw [← String.ofList_toList (s := textForm ts), hX]
    simpa using @Text.trim_ofList [] X trail (by simp) hunX htrail.isBlank
  -- the first character is the first field's or a colon, never a bracket or a brace
  obtain ⟨t, ts', rfl⟩ := List.exists_cons_of_ne_nil hne
  obtain ⟨c, X', rfl⟩ := List.exists_cons_of_ne_nil hunX.1
  have hc : (c == '\x7b' || c == '[') = false := by
    have hhead := textForm_head t ts'
    rw [hX] at hhead
    exact (hv t (by simp)).1.head_colon c (by rw [← hhead]; simp)
  have hsplit : splitTopLevel (String.ofList (c :: X')) ',' =
      splitTopLevelAux ',' ⟨none, false, 0⟩ [] (c :: X') := by
    simp [splitTopLevel]
  simp only [parse, htrim, String.toList_ofList, hc, Bool.false_eq_true, if_false, ofTerms,
    hsplit, readTerms_piecesOf (fun t ht => ⟨(hv t ht).1, (hv t ht).2.1⟩) hps L 0, termsFilter]
  cases readConditions L 0 (t :: ts') with
  | error e => rfl
  | ok r =>
    obtain ⟨ns, count⟩ := r
    rcases ns with _ | ⟨n, _ | ⟨n', ns⟩⟩ <;> rfl

/-! ## Reading the JSON form -/

theorem Term.Valid.document {t : Term} (h : t.Valid) : Spells t.object t.document.toList := by
  obtain ⟨bl, pre, rest, hval, hbl, hpre, hrest⟩ := h.spelled
  have hfield : "\x7b\"field\": ".toList = '\x7b' :: ((quote "field").toList ++ [':', ' ']) := by
    decide
  have hop : ", \"op\": ".toList = ',' :: ' ' :: ((quote "op").toList ++ [':', ' ']) := by decide
  have hvalue : ", \"value\": ".toList = ',' :: ' ' :: ((quote "value").toList ++ [':', ' ']) := by
    decide
  have hclose : "\x7d".toList = ['\x7d'] := by decide
  have hnil := Blank.nil
  have hsp : Blank [' '] := Blank.cons_space hnil
  -- the three members in order, each key quoted and followed by a colon and a blank
  have hmembers := Members.cons hnil (Spells.quote "field") hnil hsp (Spells.quote t.field) hnil
    (Members.cons hsp (Spells.quote "op") hnil hsp (Spells.quote t.op) hnil
      (Members.last hsp (Spells.quote "value") hnil (Blank.cons_space hbl) hpre hrest))
  convert Spells.object hmembers using 1
  · rfl
  · -- unfolding by `show` spares building the equation lemma of `Term.document`
    show ("\x7b\"field\": " ++ quote t.field ++ ", \"op\": " ++ quote t.op ++ ", \"value\": " ++
      t.value ++ "\x7d").toList = _
    simp only [String.toList_append, hfield, hop, hvalue, hclose, hval, List.append_assoc,
      List.cons_append, List.nil_append, List.append_nil]

theorem elements_documents {ts : List Term} (hv : ∀ t ∈ ts, t.Valid) (hne : ts ≠ []) :
    Elements (ts.map Term.object) ([','].intercalate (ts.map (·.document.toList)) ++ [']']) := by
  induction ts with
  | nil => exact absurd rfl hne
  | cons t ts ih =>
    have ht := (hv t (by simp)).document
    rcases ts with _ | ⟨t', ts⟩
    case nil => simpa using Elements.last Blank.nil ht Blank.nil
    case cons =>
      have hrest := ih (fun t ht => hv t (List.mem_cons_of_mem _ ht)) (List.cons_ne_nil _ _)
      simpa using Elements.cons Blank.nil ht Blank.nil hrest

theorem documentForm_spells {ts : List Term} (hv : ∀ t ∈ ts, t.Valid) (hne : ts ≠ []) :
    Spells (.list (ts.map Term.object)) (documentForm ts).toList := by
  have hopen : "[".toList = ['['] := by decide
  have hclose : "]".toList = [']'] := by decide
  simpa [documentForm, hopen, hclose, Function.comp_def] using
    Spells.array (elements_documents hv hne)

theorem parse_documentForm_ofValue {ts : List Term} (hv : ∀ t ∈ ts, t.Valid) (hne : ts ≠ [])
    (L : List String) : parse (documentForm ts) L = ofValue (.list (ts.map Term.object)) L := by
  have hs := documentForm_spells hv hne
  have htrim : Text.trim (documentForm ts) = documentForm ts := by
    simpa using trim_spells Blank.nil hs Blank.nil
  have hread : readValue (documentForm ts) = .ok (.list (ts.map Term.object), []) := by
    simpa using hs.readValue
  have hopen : (documentForm ts).toList = '[' :: ([','].intercalate
      (ts.map (·.document.toList)) ++ [']']) := by
    have hopen : "[".toList = ['['] := by decide
    have hclose : "]".toList = [']'] := by decide
    simp [documentForm, hopen, hclose, Function.comp_def]
  simp only [parse, htrim, hopen, decodeDocument, hread, moreFollows]
  rfl

theorem ofList_condition (f o v : Value) :
    Entries.ofList [("field", f), ("op", o), ("value", v)] = [("field", f), ("op", o), ("value", v)] := by
  have hop : ¬ ("op" < "field") := by decide
  have hvalue : ¬ ("value" < "field") := by decide
  have hvalue' : ¬ ("value" < "op") := by decide
  simp [Entries.ofList, Entries.insert, hop, hvalue, hvalue']

theorem readNode_object {t : Term} (hf : t.field ≠ "") (L : List String) (room count : Nat) :
    readNode L (room + 1) count t.object = condition L count t.field t.op t.decoded := by
  have hempty : t.field.isEmpty = false := by simpa using hf
  rw [Term.object, ofList_condition, readNode]
  simp [Entries.get?, stringField, hempty]

theorem readChildren_objects {ts : List Term} (hf : ∀ t ∈ ts, t.field ≠ "") (L : List String)
    (room count : Nat) :
    readChildren L (room + 1) count (ts.map Term.object) = readConditions L count ts := by
  induction ts generalizing count with
  | nil => rw [List.map_nil, readChildren, readConditions]
  | cons t ts ih =>
    have ih' := ih (fun t ht => hf t (List.mem_cons_of_mem _ ht))
    rw [List.map_cons, readChildren, readNode_object (hf t (by simp)), readConditions]
    simp only [ih']

theorem readConditions_length {L : List String} {ts : List Term} {count : Nat}
    {r : List Node × Nat} (h : readConditions L count ts = .ok r) : r.1.length = ts.length := by
  induction ts generalizing count r with
  | nil =>
    rw [readConditions] at h
    cases h
    rfl
  | cons t ts ih =>
    rw [readConditions] at h
    obtain ⟨⟨n, c⟩, -, h⟩ := bind_eq_ok.mp h
    obtain ⟨⟨ns, c'⟩, hns, h⟩ := bind_eq_ok.mp h
    cases h
    simp [ih hns]

theorem parse_documentForm {ts : List Term} (hv : ∀ t ∈ ts, t.Valid) (hf : ∀ t ∈ ts, t.field ≠ "")
    (hne : ts ≠ []) (L : List String) : parse (documentForm ts) L = termsFilter L ts := by
  rw [parse_documentForm_ofValue hv hne]
  obtain ⟨t, ts', rfl⟩ := List.exists_cons_of_ne_nil hne
  have hdepth : maxDepth - 1 = 14 + 1 := rfl
  simp only [List.map_cons, ofValue, hdepth, readGroup, List.isEmpty_cons, Bool.false_eq_true,
    if_false]
  rw [← List.map_cons, readChildren_objects hf, termsFilter]
  cases hr : readConditions L 0 (t :: ts') with
  | error e => rfl
  | ok r =>
    -- a group of one child is that child; no group is empty, as there is a node per term
    obtain ⟨ns, count⟩ := r
    have hlen := readConditions_length hr
    rcases ns with _ | ⟨n, _ | ⟨n', ns⟩⟩
    · simp at hlen
    · rfl
    · rfl

theorem Term.valid_of_spells {f o : String} {v : Value} {pre : List Char} (hf : Bare f) (ho : Bare o)
    (h : Spells v pre) : Term.Valid ⟨f, o, String.ofList pre⟩ :=
  ⟨hf, ho, [], pre, [], v, by simp, Blank.nil, h, Blank.nil⟩

/-- With fields that are not empty, the text form and the JSON form of the same terms read
alike: the same filter, or the same error, for every list of allowed fields. -/
theorem parse_textForm_eq_documentForm (ts : List Term) (L : List String) (hne : ts ≠ [])
    (hv : ∀ t ∈ ts, t.Valid ∧ t.field ≠ "") : parse (textForm ts) L = parse (documentForm ts) L := by
  have hvalid : ∀ t ∈ ts, t.Valid := fun t ht => (hv t ht).1
  rw [parse_textForm hvalid hne, parse_documentForm hvalid (fun t ht => (hv t ht).2) hne]

/-- Three terms read alike in both forms: a word, a quoted string holding a comma, and an
array. -/
theorem parse_textForm_eq_documentForm_mixed :
    let ts : List Term :=
      [⟨"id", "eq", "true"⟩, ⟨"name", "eq", quote "a,b"⟩, ⟨"tags", "in", "[true,false]"⟩]
    ts ≠ [] ∧ (∀ t ∈ ts, t.Valid ∧ t.field ≠ "") ∧
      parse (textForm ts) ["id", "name", "tags"] = parse (documentForm ts) ["id", "name", "tags"] := by
  intro ts
  have hid : Bare "id" := ⟨by rw [show "id".toList = ['i', 'd'] by decide]; simp, by decide⟩
  have hname : Bare "name" :=
    ⟨by rw [show "name".toList = ['n', 'a', 'm', 'e'] by decide]; simp, by decide⟩
  have htags : Bare "tags" :=
    ⟨by rw [show "tags".toList = ['t', 'a', 'g', 's'] by decide]; simp, by decide⟩
  have heq : Bare "eq" := ⟨by rw [show "eq".toList = ['e', 'q'] by decide]; simp, by decide⟩
  have hin : Bare "in" := ⟨by rw [show "in".toList = ['i', 'n'] by decide]; simp, by decide⟩
  have hv : ∀ t ∈ ts, t.Valid ∧ t.field ≠ "" := by
    intro t ht
    simp only [ts, List.mem_cons, List.not_mem_nil, or_false] at ht
    rcases ht with rfl | rfl | rfl
    · refine ⟨?_, by decide⟩
      rw [show "true" = String.ofList ['t', 'r', 'u', 'e'] by decide]
      exact Term.valid_of_spells hid heq Spells.trueWord
    · refine ⟨?_, by decide⟩
      simpa using Term.valid_of_spells hname heq (Spells.quote "a,b")
    · refine ⟨?_, by decide⟩
      -- the array's elements are the two words, with no blanks around them
      have helems := Elements.cons Blank.nil Spells.trueWord Blank.nil
        (Elements.last Blank.nil Spells.falseWord Blank.nil)
      rw [show "[true,false]" = String.ofList ('[' :: ([] ++ ['t', 'r', 'u', 'e'] ++ [] ++
        ',' :: ([] ++ ['f', 'a', 'l', 's', 'e'] ++ [] ++ [']']))) by decide]
      exact Term.valid_of_spells htags hin (Spells.array helems)
  exact ⟨List.cons_ne_nil _ _, hv, parse_textForm_eq_documentForm _ _ (List.cons_ne_nil _ _) hv⟩

/-- With an empty field the two forms part: the text form reads the condition on the empty
field, the JSON form refuses the condition as missing its field. -/
theorem parse_emptyField_forms_differ :
    parse (textForm [⟨"", "eq", "true"⟩]) [""] = .ok (some (.cond "" .eq (.bool true))) ∧
      parse (documentForm [⟨"", "eq", "true"⟩]) [""] =
        .error (.new .invalidFilterField "filter condition is missing a field") := by
  have hempty : Bare "" := ⟨by simp, by decide⟩
  have heq : Bare "eq" := ⟨by rw [show "eq".toList = ['e', 'q'] by decide]; simp, by decide⟩
  have htrue : "true" = String.ofList ['t', 'r', 'u', 'e'] := by decide
  have hvalid : Term.Valid ⟨"", "eq", "true"⟩ := by
    rw [htrue]
    exact Term.valid_of_spells hempty heq Spells.trueWord
  have hv : ∀ t ∈ [Term.mk "" "eq" "true"], t.Valid := by simpa using hvalid
  have hdecoded : (Term.mk "" "eq" "true").decoded = .bool true := by
    have hread := Spells.trueWord.readValue
    rw [← htrue] at hread
    simp [Term.decoded, hread]
  constructor
  · rw [parse_textForm hv (List.cons_ne_nil _ _)]
    simp only [termsFilter, readConditions, hdecoded]
    cbv
  · rw [parse_documentForm_ofValue hv (List.cons_ne_nil _ _)]
    simp only [List.map_cons, List.map_nil, Term.object, hdecoded]
    cbv

end RowGate.Filter

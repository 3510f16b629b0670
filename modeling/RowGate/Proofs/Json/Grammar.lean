import Mathlib
import RowGate.Proofs.Filter.WellFormed
/-!
# The grammar of JSON texts

`Spells v cs`: `cs` is a JSON text of `v`; the reader reads exactly these texts, sound and
complete.
-/

namespace RowGate.Json

section Strings

variable {acc rest : List Char} {a b c d : Char} {u : Nat}

theorem ne_backslash {rest : List Char} (hcons : ∀ x r, c = '\\' → rest = x :: r → False)
    (hnil : c = '\\' → rest = [] → False) : c ≠ '\\' := by
  intro hc
  cases rest with
  | nil => exact hnil hc rfl
  | cons x r => exact hcons x r hc rfl

/-- The escaped unit after a high surrogate `u` that completes the pair. -/
def PairsWith (u : Nat) (rest : List Char) : Prop :=
  ∃ e f g h rest' v, rest = '\\' :: 'u' :: e :: f :: g :: h :: rest' ∧ unit4 e f g h = .ok v ∧
    u < 0xDC00 ∧ 0xDC00 ≤ v ∧ v ≤ 0xDFFF

theorem readString_lone (hu : unit4 a b c d = .ok u) (hsur : 0xD800 ≤ u ∧ u ≤ 0xDFFF)
    (hlone : ¬PairsWith u rest) :
    readString acc ('\\' :: 'u' :: a :: b :: c :: d :: rest) = readString (replacement :: acc) rest := by
  rw [readString]
  simp only [hu]
  rw [if_neg (by simp; omega)]
  split
  · rename_i e f g h rest'
    split
    · rename_i v hv
      rw [if_neg]
      simp only [Bool.and_eq_true, decide_eq_true_eq]
      rintro ⟨⟨h1, h2⟩, h3⟩
      exact hlone ⟨e, f, g, h, rest', v, rfl, hv, h1, h2, h3⟩
    · rfl
  · rfl

theorem readString_escape {e : Char} (he : simpleEscape? c = some e) :
    readString acc ('\\' :: c :: rest) = readString (e :: acc) rest := by
  have hc : c ≠ 'u' := by rintro rfl; simp [simpleEscape?] at he
  rw [readString.eq_def]
  split <;> simp_all
  rename_i hslash hnil heq
  obtain ⟨rfl, rfl⟩ := heq
  exact absurd rfl (hslash _ _ rfl)

theorem readString_plain (hq : c ≠ '"') (hb : c ≠ '\\') (hc : 0x20 ≤ c.toNat) :
    readString acc (c :: rest) = readString (c :: acc) rest := by
  rw [readString.eq_def]
  split <;> simp_all

theorem readString_quote : readString acc ('"' :: rest) = .ok (String.ofList acc.reverse, rest) := by
  rw [readString]

theorem readString_unit (hu : unit4 a b c d = .ok u) (hplain : u < 0xD800 ∨ 0xDFFF < u) :
    readString acc ('\\' :: 'u' :: a :: b :: c :: d :: rest) = readString (Char.ofNat u :: acc) rest := by
  rw [readString]
  simp [hu, hplain]

theorem readString_pair (hu : unit4 a b c d = .ok u) (hsur : 0xD800 ≤ u ∧ u ≤ 0xDFFF)
    {e f g h : Char} {v : Nat} {rest' : List Char} (hv : unit4 e f g h = .ok v)
    (hpair : u < 0xDC00 ∧ 0xDC00 ≤ v ∧ v ≤ 0xDFFF) :
    readString acc ('\\' :: 'u' :: a :: b :: c :: d :: '\\' :: 'u' :: e :: f :: g :: h :: rest') =
      readString (Char.ofNat (0x10000 + (u - 0xD800) * 0x400 + (v - 0xDC00)) :: acc) rest' := by
  rw [readString]
  simp [hu, hv, hpair]
  omega

theorem readString_escapeU_ok {short : List Char} {r : String × List Char}
    (h : readString acc ('\\' :: 'u' :: short) = .ok r) :
    ∃ a b c d rest, short = a :: b :: c :: d :: rest := by
  rcases short with _ | ⟨a, _ | ⟨b, _ | ⟨c, _ | ⟨d, rest⟩⟩⟩⟩
  case cons.cons.cons.cons => exact ⟨a, b, c, d, rest, rfl⟩
  -- fewer than four characters after `\u` is an error
  all_goals rw [readString.eq_def] at h; simp at h

theorem not_pairsWith_append {acc' : List Char} {s : String} (t : List Char)
    (h : readString acc' rest = .ok (s, []))
    (hno : ∀ e f g h rest', rest = '\\' :: 'u' :: e :: f :: g :: h :: rest' → False) :
    ¬PairsWith u (rest ++ t) := by
  rintro ⟨e, f, g, h', rest', v, heq, -⟩
  rcases rest with _ | ⟨x, _ | ⟨y, rest₂⟩⟩
  · rw [readString.eq_def] at h; simp at h
  · simp only [List.cons_append, List.nil_append, List.cons.injEq] at heq
    obtain ⟨rfl, -⟩ := heq
    rw [readString.eq_def] at h; simp at h
  · simp only [List.cons_append, List.cons.injEq] at heq
    obtain ⟨rfl, rfl, -⟩ := heq
    obtain ⟨a', b', c', d', r, rfl⟩ := readString_escapeU_ok h
    exact hno a' b' c' d' r rfl

theorem readString_append {pre : List Char} {s : String} (h : readString acc pre = .ok (s, []))
    (t : List Char) : readString acc (pre ++ t) = .ok (s, t) := by
  fun_induction readString acc pre generalizing s with
  | case1 => simp at h
  | case2 acc rest =>
    obtain ⟨rfl, rfl⟩ : String.ofList acc.reverse = s ∧ rest = [] := by simpa using h
    exact readString_quote
  | case3 => simp at h
  | case4 acc a b c d rest u hu hplain ih =>
    simp only [List.cons_append]
    rw [readString_unit hu (by simpa using hplain)]
    exact ih h
  | case5 acc a b c d u hu hsur e f g h' rest' v hv hpair ih =>
    simp only [List.cons_append]
    rw [readString_pair hu (by simp at hsur; omega) hv (by simpa [and_assoc] using hpair)]
    exact ih h
  | case6 acc a b c d u hu hsur e f g h' rest' v hv hpair ih =>
    simp only [List.cons_append]
    rw [readString_lone hu (by simp at hsur; omega)]
    · exact ih h
    · rintro ⟨e', f', g', h'', r, v', heq, hv', hp⟩
      simp only [List.cons.injEq] at heq
      obtain ⟨-, -, rfl, rfl, rfl, rfl, -⟩ := heq
      rw [hv] at hv'
      cases hv'
      simp_all
  | case7 acc a b c d u hu hsur e f g h' rest' err herr ih =>
    simp only [List.cons_append]
    rw [readString_lone hu (by simp at hsur; omega)]
    · exact ih h
    · rintro ⟨e', f', g', h'', r, v', heq, hv', -⟩
      simp only [List.cons.injEq] at heq
      obtain ⟨-, -, rfl, rfl, rfl, rfl, -⟩ := heq
      rw [herr] at hv'
      cases hv'
  | case8 acc a b c d rest u hu hsur hno ih =>
    simp only [List.cons_append]
    rw [readString_lone hu (by simp at hsur; omega) (not_pairsWith_append t h hno)]
    exact ih h
  | case9 => simp at h
  | case10 acc c rest _ _ e he ih =>
    simp only [List.cons_append]
    rw [readString_escape he]
    exact ih h
  | case11 => simp at h
  | case12 => simp at h
  | case13 => simp at h
  | case14 acc c rest hq _ _ hslash hnil hlow ih =>
    simp only [List.cons_append]
    rw [readString_plain hq (ne_backslash hslash hnil) (by omega)]
    exact ih h

theorem readString_split {cs rest : List Char} {s : String} (h : readString acc cs = .ok (s, rest)) :
    ∃ pre, cs = pre ++ rest ∧ readString acc pre = .ok (s, []) := by
  fun_induction readString acc cs generalizing s rest with
  | case1 => simp at h
  | case2 acc rest₀ =>
    obtain ⟨rfl, rfl⟩ : String.ofList acc.reverse = s ∧ rest₀ = rest := by simpa using h
    exact ⟨['"'], rfl, readString_quote⟩
  | case3 => simp at h
  | case4 acc a b c d rest₀ u hu hplain ih =>
    obtain ⟨pre, rfl, hpre⟩ := ih h
    refine ⟨'\\' :: 'u' :: a :: b :: c :: d :: pre, rfl, ?_⟩
    rw [readString_unit hu (by simpa using hplain)]
    exact hpre
  | case5 acc a b c d u hu hsur e f g h' rest' v hv hpair ih =>
    obtain ⟨pre, rfl, hpre⟩ := ih h
    refine ⟨'\\' :: 'u' :: a :: b :: c :: d :: '\\' :: 'u' :: e :: f :: g :: h' :: pre, rfl, ?_⟩
    rw [readString_pair hu (by simp at hsur; omega) hv (by simpa [and_assoc] using hpair)]
    exact hpre
  | case6 acc a b c d u hu hsur e f g h' rest' v hv hpair ih =>
    obtain ⟨pre, hsplit, hpre⟩ := ih h
    refine ⟨'\\' :: 'u' :: a :: b :: c :: d :: pre, by simp [hsplit], ?_⟩
    rw [readString_lone hu (by simp at hsur; omega)]
    · exact hpre
    · rintro ⟨e', f', g', h'', r, v', rfl, hv', hp⟩
      simp only [List.cons_append, List.cons.injEq] at hsplit
      obtain ⟨-, -, rfl, rfl, rfl, rfl, -⟩ := hsplit
      rw [hv] at hv'
      cases hv'
      simp_all
  | case7 acc a b c d u hu hsur e f g h' rest' err herr ih =>
    obtain ⟨pre, hsplit, hpre⟩ := ih h
    refine ⟨'\\' :: 'u' :: a :: b :: c :: d :: pre, by simp [hsplit], ?_⟩
    rw [readString_lone hu (by simp at hsur; omega)]
    · exact hpre
    · rintro ⟨e', f', g', h'', r, v', rfl, hv', -⟩
      simp only [List.cons_append, List.cons.injEq] at hsplit
      obtain ⟨-, -, rfl, rfl, rfl, rfl, -⟩ := hsplit
      rw [herr] at hv'
      cases hv'
  | case8 acc a b c d rest₀ u hu hsur hno ih =>
    obtain ⟨pre, rfl, hpre⟩ := ih h
    refine ⟨'\\' :: 'u' :: a :: b :: c :: d :: pre, rfl, ?_⟩
    rw [readString_lone hu (by simp at hsur; omega)]
    · exact hpre
    · rintro ⟨e', f', g', h'', r, v', rfl, -⟩
      exact hno e' f' g' h'' (r ++ rest) rfl
  | case9 => simp at h
  | case10 acc c rest₀ _ _ e he ih =>
    obtain ⟨pre, rfl, hpre⟩ := ih h
    exact ⟨'\\' :: c :: pre, rfl, by rw [readString_escape he]; exact hpre⟩
  | case11 => simp at h
  | case12 => simp at h
  | case13 => simp at h
  | case14 acc c rest₀ hq _ _ hslash hnil hlow ih =>
    obtain ⟨pre, rfl, hpre⟩ := ih h
    exact ⟨c :: pre, rfl, by rw [readString_plain hq (ne_backslash hslash hnil) (by omega)]; exact hpre⟩

end Strings

section Numbers

/-- One digit or more. -/
def Digits (ds : List Char) : Prop := ds ≠ [] ∧ ∀ c ∈ ds, c.isDigit

/-- What may follow a number: nothing, or a character that cannot go on with it. -/
def NoContinue (t : List Char) : Prop :=
  ∀ c ∈ t.head?, c.isDigit = false ∧ c ≠ '.' ∧ c ≠ 'e' ∧ c ≠ 'E'

/-- Digits after an optional sign, as an exponent has them. -/
def SignedDigits (xs : List Char) : Prop :=
  ∃ sign ds, xs = sign ++ ds ∧ (sign = [] ∨ sign = ['+'] ∨ sign = ['-']) ∧ Digits ds

/-- The fraction of a number: nothing, or a point and digits. -/
def FractionText (xs : List Char) : Prop := xs = [] ∨ ∃ ds, xs = '.' :: ds ∧ Digits ds

/-- The exponent of a number: nothing, or `e` or `E` and signed digits. -/
def ExponentText (xs : List Char) : Prop :=
  xs = [] ∨ ∃ e ds, xs = e :: ds ∧ (e = 'e' ∨ e = 'E') ∧ SignedDigits ds

/-- What follows the integer part of a number: a fraction, then an exponent. -/
def TailText (xs : List Char) : Prop :=
  ∃ fraction exponent, xs = fraction ++ exponent ∧ FractionText fraction ∧ ExponentText exponent

/-- The integer part of a number: `0`, or digits that do not start with `0`. -/
def WholeText (xs : List Char) : Prop :=
  xs = ['0'] ∨ ∃ d ds, xs = d :: ds ∧ d.isDigit ∧ d ≠ '0' ∧ ∀ c ∈ ds, c.isDigit

/-- The text of a number: an optional minus, the integer part and the tail. -/
def NumberText (xs : List Char) : Prop :=
  ∃ sign whole tail, xs = sign ++ whole ++ tail ∧ (sign = [] ∨ sign = ['-']) ∧
    WholeText whole ∧ TailText tail

theorem spanDigits_append {ds t : List Char} (hds : ∀ c ∈ ds, c.isDigit)
    (ht : ∀ c ∈ t.head?, c.isDigit = false) : spanDigits (ds ++ t) = (ds, t) := by
  induction ds with
  | nil =>
    cases t with
    | nil => rfl
    | cons c t => simp_all [spanDigits]
  | cons d ds ih =>
    simp only [List.mem_cons, forall_eq_or_imp] at hds
    simp only [spanDigits, Prod.mk.injEq] at ih ⊢
    simp [hds.1, ih hds.2]

theorem spanDigits_split (cs : List Char) :
    cs = (spanDigits cs).1 ++ (spanDigits cs).2 ∧ (∀ c ∈ (spanDigits cs).1, c.isDigit) ∧
      ∀ c ∈ (spanDigits cs).2.head?, c.isDigit = false := by
  refine ⟨(List.takeWhile_append_dropWhile).symm, fun c hc => List.mem_takeWhile_imp hc, ?_⟩
  intro c hc
  have hstop := List.head?_dropWhile_not Char.isDigit cs
  simp only [spanDigits, Option.mem_def] at hc
  rwa [hc] at hstop

theorem ne_of_isDigit {d c : Char} (hd : d.isDigit) (hc : c.isDigit = false) : d ≠ c := by
  rintro rfl; simp_all

theorem spanDigits_run {d : Char} {r ds rest : List Char} (hd : d.isDigit)
    (h : spanDigits (d :: r) = (ds, rest)) :
    d :: r = ds ++ rest ∧ Digits ds ∧ ∀ c ∈ rest.head?, c.isDigit = false := by
  obtain ⟨hsplit, hall, hstop⟩ := spanDigits_split (d :: r)
  rw [h] at hsplit hall hstop
  refine ⟨hsplit, ⟨?_, hall⟩, hstop⟩
  rintro rfl
  simp [spanDigits, hd] at h

theorem readExponent_sound {cs ex rest : List Char} (h : readExponent cs = .ok (ex, rest)) :
    cs = ex ++ rest ∧ SignedDigits ex := by
  unfold readExponent at h
  split at h
  rename_i sign body hsign
  have hcs : cs = sign ++ body ∧ (sign = [] ∨ sign = ['+'] ∨ sign = ['-']) := by
    split at hsign <;> cases hsign <;> simp
  rcases body with _ | ⟨d, r⟩
  · simp at h
  · simp only at h
    split at h
    · rename_i hd
      obtain ⟨ds, rest', hspan⟩ : ∃ ds rest', spanDigits (d :: r) = (ds, rest') := ⟨_, _, rfl⟩
      rw [hspan] at h
      obtain ⟨rfl, rfl⟩ := by simpa using h
      obtain ⟨hsplit, hds, -⟩ := spanDigits_run hd hspan
      exact ⟨by simp [hcs.1, hsplit], sign, ds, rfl, hcs.2, hds⟩
    · simp at h

theorem readExponent_complete {ex t : List Char} (hex : SignedDigits ex)
    (ht : ∀ c ∈ t.head?, c.isDigit = false) : readExponent (ex ++ t) = .ok (ex, t) := by
  obtain ⟨sign, ds, rfl, hsign, hne, hall⟩ := hex
  obtain ⟨d, ds', rfl⟩ := List.exists_cons_of_ne_nil hne
  have hd : d.isDigit := hall d (by simp)
  have hrun := spanDigits_append hall ht
  rw [List.cons_append] at hrun
  rcases hsign with rfl | rfl | rfl <;>
    simp [readExponent, ne_of_isDigit hd (c := '+') rfl, ne_of_isDigit hd (c := '-') rfl, hd, hrun]

/-- The fraction of a number: a point and digits, or nothing. -/
def fractionPart : List Char → Except DecodeError (List Char × List Char)
  | '.' :: r =>
    match r with
    | [] => .error .truncated
    | c :: _ =>
      if c.isDigit then .ok ('.' :: (spanDigits r).1, (spanDigits r).2)
      else .error (.invalid c .afterPoint)
  | r => .ok ([], r)

/-- The exponent of a number with its letter, or nothing. -/
def exponentPart : List Char → Except DecodeError (List Char × List Char)
  | e :: r =>
    if e == 'e' || e == 'E' then (readExponent r).map fun p => (e :: p.1, p.2)
    else .ok ([], e :: r)
  | [] => .ok ([], [])

theorem readNumberTail_eq (cs : List Char) :
    readNumberTail cs = fractionPart cs >>= fun p =>
      (exponentPart p.2).map fun q => (p.1 ++ q.1, q.2) := by
  rcases cs with _ | ⟨c, r⟩
  · rfl
  by_cases hc : c = '.'
  · subst hc
    simp only [readNumberTail, fractionPart, exponentPart, bind, Except.bind]
    rcases r with _ | ⟨c, r⟩
    · rfl
    · simp only
      split
      · generalize (spanDigits (c :: r)).2 = rest
        rcases rest with _ | ⟨e, r'⟩
        · simp [Except.map]
        · simp only
          split
          · cases readExponent r' <;> simp [Except.map]
          · simp [Except.map]
      · rfl
  · have hfr : fractionPart (c :: r) = .ok ([], c :: r) := by
      rw [fractionPart.eq_3]
      rintro r' ⟨⟩
      exact hc rfl
    rw [hfr]
    simp only [readNumberTail, exponentPart, bind, Except.bind]
    split
    · rename_i heq; exact absurd (List.cons.inj heq).1 hc
    · simp only
      split
      · cases readExponent r <;> simp [Except.map]
      · simp [Except.map]

theorem fractionPart_sound {cs fraction rest : List Char}
    (h : fractionPart cs = .ok (fraction, rest)) : cs = fraction ++ rest ∧ FractionText fraction := by
  unfold fractionPart at h
  split at h
  · rename_i r
    rcases r with _ | ⟨d, r⟩
    · simp at h
    simp only at h
    split at h
    · rename_i hd
      obtain ⟨hsplit, hds, -⟩ := spanDigits_run hd rfl
      obtain ⟨rfl, rfl⟩ := by simpa using h
      exact ⟨congrArg (List.cons '.') hsplit, .inr ⟨_, rfl, hds⟩⟩
    · simp at h
  · obtain ⟨rfl, rfl⟩ := by simpa using h
    exact ⟨rfl, .inl rfl⟩

theorem fractionPart_complete {fraction t : List Char} (hfr : FractionText fraction)
    (ht : ∀ c ∈ t.head?, c.isDigit = false ∧ c ≠ '.') :
    fractionPart (fraction ++ t) = .ok (fraction, t) := by
  rcases hfr with rfl | ⟨ds, rfl, hne, hall⟩
  · rcases t with _ | ⟨c, t⟩
    · rfl
    · rw [List.nil_append, fractionPart.eq_3]
      rintro r ⟨⟩
      simp at ht
  · obtain ⟨d, ds', rfl⟩ := List.exists_cons_of_ne_nil hne
    have hd : d.isDigit := hall d (by simp)
    have hrun := spanDigits_append hall (fun c hc => (ht c hc).1)
    rw [List.cons_append] at hrun
    simp [fractionPart, hd, hrun]

theorem exponentPart_sound {cs exponent rest : List Char}
    (h : exponentPart cs = .ok (exponent, rest)) : cs = exponent ++ rest ∧ ExponentText exponent := by
  unfold exponentPart at h
  split at h
  · rename_i e r
    split at h
    · rename_i he
      obtain ⟨ex, hex, hout⟩ := map_eq_ok.1 h
      obtain ⟨rfl, rfl⟩ := Prod.mk.inj hout
      obtain ⟨hr, hsd⟩ := readExponent_sound hex
      refine ⟨by simp [hr], .inr ⟨e, ex.1, rfl, by simpa using he, hsd⟩⟩
    · obtain ⟨rfl, rfl⟩ := by simpa using h
      exact ⟨rfl, .inl rfl⟩
  · obtain ⟨rfl, rfl⟩ := by simpa using h
    exact ⟨rfl, .inl rfl⟩

theorem exponentPart_complete {exponent t : List Char} (hex : ExponentText exponent)
    (ht : NoContinue t) : exponentPart (exponent ++ t) = .ok (exponent, t) := by
  rcases hex with rfl | ⟨e, ds, rfl, he, hds⟩
  · rcases t with _ | ⟨c, t⟩
    · rfl
    · obtain ⟨-, -, hce, hcE⟩ := ht c rfl
      simp [exponentPart, hce, hcE]
  · have hread := readExponent_complete hds (fun c hc => (ht c hc).1)
    rcases he with rfl | rfl <;> simp [exponentPart, hread, Except.map]

theorem readNumberTail_sound {cs tail rest : List Char}
    (h : readNumberTail cs = .ok (tail, rest)) : cs = tail ++ rest ∧ TailText tail := by
  rw [readNumberTail_eq, bind_eq_ok] at h
  obtain ⟨⟨fraction, rest1⟩, hfr, h⟩ := h
  obtain ⟨⟨exponent, rest2⟩, hex, heq⟩ := map_eq_ok.1 h
  obtain ⟨rfl, rfl⟩ := by simpa using heq.symm
  obtain ⟨hcs, hfrac⟩ := fractionPart_sound hfr
  obtain ⟨hrest, hexp⟩ := exponentPart_sound hex
  refine ⟨?_, fraction, exponent, rfl, hfrac, hexp⟩
  rw [hcs, show rest1 = exponent ++ rest from hrest, List.append_assoc]

theorem readNumberTail_complete {tail t : List Char} (htl : TailText tail) (ht : NoContinue t) :
    readNumberTail (tail ++ t) = .ok (tail, t) := by
  obtain ⟨fraction, exponent, rfl, hfr, hex⟩ := htl
  -- the fraction stops where the exponent, or else `t`, begins
  have hstop : ∀ c ∈ (exponent ++ t).head?, c.isDigit = false ∧ c ≠ '.' := by
    rcases hex with rfl | ⟨e, ds, rfl, he, -⟩
    · exact fun c hc => ⟨(ht c hc).1, (ht c hc).2.1⟩
    · intro c hc
      obtain rfl : c = e := by simpa using hc.symm
      rcases he with rfl | rfl <;> decide
  rw [readNumberTail_eq, List.append_assoc, fractionPart_complete hfr hstop]
  simp only [bind, Except.bind, exponentPart_complete hex ht]
  rfl

/-- The sign of a number and the text after it. -/
def signPart : List Char → List Char × List Char
  | '-' :: r => (['-'], r)
  | r => ([], r)

/-- The integer part of a number. -/
def wholePart : List Char → Except DecodeError (List Char × List Char)
  | [] => .error .truncated
  | '0' :: r => .ok (['0'], r)
  | c :: r => if c.isDigit then .ok (spanDigits (c :: r)) else .error (.invalid c .inNumber)

theorem readNumber_eq (cs : List Char) :
    readNumber cs = wholePart (signPart cs).2 >>= fun p => (readNumberTail p.2).map fun q =>
      (String.ofList ((signPart cs).1 ++ p.1 ++ q.1), q.2) := by
  rcases cs with _ | ⟨c, r⟩
  · rfl
  -- the sign is read first; both sides then read the integer part of the same text
  by_cases hc : c = '-'
  case' pos =>
    subst hc
    simp only [readNumber, bind, Except.bind, signPart]
  case' neg =>
    have hs : signPart (c :: r) = ([], c :: r) := by
      rw [signPart.eq_2]
      rintro r' ⟨⟩
      exact hc rfl
    rw [hs]
    simp only [readNumber, bind, Except.bind]
    simp (disch := simp [hc]) only
    generalize c :: r = r
  all_goals
    rcases r with _ | ⟨d, r⟩
    · rfl
    by_cases hd : d = '0'
    · subst hd
      simp only [wholePart]
      cases readNumberTail r <;> rfl
    · rw [wholePart.eq_3 d r hd]
      simp (disch := simp [hd]) only
      by_cases hdig : d.isDigit
      · simp only [hdig, if_true]
        cases readNumberTail (spanDigits (d :: r)).2 <;> rfl
      · simp only [hdig]
        rfl

theorem signPart_split (cs : List Char) :
    cs = (signPart cs).1 ++ (signPart cs).2 ∧ ((signPart cs).1 = [] ∨ (signPart cs).1 = ['-']) := by
  unfold signPart
  split <;> simp

theorem signPart_complete {sign body : List Char} (hsign : sign = [] ∨ sign = ['-'])
    (hbody : ∀ c ∈ body.head?, c.isDigit) : signPart (sign ++ body) = (sign, body) := by
  rcases hsign with rfl | rfl
  · rcases body with _ | ⟨c, body⟩
    · rfl
    · rw [List.nil_append, signPart.eq_2]
      rintro r ⟨⟩
      simp at hbody
  · rfl

theorem wholePart_sound {cs whole rest : List Char} (h : wholePart cs = .ok (whole, rest)) :
    cs = whole ++ rest ∧ WholeText whole := by
  unfold wholePart at h
  split at h
  · simp at h
  · obtain ⟨rfl, rfl⟩ := by simpa using h
    exact ⟨rfl, .inl rfl⟩
  · rename_i d r hd
    split at h
    · rename_i hdig
      have hspan : spanDigits (d :: r) = (whole, rest) := Except.ok.inj h
      obtain ⟨hsplit, ⟨-, hall⟩, -⟩ := spanDigits_run hdig hspan
      have hwhole : whole = d :: (spanDigits r).1 := by
        simp only [spanDigits, Prod.mk.injEq] at hspan
        simp [← hspan.1, hdig, spanDigits]
      refine ⟨hsplit, .inr ⟨d, _, hwhole, hdig, hd, fun c hc => hall c ?_⟩⟩
      rw [hwhole]
      exact List.mem_cons_of_mem d hc
    · simp at h

theorem wholePart_complete {whole t : List Char} (hw : WholeText whole)
    (ht : ∀ c ∈ t.head?, c.isDigit = false) : wholePart (whole ++ t) = .ok (whole, t) := by
  rcases hw with rfl | ⟨d, ds, rfl, hdig, hd, hall⟩
  · rfl
  · have hrun := @spanDigits_append (d :: ds) t (by simpa [hdig] using hall) ht
    rw [List.cons_append] at hrun
    rw [List.cons_append, wholePart.eq_3 d _ hd]
    simp [hdig, hrun]

theorem tail_stop {tail t : List Char} (htl : TailText tail) (ht : NoContinue t) :
    ∀ c ∈ (tail ++ t).head?, c.isDigit = false := by
  obtain ⟨fraction, exponent, rfl, hfr, hex⟩ := htl
  rcases hfr with rfl | ⟨ds, rfl, -⟩
  · rcases hex with rfl | ⟨e, ds, rfl, he, -⟩
    · exact fun c hc => (ht c hc).1
    · intro c hc
      obtain rfl : c = e := by simpa using hc.symm
      rcases he with rfl | rfl <;> rfl
  · intro c hc
    obtain rfl : c = '.' := by simpa using hc.symm
    rfl

theorem readNumber_sound {cs rest : List Char} {l : String}
    (h : readNumber cs = .ok (l, rest)) :
    ∃ pre, cs = pre ++ rest ∧ NumberText pre ∧ l = String.ofList pre := by
  rw [readNumber_eq, bind_eq_ok] at h
  obtain ⟨⟨whole, rest1⟩, hw, h⟩ := h
  obtain ⟨⟨tail, rest2⟩, htl, heq⟩ := map_eq_ok.1 h
  obtain ⟨rfl, rfl⟩ := Prod.mk.inj heq
  obtain ⟨hsplit, hsign⟩ := signPart_split cs
  obtain ⟨hbody, hwhole⟩ := wholePart_sound hw
  obtain ⟨hrest, htail⟩ := readNumberTail_sound htl
  refine ⟨(signPart cs).1 ++ whole ++ tail, ?_, ⟨_, whole, tail, rfl, hsign, hwhole, htail⟩, rfl⟩
  calc cs = (signPart cs).1 ++ (signPart cs).2 := hsplit
    _ = (signPart cs).1 ++ whole ++ tail ++ rest2 := by
      rw [hbody, show rest1 = tail ++ rest2 from hrest]
      simp

theorem readNumber_complete {pre t : List Char} (hpre : NumberText pre) (ht : NoContinue t) :
    readNumber (pre ++ t) = .ok (String.ofList pre, t) := by
  obtain ⟨sign, whole, tail, rfl, hsign, hw, htl⟩ := hpre
  have hhead : ∀ c ∈ (whole ++ tail ++ t).head?, c.isDigit := by
    rcases hw with rfl | ⟨d, ds, rfl, hdig, -, -⟩
    · simp
    · simp [hdig]
  have hs := signPart_complete hsign hhead
  simp only [List.append_assoc] at hs
  rw [readNumber_eq, List.append_assoc, List.append_assoc, hs, bind_eq_ok]
  refine ⟨(whole, tail ++ t), wholePart_complete hw (tail_stop htl ht), ?_⟩
  rw [readNumberTail_complete htl ht]
  simp [Except.map]

end Numbers

section Literals

variable {word : String} {v v' : Value}

theorem readLiteral_sound {ws cs rest : List Char} (h : readLiteral word v ws cs = .ok (v', rest)) :
    cs = ws ++ rest ∧ v' = v := by
  induction ws generalizing cs with
  | nil =>
    obtain ⟨rfl, rfl⟩ := by simpa [readLiteral] using h
    exact ⟨rfl, rfl⟩
  | cons w ws ih =>
    rcases cs with _ | ⟨c, cs⟩
    · simp [readLiteral] at h
    · simp only [readLiteral] at h
      split at h
      · rename_i hc
        obtain ⟨rfl, rfl⟩ := ih h
        simp_all
      · simp at h

theorem readLiteral_complete (ws t : List Char) : readLiteral word v ws (ws ++ t) = .ok (v, t) := by
  induction ws with
  | nil => simp [readLiteral]
  | cons w ws ih => simp [readLiteral, ih]

end Literals

/-! ## Spellings -/

/-- Blanks only. -/
def Blank (cs : List Char) : Prop := ∀ c ∈ cs, isSpace c

theorem skipSpace_blank_append {bl : List Char} (hbl : Blank bl) (x : List Char) :
    skipSpace (bl ++ x) = skipSpace x := by
  induction bl with
  | nil => rfl
  | cons c bl ih =>
    simp only [Blank, List.mem_cons, forall_eq_or_imp] at hbl
    simpa [skipSpace, hbl.1] using ih hbl.2

theorem skipSpace_of_not_space {c : Char} (hc : isSpace c = false) (x : List Char) :
    skipSpace (c :: x) = c :: x := by
  simp [skipSpace, hc]

theorem skipSpace_split (cs : List Char) : ∃ bl, cs = bl ++ skipSpace cs ∧ Blank bl :=
  ⟨cs.takeWhile isSpace, (List.takeWhile_append_dropWhile).symm,
    fun _ hc => List.mem_takeWhile_imp hc⟩

mutual

/-- `Spells v cs`: `cs` is a JSON text of `v`, from its first character to its last. -/
inductive Spells : Value → List Char → Prop
  | str {s : String} {body : List Char} :
      readString [] body = .ok (s, []) → Spells (.str s) ('"' :: body)
  | number {cs : List Char} : NumberText cs → Spells (.number (String.ofList cs)) cs
  | trueWord : Spells (.bool true) ['t', 'r', 'u', 'e']
  | falseWord : Spells (.bool false) ['f', 'a', 'l', 's', 'e']
  | nullWord : Spells .null ['n', 'u', 'l', 'l']
  | emptyArray {bl : List Char} : Blank bl → Spells (.list []) ('[' :: bl ++ [']'])
  | array {vs : List Value} {cs : List Char} : Elements vs cs → Spells (.list vs) ('[' :: cs)
  | emptyObject {bl : List Char} : Blank bl → Spells (.obj []) ('{' :: bl ++ ['}'])
  | object {ps : List (String × Value)} {cs : List Char} :
      Members ps cs → Spells (.obj (Entries.ofList ps)) ('{' :: cs)

/-- The elements of an array after its `[`, through its `]`, each between blanks. -/
inductive Elements : List Value → List Char → Prop
  | last {v : Value} {b₁ pre b₂ : List Char} :
      Blank b₁ → Spells v pre → Blank b₂ → Elements [v] (b₁ ++ pre ++ b₂ ++ [']'])
  | cons {v : Value} {vs : List Value} {b₁ pre b₂ cs : List Char} :
      Blank b₁ → Spells v pre → Blank b₂ → Elements vs cs →
        Elements (v :: vs) (b₁ ++ pre ++ b₂ ++ ',' :: cs)

/-- The members of an object after its `{`, through its `}`: a key, a colon and a value, each
between blanks. -/
inductive Members : List (String × Value) → List Char → Prop
  | last {k : String} {v : Value} {b₁ key b₂ b₃ pre b₄ : List Char} :
      Blank b₁ → Spells (.str k) key → Blank b₂ → Blank b₃ → Spells v pre → Blank b₄ →
        Members [(k, v)] (b₁ ++ key ++ b₂ ++ ':' :: b₃ ++ pre ++ b₄ ++ ['}'])
  | cons {k : String} {v : Value} {ps : List (String × Value)} {b₁ key b₂ b₃ pre b₄ cs : List Char} :
      Blank b₁ → Spells (.str k) key → Blank b₂ → Blank b₃ → Spells v pre → Blank b₄ →
        Members ps cs → Members ((k, v) :: ps) (b₁ ++ key ++ b₂ ++ ':' :: b₃ ++ pre ++ b₄ ++ ',' :: cs)

end

theorem readAny_blank_append {bl : List Char} (hbl : Blank bl) (f : Nat) (x : List Char) :
    readAny f (bl ++ x) = readAny f x := by
  cases f with
  | zero => simp only [readAny]
  | succ f => simp only [readAny, skipSpace_blank_append hbl]

theorem noContinue_blank_append {bl : List Char} {c : Char} {x : List Char} (hbl : Blank bl)
    (hc : c = ',' ∨ c = ']' ∨ c = '}') : NoContinue (bl ++ c :: x) := by
  rcases bl with _ | ⟨b, bl⟩
  · rcases hc with rfl | rfl | rfl <;> simp [NoContinue]
  · have hb : isSpace b := hbl b (by simp)
    simp only [isSpace, Bool.or_eq_true, beq_iff_eq] at hb
    intro c' hc'
    obtain rfl : c' = b := by simpa using hc'.symm
    rcases hb with ((rfl | rfl) | rfl) | rfl <;> decide

theorem NumberText.head {cs : List Char} (h : NumberText cs) :
    ∃ c rest, cs = c :: rest ∧ (c = '-' ∨ c.isDigit) := by
  obtain ⟨sign, whole, tail, rfl, hsign, hw, -⟩ := h
  rcases hsign with rfl | rfl
  · rcases hw with rfl | ⟨d, ds, rfl, hd, -⟩
    · exact ⟨'0', tail, rfl, .inr rfl⟩
    · exact ⟨d, ds ++ tail, rfl, .inr hd⟩
  · exact ⟨'-', whole ++ tail, rfl, .inl rfl⟩

theorem isDigit_not_start {c : Char} (hd : c.isDigit) :
    isSpace c = false ∧ c ≠ '{' ∧ c ≠ '[' ∧ c ≠ '"' ∧ c ≠ ']' ∧ c ≠ '}' := by
  refine ⟨?_, ne_of_isDigit hd rfl, ne_of_isDigit hd rfl, ne_of_isDigit hd rfl,
    ne_of_isDigit hd rfl, ne_of_isDigit hd rfl⟩
  simp only [isSpace, Bool.or_eq_false_iff, beq_eq_false_iff_ne, ne_eq]
  exact ⟨⟨⟨ne_of_isDigit hd rfl, ne_of_isDigit hd rfl⟩, ne_of_isDigit hd rfl⟩, ne_of_isDigit hd rfl⟩

/-- The characters a JSON value can start with. -/
def ValueStart (c : Char) : Prop := c.isDigit ∨ c ∈ ['"', '-', 't', 'f', 'n', '[', '{']

/-- The characters a JSON value can end with. -/
def ValueEnd (c : Char) : Prop := c.isDigit ∨ c ∈ ['"', 'e', 'l', ']', '}']

theorem ValueStart.not_space {c : Char} (h : ValueStart c) : isSpace c = false ∧ c ≠ ']' ∧ c ≠ '}' := by
  rcases h with hd | hc
  · obtain ⟨hsp, -, -, -, hb, hc⟩ := isDigit_not_start hd
    exact ⟨hsp, hb, hc⟩
  · simp only [List.mem_cons, List.not_mem_nil, or_false] at hc
    rcases hc with rfl | rfl | rfl | rfl | rfl | rfl | rfl <;> decide

theorem Spells.head {v : Value} {pre : List Char} (h : Spells v pre) :
    ∃ c x, pre = c :: x ∧ ValueStart c := by
  cases h with
  | number hnum =>
    obtain ⟨c, x, rfl, hc⟩ := hnum.head
    rcases hc with rfl | hd
    · exact ⟨'-', x, rfl, .inr (by simp)⟩
    · exact ⟨c, x, rfl, .inl hd⟩
  | str | trueWord | falseWord | nullWord | emptyArray | array | emptyObject | object =>
    exact ⟨_, _, rfl, .inr (by simp)⟩

theorem Digits.last {ds : List Char} (h : Digits ds) : ∃ init d, ds = init ++ [d] ∧ d.isDigit :=
  ⟨ds.dropLast, ds.getLast h.1, (List.dropLast_append_getLast h.1).symm, h.2 _ (List.getLast_mem h.1)⟩

theorem NumberText.last {cs : List Char} (h : NumberText cs) :
    ∃ init d, cs = init ++ [d] ∧ d.isDigit := by
  obtain ⟨sign, whole, tail, rfl, -, hw, fraction, exponent, rfl, hfr, hex⟩ := h
  rcases hex with rfl | ⟨e, ds, rfl, -, sign', ds', rfl, -, hds'⟩
  · rcases hfr with rfl | ⟨ds, rfl, hds⟩
    · rcases hw with rfl | ⟨d, ds, rfl, hd, -, hall⟩
      · exact ⟨sign, '0', by simp, rfl⟩
      · obtain ⟨init, d', hsplit, hd'⟩ :=
          Digits.last ⟨List.cons_ne_nil d ds, by simpa [hd] using hall⟩
        exact ⟨sign ++ init, d', by simp [hsplit], hd'⟩
    · obtain ⟨init, d, rfl, hd⟩ := hds.last
      exact ⟨sign ++ whole ++ '.' :: init, d, by simp, hd⟩
  · obtain ⟨init, d, rfl, hd⟩ := hds'.last
    exact ⟨sign ++ whole ++ fraction ++ e :: sign' ++ init, d, by simp, hd⟩

theorem readString_last {acc body : List Char} {s : String} (h : readString acc body = .ok (s, [])) :
    ∃ init, body = init ++ ['"'] := by
  fun_induction readString acc body generalizing s
  case case2 acc rest =>
    obtain ⟨-, rfl⟩ : String.ofList acc.reverse = s ∧ rest = [] := by simpa using h
    exact ⟨[], rfl⟩
  case case4 acc a b c d _ _ _ _ ih | case6 acc a b c d _ _ _ _ _ _ _ _ _ _ _ ih
    | case7 acc a b c d _ _ _ _ _ _ _ _ _ _ ih | case8 acc a b c d _ _ _ _ _ ih =>
    obtain ⟨init, hinit⟩ := ih h
    exact ⟨'\\' :: 'u' :: a :: b :: c :: d :: init, by rw [hinit]; rfl⟩
  case case5 acc a b c d _ _ _ e f g h' _ _ _ _ ih =>
    obtain ⟨init, hinit⟩ := ih h
    exact ⟨'\\' :: 'u' :: a :: b :: c :: d :: '\\' :: 'u' :: e :: f :: g :: h' :: init, by rw [hinit]; rfl⟩
  case case10 acc c _ _ _ _ _ ih =>
    obtain ⟨init, hinit⟩ := ih h
    exact ⟨'\\' :: c :: init, by rw [hinit]; rfl⟩
  case case14 ih =>
    obtain ⟨init, hinit⟩ := ih h
    exact ⟨_ :: init, by rw [hinit]; rfl⟩
  all_goals simp at h

theorem Elements.eq_append_bracket {vs : List Value} {cs : List Char} (h : Elements vs cs) :
    ∃ init, cs = init ++ [']'] := by
  cases h with
  | @last _ b₁ pre b₂ => exact ⟨b₁ ++ pre ++ b₂, by simp⟩
  | @cons _ _ b₁ pre b₂ _ _ _ _ hvs =>
    obtain ⟨init, rfl⟩ := hvs.eq_append_bracket
    exact ⟨b₁ ++ pre ++ b₂ ++ ',' :: init, by simp⟩

theorem Members.eq_append_brace {ps : List (String × Value)} {cs : List Char} (h : Members ps cs) :
    ∃ init, cs = init ++ ['}'] := by
  cases h with
  | @last _ _ b₁ key b₂ b₃ pre b₄ => exact ⟨b₁ ++ key ++ b₂ ++ ':' :: b₃ ++ pre ++ b₄, by simp⟩
  | @cons _ _ _ b₁ key b₂ b₃ pre b₄ _ _ _ _ _ _ _ hps =>
    obtain ⟨init, rfl⟩ := hps.eq_append_brace
    exact ⟨b₁ ++ key ++ b₂ ++ ':' :: b₃ ++ pre ++ b₄ ++ ',' :: init, by simp⟩

theorem Spells.last {v : Value} {pre : List Char} (h : Spells v pre) :
    ∃ init c, pre = init ++ [c] ∧ ValueEnd c := by
  cases h with
  | str hbody =>
    obtain ⟨init, rfl⟩ := readString_last hbody
    exact ⟨'"' :: init, '"', rfl, .inr (by simp)⟩
  | number hnum =>
    obtain ⟨init, d, rfl, hd⟩ := hnum.last
    exact ⟨init, d, rfl, .inl hd⟩
  | array hel =>
    obtain ⟨init, rfl⟩ := hel.eq_append_bracket
    exact ⟨'[' :: init, ']', rfl, .inr (by simp)⟩
  | object hmem =>
    obtain ⟨init, rfl⟩ := hmem.eq_append_brace
    exact ⟨'{' :: init, '}', rfl, .inr (by simp)⟩
  | trueWord | falseWord | nullWord | emptyArray | emptyObject =>
    exact ⟨_, _, (List.dropLast_append_getLast (List.cons_ne_nil _ _)).symm, .inr (by simp)⟩

theorem readArray_of_ne {f : Nat} {cs : List Char} (h : ∀ x, skipSpace cs ≠ ']' :: x) :
    readArray f cs = readElements f [] cs := by
  unfold readArray
  split
  · rename_i x hx; exact absurd hx (h x)
  · rfl

theorem readObject_of_ne {f : Nat} {cs : List Char} (h : ∀ x, skipSpace cs ≠ '}' :: x) :
    readObject f cs = readMembers f [] cs := by
  unfold readObject
  split
  · rename_i x hx; exact absurd hx (h x)
  · rfl

theorem Elements.skipSpace_ne {vs : List Value} {cs : List Char} (h : Elements vs cs)
    (s x : List Char) : skipSpace (cs ++ s) ≠ ']' :: x := by
  obtain ⟨b₁, pre, rest, rfl, hb₁, hpre⟩ :
      ∃ b₁ pre rest, cs = b₁ ++ pre ++ rest ∧ Blank b₁ ∧ ∃ v, Spells v pre := by
    cases h with
    | @last v b₁ pre b₂ hb₁ hv => exact ⟨b₁, pre, b₂ ++ [']'], by simp, hb₁, v, hv⟩
    | @cons v _ b₁ pre b₂ cs hb₁ hv => exact ⟨b₁, pre, b₂ ++ ',' :: cs, by simp, hb₁, v, hv⟩
  obtain ⟨v, hpre⟩ := hpre
  obtain ⟨c, y, rfl, hc⟩ := hpre.head
  obtain ⟨hsp, hc, -⟩ := hc.not_space
  simp [skipSpace_blank_append hb₁, skipSpace_of_not_space hsp, hc]

theorem Members.skipSpace_ne {ps : List (String × Value)} {cs : List Char} (h : Members ps cs)
    (s x : List Char) : skipSpace (cs ++ s) ≠ '}' :: x := by
  obtain ⟨b₁, key, rest, rfl, hb₁, k, hkey⟩ :
      ∃ b₁ key rest, cs = b₁ ++ key ++ rest ∧ Blank b₁ ∧ ∃ k, Spells (.str k) key := by
    cases h with
    | @last k _ b₁ key b₂ b₃ pre b₄ hb₁ hk =>
      exact ⟨b₁, key, b₂ ++ ':' :: b₃ ++ pre ++ b₄ ++ ['}'], by simp, hb₁, k, hk⟩
    | @cons k _ _ b₁ key b₂ b₃ pre b₄ cs hb₁ hk =>
      exact ⟨b₁, key, b₂ ++ ':' :: b₃ ++ pre ++ b₄ ++ ',' :: cs, by simp, hb₁, k, hk⟩
  obtain ⟨c, y, rfl, hc⟩ := hkey.head
  obtain ⟨hsp, -, hc⟩ := hc.not_space
  simp [skipSpace_blank_append hb₁, skipSpace_of_not_space hsp, hc]

/-- What a reader of fuel `f` reads back: a spelling at the front of a text that cannot
continue it, given fuel beyond the spelling's length. -/
def AnyComplete (f : Nat) : Prop :=
  ∀ v pre s, Spells v pre → pre.length + 1 ≤ f → NoContinue s → readAny f (pre ++ s) = .ok (v, s)

/-- The same for the elements of an array, after those already read into `acc`. -/
def ElementsComplete (f : Nat) : Prop :=
  ∀ vs cs acc s, Elements vs cs → cs.length + 1 ≤ f →
    readElements f acc (cs ++ s) = .ok (.list (acc.reverse ++ vs), s)

/-- The same for the members of an object, inserted into `acc` in order. -/
def MembersComplete (f : Nat) : Prop :=
  ∀ ps cs acc s, Members ps cs → cs.length + 1 ≤ f →
    readMembers f acc (cs ++ s) = .ok (.obj (ps.foldl (fun a p => Entries.insert p.1 p.2 a) acc), s)

theorem readAny_complete_step {f : Nat} (hE : ElementsComplete f) (hM : MembersComplete f) :
    AnyComplete (f + 1) := by
  intro v pre s h hf hs
  cases h with
  | str hbody =>
    simp [readAny, skipSpace_of_not_space, isSpace, readString_append hbody, Except.map]
  | number hnum =>
    have hread := readNumber_complete hnum hs
    obtain ⟨c, x, rfl, hc⟩ := hnum.head
    simp only [List.cons_append] at hread ⊢
    rcases hc with rfl | hd
    · simp [readAny, skipSpace_of_not_space, isSpace, hread, Except.map]
    · obtain ⟨hsp, h1, h2, h3, -, -⟩ := isDigit_not_start hd
      simp [readAny, skipSpace_of_not_space hsp, h1, h2, h3, hd, hread, Except.map]
  | trueWord =>
    simpa [readAny, skipSpace_of_not_space, isSpace] using
      @readLiteral_complete "true" (.bool true) ['r', 'u', 'e'] s
  | falseWord =>
    simpa [readAny, skipSpace_of_not_space, isSpace] using
      @readLiteral_complete "false" (.bool false) ['a', 'l', 's', 'e'] s
  | nullWord =>
    simpa [readAny, skipSpace_of_not_space, isSpace] using
      @readLiteral_complete "null" .null ['u', 'l', 'l'] s
  | emptyArray hbl =>
    simp [readAny, readArray, skipSpace_of_not_space, isSpace, skipSpace_blank_append hbl]
  | array hel =>
    have hread := hE _ _ [] s hel (by simpa using hf)
    simp [readAny, skipSpace_of_not_space, isSpace, readArray_of_ne (hel.skipSpace_ne s), hread]
  | emptyObject hbl =>
    simp [readAny, readObject, skipSpace_of_not_space, isSpace, skipSpace_blank_append hbl]
  | object hmem =>
    have hread := hM _ _ [] s hmem (by simpa using hf)
    simp [readAny, skipSpace_of_not_space, isSpace, readObject_of_ne (hmem.skipSpace_ne s), hread,
      Entries.ofList]

theorem readElements_complete_step {f : Nat} (hA : AnyComplete f) (hE : ElementsComplete f) :
    ElementsComplete (f + 1) := by
  intro vs cs acc s h hf
  cases h with
  | @last v b₁ pre b₂ hb₁ hv hb₂ =>
    have hread : readAny f (b₁ ++ (pre ++ (b₂ ++ ']' :: s))) = .ok (v, b₂ ++ ']' :: s) := by
      rw [readAny_blank_append hb₁]
      exact hA v pre _ hv (by simp at hf; omega) (noContinue_blank_append hb₂ (by simp))
    simp [readElements, hread, bind, Except.bind, skipSpace_blank_append hb₂,
      skipSpace_of_not_space, isSpace]
  | @cons v vs b₁ pre b₂ cs hb₁ hv hb₂ hvs =>
    have hread : readAny f (b₁ ++ (pre ++ (b₂ ++ ',' :: (cs ++ s)))) =
        .ok (v, b₂ ++ ',' :: (cs ++ s)) := by
      rw [readAny_blank_append hb₁]
      exact hA v pre _ hv (by simp at hf; omega) (noContinue_blank_append hb₂ (by simp))
    have hrest := hE vs cs (v :: acc) s hvs (by simp at hf; omega)
    simp [readElements, hread, bind, Except.bind, skipSpace_blank_append hb₂,
      skipSpace_of_not_space, isSpace, hrest]

theorem readMembers_complete_step {f : Nat} (hA : AnyComplete f) (hM : MembersComplete f) :
    MembersComplete (f + 1) := by
  intro ps cs acc s h hf
  cases h with
  | @last k v b₁ key b₂ b₃ pre b₄ hb₁ hk hb₂ hb₃ hv hb₄ =>
    cases hk with
    | @str _ kb hkb =>
      have hread : readAny f (b₃ ++ (pre ++ (b₄ ++ '}' :: s))) = .ok (v, b₄ ++ '}' :: s) := by
        rw [readAny_blank_append hb₃]
        exact hA v pre _ hv (by simp at hf; omega) (noContinue_blank_append hb₄ (by simp))
      simp [readMembers, bind, Except.bind, skipSpace_blank_append, hb₁, hb₂, hb₄,
        skipSpace_of_not_space, isSpace, readString_append hkb, hread]
  | @cons k v ps b₁ key b₂ b₃ pre b₄ cs hb₁ hk hb₂ hb₃ hv hb₄ hps =>
    cases hk with
    | @str _ kb hkb =>
      have hread : readAny f (b₃ ++ (pre ++ (b₄ ++ ',' :: (cs ++ s)))) =
          .ok (v, b₄ ++ ',' :: (cs ++ s)) := by
        rw [readAny_blank_append hb₃]
        exact hA v pre _ hv (by simp at hf; omega) (noContinue_blank_append hb₄ (by simp))
      have hrest := hM ps cs (Entries.insert k v acc) s hps (by simp at hf; omega)
      simp [readMembers, bind, Except.bind, skipSpace_blank_append, hb₁, hb₂, hb₄,
        skipSpace_of_not_space, isSpace, readString_append hkb, hread, hrest]

theorem read_complete (f : Nat) : AnyComplete f ∧ ElementsComplete f ∧ MembersComplete f := by
  induction f with
  | zero =>
    refine ⟨fun _ _ _ _ hf _ => ?_, fun _ _ _ _ _ hf => ?_, fun _ _ _ _ _ hf => ?_⟩ <;> omega
  | succ f ih =>
    obtain ⟨hA, hE, hM⟩ := ih
    exact ⟨readAny_complete_step hE hM, readElements_complete_step hA hE,
      readMembers_complete_step hA hM⟩

theorem Spells.readAny_complete {v : Value} {pre s : List Char} (h : Spells v pre) {f : Nat}
    (hf : pre.length + 1 ≤ f) (hs : NoContinue s) : readAny f (pre ++ s) = .ok (v, s) :=
  (read_complete f).1 v pre s h hf hs

/-- What a reader of fuel `f` takes from the front of a text: blanks, then a spelling of the
value it returns. -/
def AnySound (f : Nat) : Prop :=
  ∀ cs v rest, readAny f cs = .ok (v, rest) → ∃ bl pre, cs = bl ++ pre ++ rest ∧ Blank bl ∧ Spells v pre

/-- The same for the elements of an array, after those already read into `acc`. -/
def ElementsSound (f : Nat) : Prop :=
  ∀ acc cs v rest, readElements f acc cs = .ok (v, rest) →
    ∃ vs pre, cs = pre ++ rest ∧ Elements vs pre ∧ v = .list (acc.reverse ++ vs)

/-- The same for the members of an object, inserted into `acc` in order. -/
def MembersSound (f : Nat) : Prop :=
  ∀ acc cs v rest, readMembers f acc cs = .ok (v, rest) →
    ∃ ps pre, cs = pre ++ rest ∧ Members ps pre ∧ v = .obj (ps.foldl (fun a p => Entries.insert p.1 p.2 a) acc)

theorem readArray_sound {f : Nat} (hE : ElementsSound f) {x rest : List Char} {v : Value}
    (h : readArray f x = .ok (v, rest)) : ∃ pre, x = pre ++ rest ∧ Spells v ('[' :: pre) := by
  unfold readArray at h
  split at h
  · rename_i r hr
    obtain ⟨rfl, rfl⟩ := by simpa using h
    obtain ⟨bl, hx, hbl⟩ := skipSpace_split x
    rw [hr] at hx
    exact ⟨bl ++ [']'], by simp [hx], .emptyArray hbl⟩
  · obtain ⟨vs, pre, rfl, hel, rfl⟩ := hE [] x v rest h
    exact ⟨pre, rfl, by simpa using Spells.array hel⟩

theorem readObject_sound {f : Nat} (hM : MembersSound f) {x rest : List Char} {v : Value}
    (h : readObject f x = .ok (v, rest)) : ∃ pre, x = pre ++ rest ∧ Spells v ('{' :: pre) := by
  unfold readObject at h
  split at h
  · rename_i r hr
    obtain ⟨rfl, rfl⟩ := by simpa using h
    obtain ⟨bl, hx, hbl⟩ := skipSpace_split x
    rw [hr] at hx
    exact ⟨bl ++ ['}'], by simp [hx], .emptyObject hbl⟩
  · obtain ⟨ps, pre, rfl, hmem, rfl⟩ := hM [] x v rest h
    exact ⟨pre, rfl, Spells.object hmem⟩

theorem readAny_sound_step {f : Nat} (hE : ElementsSound f) (hM : MembersSound f) :
    AnySound (f + 1) := by
  intro cs v rest h
  obtain ⟨bl, hcs, hbl⟩ := skipSpace_split cs
  simp only [readAny] at h
  generalize skipSpace cs = t at h hcs
  subst hcs
  rcases t with _ | ⟨c, x⟩
  · simp at h
  simp only at h
  -- the first character past the blanks says what is read
  split_ifs at h with h1 h2 h3 h4 h5 h6 h7
  · obtain rfl : c = '{' := by simpa using h1
    obtain ⟨pre, rfl, hsp⟩ := readObject_sound hM h
    exact ⟨bl, '{' :: pre, by simp, hbl, hsp⟩
  · obtain rfl : c = '[' := by simpa using h2
    obtain ⟨pre, rfl, hsp⟩ := readArray_sound hE h
    exact ⟨bl, '[' :: pre, by simp, hbl, hsp⟩
  · obtain rfl : c = '"' := by simpa using h3
    obtain ⟨⟨str, r⟩, hs, heq⟩ := map_eq_ok.1 h
    obtain ⟨rfl, rfl⟩ := Prod.mk.inj heq
    obtain ⟨pre, rfl, hpre⟩ := readString_split hs
    exact ⟨bl, '"' :: pre, by simp, hbl, .str hpre⟩
  · obtain ⟨⟨l, r⟩, hn, heq⟩ := map_eq_ok.1 h
    obtain ⟨rfl, rfl⟩ := Prod.mk.inj heq
    obtain ⟨pre, hx, hpre, rfl⟩ := readNumber_sound hn
    exact ⟨bl, pre, by simp [hx], hbl, .number hpre⟩
  · obtain rfl : c = 't' := by simpa using h5
    obtain ⟨rfl, rfl⟩ := readLiteral_sound h
    exact ⟨bl, _, by simp, hbl, .trueWord⟩
  · obtain rfl : c = 'f' := by simpa using h6
    obtain ⟨rfl, rfl⟩ := readLiteral_sound h
    exact ⟨bl, _, by simp, hbl, .falseWord⟩
  · obtain rfl : c = 'n' := by simpa using h7
    obtain ⟨rfl, rfl⟩ := readLiteral_sound h
    exact ⟨bl, _, by simp, hbl, .nullWord⟩

theorem readElements_sound_step {f : Nat} (hA : AnySound f) (hE : ElementsSound f) :
    ElementsSound (f + 1) := by
  intro acc cs v rest h
  simp only [readElements] at h
  rw [bind_eq_ok] at h
  obtain ⟨⟨v₁, r₁⟩, h₁, h⟩ := h
  obtain ⟨b₁, pre, rfl, hb₁, hpre⟩ := hA cs v₁ r₁ h₁
  obtain ⟨b₂, hr₁, hb₂⟩ := skipSpace_split r₁
  generalize skipSpace r₁ = t at h hr₁
  subst hr₁
  rcases t with _ | ⟨c, r₂⟩
  · simp at h
  simp only at h
  -- a comma reads more elements, a bracket closes the array
  split_ifs at h with hc₁ hc₂
  · obtain rfl : c = ',' := by simpa using hc₁
    obtain ⟨vs, pre₂, rfl, hvs, rfl⟩ := hE (v₁ :: acc) r₂ v rest h
    exact ⟨v₁ :: vs, b₁ ++ pre ++ b₂ ++ ',' :: pre₂, by simp, .cons hb₁ hpre hb₂ hvs, by simp⟩
  · obtain rfl : c = ']' := by simpa using hc₂
    obtain ⟨rfl, rfl⟩ := by simpa using h
    exact ⟨[v₁], b₁ ++ pre ++ b₂ ++ [']'], by simp, .last hb₁ hpre hb₂, by simp⟩

theorem readMembers_sound_step {f : Nat} (hA : AnySound f) (hM : MembersSound f) :
    MembersSound (f + 1) := by
  intro acc cs v rest h
  obtain ⟨b₁, hcs, hb₁⟩ := skipSpace_split cs
  simp only [readMembers] at h
  generalize skipSpace cs = t at h hcs
  subst hcs
  rcases t with _ | ⟨c, x⟩
  · simp at h
  -- a member starts with its key; anything else is an error
  split at h
  · simp at h
  rotate_left
  · simp at h
  rename_i x₀ r hkq
  obtain ⟨rfl, rfl⟩ := List.cons.inj hkq
  rw [bind_eq_ok] at h
  obtain ⟨⟨key, r₁⟩, hkey, h⟩ := h
  obtain ⟨kb, rfl, hkb⟩ := readString_split hkey
  obtain ⟨b₂, hr₁, hb₂⟩ := skipSpace_split r₁
  generalize skipSpace r₁ = t at h hr₁
  subst hr₁
  -- then a colon and the value
  split at h
  · simp at h
  rotate_left
  · simp at h
  rename_i r₂
  rw [bind_eq_ok] at h
  obtain ⟨⟨v₁, r₃⟩, h₁, h⟩ := h
  obtain ⟨b₃, pre, rfl, hb₃, hpre⟩ := hA r₂ v₁ r₃ h₁
  obtain ⟨b₄, hr₃, hb₄⟩ := skipSpace_split r₃
  generalize skipSpace r₃ = t at h hr₃
  subst hr₃
  rcases t with _ | ⟨c, r₄⟩
  · simp at h
  simp only at h
  have hk : Spells (.str key) ('"' :: kb) := .str hkb
  -- a comma reads more members, a brace closes the object
  split_ifs at h with hc₁ hc₂
  · obtain rfl : c = ',' := by simpa using hc₁
    obtain ⟨ps, pre₂, rfl, hps, rfl⟩ := hM _ r₄ v rest h
    exact ⟨(key, v₁) :: ps, b₁ ++ '"' :: kb ++ b₂ ++ ':' :: b₃ ++ pre ++ b₄ ++ ',' :: pre₂,
      by simp, .cons hb₁ hk hb₂ hb₃ hpre hb₄ hps, by simp⟩
  · obtain rfl : c = '}' := by simpa using hc₂
    obtain ⟨rfl, rfl⟩ := by simpa using h
    exact ⟨[(key, v₁)], b₁ ++ '"' :: kb ++ b₂ ++ ':' :: b₃ ++ pre ++ b₄ ++ ['}'],
      by simp, .last hb₁ hk hb₂ hb₃ hpre hb₄, by simp⟩

theorem read_sound (f : Nat) : AnySound f ∧ ElementsSound f ∧ MembersSound f := by
  induction f with
  | zero =>
    refine ⟨fun _ _ _ h => ?_, fun _ _ _ _ h => ?_, fun _ _ _ _ h => ?_⟩ <;> simp [readAny, readElements, readMembers] at h
  | succ f ih =>
    obtain ⟨hA, hE, hM⟩ := ih
    exact ⟨readAny_sound_step hE hM, readElements_sound_step hA hE, readMembers_sound_step hA hM⟩

/-- Reading a value from a text takes blanks and a spelling of the value from its front. -/
theorem readValue_sound {s : String} {v : Value} {rest : List Char}
    (h : readValue s = .ok (v, rest)) :
    ∃ bl pre, s.toList = bl ++ pre ++ rest ∧ Blank bl ∧ Spells v pre := by
  simp only [readValue] at h
  split at h
  · simp at h
  · exact (read_sound _).1 _ _ _ h

theorem readValue_complete {bl pre rest : List Char} {v : Value} (hbl : Blank bl)
    (h : Spells v pre) (hrest : NoContinue rest) :
    readValue (String.ofList (bl ++ pre ++ rest)) = .ok (v, rest) := by
  obtain ⟨c, x, rfl, hc⟩ := h.head
  unfold readValue
  simp only [String.toList_ofList]
  rw [List.append_assoc, skipSpace_blank_append hbl, List.cons_append,
    skipSpace_of_not_space hc.not_space.1, readAny_blank_append hbl, ← List.cons_append]
  exact h.readAny_complete (by simp; omega) hrest

/-! ## Quoted strings

The writer's quoted form of a string is a spelling of the string. -/

theorem hexDigit_digitChar : ∀ k, k < 16 → hexDigit? (Nat.digitChar k) = some k := by
  decide

theorem unit4_hexDigits {n : Nat} (hn : n < 0x10000) :
    ∃ a b c d, Text.hexDigits 4 n = [a, b, c, d] ∧ unit4 a b c d = .ok n := by
  refine ⟨_, _, _, _, rfl, ?_⟩
  simp [unit4, hexDigit_digitChar _ (Nat.mod_lt _ (by norm_num : 0 < 16))]
  omega

theorem unit4_zero_hexDigits {n : Nat} (hn : n < 0x100) :
    ∃ c d, Text.hexDigits 2 n = [c, d] ∧ unit4 '0' '0' c d = .ok n := by
  refine ⟨_, _, rfl, ?_⟩
  have h0 : hexDigit? '0' = some 0 := rfl
  simp [unit4, h0, hexDigit_digitChar _ (Nat.mod_lt _ (by norm_num : 0 < 16))]
  omega

theorem readString_escape_append (acc : List Char) (c : Char) (rest : List Char) :
    readString acc (escape c ++ rest) = readString (c :: acc) rest := by
  unfold escape
  split
  -- `<`, `>` and `&` are written as `\u` escapes of units below the surrogates
  case h_6 => exact readString_unit (u := 0x3c) rfl (by decide)
  case h_7 => exact readString_unit (u := 0x3e) rfl (by decide)
  case h_8 => exact readString_unit (u := 0x26) rfl (by decide)
  case h_9 hq hb _ _ _ _ _ _ =>
    have hc := Char.ofNat_toNat c
    split_ifs with h8 h12 hlow hsep
    · rw [List.cons_append, List.cons_append, List.nil_append, readString_escape rfl]
      simp only [beq_iff_eq] at h8
      rw [h8] at hc
      rw [hc]
    · rw [List.cons_append, List.cons_append, List.nil_append, readString_escape rfl]
      simp only [beq_iff_eq] at h12
      rw [h12] at hc
      rw [hc]
    · obtain ⟨x, y, hxy, hu⟩ := unit4_zero_hexDigits (show c.toNat < 0x100 by omega)
      rw [hxy]
      simp only [List.cons_append, List.nil_append]
      rw [readString_unit hu (by omega), Char.ofNat_toNat]
    · obtain ⟨a, b, x, y, hxy, hu⟩ := unit4_hexDigits (show c.toNat < 0x10000 by simp at hsep; omega)
      rw [hxy]
      simp only [List.cons_append, List.nil_append]
      rw [readString_unit hu (by simp at hsep; omega), Char.ofNat_toNat]
    · rw [List.cons_append, List.nil_append]
      exact readString_plain hq hb (by omega)
  all_goals simp only [List.cons_append, List.nil_append]
  all_goals exact readString_escape rfl

theorem readString_flatMap_escape (acc cs rest : List Char) :
    readString acc (cs.flatMap escape ++ '"' :: rest) = .ok (String.ofList (acc.reverse ++ cs), rest) := by
  induction cs generalizing acc with
  | nil => simp [readString_quote]
  | cons c cs ih => simp [List.append_assoc, readString_escape_append, ih]

theorem Spells.quote (s : String) : Spells (.str s) (quote s).toList := by
  have h := readString_flatMap_escape [] s.toList []
  simp only [List.reverse_nil, List.nil_append, String.ofList_toList] at h
  simpa [Json.quote] using Spells.str h

end RowGate.Json

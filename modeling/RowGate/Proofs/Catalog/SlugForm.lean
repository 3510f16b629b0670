import RowGate.Catalog.Slug
/-!
# Canonical slugs

A slug is empty or follows the grammar `[a-z0-9_]+(-[a-z0-9_]+)*`: words of slug characters
joined by single dashes, so it is ASCII, neither starts nor ends with a dash and never has two
in a row. Such a text passes every step of `slug` unchanged, hence slugging is idempotent.
-/

namespace RowGate.Catalog

/-- The slug grammar `[a-z0-9_]+(-[a-z0-9_]+)*`. -/
inductive SlugForm : List Char → Prop where
  | single {c} : isSlugChar c → SlugForm [c]
  | cons {c rest} : isSlugChar c → SlugForm rest → SlugForm (c :: rest)
  | hyphen {c rest} : isSlugChar c → SlugForm rest → SlugForm (c :: '-' :: rest)

/-- A text without its trailing dashes. -/
def trimDashes (cs : List Char) : List Char := (cs.reverse.dropWhile (· == '-')).reverse

theorem trimDashes_cons (c : Char) (cs : List Char) :
    trimDashes (c :: cs) = if trimDashes cs = [] ∧ c = '-' then [] else c :: trimDashes cs := by
  simp only [trimDashes, List.reverse_cons, List.dropWhile_append]
  by_cases h : List.dropWhile (· == '-') cs.reverse = []
  · by_cases hc : c = '-' <;> simp [h, hc]
  · simp [h]

theorem trimDashes_cons_of_ne {c : Char} (hc : c ≠ '-') (cs : List Char) :
    trimDashes (c :: cs) = c :: trimDashes cs := by
  simp [trimDashes_cons, hc]

theorem isSlugChar_ne_dash {c : Char} (h : isSlugChar c) : c ≠ '-' := by
  rintro rfl
  exact absurd h (by decide)

theorem SlugForm.ne_nil {t : List Char} (h : SlugForm t) : t ≠ [] := by
  cases h <;> simp

/-! ### What the scan of `slug` produces -/

theorem slugChars_form (cs : List Char) :
    (trimDashes (slugChars cs true) = [] ∨ SlugForm (trimDashes (slugChars cs true))) ∧
    (trimDashes (slugChars cs false) = [] ∨ SlugForm (trimDashes (slugChars cs false)) ∨
      ∃ r, trimDashes (slugChars cs false) = '-' :: r ∧ SlugForm r) := by
  induction cs with
  | nil => simp [slugChars, trimDashes]
  | cons c rest ih =>
    by_cases hc : isSlugChar c
    · -- a kept character heads a slug whatever follows it
      have hkept : SlugForm (c :: trimDashes (slugChars rest false)) := by
        rcases ih.2 with h | h | ⟨r, h, hr⟩
        · rw [h]; exact .single hc
        · exact .cons hc h
        · rw [h]; exact .hyphen hc hr
      simp only [slugChars, hc, if_true, trimDashes_cons_of_ne (isSlugChar_ne_dash hc)]
      exact ⟨.inr hkept, .inr (.inl hkept)⟩
    · simp only [slugChars, hc, Bool.false_eq_true, if_false, if_true]
      refine ⟨ih.1, ?_⟩
      rw [trimDashes_cons]
      rcases ih.1 with h | h
      · simp [h]
      · exact .inr (.inr ⟨_, if_neg (by simp [h.ne_nil]), h⟩)

theorem slugChars_dropWhile (cs : List Char) :
    slugChars (cs.dropWhile fun c => !isSlugChar c) false = slugChars cs true := by
  induction cs with
  | nil => rfl
  | cons c rest ih =>
    by_cases hc : isSlugChar c
    · simp [hc, slugChars]
    · simp [hc, slugChars, ih]

theorem slug_eq (name : String) :
    slug name = String.ofList
      (trimDashes (slugChars ((name.toList.flatMap Char.stripAccents).map Char.lowerCase) true)) := by
  simp only [slug, slugChars_dropWhile, trimDashes]

theorem slug_form (name : String) : slug name = "" ∨ SlugForm (slug name).toList := by
  rw [slug_eq, String.toList_ofList]
  rcases (slugChars_form _).1 with h | h
  · exact .inl (by rw [h])
  · exact .inr h

/-! ### A slug is its own slug -/

theorem SlugForm.chars {t : List Char} (h : SlugForm t) : ∀ c ∈ t, isSlugChar c ∨ c = '-' := by
  induction h with
  | single hc => simp [hc]
  | cons hc _ ih => simpa [hc] using ih
  | hyphen hc _ ih => simpa [hc] using ih

theorem toNat_of_slugChar {c : Char} (h : isSlugChar c ∨ c = '-') :
    (97 ≤ c.toNat ∧ c.toNat ≤ 122) ∨ (48 ≤ c.toNat ∧ c.toNat ≤ 57) ∨ c.toNat = 95 ∨
      c.toNat = 45 := by
  rcases h with h | rfl
  · simp only [isSlugChar, Bool.or_eq_true, Bool.and_eq_true, decide_eq_true_eq, beq_iff_eq] at h
    rcases h with (⟨h₁, h₂⟩ | ⟨h₁, h₂⟩) | rfl
    · exact .inl ⟨h₁, h₂⟩
    · exact .inr (.inl ⟨h₁, h₂⟩)
    · exact .inr (.inr (.inl rfl))
  · decide

theorem plain_of_slugChar {c : Char} (h : isSlugChar c ∨ c = '-') :
    c.stripAccents = [c] ∧ c.lowerCase = c := by
  have hc := toNat_of_slugChar h
  have hval : c.val < 0x80 := by
    rw [UInt32.lt_iff_toNat_lt]
    simp only [Char.toNat] at hc
    simp only [UInt32.reduceToNat]
    omega
  refine ⟨by simp [Char.stripAccents, hval], ?_⟩
  simp only [Char.lowerCase, hval, if_true]
  delta Char.toLower
  rw [dif_neg]
  simp only [ge_iff_le, UInt32.le_iff_toNat_le, not_and]
  simp only [Char.toNat] at hc
  have hA : 'A'.val.toNat = 65 := rfl
  have hZ : 'Z'.val.toNat = 90 := rfl
  omega

theorem SlugForm.slugChars_eq {t : List Char} (h : SlugForm t) (pending : Bool) :
    slugChars t pending = t := by
  induction h generalizing pending with
  | single hc => simp [slugChars, hc]
  | cons hc _ ih => simp [slugChars, hc, ih]
  | hyphen hc _ ih => simp [slugChars, hc, ih]

theorem SlugForm.trimDashes_eq {t : List Char} (h : SlugForm t) : trimDashes t = t := by
  induction h with
  | single hc => rw [trimDashes_cons_of_ne (isSlugChar_ne_dash hc)]; rfl
  | cons hc _ ih => rw [trimDashes_cons_of_ne (isSlugChar_ne_dash hc), ih]
  | hyphen hc h ih =>
    rw [trimDashes_cons_of_ne (isSlugChar_ne_dash hc), trimDashes_cons, ih, if_neg (by simp [h.ne_nil])]

theorem plain_of_slugText {t : List Char} (h : ∀ c ∈ t, isSlugChar c ∨ c = '-') :
    (t.flatMap Char.stripAccents).map Char.lowerCase = t := by
  induction t with
  | nil => rfl
  | cons c t ih =>
    obtain ⟨hs, hl⟩ := plain_of_slugChar (h c (by simp))
    simp only [List.flatMap_cons, hs, List.singleton_append, List.map_cons, hl]
    rw [ih fun d hd => h d (by simp [hd])]

theorem slug_of_slugForm {t : List Char} (h : SlugForm t) : slug (String.ofList t) = String.ofList t := by
  rw [slug_eq, String.toList_ofList, plain_of_slugText h.chars, h.slugChars_eq, h.trimDashes_eq]

theorem slug_slug (name : String) : slug (slug name) = slug name := by
  rcases slug_form name with h | h
  · rw [h]; decide
  · rw [← String.ofList_toList (s := slug name)]
    exact slug_of_slugForm h

/-- A slug is empty or follows the slug grammar, and slugging it again changes nothing. -/
theorem slug_canonical (name : String) :
    (slug name = "" ∨ SlugForm (slug name).toList) ∧ slug (slug name) = slug name :=
  ⟨slug_form name, slug_slug name⟩

example : slug "  --weird__name!!" = "weird__name" := by decide

end RowGate.Catalog

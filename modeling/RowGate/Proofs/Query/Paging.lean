import RowGate.Query.Page
/-!
# Page arithmetic at the limits

Clamped pages keep the offset exact in 64 bits; the next-page test wraps past the largest 64-bit
integer (`paging_exact`).
-/

namespace RowGate.Query

theorem maxPage_eq : maxPage = 46116860184273879 := by decide

theorem maxPageSize_eq : maxPageSize = 200 := rfl

theorem lastOffset_eq : (maxPage - 1) * maxPageSize = 9223372036854775600 := by
  rw [maxPage_eq, maxPageSize_eq]
  decide

/-! ### Wrapping into 64 bits -/

theorem wrap64_eq (n : Int) :
    wrap64 n = if n % 18446744073709551616 < 9223372036854775808 then n % 18446744073709551616
      else n % 18446744073709551616 - 18446744073709551616 := by
  unfold wrap64
  rw [show Nat.pow 2 64 = 18446744073709551616 from rfl, Int.bmod_def]
  rfl

theorem wrap64_of_lt {n : Int} (h₁ : -9223372036854775808 ≤ n) (h₂ : n < 9223372036854775808) :
    wrap64 n = n := by
  rw [wrap64_eq]
  split <;> omega

theorem wrap64_of_ge {n : Int} (h₁ : 9223372036854775808 ≤ n) (h₂ : n < 27670116110564327424) :
    wrap64 n = n - 18446744073709551616 := by
  rw [wrap64_eq]
  split <;> omega

/-! ### Clamping -/

/-- What a clamped page promises: page and size in range, a request already in range kept, and
the offset of the rows before the page, which the 64-bit product computes exactly. -/
structure Page.Clamps (page size : Int) (p : Page) : Prop where
  page_mem : 1 ≤ p.page ∧ p.page ≤ maxPage
  size_mem : 1 ≤ p.size ∧ p.size ≤ maxPageSize
  page_kept : 1 ≤ page → page ≤ maxPage → p.page = page
  size_kept : 1 ≤ size → size ≤ maxPageSize → p.size = size
  offset_eq : p.offset = (p.page - 1) * p.size
  offset_mem : 0 ≤ p.offset ∧ p.offset ≤ (maxPage - 1) * maxPageSize
  offset_exact : wrap64 ((p.page - 1) * p.size) = p.offset

@[simp] theorem Page.of_page (page size : Int) :
    (Page.of page size).page = min (max page 1) maxPage := rfl

@[simp] theorem Page.of_size (page size : Int) :
    (Page.of page size).size = min (max size 1) maxPageSize := rfl

theorem Page.of_offset (page size : Int) :
    (Page.of page size).offset = ((Page.of page size).page - 1) * (Page.of page size).size := rfl

theorem Page.of_offset_mem (page size : Int) :
    0 ≤ (Page.of page size).offset ∧ (Page.of page size).offset ≤ (maxPage - 1) * maxPageSize := by
  have hp : 1 ≤ (Page.of page size).page ∧ (Page.of page size).page ≤ maxPage := by
    simp only [Page.of_page, maxPage_eq]; omega
  have hs : 1 ≤ (Page.of page size).size ∧ (Page.of page size).size ≤ maxPageSize := by
    simp only [Page.of_size, maxPageSize_eq]; omega
  rw [Page.of_offset]
  exact ⟨Int.mul_nonneg (by omega) (by omega),
    Int.mul_le_mul (by omega) hs.2 (by omega) (by rw [maxPage_eq]; decide)⟩

theorem Page.of_clamps (page size : Int) : (Page.of page size).Clamps page size where
  page_mem := by simp only [Page.of_page, maxPage_eq]; omega
  size_mem := by simp only [Page.of_size, maxPageSize_eq]; omega
  page_kept h₁ h₂ := by simp only [Page.of_page]; omega
  size_kept h₁ h₂ := by simp only [Page.of_size]; omega
  offset_eq := Page.of_offset page size
  offset_mem := Page.of_offset_mem page size
  offset_exact := by
    have h := Page.of_offset_mem page size
    rw [lastOffset_eq] at h
    rw [← Page.of_offset]
    exact wrap64_of_lt (by omega) (by omega)

/-! ### The next page -/

/-- The sum that decides whether a next page follows: the offset and the rows returned,
negative counting as none. -/
def nextSum (page size returned : Int) : Int := (Page.of page size).offset + max returned 0

theorem hasNext_eq_wrap (page size returned total : Int) :
    hasNext page size returned total = decide (wrap64 (nextSum page size returned) < total) := rfl

theorem hasNext_of_lt {page size returned total : Int}
    (h : nextSum page size returned < 9223372036854775808) :
    hasNext page size returned total = decide (nextSum page size returned < total) := by
  have := (Page.of_offset_mem page size).1
  rw [hasNext_eq_wrap, wrap64_of_lt (by unfold nextSum; omega) h]

theorem hasNext_of_le_size {page size returned total : Int}
    (h : returned ≤ (Page.of page size).size) :
    hasNext page size returned total = decide (nextSum page size returned < total) := by
  have hmem := Page.of_offset_mem page size
  have hs := (Page.of_clamps page size).size_mem
  rw [lastOffset_eq] at hmem
  rw [maxPageSize_eq] at hs
  exact hasNext_of_lt (by unfold nextSum; omega)

example : hasNext 2 10 10 25 = true := by decide

/-- Paging at the limits: the clamped request keeps its promises, and for every 64-bit count the
next-page answer compares the exact sum with the total while the sum is below `2 ^ 63`, and the
sum less `2 ^ 64` past it. -/
theorem paging_exact (page size returned total : Int) (hr : returned < 9223372036854775808) :
    (Page.of page size).Clamps page size ∧
      (hasNext page size returned total = true ↔
        if nextSum page size returned < 9223372036854775808 then nextSum page size returned < total
        else nextSum page size returned - 18446744073709551616 < total) := by
  refine ⟨Page.of_clamps page size, ?_⟩
  have hmem := Page.of_offset_mem page size
  rw [lastOffset_eq] at hmem
  by_cases hlt : nextSum page size returned < 9223372036854775808
  · rw [if_pos hlt, hasNext_of_lt hlt, decide_eq_true_iff]
  · have hge : wrap64 (nextSum page size returned) = nextSum page size returned - 18446744073709551616 :=
      wrap64_of_ge (by omega) (by unfold nextSum; omega)
    rw [if_neg hlt, hasNext_eq_wrap, hge, decide_eq_true_iff]

/-- The largest count wraps: one row before a page that returned `2 ^ 63 - 1` rows, of none in
all, is reported to have a next page. -/
theorem paging_exact_at_largest_count :
    (9223372036854775807 : Int) < 9223372036854775808 ∧
      ((Page.of 2 1).Clamps 2 1 ∧
        (hasNext 2 1 9223372036854775807 0 = true ↔
          if nextSum 2 1 9223372036854775807 < 9223372036854775808 then nextSum 2 1 9223372036854775807 < 0
          else nextSum 2 1 9223372036854775807 - 18446744073709551616 < 0)) :=
  ⟨by decide, paging_exact 2 1 9223372036854775807 0 (by decide)⟩

/-- The next-page answer is not the comparison over the integers: past `2 ^ 63` the sum wraps. -/
theorem hasNext_wraps_past_max :
    hasNext 2 1 9223372036854775807 0 = true ∧
      ¬ ((Page.of 2 1).offset + max 9223372036854775807 0 < (0 : Int)) := by
  decide

end RowGate.Query

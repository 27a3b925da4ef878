import Mathlib.Data.List.Infix

/-!
# The newest items that fit

Items are listed with the oldest in front, and the oldest are dropped until
what is left fits.
-/

namespace JetKvm

namespace NewestFitting

variable {α : Type*} (fits : List α → Bool)

/-- The longest end of the list that fits -/
def newest : List α → List α
  | [] => []
  | a :: items => if fits (a :: items) then a :: items else newest items

variable {fits} {items : List α}

theorem newest_suffix (items : List α) : newest fits items <:+ items := by
  induction items with
  | nil => exact List.suffix_refl _
  | cons a items ih =>
      rw [newest]
      split
      · exact List.suffix_refl _
      · exact ih.trans (List.suffix_cons a items)

theorem fits_newest (empty : fits [] = true) (items : List α) :
    fits (newest fits items) = true := by
  induction items with
  | nil => exact empty
  | cons a items ih =>
      rw [newest]
      split
      · assumption
      · exact ih

/-- No more than has to be is dropped. -/
theorem suffix_newest {others : List α} (fit : fits others = true)
    (within : others <:+ items) : others <:+ newest fits items := by
  induction items with
  | nil => exact within
  | cons a items ih =>
      rw [newest]
      split
      · exact within
      · rename_i tooMany
        rcases List.suffix_cons_iff.mp within with rfl | within
        · exact absurd fit tooMany
        · exact ih within

/-- What was dropped before an item came would be dropped after it. -/
theorem newest_newest_concat
    (closed : ∀ items a, fits (items ++ [a]) = true → fits items = true)
    (items : List α) (a : α) :
    newest fits (newest fits items ++ [a]) = newest fits (items ++ [a]) := by
  induction items with
  | nil => rfl
  | cons b items ih =>
      rw [newest]
      split
      · rfl
      · rename_i tooMany
        have stillTooMany : ¬ fits (b :: (items ++ [a])) = true :=
          fun fit => tooMany (closed (b :: items) a fit)
        rw [ih, List.cons_append, newest, if_neg stillTooMany]

end NewestFitting

end JetKvm

namespace SatFrontend.Text

variable {α : Type}

-- Cut a list at every element that satisfies `p`. The cut elements are left out, and
-- there is always one more part than there are cuts.
def splitWhere (p : α → Bool) : List α → List (List α)
  | [] => [[]]
  | a :: as =>
    if p a then
      [] :: splitWhere p as
    else
      match splitWhere p as with
      | [] => [[a]]
      | part :: parts => (a :: part) :: parts

theorem splitWhere_ne_nil (p : α → Bool) (as : List α) : splitWhere p as ≠ [] := by
  cases as with
  | nil => simp [splitWhere]
  | cons a as =>
    unfold splitWhere
    split
    · simp
    · split <;> simp

theorem splitWhere_cons_of_pos {p : α → Bool} {a : α} (h : p a = true) (as : List α) :
    splitWhere p (a :: as) = [] :: splitWhere p as := by
  simp [splitWhere, h]

-- An element that is kept belongs to the first part.
theorem splitWhere_cons_of_neg {p : α → Bool} {a : α} (h : p a = false) (as : List α) :
    splitWhere p (a :: as) =
      (a :: (splitWhere p as).headD []) :: (splitWhere p as).tail := by
  cases hs : splitWhere p as with
  | nil => exact absurd hs (splitWhere_ne_nil p as)
  | cons part parts => simp [splitWhere, h, hs]

theorem splitWhere_eq_singleton {p : α → Bool} {as : List α} (h : ∀ a ∈ as, p a = false) :
    splitWhere p as = [as] := by
  induction as with
  | nil => rfl
  | cons a as ih =>
    rw [splitWhere_cons_of_neg (h a (by simp)), ih (fun b hb => h b (by simp [hb]))]
    rfl

-- A cut separates what is before it from what is after it.
theorem splitWhere_append_cons {p : α → Bool} {b : α} (h : p b = true) (as bs : List α) :
    splitWhere p (as ++ b :: bs) = splitWhere p as ++ splitWhere p bs := by
  induction as with
  | nil => simp [splitWhere, h]
  | cons a as ih =>
    rw [List.cons_append]
    by_cases ha : p a = true
    · rw [splitWhere_cons_of_pos ha, splitWhere_cons_of_pos ha, ih, List.cons_append]
    · have ha' : p a = false := by simpa using ha
      rw [splitWhere_cons_of_neg ha', splitWhere_cons_of_neg ha', ih]
      cases hs : splitWhere p as with
      | nil => exact absurd hs (splitWhere_ne_nil p as)
      | cons part parts => simp

end SatFrontend.Text

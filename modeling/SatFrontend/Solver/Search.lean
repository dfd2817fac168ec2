import SatFrontend.Literal

namespace SatFrontend.Search

-- A clause is satisfied by one of its literals.
abbrev Clause := List Lit

-- What is left of the clauses once a literal is true: clauses with it are satisfied, and
-- its negation is of no use in the others.
def assign (l : Lit) (cs : List Clause) : List Clause :=
  cs.filterMap (fun c => if l ∈ c then none else some (c.filter (· ≠ l.not)))

-- The number of literals in all clauses.
def weight : List Clause → Nat
  | [] => 0
  | c :: cs => c.length + weight cs

theorem weight_assign_le (l : Lit) (cs : List Clause) : weight (assign l cs) ≤ weight cs := by
  induction cs with
  | nil => simp [assign]
  | cons c cs ih =>
    simp only [assign, weight] at ih ⊢
    by_cases h : l ∈ c
    · simp only [List.filterMap_cons, h, if_true]
      omega
    · simp only [List.filterMap_cons, h, if_false, weight]
      have := List.length_filter_le (fun x => decide (x ≠ l.not)) c
      omega

-- Assigning a literal that occurs, or the negation of one, leaves fewer literals.
theorem weight_assign_lt {l : Lit} {c : Clause} {cs : List Clause} (hc : c ∈ cs)
    (hl : l ∈ c ∨ l.not ∈ c) : weight (assign l cs) < weight cs := by
  induction cs with
  | nil => simp at hc
  | cons d cs ih =>
    have hle := weight_assign_le l cs
    simp only [assign, weight] at ih hle ⊢
    by_cases h : l ∈ d
    · simp only [List.filterMap_cons, h, if_true]
      have : 0 < d.length := List.length_pos_iff.mpr (List.ne_nil_of_mem h)
      omega
    · simp only [List.filterMap_cons, h, if_false, weight]
      have hfilter := List.length_filter_le (fun x => decide (x ≠ l.not)) d
      cases List.mem_cons.mp hc with
      | inl hd =>
        subst hd
        have hnot : l.not ∈ c := hl.resolve_left h
        have : (c.filter (fun x => decide (x ≠ l.not))).length < c.length :=
          List.length_filter_lt_length_iff_exists.mpr ⟨l.not, hnot, by simp⟩
        omega
      | inr hd =>
        have := ih hd
        omega

-- The shorter of two clauses.
def shorter (c d : Clause) : Clause := if d.length < c.length then d else c

-- A shortest clause.
def shortest (c : Clause) (cs : List Clause) : Clause := cs.foldl shorter c

theorem shortest_mem (c : Clause) (cs : List Clause) : shortest c cs ∈ c :: cs := by
  induction cs generalizing c with
  | nil => simp [shortest]
  | cons d cs ih =>
    have := ih (shorter c d)
    simp only [shortest, List.foldl_cons, List.mem_cons] at this ⊢
    rcases this with h | h
    · rw [h]
      unfold shorter
      split <;> simp
    · exact Or.inr (Or.inr h)

-- Literals that satisfy all clauses, if there are any. A clause of one literal decides it;
-- otherwise a literal of a shortest clause is tried first with the one value and then with
-- the other.
def satisfy (cs : List Clause) : Option (List Lit) :=
  match cs with
  | [] => some []
  | d :: ds =>
    match _h : shortest d ds with
    | [] => none
    | l :: rest =>
      match satisfy (assign l (d :: ds)) with
      | some ls => some (l :: ls)
      | none =>
        if rest.isEmpty then none
        else (satisfy (assign l.not (d :: ds))).map (l.not :: ·)
termination_by weight cs
decreasing_by
  · exact weight_assign_lt (c := l :: rest) (_h ▸ shortest_mem d ds) (Or.inl (by simp))
  · exact weight_assign_lt (c := l :: rest) (_h ▸ shortest_mem d ds)
      (Or.inr (by simp [Lit.not_not]))

end SatFrontend.Search

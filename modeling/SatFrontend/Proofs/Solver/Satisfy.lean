import SatFrontend.Proofs.Solver.Models
import SatFrontend.Solver.SearchEngine

namespace SatFrontend.Search

theorem mem_assign {l : Lit} {cs : List Clause} {d : Clause} :
    d ∈ assign l cs ↔ ∃ c ∈ cs, l ∉ c ∧ d = c.filter (· ≠ l.not) := by
  simp only [assign, List.mem_filterMap]
  constructor
  · rintro ⟨c, hc, hd⟩
    split at hd
    · simp at hd
    · rename_i hl
      exact ⟨c, hc, hl, (Option.some.inj hd).symm⟩
  · rintro ⟨c, hc, hl, rfl⟩
    exact ⟨c, hc, by simp [hl]⟩

-- Neither the literal nor its negation is left.
theorem not_mem_of_mem_assign {l : Lit} {cs : List Clause} {d : Clause} (h : d ∈ assign l cs) :
    l ∉ d ∧ l.not ∉ d := by
  obtain ⟨c, hc, hl, rfl⟩ := mem_assign.mp h
  exact ⟨fun hmem => hl (List.mem_of_mem_filter hmem), by simp⟩

-- What satisfies the clauses and the literal satisfies what is left.
theorem satisfied_assign {a : Var → Bool} {l : Lit} (hl : l.holds a = true) {cs : List Clause}
    (h : ∀ c ∈ cs, ∃ k ∈ c, k.holds a = true) : ∀ d ∈ assign l cs, ∃ k ∈ d, k.holds a = true := by
  intro d hd
  obtain ⟨c, hc, hmem, rfl⟩ := mem_assign.mp hd
  obtain ⟨k, hk, hholds⟩ := h c hc
  refine ⟨k, List.mem_filter.mpr ⟨hk, ?_⟩, hholds⟩
  have hne : k ≠ l.not := by
    rintro rfl
    simp only [Lit.holds, Lit.not] at hl hholds
    cases ha : a l.var <;> cases hn : l.negative <;> simp_all
  simpa using hne

-- Literals for what is left and the literal itself are literals for all clauses.
theorem covered_of_assign {l : Lit} {cs : List Clause} {ls : List Lit}
    (h : ∀ d ∈ assign l cs, ∃ k ∈ d, k ∈ ls) : ∀ c ∈ cs, ∃ k ∈ c, k ∈ l :: ls := by
  intro c hc
  by_cases hl : l ∈ c
  · exact ⟨l, hl, List.mem_cons_self⟩
  · obtain ⟨k, hk, hmem⟩ := h _ (mem_assign.mpr ⟨c, hc, hl, rfl⟩)
    exact ⟨k, List.mem_of_mem_filter hk, List.mem_cons_of_mem _ hmem⟩

-- A choice of literals with different variables, all of which occur in the clauses, such that each
-- clause has one of them.
structure Covers (cs : List Clause) (ls : List Lit) : Prop where
  covered : ∀ c ∈ cs, ∃ l ∈ c, l ∈ ls
  nodup : (ls.map Lit.var).Nodup
  occurs : ∀ l ∈ ls, ∃ c ∈ cs, l ∈ c ∨ l.not ∈ c

theorem eq_or_eq_not {k l : Lit} (h : k.var = l.var) : k = l ∨ k = l.not := by
  obtain ⟨v, negative⟩ := k
  obtain ⟨w, negative'⟩ := l
  obtain rfl : v = w := h
  cases negative <;> cases negative' <;> simp [Lit.not]

theorem Covers.of_assign {l : Lit} {cs : List Clause} {ls : List Lit} (h : Covers (assign l cs) ls)
    {c : Clause} (hc : c ∈ cs) (hl : l ∈ c ∨ l.not ∈ c) : Covers cs (l :: ls) where
  covered := covered_of_assign h.covered
  nodup := by
    refine List.nodup_cons.mpr ⟨fun hmem => ?_, h.nodup⟩
    obtain ⟨k, hk, hvar⟩ := List.mem_map.mp hmem
    obtain ⟨d, hd, hoccurs⟩ := h.occurs k hk
    obtain ⟨hnot, hnot'⟩ := not_mem_of_mem_assign hd
    rcases eq_or_eq_not hvar with rfl | rfl
    · exact hoccurs.elim hnot hnot'
    · rw [Lit.not_not] at hoccurs
      exact hoccurs.elim hnot' hnot
  occurs := by
    intro k hk
    rcases List.mem_cons.mp hk with rfl | hk
    · exact ⟨c, hc, hl⟩
    · obtain ⟨d, hd, hoccurs⟩ := h.occurs k hk
      obtain ⟨c', hc', -, rfl⟩ := mem_assign.mp hd
      exact ⟨c', hc', hoccurs.imp List.mem_of_mem_filter List.mem_of_mem_filter⟩

-- An induction along the search: each choice is a literal of a shortest clause or its negation.
theorem covers_of_satisfy {cs : List Clause} {ls : List Lit} (h : satisfy cs = some ls) :
    Covers cs ls := by
  fun_induction satisfy cs generalizing ls with
  | case1 =>
    obtain rfl := Option.some.inj h
    exact ⟨by simp, by simp, by simp⟩
  | case2 => simp at h
  | case3 c cs l rest hshortest ks hks ih =>
    obtain rfl := Option.some.inj h
    exact (ih hks).of_assign (hshortest ▸ shortest_mem c cs) (Or.inl List.mem_cons_self)
  | case4 => simp at h
  | case5 c cs l rest hshortest hnone hrest ih ih' =>
    obtain ⟨ks, hks, rfl⟩ := Option.map_eq_some_iff.mp h
    refine (ih' hks).of_assign (hshortest ▸ shortest_mem c cs) (Or.inr ?_)
    rw [Lit.not_not]
    exact List.mem_cons_self

-- If the search finds nothing, there is nothing to be found.
theorem not_satisfied_of_satisfy {cs : List Clause} (h : satisfy cs = none) (a : Var → Bool) :
    ¬∀ c ∈ cs, ∃ l ∈ c, l.holds a = true := by
  fun_induction satisfy cs with
  | case1 => simp at h
  | case2 c cs hshortest =>
    intro hall
    obtain ⟨l, hl, -⟩ := hall [] (hshortest ▸ shortest_mem c cs)
    simp at hl
  | case3 => simp at h
  | case4 c cs l rest hshortest hnone hrest ih =>
    intro hall
    obtain ⟨k, hk, hholds⟩ := hall (l :: rest) (hshortest ▸ shortest_mem c cs)
    rw [List.isEmpty_iff.mp hrest, List.mem_singleton] at hk
    exact ih hnone (satisfied_assign (hk ▸ hholds) hall)
  | case5 c cs l rest hshortest hnone hrest ih ih' =>
    intro hall
    have hnone' := Option.map_eq_none_iff.mp h
    by_cases hl : l.holds a = true
    · exact ih hnone (satisfied_assign hl hall)
    · have hnot : l.not.holds a = true := by
        simp only [Lit.holds, Lit.not] at hl ⊢
        cases ha : a l.var <;> cases hn : l.negative <;> simp_all
      exact ih' hnone' (satisfied_assign hnot hall)

namespace Values

-- Later literals of other variables leave a value as it is.
theorem getElem?_foldl_of_not_mem {ls : List Lit} {v : Var} (h : v ∉ ls.map Lit.var) (m : Values) :
    (ls.foldl (fun m l => m.insert l.var.number (!l.negative)) m)[v.number]? = m[v.number]? := by
  induction ls generalizing m with
  | nil => rfl
  | cons l ls ih =>
    obtain ⟨hl, hrest⟩ := not_or.mp (mt List.mem_cons.mpr h)
    have hne : l.var.number ≠ v.number := fun heq => hl (Var.number_inj heq).symm
    rw [List.foldl_cons, ih hrest, Std.HashMap.getElem?_insert]
    simp [hne]

theorem getElem?_foldl_of_mem {ls : List Lit} (hnodup : (ls.map Lit.var).Nodup) {l : Lit}
    (hl : l ∈ ls) (m : Values) :
    (ls.foldl (fun m l => m.insert l.var.number (!l.negative)) m)[l.var.number]? =
      some (!l.negative) := by
  induction ls generalizing m with
  | nil => simp at hl
  | cons k ls ih =>
    obtain ⟨hk, hrest⟩ := List.nodup_cons.mp hnodup
    rw [List.foldl_cons]
    rcases List.mem_cons.mp hl with rfl | hl
    · rw [getElem?_foldl_of_not_mem hk, Std.HashMap.getElem?_insert]
      simp
    · exact ih hrest hl _

theorem holds_ofLits {ls : List Lit} (hnodup : (ls.map Lit.var).Nodup) {l : Lit} (hl : l ∈ ls) :
    (ofLits ls).holds l = true := by
  rw [holds, ofLits, getElem?_foldl_of_mem hnodup hl]
  simp

theorem literal?_of_holds {m : Values} {l : Lit} (h : m.holds l = true) :
    m.literal? l.var = some l := by
  rw [holds, beq_iff_eq] at h
  rw [literal?, h]
  simp

theorem var_of_literal? {m : Values} {v : Var} {l : Lit} (h : m.literal? v = some l) :
    l.var = v := by
  obtain ⟨value, -, rfl⟩ := Option.map_eq_some_iff.mp h
  rfl

end Values

end SatFrontend.Search

import Mathlib.Algebra.Group.Nat.Defs
import Mathlib.Data.List.Nodup
import SatFrontend.Solver.Coding

namespace SatFrontend

-- The variables with the numbers up to `n`, in order.
def Var.upTo (n : Nat) : List Var := (List.range n).map Var.ofIndex

theorem Var.mem_upTo {n : Nat} {v : Var} : v ∈ Var.upTo n ↔ v.number ≤ n := by
  constructor
  · intro h
    obtain ⟨i, hi, rfl⟩ := List.mem_map.mp h
    have hlt := List.mem_range.mp hi
    simp only [ofIndex, ofNumber, number]
    omega
  · intro h
    have hpos := v.number_pos
    refine List.mem_map.mpr ⟨v.number - 1, List.mem_range.mpr (by omega), ?_⟩
    rw [ofIndex, Nat.sub_add_cancel hpos, ofNumber_number]

theorem Var.nodup_upTo {n : Nat} (h : n ≤ Var.maxCount) : (Var.upTo n).Nodup := by
  refine List.Nodup.map_on ?_ List.nodup_range
  intro i hi j hj heq
  have hi := List.mem_range.mp hi
  have hj := List.mem_range.mp hj
  have hnumber := congrArg Var.number heq
  simp only [ofIndex] at hnumber
  rw [number_ofNumber (by omega) (by omega), number_ofNumber (by omega) (by omega)] at hnumber
  omega

theorem varCountWith_le_iff {n limit : Nat} {ls : List Lit} :
    varCountWith n ls ≤ limit ↔ n ≤ limit ∧ ∀ l ∈ ls, l.var.number ≤ limit := by
  induction ls generalizing n with
  | nil => simp [varCountWith]
  | cons l ls ih =>
    have hstep : varCountWith n (l :: ls) = varCountWith (max n l.var.number) ls := rfl
    rw [hstep, ih, List.forall_mem_cons, Nat.max_le, and_assoc]

-- Values of the variables under which a literal of each clause and every assumption is true.
def Models (a : Var → Bool) (cs : List (List Lit)) (ls : List Lit) : Prop :=
  (∀ c ∈ cs, ∃ l ∈ c, l.holds a = true) ∧ ∀ l ∈ ls, l.holds a = true

-- Literals for the variables up to `n`, in order, that make a literal of each clause and every
-- assumption true.
structure IsModel (n : Nat) (cs : List (List Lit)) (ls m : List Lit) : Prop where
  vars : m.map Lit.var = Var.upTo n
  clauses : ∀ c ∈ cs, ∃ l ∈ c, l ∈ m
  assumptions : ∀ l ∈ ls, l ∈ m

instance (n : Nat) (cs : List (List Lit)) (ls m : List Lit) : Decidable (IsModel n cs ls m) :=
  decidable_of_iff
    (m.map Lit.var = Var.upTo n ∧ (cs.all fun c => c.any fun l => m.contains l) = true ∧
      (ls.all fun l => m.contains l) = true)
    ⟨fun ⟨hvars, hclauses, hassumptions⟩ => ⟨hvars, by simpa using hclauses, by simpa using hassumptions⟩,
      fun h => ⟨h.vars, by simpa using h.clauses, by simpa using h.assumptions⟩⟩

-- Literals with different variables do not contradict each other.
theorem eq_of_var_eq {m : List Lit} (h : (m.map Lit.var).Nodup) {k l : Lit} (hk : k ∈ m)
    (hl : l ∈ m) (hvar : k.var = l.var) : k = l :=
  List.inj_on_of_nodup_map h hk hl hvar

namespace IsModel

variable {n : Nat} {cs : List (List Lit)} {ls m m' : List Lit}

theorem nodup_vars (h : IsModel n cs ls m) (hn : n ≤ Var.maxCount) : (m.map Lit.var).Nodup := by
  rw [h.vars]
  exact Var.nodup_upTo hn

-- The values that a model gives to the variables.
theorem holds (h : IsModel n cs ls m) (hn : n ≤ Var.maxCount) :
    ∃ a, Models a cs ls := by
  have htrue : ∀ l ∈ m, l.holds (fun v => decide ((⟨v, false⟩ : Lit) ∈ m)) = true := by
    intro l hl
    obtain ⟨v, negative⟩ := l
    cases negative with
    | false => simpa [Lit.holds] using hl
    | true =>
      have hnot : (⟨v, false⟩ : Lit) ∉ m := by
        intro hmem
        have := eq_of_var_eq (h.nodup_vars hn) hmem hl rfl
        simp at this
      simp [Lit.holds, hnot]
  refine ⟨_, fun c hc => ?_, fun l hl => htrue l (h.assumptions l hl)⟩
  obtain ⟨l, hl, hmem⟩ := h.clauses c hc
  exact ⟨l, hl, htrue l hmem⟩

end IsModel

-- Two different choices of signs differ at some variable.
theorem exists_not_mem_of_ne {m m' : List Lit} (hvars : m.map Lit.var = m'.map Lit.var)
    (hne : m' ≠ m) : ∃ l ∈ m, l.not ∈ m' := by
  induction m generalizing m' with
  | nil =>
    have hnil : m' = [] := by simpa using hvars.symm
    exact absurd hnil hne
  | cons k m ih =>
    cases m' with
    | nil => simp at hvars
    | cons k' m' =>
      obtain ⟨hvar, hrest⟩ := List.cons.inj hvars
      by_cases hk : k' = k
      · subst hk
        obtain ⟨l, hl, hnot⟩ := ih hrest (fun heq => hne (by rw [heq]))
        exact ⟨l, List.mem_cons_of_mem _ hl, List.mem_cons_of_mem _ hnot⟩
      · have hnegative : k'.negative ≠ k.negative := by
          intro heq
          obtain ⟨v, negative⟩ := k
          obtain ⟨v', negative'⟩ := k'
          exact hk (by simp_all)
        have hnot : k.not = k' := by
          obtain ⟨v, negative⟩ := k
          obtain ⟨v', negative'⟩ := k'
          obtain rfl : v = v' := hvar
          cases negative <;> cases negative' <;> simp_all [Lit.not]
        exact ⟨k, List.mem_cons_self, by rw [hnot]; exact List.mem_cons_self⟩

-- The clause against a model rules out exactly that model.
theorem isModel_block_iff {n : Nat} {cs : List (List Lit)} {ls m m' : List Lit}
    (h : IsModel n cs ls m) (hn : n ≤ Var.maxCount) :
    IsModel n (cs ++ [m.map Lit.not]) ls m' ↔ IsModel n cs ls m' ∧ m' ≠ m := by
  constructor
  · intro hblocked
    refine ⟨⟨hblocked.vars, fun c hc => hblocked.clauses c (List.mem_append_left _ hc),
      hblocked.assumptions⟩, ?_⟩
    rintro rfl
    obtain ⟨l, hl, hmem⟩ := hblocked.clauses (m'.map Lit.not) (by simp)
    obtain ⟨k, hk, rfl⟩ := List.mem_map.mp hl
    exact k.not_ne (eq_of_var_eq (h.nodup_vars hn) hmem hk k.var_not)
  · rintro ⟨hmodel, hne⟩
    refine ⟨hmodel.vars, ?_, hmodel.assumptions⟩
    intro c hc
    rcases List.mem_append.mp hc with hc | hc
    · exact hmodel.clauses c hc
    · rw [List.mem_singleton.mp hc]
      obtain ⟨l, hl, hnot⟩ := exists_not_mem_of_ne (h.vars.trans hmodel.vars.symm) hne
      exact ⟨l.not, List.mem_map_of_mem hl, hnot⟩

-- All choices of signs for variables.
def signings : List Var → List (List Lit)
  | [] => [[]]
  | v :: vs => (signings vs).map (⟨v, false⟩ :: ·) ++ (signings vs).map (⟨v, true⟩ :: ·)

theorem length_signings (vs : List Var) : (signings vs).length = 2 ^ vs.length := by
  induction vs with
  | nil => rfl
  | cons v vs ih =>
    simp only [signings, List.length_append, List.length_map, ih, List.length_cons, Nat.pow_succ]
    omega

theorem mem_signings (m : List Lit) : m ∈ signings (m.map Lit.var) := by
  induction m with
  | nil => simp [signings]
  | cons l m ih =>
    obtain ⟨v, negative⟩ := l
    cases negative <;> simp [signings, ih]

-- There are no more models than choices of signs.
theorem length_le_of_isModel {n : Nat} {cs : List (List Lit)} {ls : List Lit}
    {ms : List (List Lit)} (hnodup : ms.Nodup) (hmodels : ∀ m ∈ ms, IsModel n cs ls m) :
    ms.length ≤ 2 ^ n := by
  have hsub : ms ⊆ signings (Var.upTo n) := by
    intro m hm
    rw [← (hmodels m hm).vars]
    exact mem_signings m
  have hle := hnodup.length_le_of_subset hsub
  rwa [length_signings, Var.upTo, List.length_map, List.length_range] at hle

end SatFrontend

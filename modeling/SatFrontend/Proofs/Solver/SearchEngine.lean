import SatFrontend.Proofs.Solver.Contract
import SatFrontend.Proofs.Solver.Satisfy

namespace SatFrontend

namespace Coding

-- Giving numbers to variables adds no clause.
theorem clauses_codeOf (c : Coding) (l : Lit) : (c.codeOf l).2.clauses = c.clauses := by
  unfold codeOf numberOf
  split
  next heq => split at heq <;> (injection heq with _ h; rw [← h])

theorem clauses_codesOf (c : Coding) (ls : List Lit) : (c.codesOf ls).2.clauses = c.clauses := by
  have key : ∀ (ls : List Lit) (acc : Array Nat) (c : Coding),
      (ls.foldl (fun (p : Array Nat × Coding) l =>
        ((p.1.push (p.2.codeOf l).1, (p.2.codeOf l).2) : Array Nat × Coding)) (acc, c)).2.clauses =
        c.clauses := by
    intro ls
    induction ls with
    | nil => intro acc c; rfl
    | cons l ls ih =>
      intro acc c
      rw [List.foldl_cons, ih, clauses_codeOf]
  exact key ls #[] c

theorem clauses_addClause (c : Coding) (clause : Search.Clause) :
    (c.addClause clause).clauses = c.clauses.push clause := by
  have hc := clauses_codesOf c clause
  unfold addClause
  split
  next codes d heq =>
    rw [heq] at hc
    have hd : d.clauses = c.clauses := hc
    split <;> exact congrArg (·.push clause) hd

theorem clauses_addClauses (c : Coding) (cs : Array Search.Clause) :
    (c.addClauses cs).clauses = c.clauses ++ cs := by
  rw [addClauses, ← Array.foldl_toList]
  obtain ⟨ls⟩ := cs
  induction ls generalizing c with
  | nil => simp
  | cons l ls ih =>
    have := ih (c.addClause l)
    simp only [List.foldl_cons, this, clauses_addClause]
    simp

end Coding

namespace Search.Knowledge

theorem clauses_grow (k : Knowledge) (cs : Array Clause) (ls : List Lit) :
    (k.grow cs ls).2.coding.clauses = k.coding.clauses ++ cs := by
  have h : (k.grow cs ls).2.coding = ((k.coding.addClauses cs).codesOf ls).2 := rfl
  rw [h, Coding.clauses_codesOf, Coding.clauses_addClauses]

-- Values that make a literal of each clause and every assumption true.
def Solves (m : Values) (cs : Array Clause) (ls : List Lit) : Prop :=
  (∀ c ∈ cs, ∃ l ∈ c, m.holds l = true) ∧ ∀ l ∈ ls, m.holds l = true

theorem coding_explore (k : Knowledge) (ls : List Lit) (goals : Array Nat) :
    (k.explore ls goals).2.coding = k.coding := by
  unfold explore
  split
  · dsimp only
    split <;> rfl
  · dsimp only
    split <;> rfl
  · rfl

-- If the search was given up, the clauses and assumptions are searched again from the beginning.
theorem satisfy_spec (cs : Array Clause) (ls : List Lit) :
    match (satisfy (ls.map (fun l => [l]) ++ cs.toList)).map Values.ofLits with
    | some m => Solves m cs ls
    | none => ∀ a, ¬Models a cs.toList ls := by
  cases h : satisfy (ls.map (fun l => [l]) ++ cs.toList) with
  | some ks =>
    have hcovers := covers_of_satisfy h
    refine ⟨fun c hc => ?_, fun l hl => ?_⟩
    · obtain ⟨l, hl, hmem⟩ := hcovers.covered c (by simp [hc])
      exact ⟨l, hl, Values.holds_ofLits hcovers.nodup hmem⟩
    · obtain ⟨k, hk, hmem⟩ := hcovers.covered [l] (by simp [hl])
      obtain rfl := List.mem_singleton.mp hk
      exact Values.holds_ofLits hcovers.nodup hmem
  | none =>
    rintro a ⟨hclauses, hassumptions⟩
    refine not_satisfied_of_satisfy h a fun c hc => ?_
    rcases List.mem_append.mp hc with hc | hc
    · obtain ⟨l, hl, rfl⟩ := List.mem_map.mp hc
      exact ⟨l, List.mem_singleton_self l, hassumptions l hl⟩
    · exact hclauses c hc

theorem solve_spec (k : Knowledge) (ls : List Lit) (goals : Array Nat) :
    (k.solve ls goals).2.coding = k.coding ∧
      match (k.solve ls goals).1 with
      | some m => Solves m k.coding.clauses ls
      | none => ∀ a, ¬Models a k.coding.clauses.toList ls := by
  have hcoding := k.coding_explore ls goals
  unfold solve
  split
  next m hm d heq =>
    rw [heq] at hcoding
    obtain ⟨hclauses, hassumptions⟩ := hm
    refine ⟨hcoding, fun c hc => ?_, List.all_eq_true.mp hassumptions⟩
    rw [Values.satisfies, Array.all_eq_true_iff_forall_mem] at hclauses
    exact List.any_eq_true.mp (hclauses c hc)
  next hnothing d heq =>
    rw [heq] at hcoding
    refine ⟨hcoding, ?_⟩
    rintro a ⟨hclauses, hassumptions⟩
    have hsatisfies : Satisfies a k.coding.clauses := fun c hc =>
      List.any_eq_true.mpr (hclauses c (Array.mem_toList_iff.mpr hc))
    have := hnothing a hsatisfies
    rw [List.all_eq_true.mpr hassumptions] at this
    simp at this
  next d heq =>
    rw [heq] at hcoding
    have hd : d.coding = k.coding := hcoding
    refine ⟨hd, ?_⟩
    simp only [hd]
    exact satisfy_spec k.coding.clauses ls

end Search.Knowledge

namespace SearchEngine

open Search

-- What an engine has been given, by the calls that were made.
structure Holds (e : SearchEngine) (calls : List Call) : Prop where
  clauses : e.knowledge.coding.clauses.toList ++ e.newClauses.toList = (Call.loaded calls).done
  openClause : e.openClause.toList = (Call.loaded calls).current
  assumptions : e.assumptions = (Call.asked calls).current

theorem value_eq (e : SearchEngine) (v : Var) : Engine.value e v = e.solution.literal? v := rfl

theorem engine_solve_eq (e : SearchEngine) : Engine.solve e = e.solve := rfl

-- What comes of a question.
theorem solve_eq (e : SearchEngine) :
    let grown := e.knowledge.grow e.newClauses e.assumptions
    let found := grown.2.solve e.assumptions grown.1
    e.solve =
      (if found.1.isSome then .sat else .unsat,
        { e with
          knowledge := found.2
          newClauses := #[]
          assumptions := []
          asked := e.assumptions
          solution := found.1.getD ∅ }) := by
  intro grown found
  unfold solve
  cases h : found.1 <;> simp_all [found, grown]

@[simp] theorem apply_push (e : SearchEngine) (l : Lit) :
    Call.apply e (.push l) = { e with openClause := e.openClause.push l } := rfl

@[simp] theorem apply_endClause (e : SearchEngine) :
    Call.apply e .endClause =
      { e with newClauses := e.newClauses.push e.openClause.toList, openClause := #[] } := rfl

@[simp] theorem apply_assume (e : SearchEngine) (l : Lit) :
    Call.apply e (.assume l) = { e with assumptions := e.assumptions ++ [l] } := rfl

@[simp] theorem apply_solve (e : SearchEngine) : Call.apply e .solve = e.solve.2 := rfl

@[simp] theorem apply_value (e : SearchEngine) (v : Var) : Call.apply e (.value v) = e := rfl

-- One case for each call: it goes to the clauses, to the open clause or to the assumptions.
theorem Holds.apply {e : SearchEngine} {calls : List Call} (h : Holds e calls) (c : Call) :
    Holds (c.apply e) (calls ++ [c]) := by
  obtain ⟨hclauses, hopen, hassumptions⟩ := h
  cases c with
  | push l => exact ⟨by simpa using hclauses, by simp [hopen], by simpa using hassumptions⟩
  | endClause => exact ⟨by simp [← hclauses, hopen], by simp, by simpa using hassumptions⟩
  | assume l => exact ⟨by simpa using hclauses, by simpa using hopen, by simp [hassumptions]⟩
  | solve =>
    have hcoding := (Knowledge.solve_spec (e.knowledge.grow e.newClauses e.assumptions).2
      e.assumptions (e.knowledge.grow e.newClauses e.assumptions).1).1
    have hgrown := congrArg Coding.clauses hcoding
    rw [Knowledge.clauses_grow] at hgrown
    refine ⟨?_, ?_, ?_⟩
    · simpa [solve_eq, hgrown] using hclauses
    · simpa [solve_eq] using hopen
    · simp [solve_eq]
  | value v => exact ⟨by simpa using hclauses, by simpa using hopen, by simpa using hassumptions⟩

theorem Holds.replay {e : SearchEngine} {calls : List Call} (h : Holds e calls) (later : List Call) :
    Holds (Call.replay e later) (calls ++ later) := by
  induction later generalizing e calls with
  | nil => simpa [Call.replay] using h
  | cons c later ih =>
    rw [List.append_cons]
    exact ih (h.apply c)

theorem holds_replay (calls : List Call) : Holds (Call.replay {} calls) calls := by
  have hstart : Holds {} [] := ⟨rfl, rfl, rfl⟩
  exact hstart.replay calls

-- What is found is about all clauses and about the assumptions of the question.
theorem Holds.solve {e : SearchEngine} {calls : List Call} (h : Holds e calls) :
    (∃ m, e.solve.1 = .sat ∧ e.solve.2.solution = m ∧
      (∀ c ∈ (Call.loaded calls).done, ∃ l ∈ c, m.holds l = true) ∧
      ∀ l ∈ (Call.asked calls).current, m.holds l = true) ∨
    (e.solve.1 = .unsat ∧ ∀ a, ¬Models a (Call.loaded calls).done (Call.asked calls).current) := by
  obtain ⟨-, hspec⟩ := Knowledge.solve_spec (e.knowledge.grow e.newClauses e.assumptions).2
    e.assumptions (e.knowledge.grow e.newClauses e.assumptions).1
  have hclauses : (e.knowledge.coding.clauses ++ e.newClauses).toList = (Call.loaded calls).done := by
    rw [Array.toList_append]
    exact h.clauses
  rw [Knowledge.clauses_grow] at hspec
  rw [solve_eq, ← hclauses, ← h.assumptions]
  cases hfound : ((e.knowledge.grow e.newClauses e.assumptions).2.solve e.assumptions
      (e.knowledge.grow e.newClauses e.assumptions).1).1 with
  | some m =>
    rw [hfound] at hspec
    refine Or.inl ⟨m, by simp, by simp, fun c hc => hspec.1 c (Array.mem_toList_iff.mp hc), hspec.2⟩
  | none =>
    rw [hfound] at hspec
    exact Or.inr ⟨by simp, hspec⟩

-- A search that begins without clauses says yes with values only that make all clauses and the
-- assumptions true, whatever variables they have.
theorem sat_spec (calls : List Call)
    (hsat : (Engine.solve (Call.replay ({} : SearchEngine) calls)).1 = .sat) :
    let found := (Engine.solve (Call.replay ({} : SearchEngine) calls)).2
    (∀ v l, Engine.value found v = some l → l.var = v) ∧
      (∀ c ∈ (Call.loaded calls).done, ∃ l ∈ c, Engine.value found l.var = some l) ∧
      ∀ l ∈ (Call.asked calls).current, Engine.value found l.var = some l := by
  intro found
  have hholds := holds_replay calls
  rcases hholds.solve with ⟨m, -, hm, hclauses, hassumptions⟩ | ⟨hunsat, -⟩
  · have hfound : found = (Call.replay ({} : SearchEngine) calls).solve.2 :=
      congrArg Prod.snd (engine_solve_eq _)
    have hvalue : ∀ v, Engine.value found v = m.literal? v := by
      intro v
      rw [value_eq, hfound, hm]
    refine ⟨fun v l h => ?_, fun c hc => ?_, fun l hl => ?_⟩
    · rw [hvalue] at h
      exact Values.var_of_literal? h
    · obtain ⟨l, hl, hholds⟩ := hclauses c hc
      exact ⟨l, hl, by rw [hvalue]; exact Values.literal?_of_holds hholds⟩
    · rw [hvalue]
      exact Values.literal?_of_holds (hassumptions l hl)
  · rw [engine_solve_eq, hunsat] at hsat
    simp at hsat

-- So it gives what is expected of an engine.
theorem sound : Engine.Sound ({} : SearchEngine) where
  limit _ := rfl
  sat calls _ hsat := sat_spec calls hsat
  unsat := by
    intro calls hasks hunsat
    have hholds := holds_replay calls
    rcases hholds.solve with ⟨m, hsat, -⟩ | ⟨-, hnone⟩
    · rw [engine_solve_eq, hsat] at hunsat
      simp at hunsat
    · exact hnone

-- It never gives up.
theorem decides : Engine.Decides ({} : SearchEngine) := by
  intro calls hasks
  rw [engine_solve_eq, solve_eq]
  split <;> simp

end SearchEngine

end SatFrontend

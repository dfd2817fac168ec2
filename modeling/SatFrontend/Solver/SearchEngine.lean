import SatFrontend.Solver.Coding
import SatFrontend.Solver.Incremental
import SatFrontend.Solver.Learning

namespace SatFrontend.Search

-- Values of variables, by their numbers.
abbrev Values := Std.HashMap Nat Bool

namespace Values

def ofLits (ls : List Lit) : Values :=
  ls.foldl (fun m l => m.insert l.var.number (!l.negative)) ∅

-- The literal of a variable that has a value.
def literal? (m : Values) (v : Var) : Option Lit := m[v.number]?.map fun value => ⟨v, !value⟩

def holds (m : Values) (l : Lit) : Bool := m[l.var.number]? == some (!l.negative)

-- Whether every clause has a literal that is true.
def satisfies (m : Values) (cs : Array Clause) : Bool := cs.all (·.any m.holds)

-- The values that a search has given to variables.
def ofLearning {cs : Array (Array Nat)} (names : Array Var) (s : Learning cs) : Values :=
  s.trail.foldl (fun m l =>
    let l := Code.literal names l
    m.insert l.var.number (!l.negative)) ∅

end Values

-- Clauses with everything that was learned from them.
structure Knowledge where
  coding : Coding
  learning : Learning coding.codes

namespace Knowledge

def empty : Knowledge := ⟨.empty, .empty⟩

-- Take in more clauses, and give numbers to the variables of literals as well.
def grow (k : Knowledge) (cs : Array Clause) (ls : List Lit) : Array Nat × Knowledge :=
  let coded := (k.coding.addClauses cs).codesOf ls
  have h : ∀ a, Code.holdsAll a coded.2.codes = true → Code.holdsAll a k.coding.codes = true := by
    intro a ha
    rw [Coding.codes_codesOf] at ha
    exact Coding.holdsAll_of_extends (Coding.extends_addClauses k.coding cs) ha
  (coded.1, ⟨coded.2, k.learning.grow h coded.2.names.size⟩)

-- What was found out about clauses together with assumptions.
inductive Finding (cs : Array Clause) (ls : List Lit) where
  | values (m : Values) (h : m.satisfies cs = true ∧ ls.all m.holds = true)
  | nothing (h : ∀ a, Satisfies a cs → ls.all (Lit.holds a) = false)

-- Values for which numbered literals are as true as the literals.
def agreeing (names : Array Var) (a : Var → Bool) (n : Nat) : Bool := a (names.getD n Var.last)

-- If facts stand against literals, nothing satisfies the clauses with these literals.
theorem nothing_of_fact (k : Knowledge) {ls : List Lit} {goals : Array Nat}
    (hgoals : Code.spells k.coding.names goals ls = true) (f : Fact k.coding.codes)
    (hf : f.literals.all (fun l => goals.any (fun g => l == Code.negate g)) = true)
    (a : Var → Bool) (ha : Satisfies a k.coding.clauses) : ls.all (Lit.holds a) = false := by
  have hagrees : Code.Agrees k.coding.names a (agreeing k.coding.names a) := fun _ _ => rfl
  have hall := k.coding.faithful a (agreeing k.coding.names a) ha hagrees
  cases hls : ls.all (Lit.holds a) with
  | false => rfl
  | true =>
    simp only [Code.spells, Bool.and_eq_true, beq_iff_eq] at hgoals
    obtain ⟨hrange, heq⟩ := hgoals
    have hfalse : ∀ l ∈ f.literals, Code.holds (agreeing k.coding.names a) l = false := by
      intro l hl
      rw [Array.all_eq_true_iff_forall_mem] at hf
      have hany := hf l hl
      rw [Array.any_eq_true] at hany
      obtain ⟨i, hi, hli⟩ := hany
      have hmem : goals[i] ∈ goals := Array.getElem_mem hi
      have hgoal : Code.holds (agreeing k.coding.names a) goals[i] = true := by
        rw [Array.all_eq_true_iff_forall_mem] at hrange
        rw [Code.holds_literal hagrees (by simpa using hrange _ hmem)]
        rw [List.all_eq_true] at hls
        refine hls _ ?_
        rw [← heq]
        exact List.mem_map.mpr ⟨goals[i], by simp, rfl⟩
      rw [eq_of_beq hli, Code.holds_negate, hgoal]
      rfl
    rw [Fact.refutes f hfalse] at hall
    exact absurd hall (by simp)

-- Search under assumptions, given by their numbers as well. Nothing comes of it only if the
-- search was given up.
def explore (k : Knowledge) (ls : List Lit) (goals : Array Nat) :
    Option (Finding k.coding.clauses ls) × Knowledge :=
  match k.learning.search goals with
  | .values s =>
    let m := Values.ofLearning k.coding.names s
    let k' := { k with learning := s }
    if h : m.satisfies k.coding.clauses = true ∧ ls.all m.holds = true then
      (some (.values m h), k')
    else (none, k')
  | .impossible f s =>
    let k' := { k with learning := s }
    if h : Code.spells k.coding.names goals ls = true ∧
        f.literals.all (fun l => goals.any (fun g => l == Code.negate g)) = true then
      (some (.nothing (k.nothing_of_fact h.1 f h.2)), k')
    else (none, k')
  | .undecided => (none, k)

-- Values that satisfy all clauses and assumptions, if there are any.
def solve (k : Knowledge) (ls : List Lit) (goals : Array Nat) : Option Values × Knowledge :=
  match k.explore ls goals with
  | (some (.values m _), k) => (some m, k)
  | (some (.nothing _), k) => (none, k)
  | (none, k) =>
    let units := ls.map fun l => [l]
    ((satisfy (units ++ k.coding.clauses.toList)).map Values.ofLits, k)

-- Prefer the values that make literals false which may still be certain.
def prefer {cs : Array (Array Nat)} (possible : Array Bool) (s : Learning cs) : Learning cs :=
  { s with phases := s.phases.mapIdx fun v phase =>
      if possible.getD (2 * v) false then true
      else if possible.getD (2 * v + 1) false then false
      else phase }

-- The true literals without which a clause would be false. Any other variable can have its
-- value changed, unless it is assumed to have it.
def needed {cs : Array (Array Nat)} (s : Learning cs) (goals : Array Nat) : Array Bool :=
  let isFalse := s.truths.map (· != .yes)
  let marks := goals.foldl (fun marks l => marks.setIfInBounds l true)
    (Array.replicate s.size false)
  cs.foldl (fun marks c => match Fact.Rest.ofClause isFalse c with
    | .only l => marks.setIfInBounds l true
    | _ => marks) marks

-- Those of some literals that are true in every solution under assumptions. The marks say which
-- ones may be, and each solution that is found leaves fewer of them.
def certainOnes {cs : Array (Array Nat)} (goals : Array Nat) :
    List Nat → Array Bool → Learning cs → List Nat → Option (List Nat)
  | [], _, _, found => some found
  | l :: ls, possible, s, found =>
    if !possible.getD l false then certainOnes goals ls possible s found
    else
      match (prefer possible (s.backtrack 0)).search (goals.push (Code.negate l)) with
      | .impossible _ s => certainOnes goals ls (possible.setIfInBounds l false) s (l :: found)
      | .values s =>
        let needed := needed s goals
        certainOnes goals ls (possible.mapIdx fun l p => p && needed.getD l false) s found
      | _ => none

-- A literal that every solution has for a variable, if there is one. The clauses have a
-- solution.
def forced? (cs : List Clause) (v : Var) : Option Lit :=
  let positive : Lit := ⟨v, false⟩
  if (satisfy ([positive.not] :: cs)).isNone then some positive
  else if (satisfy ([positive] :: cs)).isNone then some positive.not
  else none

-- The literals that every solution under assumptions has for variables. There is a solution.
def certain (k : Knowledge) (ls : List Lit) (vs : List Var) : List (Option Lit) :=
  let (goals, k) := k.grow #[] ls
  let found : Option (List Nat) :=
    match k.learning.search goals with
    | .values s =>
      let asked := vs.filterMap fun v => k.coding.numbers[v.number]?.map fun n =>
        if s.truth (2 * n) = .yes then 2 * n else 2 * n + 1
      certainOnes goals asked (needed s goals) s []
    | _ => none
  match found with
  | some codes =>
    let m := Values.ofLits (codes.map (Code.literal k.coding.names))
    vs.map m.literal?
  | none => vs.map (forced? (ls.map (fun l => [l]) ++ k.coding.clauses.toList))

end Knowledge

end SatFrontend.Search

namespace SatFrontend

open Search

-- The engine that searches for a solution by itself.
structure SearchEngine where
  -- what it knows about the clauses, but for those that came after the last question
  knowledge : Knowledge := .empty
  newClauses : Array Clause := #[]
  openClause : Array Lit := #[]
  assumptions : List Lit := []
  -- the assumptions of the last question
  asked : List Lit := []
  -- the last solution
  solution : Values := ∅

namespace SearchEngine

-- The number of variables that the search supports.
def maxVarCount : Nat := 268435456

def solve (e : SearchEngine) : Answer × SearchEngine :=
  let asked := e.assumptions
  let (goals, knowledge) := e.knowledge.grow e.newClauses asked
  let (found, knowledge) := knowledge.solve asked goals
  let e := { e with knowledge, newClauses := #[], assumptions := [], asked }
  match found with
  | some solution => (.sat, { e with solution })
  | none => (.unsat, { e with solution := ∅ })

instance : Engine SearchEngine where
  limit _ := maxVarCount
  push e l := { e with openClause := e.openClause.push l }
  endClause e := { e with newClauses := e.newClauses.push e.openClause.toList, openClause := #[] }
  assume e l := { e with assumptions := e.assumptions ++ [l] }
  solve := solve
  value e v := e.solution.literal? v

end SearchEngine

namespace Solver

-- Whether literals go through the variables of the model in order and satisfy the clauses
-- and assumptions of the last question.
def isValidModel (s : Solver SearchEngine) (model : List Lit) : Bool :=
  let inOrder := model.toArray
  let holds (l : Lit) : Bool := inOrder[l.var.index.val]? == some l
  model.map Lit.var == s.modelVars &&
    s.engine.knowledge.coding.clauses.all (·.any holds) && s.engine.asked.all holds

-- What is certain about each variable of the model, after a question that was answered with
-- yes.
def certainModel (s : Solver SearchEngine) : List (Option Lit) :=
  s.engine.knowledge.certain s.engine.asked s.modelVars

-- What is certain about a variable.
def certain? (s : Solver SearchEngine) (v : Var) : Option Lit :=
  ((s.engine.knowledge.certain s.engine.asked [v]).head?).bind id

end Solver

end SatFrontend

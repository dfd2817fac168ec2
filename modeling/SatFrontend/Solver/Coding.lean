import Std.Data.HashMap
import SatFrontend.Solver.Refutation
import SatFrontend.Solver.Search

namespace SatFrontend

open Search

-- Whether a literal is true when the variables have given values.
def Lit.holds (a : Var → Bool) (l : Lit) : Bool := a l.var != l.negative

-- Values of the variables that give every clause a true literal.
def Satisfies (a : Var → Bool) (cs : Array Clause) : Prop := ∀ c ∈ cs, c.any (Lit.holds a) = true

-- The literal that a number stands for, given the variables of the numbers.
def Code.literal (names : Array Var) (code : Nat) : Lit :=
  ⟨names.getD (variableOf code) Var.last, isNegative code⟩

-- Whether numbers stand for the literals of a clause.
def Code.spells (names : Array Var) (codes : Array Nat) (c : Clause) : Bool :=
  codes.all (fun code => variableOf code < names.size) &&
    codes.toList.map (Code.literal names) == c

-- Values of numbered variables that are those of the variables.
def Code.Agrees (names : Array Var) (a : Var → Bool) (b : Nat → Bool) : Prop :=
  ∀ n, n < names.size → b n = a (names.getD n Var.last)

-- Whatever satisfies the clauses also satisfies the numbered ones.
def Code.Faithful (names : Array Var) (clauses : Array Clause) (codes : Array (Array Nat)) :
    Prop :=
  ∀ a b, Satisfies a clauses → Agrees names a b → holdsAll b codes = true

namespace Code

theorem holds_literal {names : Array Var} {a : Var → Bool} {b : Nat → Bool}
    (h : Agrees names a b) {code : Nat} (hcode : variableOf code < names.size) :
    holds b code = (literal names code).holds a := by
  simp [holds, Lit.holds, literal, h _ hcode]

theorem holdsAny_of_spells {names : Array Var} {a : Var → Bool} {b : Nat → Bool}
    (h : Agrees names a b) {codes : Array Nat} {c : Clause} (hs : spells names codes c = true)
    (hc : c.any (Lit.holds a) = true) : holdsAny b codes = true := by
  simp only [spells, Bool.and_eq_true, beq_iff_eq] at hs
  obtain ⟨hall, heq⟩ := hs
  rw [← heq, List.any_map, List.any_eq_true] at hc
  obtain ⟨code, hmem, hl⟩ := hc
  have hmem : code ∈ codes := by simpa using hmem
  have hrange : variableOf code < names.size := by
    rw [Array.all_eq_true_iff_forall_mem] at hall
    simpa using hall code hmem
  rw [holdsAny, Array.any_eq_true]
  obtain ⟨i, hi, rfl⟩ := Array.mem_iff_getElem.mp hmem
  exact ⟨i, hi, (holds_literal h hrange).trans hl⟩

-- More variables can be given numbers.
theorem Faithful.name {names : Array Var} {clauses : Array Clause} {codes : Array (Array Nat)}
    (h : Faithful names clauses codes) (v : Var) : Faithful (names.push v) clauses codes := by
  intro a b ha hb
  refine h a b ha ?_
  intro n hn
  rw [hb n (by simp; omega)]
  simp [Array.getD_eq_getD_getElem?, Array.getElem?_push, Nat.ne_of_lt hn]

theorem satisfies_of_push {a : Var → Bool} {clauses : Array Clause} {c : Clause}
    (h : Satisfies a (clauses.push c)) : Satisfies a clauses :=
  fun d hd => h d (Array.mem_push.mpr (Or.inl hd))

-- A clause that is left out of the numbered ones does no harm.
theorem Faithful.skip {names : Array Var} {clauses : Array Clause} {codes : Array (Array Nat)}
    (h : Faithful names clauses codes) (c : Clause) : Faithful names (clauses.push c) codes :=
  fun a b ha hb => h a b (satisfies_of_push ha) hb

theorem Faithful.push {names : Array Var} {clauses : Array Clause} {codes : Array (Array Nat)}
    (h : Faithful names clauses codes) {c : Clause} {code : Array Nat}
    (hc : spells names code c = true) :
    Faithful names (clauses.push c) (codes.push code) := by
  intro a b ha hb
  rw [holdsAll, Array.all_eq_true_iff_forall_mem]
  intro d hd
  rcases Array.mem_push.mp hd with hd | hd
  · exact holdsAny_of_mem (h a b (satisfies_of_push ha) hb) hd
  · rw [hd]
    exact holdsAny_of_spells hb hc (ha c (Array.mem_push.mpr (Or.inr rfl)))

end Code

-- Clauses with numbers for their variables, without gaps.
structure Coding where
  clauses : Array Clause := #[]
  names : Array Var := #[]
  numbers : Std.HashMap Nat Nat := ∅
  codes : Array (Array Nat) := #[]
  faithful : Code.Faithful names clauses codes

namespace Coding

def empty : Coding := { faithful := fun _ _ _ _ => by simp [Code.holdsAll] }

instance : Inhabited Coding := ⟨empty⟩

-- The number of a variable, which gets one if it has none.
def numberOf (c : Coding) (v : Var) : Nat × Coding :=
  match c.numbers[v.number]? with
  | some n => (n, c)
  | none =>
    let n := c.names.size
    (n, { c with
      names := c.names.push v
      numbers := c.numbers.insert v.number n
      faithful := c.faithful.name v })

def codeOf (c : Coding) (l : Lit) : Nat × Coding :=
  let (n, c) := c.numberOf l.var
  (if l.negative then 2 * n + 1 else 2 * n, c)

-- The numbers of literals.
def codesOf (c : Coding) (ls : List Lit) : Array Nat × Coding :=
  ls.foldl (fun (codes, c) l =>
    let (code, c) := c.codeOf l
    (codes.push code, c)) (#[], c)

def addClause (c : Coding) (clause : Clause) : Coding :=
  let (codes, c) := c.codesOf clause
  if h : Code.spells c.names codes clause = true then
    { c with
      clauses := c.clauses.push clause
      codes := c.codes.push codes
      faithful := c.faithful.push h }
  else { c with clauses := c.clauses.push clause, faithful := c.faithful.skip clause }

def addClauses (c : Coding) (cs : Array Clause) : Coding := cs.foldl addClause c

-- One coding goes on from another one.
def Extends (d c : Coding) : Prop := ∀ code ∈ c.codes, code ∈ d.codes

theorem extends_refl (c : Coding) : Extends c c := fun _ h => h

theorem codes_codeOf (c : Coding) (l : Lit) : (c.codeOf l).2.codes = c.codes := by
  unfold codeOf numberOf
  split
  next heq => split at heq <;> (injection heq with _ h; rw [← h])

theorem codes_codesOf (c : Coding) (ls : List Lit) : (c.codesOf ls).2.codes = c.codes := by
  have key : ∀ (ls : List Lit) (acc : Array Nat) (c : Coding),
      (ls.foldl (fun (p : Array Nat × Coding) l =>
        ((p.1.push (p.2.codeOf l).1, (p.2.codeOf l).2) : Array Nat × Coding)) (acc, c)).2.codes =
        c.codes := by
    intro ls
    induction ls with
    | nil => intro acc c; rfl
    | cons l ls ih =>
      intro acc c
      rw [List.foldl_cons, ih, codes_codeOf]
  exact key ls #[] c

theorem extends_addClause (c : Coding) (clause : Clause) : Extends (c.addClause clause) c := by
  intro code h
  have hc := codes_codesOf c clause
  unfold addClause
  split
  next codes d heq =>
    rw [heq] at hc
    have hd : d.codes = c.codes := hc
    split
    · simp [hd, h]
    · simpa [hd] using h

theorem extends_addClauses (c : Coding) (cs : Array Clause) : Extends (c.addClauses cs) c := by
  rw [addClauses, ← Array.foldl_toList]
  generalize cs.toList = ls
  induction ls generalizing c with
  | nil => exact extends_refl c
  | cons l ls ih => exact fun code h => ih (c.addClause l) code (extends_addClause c l code h)

theorem holdsAll_of_extends {d c : Coding} (h : Extends d c) {a : Nat → Bool}
    (ha : Code.holdsAll a d.codes = true) : Code.holdsAll a c.codes = true := by
  rw [Code.holdsAll, Array.all_eq_true_iff_forall_mem]
  exact fun code hcode => Code.holdsAny_of_mem ha (h code hcode)

end Coding

end SatFrontend

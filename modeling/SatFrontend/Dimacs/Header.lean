import SatFrontend.Formula
import SatFrontend.Text.Blank
import SatFrontend.Text.Numeral

namespace SatFrontend.Dimacs

-- The two numbers announced in a problem line.
structure Header where
  varCount : Nat
  clauseCount : Nat
deriving DecidableEq, Repr

namespace Header

-- The header of a formula under assumptions, which are written as unit clauses.
def ofFormula (f : Formula) (assumptions : List Lit) : Header where
  varCount := varCountWith f.varCount assumptions
  clauseCount := f.size + assumptions.length

def line (h : Header) : String := s!"p cnf {h.varCount} {h.clauseCount}"

-- The header announced by the text of a problem line after its `p`.
def ofText? (cs : List Char) : Option Header :=
  match Text.words cs with
  | [['c', 'n', 'f'], vars, clauses] => do
    let vars ← Text.natural? vars
    let clauses ← Text.natural? clauses
    some ⟨vars, clauses⟩
  | _ => none

end Header

end SatFrontend.Dimacs

import SatFrontend.Dimacs.Header

namespace SatFrontend.Dimacs

-- The text of a problem line.
def writeHeader (h : Header) : String := h.line ++ "\n"

-- The text of a clause: its literals, each with a blank after it, and a 0.
def writeClause (c : List Lit) : String :=
  c.foldr (fun l rest => l.text ++ " " ++ rest) "0\n"

-- The text of clauses, one in a line. Empty clauses are written as well.
def writeClauses (cs : List (List Lit)) : String :=
  cs.foldr (fun c rest => writeClause c ++ rest) ""

-- The text of a formula: the problem line, the committed clauses, and a unit clause for
-- each assumption.
def write (f : Formula) (assumptions : List Lit) : String :=
  writeHeader (Header.ofFormula f assumptions) ++ writeClauses f.clauses ++
    writeClauses (assumptions.map (fun l => [l]))

end SatFrontend.Dimacs

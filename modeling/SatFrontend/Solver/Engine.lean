import SatFrontend.Literal

namespace SatFrontend

-- What a solver says about satisfiability.
inductive Answer where
  | sat
  | unsat
  -- it stopped without deciding
  | unknown
deriving DecidableEq, Repr

-- A solver that clauses are loaded into one literal at a time and that is asked again and
-- again. Assumptions count for the next question only.
class Engine (η : Type) where
  -- the largest variable number that is supported
  limit : η → Nat
  push : η → Lit → η
  endClause : η → η
  assume : η → Lit → η
  solve : η → Answer × η
  -- the literal of a variable in the model found last, if the variable is known
  value : η → Var → Option Lit

end SatFrontend

import SatFrontend.Backend.Failure
import SatFrontend.Solver.Engine

namespace SatFrontend

-- A formula that is solved while it grows. Clauses go to the engine as they come, while
-- assumptions are held back until the next question and forgotten with it.
structure Solver (η : Type) where
  engine : η
  -- the largest variable of the committed clauses
  varCount : Nat := 0
  openCount : Nat := 0
  openVarCount : Nat := 0
  assumptions : List Lit := []
  -- the answer to the last question, if nothing was added since
  answer : Option Answer := none
  -- the variables of the model of the last question, those of its assumptions included
  modelVarCount : Nat := 0

namespace Solver

variable {η : Type} [Engine η]

-- A solver on an engine without clauses.
def ofEngine (engine : η) : Solver η := { engine }

def push (s : Solver η) (l : Lit) : Solver η :=
  { s with
    engine := Engine.push s.engine l
    openCount := s.openCount + 1
    openVarCount := max s.openVarCount l.var.number
    answer := none }

-- Only a clause with literals reaches the engine.
def endClause (s : Solver η) : Solver η :=
  if s.openCount = 0 then { s with openVarCount := 0 }
  else
    { s with
      engine := Engine.endClause s.engine
      varCount := max s.varCount s.openVarCount
      openCount := 0
      openVarCount := 0
      answer := none }

def assume (s : Solver η) (l : Lit) : Solver η :=
  { s with assumptions := s.assumptions ++ [l], answer := none }

instance : Receiver (Solver η) where
  limit s := Engine.limit s.engine
  push := push
  endClause := endClause
  assume := assume

-- The number of variables of a model that the next question can give.
def nextVarCount (s : Solver η) : Nat := varCountWith s.endClause.varCount s.assumptions

-- Ask under the pending assumptions, after committing the open clause.
def solve (s : Solver η) : Answer × Solver η :=
  let modelVarCount := s.nextVarCount
  let s := s.endClause
  let (answer, engine) := Engine.solve (s.assumptions.foldl Engine.assume s.engine)
  (answer, { s with engine, assumptions := [], answer := some answer, modelVarCount })

-- A variable that the engine does not know is taken to be false.
def literalOf (s : Solver η) (v : Var) : Lit := (Engine.value s.engine v).getD ⟨v, true⟩

-- The variables of the model, in order.
def modelVars (s : Solver η) : List Var := (List.range s.modelVarCount).map Var.ofIndex

-- The literals of the model, one for each of its variables.
def modelLiterals (s : Solver η) : List Lit := s.modelVars.map s.literalOf

-- There is a model directly after a question that was answered with yes.
def hasModel (s : Solver η) : Bool := s.answer == some .sat

-- The literal of a variable in the model.
def value (s : Solver η) (v : Var) : Except Failure Lit :=
  if s.hasModel then .ok (s.literalOf v) else .error .noModel

def model (s : Solver η) : Except Failure (List Lit) :=
  if s.hasModel then .ok s.modelLiterals else .error .noModel

-- Ask and give the model if there is one.
def witness (s : Solver η) : Except Failure (Option (List Lit)) × Solver η :=
  match s.solve with
  | (.sat, s) => (s.model.map some, s)
  | (.unsat, s) => (.ok none, s)
  | (.unknown, s) => (.error .interrupted, s)

-- Commit the open clause and give up the engine.
def close (s : Solver η) : η := s.endClause.engine

end Solver

end SatFrontend

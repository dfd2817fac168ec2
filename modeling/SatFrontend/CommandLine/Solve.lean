import SatFrontend.Backend.Counter
import SatFrontend.Backend.Witness
import SatFrontend.CommandLine.Arguments
import SatFrontend.CommandLine.Session
import SatFrontend.Solver.Enumeration

namespace SatFrontend.CommandLine

open Backend Session

variable {η : Type} [Engine η]

-- Print one model, or that there is none.
def solveWitness (s : Solver η) (assumptions : List Int) : Session Nat := do
  let s ← assumeAll s assumptions
  match s.solve with
  | (.sat, s) =>
    print [Witness.satMarker, modelLine ["v"] s.modelLiterals]
    return Witness.satExit
  | (.unsat, _) =>
    print [Witness.unsatMarker]
    return Witness.unsatExit
  | (.unknown, _) =>
    print ["s UNKNOWN"]
    return 0

-- Print the number of models. A risk has to be right although none is taken.
def solveCount (s : Solver η) (assumptions : List Int) (delta : Option String) :
    Session Nat := do
  match delta with
  | none => pure ()
  | some text =>
    let _ ← orFail Failure.message (Risk.ofValue (← readRisk "--delta" text))
    inform [.countingExactly]
  let found := s.enumerate assumptions
  match found.ending with
  | .complete => print [s!"s mc {found.models.length}"]
  | .stopped => print ["s UNKNOWN"]
  | .refused e => fail e.message
  return 0

-- Print all models.
def solveEnumerate (s : Solver η) (assumptions : List Int) : Session Nat := do
  let found := s.enumerate assumptions
  print (found.models.map (modelLine []))
  match found.ending with
  | .complete => inform [.foundAll found.models.length]
  | .stopped => inform [.stoppedAfter found.models.length]
  | .refused e => fail e.message
  return 0

-- Do what the clauses of a solver were loaded for.
def solveTask (s : Solver η) (assumptions : List Int) : Task → Session Nat
  | .witness => solveWitness s assumptions
  | .count delta => solveCount s assumptions delta
  | .enumerate => solveEnumerate s assumptions

-- Solve with the given engine, which has no clauses yet.
def solve (w : World) (engine : η) (a : Solving) : Session Nat := do
  let assumptions ← readAssumptions a.assumptions
  let s ← readFormula w a.input (Solver.ofEngine engine)
  inform [.loaded s.varCount]
  solveTask s assumptions a.task

end SatFrontend.CommandLine

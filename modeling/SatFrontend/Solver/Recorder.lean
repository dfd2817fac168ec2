import SatFrontend.Solver.Incremental

namespace SatFrontend

-- What an engine was asked to do.
inductive Call where
  | push (l : Lit)
  | endClause
  | assume (l : Lit)
  | solve
  | value (v : Var)
deriving DecidableEq

def Call.text : Call → String
  | push l => "push " ++ l.text
  | endClause => "end"
  | assume l => "assume " ++ l.text
  | solve => "solve"
  | value v => "value " ++ toString v.number

-- A prepared answer, with the values of the model if there is one.
inductive Reply where
  | sat (values : List Lit)
  | unsat
  | unknown
deriving DecidableEq

def Reply.answer : Reply → Answer
  | sat _ => .sat
  | unsat => .unsat
  | unknown => .unknown

-- An engine that gives prepared answers one after the other and keeps a record of what was
-- asked. Without an answer left it does not know.
structure Recorder where
  limit : Nat := Var.maxCount
  script : List Reply := []
  values : List Lit := []
  calls : Array Call := #[]

namespace Recorder

def record (r : Recorder) (c : Call) : Recorder := { r with calls := r.calls.push c }

def solve (r : Recorder) : Answer × Recorder :=
  let r := r.record .solve
  match r.script with
  | [] => (.unknown, { r with values := [] })
  | reply :: script =>
    let values := match reply with
      | .sat values => values
      | _ => []
    (reply.answer, { r with script, values })

instance : Engine Recorder where
  limit := limit
  push r l := r.record (.push l)
  endClause r := r.record .endClause
  assume r l := r.record (.assume l)
  solve := solve
  value r v := r.values.find? (·.var = v)

end Recorder

namespace Solver

-- The record without what it holds so far.
def clearCalls (s : Solver Recorder) : Solver Recorder :=
  { s with engine := { s.engine with calls := #[] } }

-- The questions that looking at the model puts to the engine.
def modelCalls (s : Solver Recorder) : List Call :=
  if s.hasModel then s.modelVars.map .value else []

-- The question that looking at a variable puts to the engine.
def valueCalls (s : Solver Recorder) (v : Var) : List Call :=
  if s.hasModel then [.value v] else []

end Solver

end SatFrontend

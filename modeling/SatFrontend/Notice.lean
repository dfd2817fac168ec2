namespace SatFrontend

-- What is reported while the work goes on, in the order it happens.
inductive Notice where
  | parsed (clauses lines : Nat)
  | malformedHeader (line : Nat) (text : String)
  | readingFile (path : String)
  | readingInput
  | readingConfig (path : String)
  | loaded (varCount : Nat)
  | loadedFormula (varCount clauses : Nat)
  | running (program : String) (clauses assumptions : Nat)
  | enumerating (program : String) (clauses : Nat)
  | counterExit (program : String) (code : Nat)
  | countingExactly
  | foundAll (models : Nat)
  | stoppedAfter (models : Nat)
deriving DecidableEq, Repr

namespace Notice

-- Warnings are about something that was ignored or cut short.
def isWarning : Notice → Bool
  | malformedHeader .. | counterExit .. | stoppedAfter .. => true
  | _ => false

def text : Notice → String
  | parsed clauses lines => s!"Parsed {clauses} clauses in {lines} lines"
  | malformedHeader line text => s!"line {line}: Ignoring malformed problem line '{text}'"
  | readingFile path => s!"Reading file '{path}'"
  | readingInput => "Reading from stdin"
  | readingConfig path => s!"Reading backend configuration '{path}'"
  | loaded varCount => s!"Loaded formula with {varCount} variables"
  | loadedFormula varCount clauses =>
    s!"Loaded formula with {varCount} variables and {clauses} clauses"
  | running program clauses assumptions =>
    s!"Running '{program}' on {clauses} clauses and {assumptions} assumptions"
  | enumerating program clauses => s!"Enumerating models with '{program}' on {clauses} clauses"
  | counterExit program code => s!"Counter '{program}' exited with exit status: {code}"
  | countingExactly => "Counting exactly, which meets any risk"
  | foundAll models => s!"Found all {models} models"
  | stoppedAfter models => s!"Stopped after {models} models"

-- The notice with its severity, as it is recorded.
def record (n : Notice) : String :=
  (if n.isWarning then "WARN " else "INFO ") ++ n.text

end Notice

end SatFrontend

import SatFrontend.Backend.Command
import SatFrontend.Decimal.Shortest
import SatFrontend.Dimacs.Source

namespace SatFrontend

-- What is wrong with the output of a backend.
inductive Complaint where
  | invalidLiteral (token : String)
  | modelSize (literals varCount : Nat)
  | wrongVariable (expected : Nat) (found : Lit)
  -- the result line says otherwise than the exit code
  | contradiction (code : Nat)
  | noResult
  | noMatch (pattern : String)
  | invalidCount (text : String)
  | innerTerminator (line : String)
deriving DecidableEq

def Complaint.message : Complaint → String
  | invalidLiteral token => s!"invalid literal '{token}'"
  | modelSize literals varCount =>
    s!"model has {literals} literals for {varCount} variables"
  | wrongVariable expected found =>
    s!"expected variable {expected} in model, found literal {found.text}"
  | contradiction code => s!"result line contradicts exit code Some({code})"
  | noResult => "missing result line"
  | noMatch pattern => s!"no line matches '{pattern}'"
  | invalidCount text => s!"invalid count '{text}'"
  | innerTerminator line => s!"terminator inside model line '{line}'"

-- An argument outside of its range.
inductive ArgumentError where
  | risk (value : Decimal.Binary64)
  | pattern (text : String)
  | patternTooLarge (text : String)
  | patternWithoutGroup (text : String)
deriving DecidableEq

def ArgumentError.message : ArgumentError → String
  | risk value => s!"risk must be strictly between 0 and 1, got {value.text}"
  | pattern text => s!"count pattern '{text}'"
  | patternTooLarge text =>
    s!"count pattern '{text}': Compiled regex exceeds size limit of 10485760 bytes."
  | patternWithoutGroup text => s!"count pattern '{text}' has no capture group"

-- Why an operation of the front end failed. That a formula has no model is no failure.
inductive Failure where
  | entry (e : EntryError)
  | malformed (e : Dimacs.SyntaxError)
  -- a backend ended in a way its contract does not allow; with everything it printed
  | exit (program : String) (code : Option Nat) (output : String)
  | output (program : String) (complaint : Complaint)
  | argument (e : ArgumentError)
  -- a model was asked for when there is none
  | noModel
  | interrupted
  | start (program : String) (e : IoError)
  | io (e : IoError)
deriving DecidableEq

namespace Failure

def message : Failure → String
  | entry e => "Malformed formula input: " ++ e.message
  | malformed e => "Malformed DIMACS input: " ++ e.message
  | exit program code _ =>
    let status := match code with
      | some n => toString n
      | none => "(killed by signal)"
    s!"Backend '{program}' exited with unexpected status {status}"
  | output program complaint =>
    s!"Could not parse output of backend '{program}': {complaint.message}"
  | argument e => "Invalid argument: " ++ e.message
  | noModel =>
    "Precondition violated: a model is only available directly after a satisfiable solve"
  | interrupted => "The solver stopped without a result"
  | start program e => s!"Could not start backend '{program}': {e.message}"
  | io e => "I/O error while talking to a backend: " ++ e.message

def ofReadError : Dimacs.ReadError → Failure
  | .io e => .io e
  | .malformed e => .malformed e
  | .entry e => .entry e

end Failure

end SatFrontend

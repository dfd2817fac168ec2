import SatFrontend.Backend.Failure
import SatFrontend.Dimacs.Encoder

namespace SatFrontend.Backend

-- A program that is run once on a complete formula and then understood from what it left
-- behind.
structure Batch (α : Type) where
  command : Command
  -- the result, given the program's name and the number of variables it was told, along
  -- with what is worth a notice
  extract : String → Nat → Finished → List Notice × Except Failure α

-- Run a command on lines of input and wait for its end.
def runCommand (host : Host) (command : Command) (feed : List String) :
    Except Failure Finished :=
  match host.start command (Text.encode (Dimacs.sendLines feed)) with
  | .ok behavior => .ok behavior.finish
  | .error e => .error (.start command.program e)

-- The lines a formula is given to a backend as.
def feedOf (f : Formula) (assumptions : List Lit) : List String :=
  (Dimacs.Encoder.ofFormula f assumptions).lines

-- Run on a formula under assumptions.
def runAssuming {α : Type} (host : Host) (b : Batch α) (f : Formula) (assumptions : List Lit) :
    List Notice × Except Failure α :=
  let begun := .running b.command.program f.size assumptions.length
  match runCommand host b.command (feedOf f assumptions) with
  | .error e => ([begun], .error e)
  | .ok finished =>
    let (notices, result) :=
      b.extract b.command.program (varCountWith f.varCount assumptions) finished
    (begun :: notices, result)

-- Run on a formula and its pending assumptions. The open clause is committed before, and
-- the assumptions are spent whatever comes of it.
def run {α : Type} (host : Host) (b : Batch α) (f : Formula) :
    Formula × List Notice × Except Failure α :=
  let (assumptions, f) := f.close.takeAssumptions
  (f, runAssuming host b f assumptions)

end SatFrontend.Backend

import SatFrontend.Backend.Batch

namespace SatFrontend.Backend.Witness

-- The result lines, and the exit codes that go with them.
def satMarker : String := "s SATISFIABLE"
def unsatMarker : String := "s UNSATISFIABLE"
def satExit : Nat := 10
def unsatExit : Nat := 20

-- What a line of output says.
inductive Line where
  | marker (satisfiable : Bool)
  | values (cs : List Char)
  | other
deriving DecidableEq, Repr

-- A value line is a `v` alone or a `v` and a blank. Blanks at the end of a line do not
-- matter.
def Line.ofText (cs : List Char) : Line :=
  let cs := Text.trimEnd cs
  if cs = satMarker.toList then .marker true
  else if cs = unsatMarker.toList then .marker false
  else match cs with
    | ['v'] => .values []
    | 'v' :: c :: rest => if Text.isBlank c then .values (c :: rest) else .other
    | _ => .other

-- The literals of the words of a value line, where 0 is left out.
def literals (program : String) : List (List Char) → Except Failure (List Lit)
  | [] => .ok []
  | w :: ws =>
    match Text.integer? w with
    | none => .error (.output program (.invalidLiteral (String.ofList w)))
    | some n =>
      if n = 0 then literals program ws
      else match Lit.ofInt n with
        | .error e => .error (.entry e)
        | .ok l => (literals program ws).map (l :: ·)

-- The last marker and the literals of all value lines.
def readLines (program : String) (marker : Option Bool) (model : Array Lit) :
    List (List Char) → Except Failure (Option Bool × List Lit)
  | [] => .ok (marker, model.toList)
  | cs :: rest =>
    match Line.ofText cs with
    | .marker satisfiable => readLines program (some satisfiable) model rest
    | .other => readLines program marker model rest
    | .values vs =>
      match literals program (Text.words vs) with
      | .error e => .error e
      | .ok ls => readLines program marker (model ++ ls) rest

-- The first place where the literals do not go through the variables in order.
def misplaced? (expected : Nat) : List Lit → Option (Nat × Lit)
  | [] => none
  | l :: ls => if l.var.number = expected then misplaced? (expected + 1) ls else some (expected, l)

-- A model has one literal for each variable, in order.
def checkModel (program : String) (varCount : Nat) (model : List Lit) :
    Except Failure (List Lit) :=
  if model.length ≠ varCount then
    .error (.output program (.modelSize model.length varCount))
  else match misplaced? 1 model with
    | some (expected, found) => .error (.output program (.wrongVariable expected found))
    | none => .ok model

-- The model that a solver reports, or none if it reports that there is none. The exit code
-- and the result line have to agree.
def extract (program : String) (varCount : Nat) (finished : Finished) :
    Except Failure (Option (List Lit)) :=
  match finished.exit.code? with
  | none => .error (.exit program none (finished.stdout ++ finished.stderr))
  | some code =>
    if code ≠ satExit ∧ code ≠ unsatExit then
      .error (.exit program (some code) (finished.stdout ++ finished.stderr))
    else do
      let (marker, model) ← readLines program none #[] (Text.lines finished.stdout.toList)
      match marker with
      | none => .error (.output program .noResult)
      | some true =>
        if code = satExit then (checkModel program varCount model).map some
        else .error (.output program (.contradiction code))
      | some false =>
        if code = unsatExit then .ok none
        else .error (.output program (.contradiction code))

-- The search for a model by a solver that follows the conventions of the competitions.
def batch (command : Command) : Batch (Option (List Lit)) where
  command := command
  extract program varCount finished := ([], extract program varCount finished)

end SatFrontend.Backend.Witness

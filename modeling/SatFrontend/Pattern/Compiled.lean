import SatFrontend.Pattern.Reader
import SatFrontend.Pattern.Search
import SatFrontend.Pattern.Size

namespace SatFrontend.Pattern

-- A pattern that can be searched for: its program and the number of its last group.
structure Compiled where
  program : Program
  groups : Nat

-- Why a pattern cannot be used.
inductive PatternError where
  | malformed
  | tooLarge
deriving DecidableEq, Repr

def Compiled.ofText (text : String) : Except PatternError Compiled :=
  match read? text with
  | none => .error .malformed
  | some e =>
    if e.isTooLarge then .error .tooLarge
    else .ok { program := .ofExpression e, groups := e.lastGroup }

-- What the first group took in the first match, if it took part in one.
def Compiled.firstGroup? (p : Compiled) (text : List Char) : Option (List Char) :=
  p.program.firstGroup? text

end SatFrontend.Pattern

namespace SatFrontend.Text

-- Taking a text apart from its beginning. The state is what is left of it, and a failure
-- means that the text has not the form that is asked for.
abbrev Scanning (α : Type) := StateT (List Char) Option α

namespace Scanning

def skip (n : Nat) : Scanning Unit := modify (·.drop n)

-- Take the next character, which must be there.
def next : Scanning Char := do
  match (← get) with
  | c :: rest =>
    set rest
    return c
  | [] => failure

-- Whether `text` comes next.
def sees (text : String) : Scanning Bool := do
  return text.toList.isPrefixOf (← get)

-- Go over `text` if it comes next.
def eat (text : String) : Scanning Bool := do
  if ← sees text then
    skip text.length
    return true
  else
    return false

-- Go over `text`, which must come next.
def expect (text : String) : Scanning Unit := do
  if !(← eat text) then failure

-- Take the longest run of characters that satisfy `p`.
def takeWhile (p : Char → Bool) : Scanning (List Char) := do
  let taken := (← get).takeWhile p
  skip taken.length
  return taken

def skipWhile (p : Char → Bool) : Scanning Unit := modify (·.dropWhile p)

def atEnd : Scanning Bool := do return (← get).isEmpty

-- Apply a scan to a whole text and leave nothing of it.
def all? {α : Type} (m : Scanning α) (cs : List Char) : Option α :=
  match m.run cs with
  | some (a, []) => some a
  | _ => none

end Scanning

end SatFrontend.Text

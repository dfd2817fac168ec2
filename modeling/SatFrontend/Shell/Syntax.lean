import SatFrontend.Text.Bytes

namespace SatFrontend.Shell

open Text (Bytes)

-- What to do instead of giving the value of a parameter as it is.
inductive Alteration where
  -- another text in place of no value
  | otherwise
  -- the same, and the parameter keeps the text
  | assign
  -- end the shell if there is no value
  | demand
  -- another text in place of a value
  | replace
  -- leave out what a pattern matches at the beginning or at the end
  | trim (suffix longest : Bool)
deriving DecidableEq, Repr

mutual

-- How the value of a parameter is used.
inductive Usage where
  | value
  | length
  -- an empty value can count as none
  | alter (how : Alteration) (emptyCounts : Bool) (word : List Piece)
  -- what is between the braces has no meaning
  | bad

-- A part of a word. What is quoted is never split into fields and never a wildcard, and an
-- empty quoted text still makes a field.
inductive Piece where
  | text (bytes : Bytes) (quoted : Bool)
  | parameter (name : Bytes) (usage : Usage) (quoted : Bool)
  | arithmetic (expression : List Piece) (quoted : Bool)
  -- what a script prints
  | substitution (script : Option Script) (quoted : Bool)

-- What a descriptor is connected with.
inductive Redirect where
  | input (descriptor : Nat) (path : List Piece)
  | output (descriptor : Nat) (path : List Piece)
  -- also where files are not to be overwritten
  | overwrite (descriptor : Nat) (path : List Piece)
  | append (descriptor : Nat) (path : List Piece)
  | both (descriptor : Nat) (path : List Piece)
  -- the same as another descriptor
  | copy (descriptor : Nat) (source : List Piece)
  -- a text that follows later in the script
  | document (descriptor : Nat) (index : Nat)

-- A command with the line it stands in where that matters.
inductive Script where
  | simple (line : Nat) (assignments words : List (List Piece)) (redirects : List Redirect)
  | pipeline (parts : List Script) (background : Bool)
  | redirected (line : Nat) (body : Option Script) (redirects : List Redirect)
  | background (line : Nat) (body : Option Script) (redirects : List Redirect)
  -- run by a shell of its own
  | subshell (line : Nat) (body : Option Script) (redirects : List Redirect)
  | sequence (first second : Script)
  | both (first second : Script)
  | either (first second : Script)
  | negated (body : Script)
  | branch (test yes : Option Script) (no : Option Script)
  -- repeat the body as long as the test gives the wanted outcome
  | loop (wanted : Bool) (test body : Option Script)
  | each (line : Nat) (name : Bytes) (words : List (List Piece)) (body : Option Script)
  | choice (line : Nat) (subject : List Piece)
      (arms : List (List (List Piece) × Option Script))
  | define (name : Bytes) (body : Script)

end

abbrev Word := List Piece

def isNameStart (c : Char) : Bool := c.isAlpha || c == '_'

def isNameChar (c : Char) : Bool := c.isAlphanum || c == '_'

def isName (name : Bytes) : Bool := name.head?.any isNameStart && name.all isNameChar

-- Parameters whose names are a single special character or a digit.
def isSpecialParameter (c : Char) : Bool := c.isDigit || "!#$*-?@".toList.contains c

namespace Word

-- The text of a word that holds nothing quoted and nothing to be replaced.
def plain? : Word → Option Bytes
  | [] => some []
  | [.text bytes false] => some bytes
  | _ => none

-- The name that a word gives a value to, if it is an assignment.
def assigned? : Word → Option Bytes
  | .text bytes false :: _ =>
    let name := bytes.takeWhile isNameChar
    if isName name && (bytes.drop name.length).head? == some '=' then some name else none
  | _ => none

-- The value of an assignment to a name.
def assignedValue (name : Bytes) : Word → Word
  | .text bytes false :: rest =>
    let value := bytes.drop (name.length + 1)
    if value.isEmpty then rest else .text value false :: rest
  | w => w

end Word

end SatFrontend.Shell

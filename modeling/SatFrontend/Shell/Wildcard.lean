import SatFrontend.Text.Bytes

namespace SatFrontend.Shell

open Text (Bytes)

-- Stands between two arguments that are one text. No argument holds it.
def border : Char := '\x00'

-- A piece of expanded text. What is quoted is never special, and a mark stands where quotes
-- were, even with nothing between them.
inductive Atom where
  | char (c : Char) (quoted : Bool)
  | mark
deriving DecidableEq, Repr

def Atom.ofBytes (quoted : Bool) (bytes : Bytes) : List Atom := bytes.map (.char · quoted)

def Atom.toBytes (atoms : List Atom) : Bytes :=
  atoms.filterMap fun
    | .char c _ => some c
    | .mark => none

-- What stands between the brackets of a pattern.
inductive Choice where
  | range (first last : Char)
  | members (name : String)
deriving DecidableEq, Repr

-- One place of a pattern: any text, any character, one of some characters or a given one.
inductive Wild where
  | any
  | one
  | among (negated : Bool) (choices : List Choice)
  | exactly (c : Char)
deriving DecidableEq, Repr

namespace Wild

-- The classes of characters that have names. All of them are ASCII.
def classes : List (String × (Char → Bool)) :=
  [("alnum", Char.isAlphanum), ("alpha", Char.isAlpha), ("blank", fun c => c == ' ' || c == '\t'),
    ("cntrl", fun c => c < ' ' || c == '\x7f'), ("digit", Char.isDigit),
    ("graph", fun c => ' ' < c && c < '\x7f'), ("lower", Char.isLower),
    ("print", fun c => ' ' ≤ c && c < '\x7f'),
    ("punct", fun c => ' ' < c && c < '\x7f' && !c.isAlphanum),
    ("space", fun c => " \t\n\x0b\x0c\r".toList.contains c), ("upper", Char.isUpper),
    ("xdigit", fun c => c.isDigit || ('a' ≤ c && c ≤ 'f') || ('A' ≤ c && c ≤ 'F'))]

def Choice.holds (c : Char) : Choice → Bool
  | .range first last => first ≤ c && c ≤ last
  | .members name => ((classes.lookup name).map (· c)).getD false

-- The characters of a pattern, each with whether it stands for itself. A backslash that is not
-- quoted makes the next one do so.
def letters : List Atom → List (Char × Bool)
  | [] => []
  | .mark :: atoms => letters atoms
  | .char '\\' false :: .char c _ :: atoms => (c, true) :: letters atoms
  | .char c quoted :: atoms => (c, quoted) :: letters atoms

-- The name of a class after an opening bracket, and what follows it.
def className? (cs : List (Char × Bool)) : Option (String × List (Char × Bool)) :=
  classes.findSome? fun (name, _) =>
    let text := (":" ++ name ++ ":]").toList
    if text.isPrefixOf (cs.map (·.1)) && (cs.take text.length).all (!·.2) then
      some (name, cs.drop text.length)
    else none

-- What stands before the closing bracket and what follows it, at most `fuel` parts of it.
-- A bracket at the beginning does not close.
def bracket : Nat → Bool → List (Char × Bool) → Option (List Choice × List (Char × Bool))
  | 0, _, _ => none
  | _ + 1, _, [] => none
  | fuel + 1, isFirst, (c, literal) :: cs =>
    if c == ']' && !literal && !isFirst then some ([], cs)
    else
      let (choice, rest) : Choice × List (Char × Bool) :=
        match (if c == '[' && !literal then className? cs else none) with
        | some (name, rest) => (.members name, rest)
        | none =>
          match cs with
          | ('-', false) :: (d, quoted) :: rest =>
            if d == ']' && !quoted then (.range c c, cs) else (.range c d, rest)
          | _ => (.range c c, cs)
      (bracket fuel false rest).map fun (choices, rest) => (choice :: choices, rest)

-- The places of a pattern, at most `fuel` of them.
def ofLetters : Nat → List (Char × Bool) → List Wild
  | 0, _ => []
  | _ + 1, [] => []
  | fuel + 1, (c, literal) :: cs =>
    match c, literal with
    | '*', false => .any :: ofLetters fuel cs
    | '?', false => .one :: ofLetters fuel cs
    | '[', false =>
      let negated := cs.head? == some ('!', false) || cs.head? == some ('^', false)
      let inner := if negated then cs.tail else cs
      match bracket (inner.length + 1) true inner with
      | some (choices, rest) => .among negated choices :: ofLetters fuel rest
      | none => .exactly '[' :: ofLetters fuel cs
    | _, _ => .exactly c :: ofLetters fuel cs

def ofAtoms (atoms : List Atom) : List Wild :=
  let ls := letters atoms
  ofLetters ls.length ls

-- Whether a pattern matches a whole text.
def isMatch : List Wild → Bytes → Bool
  | [], cs => cs.isEmpty
  | .any :: ws, [] => isMatch ws []
  | .any :: ws, c :: cs => isMatch ws (c :: cs) || isMatch (.any :: ws) cs
  | .one :: ws, _ :: cs => isMatch ws cs
  | .among negated choices :: ws, c :: cs => choices.any (Choice.holds c) != negated && isMatch ws cs
  | .exactly d :: ws, c :: cs => c == d && isMatch ws cs
  | _ :: _, [] => false
termination_by ws cs => (ws.length, cs.length)

-- Whether a text is a pattern rather than a name.
def isPattern (ws : List Wild) : Bool :=
  ws.any fun
    | .exactly _ => false
    | _ => true

-- The text that is left when a pattern is taken away from an end of it. The numbers of
-- characters to take are tried in order. Of a text that is all arguments, only what stands
-- before the next border is compared, and the longest end begins in the first argument.
def trim (ws : List Wild) (suffix longest : Bool) (text : Bytes) : Bytes :=
  let size := text.length
  let first := (text.takeWhile (· != border)).length
  let counts := List.range (size + 1)
  let counts := if longest then counts.reverse else counts
  let fits (n : Nat) : Bool :=
    let part := if suffix then text.drop (size - n) else text.take n
    !(suffix && longest && first < size - n) && isMatch ws (part.takeWhile (· != border))
  match counts.find? fits with
  | some n => if suffix then text.take (size - n) else text.drop n
  | none => text

end Wild

end SatFrontend.Shell

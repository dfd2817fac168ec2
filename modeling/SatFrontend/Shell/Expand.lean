import SatFrontend.Shell.Arithmetic
import SatFrontend.Shell.Wildcard

namespace SatFrontend.Shell

open Text (Bytes)
open Effect

-- Where expanded text can be split into fields.
inductive Splitting where
  | nowhere
  -- at the separators of the shell
  | atSeparators
  -- only between arguments
  | atBorders
deriving DecidableEq, Repr

-- Expanded text before it is split.
structure Segment where
  atoms : List Atom
  splitting : Splitting
deriving Repr

-- How a word is expanded.
structure Style where
  -- it is to be split into fields afterwards
  full : Bool := false
  -- it stands in quotes
  quoted : Bool := false
  -- also the text that is written in it is split
  breaks : Bool := false
  -- a tilde can stand at the beginning, and behind colons
  tilde : Bool := false
  colons : Bool := false

def defaultSeparators : Bytes := [' ', '\t', '\n']

-- The characters that fields are separated by.
def separators : Effect Bytes := do return (← value? "IFS".toList).getD defaultSeparators

-- The letters of the options in the order in which they are printed.
def optionOrder : List Char := "pubaCEVvxsnmiIfe".toList

-- All arguments as one text.
def joinedArguments (style : Style) (isList quoted : Bool) : Effect Bytes := do
  let args := (← get).args
  if style.full && (isList || !quoted) then return [border].intercalate args
  let separator ← match ← value? "IFS".toList with
    | none => pure [' ']
    | some cs => pure (cs.take 1)
  return separator.intercalate args

-- The value of a parameter.
def parameter? (style : Style) (quoted : Bool) (name : Bytes) : Effect (Option Bytes) := do
  let s ← get
  match name with
  | ['$'] => return some (decimal s.ownId)
  | ['?'] => return some (decimal s.status)
  | ['#'] => return some (decimal s.args.length)
  | ['!'] => return s.lastBackground.map (fun id => decimal id)
  | ['-'] => return some (optionOrder.filter s.options.contains)
  | ['@'] => return some (← joinedArguments style true quoted)
  | ['*'] => return some (← joinedArguments style false quoted)
  | _ =>
    if name.all Char.isDigit then
      let n := digitsValue name
      return if n = 0 then some s.name else s.args[n - 1]?
    else value? name

-- The directory that a tilde with a name behind it stands for.
def home? (user : Bytes) : Effect (Option Bytes) := do
  if user.isEmpty then value? "HOME".toList
  else return if user == "root".toList then some "/root".toList else none

-- Replace tildes in text that is written in a word. One counts only if its name ends in it.
def tildes (style : Style) (isLast : Bool) : Nat → Bool → Bytes → Effect (List Atom)
  | 0, _, text => return Atom.ofBytes style.quoted text
  | fuel + 1, atStart, text => do
    let ends (c : Char) : Bool := c == '/' || (style.colons && c == ':')
    match atStart, text with
    | true, '~' :: rest =>
      let user := rest.takeWhile (!ends ·)
      let rest := rest.drop user.length
      let closed := !rest.isEmpty || isLast
      let home ← if closed then home? user else pure none
      match home with
      | some home => return Atom.ofBytes true home ++ (← tildes style isLast fuel false rest)
      | none =>
        return Atom.ofBytes style.quoted ('~' :: user) ++ (← tildes style isLast fuel false rest)
    | _, _ =>
      if !style.colons then return Atom.ofBytes style.quoted text
      let before := text.takeWhile (· != ':')
      match text.drop before.length with
      | [] => return Atom.ofBytes style.quoted before
      | c :: rest =>
        return Atom.ofBytes style.quoted (before ++ [c]) ++ (← tildes style isLast fuel true rest)

-- The text of segments as a whole.
def joined (segments : List Segment) : Bytes :=
  segments.flatMap (fun s => Atom.toBytes s.atoms)

-- The pattern that segments are.
def patternOf (segments : List Segment) : List Wild :=
  Wild.ofAtoms (segments.flatMap (·.atoms))

-- How the value of a parameter is split.
def splittingOf (name : Bytes) (quoted : Bool) : Effect Splitting := do
  if !quoted then return .atSeparators
  return if name == ['@'] && !(← get).args.isEmpty then .atBorders else .nowhere

-- A parameter has no value where there has to be one.
def missing {α : Type} (name text : Bytes) : Effect α := abort (name ++ ": ".toList ++ text)

-- Expand a word with at most `fuel` words inside of each other. Scripts are replaced by what
-- they print.
def expand (substitute : Option Script → Effect Bytes) : Nat → Style → Word → Effect (List Segment)
  | 0, _, _ => return []
  | fuel + 1, style, w => do
    let mut out : List (List Segment) := []
    let mut isFirst := true
    let mut left := w.length
    for piece in w do
      left := left - 1
      let segments ← match piece with
        | .text bytes true =>
          pure [⟨if bytes.isEmpty then [.mark] else Atom.ofBytes true bytes, .nowhere⟩]
        | .text bytes false => do
          let atoms ←
            if style.tilde && !style.quoted then
              tildes style (left == 0) (bytes.length + 1) isFirst bytes
            else pure (Atom.ofBytes style.quoted bytes)
          let splitting := if style.breaks && !style.quoted then .atSeparators else .nowhere
          pure [⟨atoms, splitting⟩]
        | .substitution script quoted => do
          let quoted := quoted || style.quoted
          let bytes ← substitute script
          pure [⟨Atom.ofBytes quoted bytes, if quoted then .nowhere else .atSeparators⟩]
        | .arithmetic expression quoted => do
          let quoted := quoted || style.quoted
          let text := joined (← expand substitute fuel {} expression)
          let bytes := decimal (← Arithmetic.value text)
          pure [⟨Atom.ofBytes quoted bytes, if quoted then .nowhere else .atSeparators⟩]
        | .parameter name usage quoted =>
          used fuel style name (quoted || style.quoted) usage
      isFirst := false
      out := segments :: out
    return out.reverse.flatten
where
  used (fuel : Nat) (style : Style) (name : Bytes) (quoted : Bool) (usage : Usage) :
      Effect (List Segment) := do
    let value ← match usage with
      | .bad => abortText "Bad substitution"
      | _ => parameter? style quoted name
    let given (bytes : Bytes) : Effect (List Segment) := do
      return [⟨Atom.ofBytes quoted bytes, ← splittingOf name quoted⟩]
    let demanded : Effect Bytes := do
      match value with
      | some bytes => return bytes
      | none =>
        if ← hasOption 'u' then missing name "parameter not set".toList else return []
    match usage with
    | .bad => return []
    | .value => given (← demanded)
    | .length => given (decimal (← demanded).length)
    | .alter (.trim suffix longest) _ word =>
      let bytes ← demanded
      let pattern := patternOf (← expand substitute fuel { tilde := true } word)
      given (Wild.trim pattern suffix longest bytes)
    | .alter how emptyCounts word =>
      let value := if emptyCounts then value.filter (!·.isEmpty) else value
      let inner : Style := { style with quoted, breaks := !quoted, tilde := true, colons := false }
      match how, value with
      | .replace, none => return []
      | .replace, some _ => expand substitute fuel inner word
      | _, some bytes => given bytes
      | .otherwise, none => expand substitute fuel inner word
      | .assign, none =>
        setVariable name (joined (← expand substitute fuel { tilde := true } word))
        given ((← parameter? style quoted name).getD [])
      | _, none =>
        let text := joined (← expand substitute fuel { tilde := true } word)
        if !word.isEmpty then missing name text
        else if emptyCounts then missing name "parameter not set or null".toList
        else missing name "parameter not set".toList

-- Fields in the middle of being split off: those that are done, the last one first, the field
-- that may go on, backwards, and whether blanks behind a field are passed over.
structure Splitter where
  done : List (List Atom) := []
  current : List Atom := []
  inBlanks : Bool := false
  -- the last text was split only between arguments
  afterBorders : Bool := false
  -- how many fields there can still be, if there is a limit
  left : Option Nat := none
  -- what the last field is if nothing but separators follows
  short : Option (List Atom) := none

namespace Splitter

def push (s : Splitter) (a : Atom) : Splitter := { s with current := a :: s.current }

-- End a field at a separator. The last field that is possible goes on.
def finishField (s : Splitter) (a : Atom) : Splitter :=
  let ended : Splitter := { s with done := s.current.reverse :: s.done, current := [] }
  match s.left with
  | none => ended
  | some (n + 2) => { ended with left := some (n + 1) }
  | some _ => { s.push a with left := some 0, short := some s.current }

-- Take in an atom of text that is split.
def take (separators : Bytes) (borders afterBorders : Bool) (s : Splitter) (a : Atom) : Splitter :=
  match a with
  | .mark => s.push a
  | .char c _ =>
    let separates := c == border || (!borders && separators.contains c)
    let isBlank := separates && (c == border || defaultSeparators.contains c)
    if s.left == some 0 then
      -- the last field ends where only blanks follow, with at most one separator among them
      if isBlank then { s.push a with short := s.short.or (some s.current) }
      else
        let short := if separates && s.inBlanks then s.short else none
        { s.push a with short, inBlanks := false }
    else if s.inBlanks then
      if isBlank then s
      -- a separator that is no blank belongs to the blanks before it
      else if separates then { s with inBlanks := false }
      else { s.push a with inBlanks := false }
    else if separates then
      let blank := isBlank && !(afterBorders || borders)
      if blank && s.current.isEmpty then s
      else { s.finishField a with inBlanks := blank }
    else s.push a

def segment (separators : Bytes) (s : Splitter) (g : Segment) : Splitter :=
  match g.splitting with
  | .nowhere => { s with current := g.atoms.reverse ++ s.current }
  | splitting =>
    let borders := decide (splitting = .atBorders)
    let start := { s with inBlanks := false, afterBorders := borders }
    g.atoms.foldl (take separators borders s.afterBorders) start

-- The fields of segments, at most as many as the limit says. After text that was split between
-- arguments there is always one more field.
def fields (separators : Bytes) (limit : Option Nat) (segments : List Segment) :
    List (List Atom) :=
  let s := segments.foldl (segment separators) { left := limit }
  let last := s.short.getD s.current
  let done := if s.afterBorders || !last.isEmpty then last.reverse :: s.done else s.done
  done.reverse

end Splitter

-- Cut atoms at slashes.
def splitAtSlashes : List Atom → List (List Atom)
  | [] => [[]]
  | .char '/' _ :: atoms => [] :: splitAtSlashes atoms
  | a :: atoms =>
    match splitAtSlashes atoms with
    | [] => [[a]]
    | part :: parts => (a :: part) :: parts

-- The paths that are there for the parts of a pattern. A name that begins with a dot is only
-- matched by a pattern that does.
def matchingPaths (before : Bytes) (wasPattern : Bool) : List (List Atom) → Effect (List Bytes)
  | [] => return []
  | part :: parts => do
    let pattern := Wild.ofAtoms part
    if Wild.isPattern pattern then
      let names ← ask (.list (if before.isEmpty then ['.'] else before))
      let dotted := pattern.head? == some (.exactly '.')
      let names := if dotted then ['.'] :: ['.', '.'] :: names else names
      let names := names.filter fun name =>
        (dotted || name.head? != some '.') && Wild.isMatch pattern name
      match parts with
      | [] => return names.map (before ++ ·)
      | _ =>
        let paths ← names.mapM fun name => matchingPaths (before ++ name ++ ['/']) true parts
        return paths.flatten
    else
      let path := before ++ pattern.filterMap fun
        | .exactly c => some c
        | _ => none
      match parts with
      | [] =>
        if !wasPattern then return []
        match ← ask (.inspect path) with
        | .ok _ => return [path]
        | .error _ => return []
      | _ => matchingPaths (path ++ ['/']) wasPattern parts

-- The paths that a field stands for, or else the field itself.
def paths (field : List Atom) : Effect (List Bytes) := do
  let plain := Atom.toBytes field
  if (← hasOption 'f') || !Wild.isPattern (Wild.ofAtoms field) then return [plain]
  match ← matchingPaths [] false (splitAtSlashes field) with
  | [] => return [plain]
  | found => return found.mergeSort Text.inOrder

-- Words are not inside of each other more often.
def depth : Nat := 1000000000

variable (substitute : Option Script → Effect Bytes)

-- The fields that a word stands for.
def fields (w : Word) : Effect (List Bytes) := do
  let segments ← expand substitute depth { full := true, tilde := true } w
  let found ← (Splitter.fields (← separators) none segments).mapM paths
  return found.flatten

-- The text that a word stands for where nothing is split.
def textOf (style : Style) (w : Word) : Effect Bytes := do
  return joined (← expand substitute depth style w)

-- The pattern that a word stands for.
def pattern (w : Word) : Effect (List Wild) := do
  return patternOf (← expand substitute depth { tilde := true } w)

end SatFrontend.Shell

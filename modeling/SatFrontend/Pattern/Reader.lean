import SatFrontend.Pattern.Expression
import SatFrontend.Unicode.Folding
import SatFrontend.Unicode.Lookup

namespace SatFrontend.Pattern

open Unicode (CharSet)

-- How the rest of a pattern is to be understood.
structure Flags where
  caseless : Bool := false
  -- `^` and `$` match at the lines inside of the text
  multiLine : Bool := true
  -- the dot matches a line feed as well
  dotAll : Bool := false
  -- plain repetitions are lazy and those with a `?` greedy
  swapGreed : Bool := false
  -- classes and word borders know more than ASCII
  unicode : Bool := true
  -- carriage returns end lines as well
  returns : Bool := false
  -- blanks and comments in the pattern do not count
  verbose : Bool := false
deriving DecidableEq, Repr

-- What is left of a pattern while it is read.
structure Reading where
  rest : List Char
  flags : Flags := {}
  groups : Nat := 0
  names : List (List Char) := []

-- A piece of a pattern that is read from its beginning.
abbrev Read (α : Type) := StateT Reading Option α

namespace Read

def peek : Read (Option Char) := do return (← get).rest.head?

def skip (n : Nat) : Read Unit := modify (fun r => { r with rest := r.rest.drop n })

-- The next character, which must be there.
def next : Read Char := do
  match (← get).rest with
  | c :: rest =>
    modify ({ · with rest })
    return c
  | [] => failure

-- Go over `text` if it comes next.
def eat (text : String) : Read Bool := do
  if text.toList.isPrefixOf (← get).rest then
    skip text.length
    return true
  else
    return false

-- Go over all characters that come next and satisfy `p`.
def takeWhile (p : Char → Bool) : Read (List Char) := do
  let taken := (← get).rest.takeWhile p
  skip taken.length
  return taken

-- What is left after blanks and comments. `inComment` tells whether the text begins inside of
-- a comment.
def dropSpace (inComment : Bool) : List Char → List Char
  | [] => []
  | c :: cs =>
    if inComment then dropSpace (c != '\n') cs
    else if Text.isBlank c then dropSpace false cs
    else if c == '#' then dropSpace true cs
    else c :: cs

-- Go over what does not count at all.
def skipSpace : Read Unit :=
  modify (fun r => if r.flags.verbose then { r with rest := dropSpace false r.rest } else r)

-- Go over the next character and what does not count after it. There must be more after that.
def advance : Read Unit := do
  skip 1
  skipSpace
  if (← peek).isNone then failure

-- Go over the next character, which is `c`, and what does not count after it.
def pass (c : Char) : Read Unit := do
  if (← peek) != some c then failure
  skip 1
  skipSpace

end Read

open Read

-- The hexadecimal digits that come next, exactly `n` of them.
def hexDigits : Nat → Read (List Char)
  | 0 => pure []
  | n + 1 => do
    match ← peek with
    | some c =>
      if (Text.hexDigit? c).isNone then failure
      skip 1
      skipSpace
      return c :: (← hexDigits n)
    | none => failure

-- Characters up to a closing brace, which is gone over. What does not count between them is
-- left out; at most `fuel` characters are read.
def braced : Nat → Read (List Char)
  | 0 => failure
  | fuel + 1 => do
    match ← peek with
    | some '\x7d' =>
      skip 1
      return []
    | some c =>
      skip 1
      skipSpace
      return c :: (← braced fuel)
    | none => failure

def bracedText : Read (List Char) := do
  skip 1
  skipSpace
  braced ((← get).rest.length + 1)

-- A hexadecimal escape after its letter: a fixed number of digits, or any number of them in
-- braces. Without Unicode a character of two digits is a byte, which has to be ASCII.
def hexEscape (length : Nat) : Read Char := do
  skipSpace
  if (← peek) == some '\x7b' then
    let digits ← bracedText
    skipSpace
    Text.codePoint? digits
  else
    let c ← Text.codePoint? (← hexDigits length)
    if length = 2 && 0x7F < c.toNat && !(← get).flags.unicode then failure
    return c

-- An escaped character that stands for one character. ASCII punctuation and controls stand
-- for themselves, the other letters and digits are reserved.
def charEscape (c : Char) : Read Char :=
  match c with
  | 'n' => pure '\n'
  | 't' => pure '\t'
  | 'r' => pure '\r'
  | 'a' => pure '\x07'
  | 'f' => pure '\x0c'
  | 'v' => pure '\x0b'
  | 'x' => hexEscape 2
  | 'u' => hexEscape 4
  | 'U' => hexEscape 8
  | _ => if c.toNat < 0x80 && !c.isAlphanum && c != '<' && c != '>' then pure c else failure

-- The set without its negation, which is not possible among bytes.
def negatedIf (flags : Flags) (negated : Bool) (s : CharSet) : Read CharSet :=
  if !negated then pure s
  else if flags.unicode then pure s.complement
  else failure

-- The set in the sense of the flags: with other cases, if these do not matter.
def folded (flags : Flags) (s : CharSet) : CharSet :=
  if !flags.caseless then s else if flags.unicode then s.foldCase else s.foldAsciiCase

-- The classes that have a letter of their own.
def classEscape? (c : Char) : Option (Read CharSet) :=
  let class_ (unicode : Unit → CharSet) (ascii : List (Nat × Nat)) : Read CharSet := do
    let flags := (← get).flags
    negatedIf flags c.isUpper (if flags.unicode then unicode () else ⟨ascii⟩)
  match c.toLower with
  | 'd' => some (class_ (fun _ => Unicode.decimalDigits) [(0x30, 0x39)])
  | 's' => some (class_ (fun _ => Unicode.whiteSpace) [(0x09, 0x0D), (0x20, 0x20)])
  | 'w' => some (class_ (fun _ => Unicode.wordCharacters)
      [(0x30, 0x39), (0x41, 0x5A), (0x5F, 0x5F), (0x61, 0x7A)])
  | _ => none

-- The parts of a text before and after the first place where `separator` stands.
def cutAt? (separator : List Char) : List Char → Option (List Char × List Char)
  | [] => none
  | c :: cs =>
    if separator.isPrefixOf (c :: cs) then some ([], (c :: cs).drop separator.length)
    else (cutAt? separator cs).map (fun parts => (c :: parts.1, parts.2))

-- A class that is given by a property, after its letter. A value can be asked for in three
-- ways, which all mean the same.
def propertyClass (negated : Bool) : Read CharSet := do
  skipSpace
  let flags := (← get).flags
  if !flags.unicode then failure
  let s? ← match ← peek with
    | some '\x7b' => do
      let text ← bracedText
      let parts := [['!', '='], [':'], ['=']].findSome? (cutAt? · text)
      pure (match parts with
        | some (property, value) => Unicode.valuedSet? property value
        | none => Unicode.namedSet? text)
    | some c => do
      skip 1
      pure (if c = '\\' then none else Unicode.namedSet? [c])
    | none => failure
  let s ← s?
  negatedIf flags negated (folded flags s)

-- The ASCII classes that are written by name inside of a class.
def namedClass? : String → Option (List (Nat × Nat))
  | "alnum" => some [(0x30, 0x39), (0x41, 0x5A), (0x61, 0x7A)]
  | "alpha" => some [(0x41, 0x5A), (0x61, 0x7A)]
  | "ascii" => some [(0x00, 0x7F)]
  | "blank" => some [(0x09, 0x09), (0x20, 0x20)]
  | "cntrl" => some [(0x00, 0x1F), (0x7F, 0x7F)]
  | "digit" => some [(0x30, 0x39)]
  | "graph" => some [(0x21, 0x7E)]
  | "lower" => some [(0x61, 0x7A)]
  | "print" => some [(0x20, 0x7E)]
  | "punct" => some [(0x21, 0x2F), (0x3A, 0x40), (0x5B, 0x60), (0x7B, 0x7E)]
  | "space" => some [(0x09, 0x0D), (0x20, 0x20)]
  | "upper" => some [(0x41, 0x5A)]
  | "word" => some [(0x30, 0x39), (0x41, 0x5A), (0x5F, 0x5F), (0x61, 0x7A)]
  | "xdigit" => some [(0x30, 0x39), (0x41, 0x46), (0x61, 0x66)]
  | _ => none

-- A class that is written by name between colons, with its bracket. What cannot be read
-- this way is left for a class inside of the class.
def namedClass : Read (Option CharSet) := do
  let saved ← get
  let opened ← eat "[:"
  let negated ← eat "^"
  let name ← takeWhile (· != ':')
  let closed ← eat ":]"
  match namedClass? (String.ofList name) with
  | some ranges =>
    if opened && closed then
      return some (← negatedIf saved.flags negated (folded saved.flags ⟨ranges⟩))
  | none => pure ()
  set saved
  return none

-- Parts may be nested up to this depth.
def maxDepth : Nat := 250

-- Something that was read, and how deep it is nested.
structure Nested (α : Type) where
  value : α
  depth : Nat := 0

-- The depth of several parts together, which is one more than that of a single part.
def joinedDepth {α : Type} (parts : List (Nested α)) : Nat :=
  match parts with
  | [] => 0
  | [part] => part.depth
  | _ => parts.foldl (fun n part => max n part.depth) 0 + 1

-- The next end of a range inside of a class, or a class that cannot be one.
def classAtom : Read (Char ⊕ CharSet) := do
  let flags := (← get).flags
  let c ← next
  if c = '\\' then
    let e ← next
    if e = 'p' || e = 'P' then return .inr (← propertyClass (e = 'P'))
    match classEscape? e with
    | some s => return .inr (← s)
    | none => literal flags (← charEscape e)
  else literal flags c
where
  -- there are only ASCII characters among bytes
  literal (flags : Flags) (c : Char) : Read (Char ⊕ CharSet) :=
    if !flags.unicode && 0x7F < c.toNat then failure else return .inl c

-- An operator between the parts of a class.
inductive SetOperator where
  | intersection
  | difference
  | symmetricDifference

def SetOperator.apply : SetOperator → CharSet → CharSet → CharSet
  | intersection, s, t => s.intersection t
  | difference, s, t => s.difference t
  | symmetricDifference, s, t => s.symmetricDifference t

def setOperator : Read (Option SetOperator) := do
  if ← eat "&&" then return some .intersection
  else if ← eat "--" then return some .difference
  else if ← eat "~~" then return some .symmetricDifference
  else return none

-- The parts of a class so far: what stands before the last operator, and what comes after it
-- up to now, in reverse order.
structure ClassParts where
  negated : Bool
  before : Option (Nested CharSet × SetOperator) := none
  items : List (Nested CharSet) := []

def ClassParts.push (p : ClassParts) (s : CharSet) (depth : Nat) : ClassParts :=
  { p with items := ⟨s, depth⟩ :: p.items }

-- Everything so far as one set. Operators are applied from left to right.
def ClassParts.all (p : ClassParts) (flags : Flags) : Nested CharSet :=
  let s := CharSet.unionAll (p.items.map (·.value))
  let depth := joinedDepth p.items
  match p.before with
  | some (left, op) =>
    ⟨op.apply (folded flags left.value) (folded flags s), max left.depth depth + 1⟩
  | none => ⟨s, depth⟩

-- The hyphens that stand for themselves at the beginning of a class, at most `fuel` of them.
def leadingHyphens : Nat → ClassParts → Read ClassParts
  | 0, p => pure p
  | fuel + 1, p => do
    if (← peek) == some '-' then
      advance
      leadingHyphens fuel (p.push (.single '-') 0)
    else return p

-- The beginning of a class with its bracket: whether it is negated, and the hyphens or the
-- closing bracket that stand for themselves there.
def classStart : Read ClassParts := do
  advance
  let negated := (← peek) == some '^'
  if negated then advance
  let p ← leadingHyphens (← get).rest.length { negated }
  if p.items.isEmpty && (← peek) == some ']' then
    advance
    return p.push (.single ']') 0
  else
    return p

-- What comes after the next character and after what does not count.
def secondChar? : Read (Option Char) := do
  let r ← get
  let after := r.rest.drop 1
  if !r.flags.verbose then return after.head?
  let visible := after.dropWhile Text.isBlank
  let visible := if visible.head? == some '#' then (visible.drop 1).dropWhile Text.isBlank
    else visible
  return visible.head?.or after.head?

-- A single character, a range or a class with a letter of its own.
def classRange : Read CharSet := do
  let low ← classAtom
  skipSpace
  let second ← secondChar?
  if (← peek) != some '-' || second == some ']' || second == some '-' then
    match low with
    | .inl c => return .single c
    | .inr s => return s
  else
    advance
    match low, ← classAtom with
    | .inl low, .inl high => if low ≤ high then return .range low high else failure
    | _, _ => failure

-- The rest of a class up to and with its closing bracket. Classes can stand in classes, at
-- most `fuel` of their parts are read.
def classBody (level : Nat) : Nat → ClassParts → Read (Nested CharSet)
  | 0, _ => failure
  | fuel + 1, p => do
    let flags := (← get).flags
    skipSpace
    match ← peek with
    | none => failure
    | some ']' =>
      skip 1
      let s := p.all flags
      return ⟨← negatedIf flags p.negated (folded flags s.value), s.depth + 1⟩
    | some '[' =>
      match ← namedClass with
      | some s => classBody level fuel (p.push s 0)
      | none =>
        if maxDepth < level then failure
        let inner ← classBody (level + 1) fuel (← classStart)
        classBody level fuel { p with items := inner :: p.items }
    | some _ =>
      match ← setOperator with
      | some op => classBody level fuel { p with before := some (p.all flags, op), items := [] }
      | none =>
        let s ← classRange
        classBody level fuel (p.push s 0)

-- Set one flag by its letter.
def Flags.set? (flags : Flags) (value : Bool) : Char → Option Flags
  | 'i' => some { flags with caseless := value }
  | 'm' => some { flags with multiLine := value }
  | 's' => some { flags with dotAll := value }
  | 'U' => some { flags with swapGreed := value }
  | 'u' => some { flags with unicode := value }
  | 'R' => some { flags with returns := value }
  | 'x' => some { flags with verbose := value }
  | _ => none

-- Flags as they are written: those that are set, and after a hyphen those that are unset.
-- There is at least one after the hyphen, and none is named twice.
def flagsOf (flags : Flags) (cs : List Char) : Option Flags := do
  let letters := cs.filter (· != '-')
  let on := cs.takeWhile (· != '-')
  let off := cs.dropWhile (· != '-')
  if letters.eraseDups.length != letters.length || off == ['-'] ||
      off.drop 1 != off.filter (· != '-') then
    none
  else
    (off.drop 1).foldlM (·.set? false) (← on.foldlM (·.set? true) flags)

def alphabetic : CharSet := Unicode.alphabetic

def alphanumeric : CharSet := Unicode.alphanumeric

-- Whether a character can be part of a name of a group.
def isNameChar (first : Bool) (c : Char) : Bool :=
  if first then c == '_' || alphabetic.mem c
  else c == '_' || c == '.' || c == '[' || c == ']' || alphanumeric.mem c

-- The beginning of something in parentheses.
inductive GroupStart where
  -- flags for the rest of the group around it
  | flags (flags : Flags)
  | plain (flags : Flags)
  | numbered (index : Nat)

-- What follows an opening parenthesis.
def groupStart : Read GroupStart := do
  skipSpace
  let flags := (← get).flags
  let numbered : Read GroupStart := do
    modify (fun r => { r with groups := r.groups + 1 })
    return .numbered (← get).groups
  if (← eat "?=") || (← eat "?!") || (← eat "?<=") || (← eat "?<!") then failure
  else if (← eat "?P<") || (← eat "?<") then
    let name ← takeWhile (· != '>')
    if !(← eat ">") || name.isEmpty || !(name.take 1).all (isNameChar true) ||
        !(name.drop 1).all (isNameChar false) || (← get).names.contains name then failure
    modify (fun r => { r with names := name :: r.names })
    numbered
  else if ← eat "?" then
    let letters ← takeWhile (fun c => c != ':' && c != ')')
    let flags ← flagsOf flags letters
    match ← next with
    | ':' => return .plain flags
    | _ => if letters.isEmpty then failure else return .flags flags
  else numbered

def maxCount : Nat := 4294967295

-- The decimal number that comes next, among blanks.
def decimal (fuel : Nat) : Read Nat := do
  let _ ← takeWhile Text.isBlank
  let ds ← digits fuel
  let _ ← takeWhile Text.isBlank
  skipSpace
  match Text.digits? ds with
  | some n => if n ≤ maxCount then return n else failure
  | none => failure
where
  digits : Nat → Read (List Char)
    | 0 => pure []
    | fuel + 1 => do
      match ← peek with
      | some c =>
        if c.isDigit then
          skip 1
          skipSpace
          return c :: (← digits fuel)
        else return []
      | none => return []

-- The bounds of a counted repetition after its opening brace, with the closing one.
def bounds : Read (Nat × Option Nat) := do
  skipSpace
  let size := (← get).rest.length
  let low ← decimal size
  if (← peek) == some ',' then
    advance
    if (← peek) == some '\x7d' then
      pass '\x7d'
      return (low, none)
    let high ← decimal size
    pass '\x7d'
    if low ≤ high then return (low, some high) else failure
  else
    pass '\x7d'
    return (low, some low)

-- The bounds of a repetition by its first character.
def repetition (c : Char) : Read (Nat × Option Nat) :=
  match c with
  | '*' => pure (0, none)
  | '+' => pure (1, none)
  | '?' => pure (0, some 1)
  | _ => bounds

-- The border of a word, which may be told more exactly in braces. Braces that do not begin
-- with a letter or a hyphen are those of a repetition.
def wordBorder (ascii : Bool) : Read Anchor := do
  let saved ← get
  let inName (c : Char) : Bool := c.isAlpha || c == '-'
  if (← peek) == some '\x7b' then
    advance
    if !((← peek).any inName) then
      set saved
      return .word .edge ascii
    let name ← braced ((← get).rest.length + 1)
    match String.ofList name with
    | "start" => return .word .start ascii
    | "end" => return .word .stop ascii
    | "start-half" => return .word .notAfterWord ascii
    | "end-half" => return .word .notBeforeWord ascii
    | _ => failure
  else return .word .edge ascii

-- A character that stands for itself.
def verbatim (flags : Flags) (c : Char) : Expression :=
  if flags.caseless && (flags.unicode || c.toNat < 0x80) then
    .ofSet (folded flags (.single c))
  else .literal [c]

-- What is escaped by a backslash.
def escaped (flags : Flags) : Read Expression := do
  let c ← next
  let ascii := !flags.unicode
  match c with
  | 'A' => return .anchor .textStart
  | 'z' => return .anchor .textEnd
  | 'b' => return .anchor (← wordBorder ascii)
  | 'B' => return .anchor (.word .noEdge ascii)
  | '<' => return .anchor (.word .start ascii)
  | '>' => return .anchor (.word .stop ascii)
  | 'p' | 'P' => return .ofSet (← propertyClass (c = 'P'))
  | _ =>
    match classEscape? c with
    | some s => return .ofSet (← s)
    | none => return verbatim flags (← charEscape c)

-- An expression that is no group, class or repetition. A dot can match any character, so it
-- makes no sense among bytes.
def atom (flags : Flags) (c : Char) : Read Expression := do
  match c with
  | '.' =>
    if !flags.unicode then failure
    let excluded : CharSet :=
      if flags.dotAll then .empty
      else if flags.returns then ⟨[(10, 10), (13, 13)]⟩
      else .single '\n'
    return .ofSet excluded.complement
  | '^' => return .anchor (if flags.multiLine then .lineStart flags.returns else .textStart)
  | '$' => return .anchor (if flags.multiLine then .lineEnd flags.returns else .textEnd)
  | '\\' => escaped flags
  | _ => return verbatim flags c

-- A part of a sequence. Flags are parts too, but they cannot be repeated.
structure Item where
  part : Nested Expression
  repeatable : Bool := true

-- A sequence that was read in reverse order.
def sequenceOf (items : List Item) : Nested Expression :=
  let parts := items.reverse.map (·.part)
  ⟨.sequence (parts.map (·.value)), joinedDepth parts⟩

-- Alternatives that were read in reverse order.
def choiceOf (alternatives : List (Nested Expression)) : Nested Expression :=
  let es := alternatives.reverse
  match es with
  | [e] => e
  | _ =>
    let size := es.foldl (fun n e => n + e.value.parts.length) 0
    ⟨.choice size (es.map (·.value)), joinedDepth es⟩

-- Read alternatives up to a closing parenthesis or the end. `done` are the alternatives
-- before the current one and `items` its parts so far, both in reverse order. At most
-- `fuel` parts are read.
def expression (level : Nat) : Nat → List (Nested Expression) → List Item →
    Read (Nested Expression)
  | 0, _, _ => failure
  | fuel + 1, done, items => do
    skipSpace
    let flags := (← get).flags
    let group (index : Option Nat) (inner : Nested Expression) : Item :=
      let e := match index with
        | some i => .group i inner.value
        | none => inner.value
      ⟨⟨e, inner.depth + 1⟩, true⟩
    match ← peek with
    | none | some ')' => return choiceOf (sequenceOf items :: done)
    | some '|' =>
      skip 1
      expression level fuel (sequenceOf items :: done) []
    | some '(' =>
      skip 1
      if maxDepth < level then failure
      match ← groupStart with
      | .flags flags =>
        modify ({ · with flags })
        expression level fuel done (⟨⟨.empty, 0⟩, false⟩ :: items)
      | .plain inner =>
        modify ({ · with flags := inner })
        let e ← expression (level + 1) fuel [] []
        if !(← eat ")") then failure
        modify ({ · with flags })
        expression level fuel done (group none e :: items)
      | .numbered index =>
        let e ← expression (level + 1) fuel [] []
        if !(← eat ")") then failure
        modify ({ · with flags })
        expression level fuel done (group (some index) e :: items)
    | some '[' =>
      let s ← classBody 0 fuel (← classStart)
      expression level fuel done (⟨⟨.ofSet s.value, s.depth⟩, true⟩ :: items)
    | some c =>
      skip 1
      if c = '*' || c = '+' || c = '?' || c = '\x7b' then
        let some item := items.head? | failure
        if !item.repeatable || maxDepth < item.part.depth then failure
        let (min, max) ← repetition c
        let lazily ← eat "?"
        let greedy := lazily == flags.swapGreed
        let e := Expression.repeating item.part.value min max greedy
        expression level fuel done (⟨⟨e, item.part.depth + 1⟩, true⟩ :: items.tail)
      else
        let e ← atom flags c
        expression level fuel done (⟨⟨e, 0⟩, true⟩ :: items)

-- Read a whole pattern, in which `^` and `$` match at lines.
def read? (text : String) : Option Expression := do
  let cs := text.toList
  let (e, r) ← (expression 0 (2 * cs.length + 2) [] []).run { rest := cs }
  if r.rest.isEmpty && e.depth ≤ maxDepth then some e.value else none

end SatFrontend.Pattern

import SatFrontend.Text.Numeral
import SatFrontend.Text.Scanning
import SatFrontend.Toml.Value

namespace SatFrontend.Toml

open Text Text.Scanning

def isSpace (c : Char) : Bool := c == ' ' || c == '\t'

-- Controls are not allowed in comments.
def isCommentChar (c : Char) : Bool := c == '\t' || ' ' ≤ c

-- Controls are not allowed in texts either, and neither is the one at the end of ASCII.
def isTextChar (c : Char) : Bool := isCommentChar c && c != '\x7f'

def isBareKeyChar (c : Char) : Bool := c.isAlphanum || c == '-' || c == '_'

-- A carriage return and a line feed are one line end.
def foldLineEnds : List Char → List Char
  | '\r' :: '\n' :: cs => '\n' :: foldLineEnds cs
  | c :: cs => c :: foldLineEnds cs
  | [] => []

-- What is left after blanks, line ends and comments. `inComment` tells whether the text
-- begins inside of a comment.
def dropGaps (inComment : Bool) : List Char → List Char
  | [] => []
  | c :: cs =>
    if c == '\n' then dropGaps false cs
    else if inComment then
      if isCommentChar c then dropGaps true cs else c :: cs
    else if c == '#' then dropGaps true cs
    else if isSpace c then dropGaps false cs
    else c :: cs

def skipGaps : Scanning Unit := modify (dropGaps false)

def skipBlanks : Scanning Unit := skipWhile isSpace

-- Go over the end of a line, which may have a comment before it.
def endLine : Scanning Unit := do
  skipBlanks
  if ← eat "#" then skipWhile isCommentChar
  if !(← atEnd) then expect "\n"

-- The two kinds of quotes. Escapes are read only between double ones.
structure Quote where
  mark : Char
  escapes : Bool
  multiLine : Bool

-- The quote that begins here, if there is one. A line feed right after three marks does not
-- belong to the text.
def openQuote : Scanning (Option Quote) := do
  if ← eat "\"\"\"" then
    let _ ← eat "\n"
    return some ⟨'"', true, true⟩
  else if ← eat "'''" then
    let _ ← eat "\n"
    return some ⟨'\'', false, true⟩
  else if ← eat "\"" then
    return some ⟨'"', true, false⟩
  else if ← eat "'" then
    return some ⟨'\'', false, false⟩
  else
    return none

-- The character of an escape that was begun by a backslash. A text of several lines can
-- be broken where it does not count: the line end and all blanks after it are left out.
def escape (multiLine : Bool) : Scanning (List Char) := do
  match ← next with
  | '"' => return ['"']
  | '\\' => return ['\\']
  | 'b' => return ['\x08']
  | 'f' => return ['\x0c']
  | 'n' => return ['\n']
  | 'r' => return ['\r']
  | 't' => return ['\t']
  | 'u' => codePoint 4
  | 'U' => codePoint 8
  | c =>
    if !multiLine then failure
    else
      if isSpace c then
        skipBlanks
        if !(← atEnd) then expect "\n"
      else if c != '\n' then
        failure
      skipWhile (fun c => isSpace c || c == '\n')
      return []
where
  codePoint (length : Nat) : Scanning (List Char) := do
    let digits := (← get).take length
    skip length
    let c ← if digits.length = length then codePoint? digits else none
    return [c]

-- The next piece of a quoted text, and whether the text ends with it. Up to two marks may
-- stand before the three that end a text of several lines.
def piece (q : Quote) : Scanning (List Char × Bool) := do
  let marks := ((← get).takeWhile (· == q.mark)).take (if q.multiLine then 5 else 1)
  skip marks.length
  if !marks.isEmpty then
    if !q.multiLine then return ([], true)
    else if marks.length < 3 then return (marks, false)
    else return (marks.drop 3, true)
  let c ← next
  if c == '\\' && q.escapes then return (← escape q.multiLine, false)
  else if isTextChar c || (c == '\n' && q.multiLine) then return ([c], false)
  else failure

-- A quoted text up to its end. Each piece takes at least one character.
def quoted (q : Quote) : Nat → Scanning (List Char)
  | 0 => failure
  | fuel + 1 => do
    let (cs, last) ← piece q
    if last then return cs
    else return cs ++ (← quoted q fuel)

-- A key is bare or quoted on one line.
def key (fuel : Nat) : Scanning String := do
  match ← openQuote with
  | some q => if q.multiLine then failure else return String.ofList (← quoted q fuel)
  | none =>
    let cs ← takeWhile isBareKeyChar
    if cs.isEmpty then failure else return String.ofList cs

-- Keys with dots between them.
def dottedKey : Nat → Scanning (List String)
  | 0 => failure
  | fuel + 1 => do
    let k ← key fuel
    skipBlanks
    if ← eat "." then
      skipBlanks
      return k :: (← dottedKey fuel)
    else
      return [k]

-- The key of an entry up to its value.
def entryKey (fuel : Nat) : Scanning (List String) := do
  let ks ← dottedKey fuel
  expect "="
  skipBlanks
  return ks

mutual

-- A text, a list or a table between braces.
def value : Nat → Scanning Value
  | 0 => failure
  | fuel + 1 => do
    match ← openQuote with
    | some q => return .text (String.ofList (← quoted q fuel))
    | none =>
      if ← eat "[" then return .list (← elements fuel)
      else if ← eat "\x7b" then
        skipBlanks
        if ← eat "\x7d" then return .table false []
        else return .table false (← innerEntries [] fuel)
      else failure

-- The elements of a list up to its end, which may be on other lines.
def elements : Nat → Scanning (List Value)
  | 0 => failure
  | fuel + 1 => do
    skipGaps
    if ← eat "]" then return []
    let v ← value fuel
    skipGaps
    if ← eat "," then return v :: (← elements fuel)
    expect "]"
    return [v]

-- The entries of a table up to its closing brace, all on one line.
def innerEntries (t : Table) : Nat → Scanning Table
  | 0 => failure
  | fuel + 1 => do
    let ks ← entryKey fuel
    let v ← value fuel
    let t ← t.insert ks v
    skipBlanks
    if ← eat "\x7d" then return t
    expect ","
    skipBlanks
    innerEntries t fuel

end

-- The entries up to the next header, one on a line.
def entries (t : Table) : Nat → Scanning Table
  | 0 => failure
  | fuel + 1 => do
    skipGaps
    if (← atEnd) || (← sees "[") then return t
    let ks ← entryKey fuel
    let v ← value fuel
    endLine
    let t ← t.insert ks v
    entries t fuel

-- The tables under headers, up to the end. No setting is deeper than that, so a header is a
-- single key.
def sections (t : Table) : Nat → Scanning Table
  | 0 => failure
  | fuel + 1 => do
    if ← atEnd then return t
    expect "["
    skipBlanks
    let k ← key fuel
    skipBlanks
    expect "]"
    endLine
    let inner ← entries [] fuel
    let t ← t.insert [k] (.table false inner)
    sections t fuel

-- A whole text. Every round of a loop takes at least one character, so that their number is
-- bounded by the length. A byte order mark may come first.
def read? (text : String) : Option Value :=
  let cs := foldLineEnds text.toList
  let cs := if cs.head? = some '\uFEFF' then cs.tail else cs
  let fuel := cs.length + 1
  let document : Scanning Table := do sections (← entries [] fuel) fuel
  (document.all? cs).map (.table false)

end SatFrontend.Toml

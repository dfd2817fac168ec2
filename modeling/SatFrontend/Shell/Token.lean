import SatFrontend.Shell.Syntax

namespace SatFrontend.Shell

open Text (Bytes)

-- What stands before the name of a redirection.
inductive Direction where
  | input
  | output
  | overwrite
  | append
  | both
  | copy
  -- a text in the script, whose lines may be indented by tabs
  | document (indented : Bool)
deriving DecidableEq, Repr

inductive Token where
  | endOfFile
  | newline
  | semicolon
  | doubleSemicolon
  | ampersand
  | conjunction
  | disjunction
  | bar
  | openParenthesis
  | closeParenthesis
  | redirection (descriptor : Nat) (d : Direction)
  | keyword (text : String)
  -- with whether something in it is quoted
  | word (w : Word) (quoted : Bool)

namespace Token

-- What a token is called in a message.
def text : Token → String
  | endOfFile => "end of file"
  | newline => "newline"
  | semicolon => "\";\""
  | doubleSemicolon => "\";;\""
  | ampersand => "\"&\""
  | conjunction => "\"&&\""
  | disjunction => "\"||\""
  | bar => "\"|\""
  | openParenthesis => "\"(\""
  | closeParenthesis => "\")\""
  | redirection .. => "redirection"
  | keyword text => "\"" ++ text ++ "\""
  | word .. => "word"

def keywords : List String :=
  ["!", "case", "do", "done", "elif", "else", "esac", "fi", "for", "if", "in", "then", "until",
    "while", "\x7b", "\x7d"]

def isKeyword (t : Token) (text : String) : Bool :=
  match t with
  | keyword k => k == text
  | _ => false

-- Whether a token ends a list of commands.
def endsList : Token → Bool
  | endOfFile | doubleSemicolon | closeParenthesis => true
  | keyword k => ["do", "done", "elif", "else", "esac", "fi", "then", "\x7d"].contains k
  | _ => false

end Token

-- What a word is looked at for besides being a word.
structure Checks where
  -- line ends are gone over
  newlines : Bool := false
  keywords : Bool := false
  aliases : Bool := false

-- A text in the script that is still to come, after the line it is announced in.
structure Awaited where
  index : Nat
  mark : Bytes
  indented : Bool
  literal : Bool

-- An alias that was put in place of its name, and how much is left to be read when it is
-- over.
structure Opened where
  name : Bytes
  remaining : Nat
  -- the word after it can be an alias as well
  goesOn : Bool

-- A script in the middle of being read.
structure Reading where
  rest : Bytes
  line : Nat := 1
  last : Token := .endOfFile
  -- the last token is to be read again
  isPushedBack : Bool := false
  checks : Checks := {}
  quoteSeen : Bool := false
  awaited : List Awaited := []
  -- the texts that were read, by number
  documents : List (Nat × Word) := []
  nextDocument : Nat := 0
  aliases : List (Bytes × Bytes) := []
  opened : List Opened := []

structure SyntaxError where
  line : Nat
  message : String
deriving Repr

abbrev Reader := StateT Reading (Except SyntaxError)

namespace Reader

def fail {α : Type} (message : String) : Reader α := do throw ⟨(← get).line, message⟩

-- The last token cannot stand where it is.
def unexpected {α : Type} (wanted : Option Token) : Reader α := do
  let found := (← get).last.text
  match wanted with
  | none => fail s!"{found} unexpected"
  | some t => fail s!"{found} unexpected (expecting {t.text})"

-- Take the next character.
def next? : Reader (Option Char) := do
  let r ← get
  match r.rest with
  | [] => return none
  | c :: rest =>
    set { r with rest, line := if c = '\n' then r.line + 1 else r.line }
    return some c

-- Go over a line end behind a backslash, and all that follow.
def join : Reader Unit := modify fun r => go r r.rest
where
  go (r : Reading) : Bytes → Reading
    | '\\' :: '\n' :: rest => go { r with line := r.line + 1 } rest
    | rest => { r with rest }

def peek? : Reader (Option Char) := do return (← get).rest.head?

def peekJoined? : Reader (Option Char) := do
  join
  peek?

-- Go over a character if it comes next.
def eat (c : Char) : Reader Bool := do
  if (← peekJoined?) == some c then
    let _ ← next?
    return true
  else return false

-- Take the longest run of characters that satisfy `p`.
def takeWhile (p : Char → Bool) : Reader Bytes := do
  let r ← get
  let taken := r.rest.takeWhile p
  set { r with rest := r.rest.drop taken.length, line := r.line + taken.count '\n' }
  return taken

-- Take the longest run of characters that satisfy `p` over broken lines.
def takeJoined (p : Char → Bool) : Reader Bytes := do
  let r ← get
  let (taken, r) := go r r.rest
  set r
  return taken
where
  go (r : Reading) : Bytes → Bytes × Reading
    | '\\' :: '\n' :: rest => go { r with line := r.line + 1 } rest
    | c :: rest =>
      if p c then
        let (taken, r) := go r rest
        (c :: taken, r)
      else ([], { r with rest := c :: rest })
    | [] => ([], { r with rest := [] })

def noteQuote : Reader Unit := modify fun r => { r with quoteSeen := true }

end Reader

-- Where the parts of a word stand, which decides what ends them and what is special.
inductive Context where
  -- where the word is the mark at the end of a text nothing is replaced
  | word (isMark : Bool)
  | quotes (inBraces : Bool)
  -- after the name of a parameter and an operator
  | braces (quoted : Bool)
  -- an arithmetic expression with open parentheses
  | sum (depth : Nat)
  -- a text in the script up to a line with a mark
  | document (mark : Bytes) (indented : Bool) (atLineStart : Bool)

namespace Context

def isQuoted : Context → Bool
  | word _ | braces false => false
  | _ => true

-- What is missing if the script ends here.
def complaint? : Context → Option String
  | word _ | document .. => none
  | quotes _ | braces true => some "Unterminated quoted string"
  | braces false => some "Missing '\x7d'"
  | sum _ => some "Missing '))'"

-- Whether a backslash makes the next character literal.
def escapes (ctx : Context) (c : Char) : Bool :=
  match ctx with
  | word _ | braces false => true
  | _ =>
    c == '\\' || c == '\x60' || c == '$' ||
      (c == '"' && match ctx with
        | document .. => false
        | _ => true) ||
      (c == '\x7d' && match ctx with
        | braces _ | quotes true => true
        | _ => false)

end Context

-- Characters that end a word unless they are quoted.
def isDelimiter (c : Char) : Bool := " \t\n;&|<>()".toList.contains c

-- Characters that can be special somewhere.
def isActive (c : Char) : Bool := isDelimiter c || "\\'\"$\x60\x7d".toList.contains c

-- Put together what was cut only for reading.
def Word.merge : Word → Word
  | [] => []
  | .text a q :: rest =>
    match merge rest with
    | .text b r :: more => if q == r then .text (a ++ b) q :: more else .text a q :: .text b r :: more
    | more => .text a q :: more
  | piece :: rest => piece :: merge rest

-- How scripts inside of words are read.
structure Nested where
  -- after the opening parenthesis, up to the closing one
  parenthesized : Reader (Option Script)
  -- up to the end of the text
  whole : Reader (Option Script)

namespace Reader

-- The parameter after a dollar sign, with its name read and an opening brace before it. The
-- word after an operator is read by `word`, which is told whether it counts as quoted.
def alteration (word : Bool → Reader Word) (quoted : Bool) : Reader Usage := do
  let emptyCounts ← eat ':'
  match ← peekJoined? with
  | some '\x7d' =>
    let _ ← next?
    if emptyCounts then let _ ← word quoted
    return .value
  | some '-' => alter .otherwise emptyCounts
  | some '+' => alter .replace emptyCounts
  | some '?' => alter .demand emptyCounts
  | some '=' => alter .assign emptyCounts
  | some c =>
    if (c == '%' || c == '#') && !emptyCounts then
      let _ ← next?
      let longest ← eat c
      return .alter (.trim (c == '%') longest) false (← word false)
    else bad
  | none => bad
where
  alter (how : Alteration) (emptyCounts : Bool) : Reader Usage := do
    let _ ← next?
    return .alter how emptyCounts (← word quoted)
  bad : Reader Usage := do
    let _ ← next?
    let _ ← word quoted
    return .bad

-- A parameter after an opening brace.
def braced (word : Bool → Reader Word) (quoted : Bool) : Reader Piece := do
  let named (name : Bytes) : Reader Piece := do
    return .parameter name (← alteration word quoted) quoted
  let bad : Reader Piece := do
    let _ ← word quoted
    return .parameter [] .bad quoted
  let measured (name : Bytes) : Reader Piece := do
    let closed := (← peekJoined?) == some '\x7d'
    let _ ← word quoted
    return .parameter name (if closed then .length else .bad) quoted
  match ← peekJoined? with
  | none => bad
  | some c =>
    if isNameStart c then named (← takeJoined isNameChar)
    else if c.isDigit then named (← takeJoined Char.isDigit)
    else if c == '\x7d' then bad
    else
      let _ ← next?
      if c != '#' then
        if isSpecialParameter c then named [c] else bad
      else match ← peekJoined? with
      | none => named ['#']
      | some d =>
        if isNameStart d then measured (← takeJoined isNameChar)
        else if d.isDigit then measured (← takeJoined Char.isDigit)
        else
          let followed := (← get).rest.drop 1 |>.head?
          if d == '\x7d' || followed != some '\x7d' then named ['#']
          else if isSpecialParameter d then
            let _ ← next?
            measured [d]
          else
            let _ ← next?
            bad

-- The text between backquotes, after the first one, without the backslashes that only
-- protect something from being special between them.
def backquoted (quoted : Bool) : Nat → Reader Bytes
  | 0 => fail "EOF in backquote substitution"
  | fuel + 1 => do
    join
    match ← next? with
    | none => fail "EOF in backquote substitution"
    | some '\x60' => return []
    | some '\\' =>
      match ← next? with
      | none => fail "EOF in backquote substitution"
      | some c =>
        let more ← backquoted quoted fuel
        if c == '\\' || c == '\x60' || c == '$' || (quoted && c == '"') then return c :: more
        else return '\\' :: c :: more
    | some c => return c :: (← backquoted quoted fuel)

-- Read a script in place of the text it stands in, and go on after it.
def inside (text : Bytes) (script : Reader (Option Script)) : Reader (Option Script) := do
  let before ← get
  set { before with rest := text, line := 1, opened := [] }
  let s ← script
  modify fun r => { r with rest := before.rest, line := before.line, opened := before.opened }
  return s

-- Do not let a script inside of a word disturb what surrounds it.
def isolated (script : Reader (Option Script)) : Reader (Option Script) := do
  let before ← get
  set { before with isPushedBack := false, checks := {}, quoteSeen := false, awaited := [] }
  let s ← script
  modify fun r => { r with
    isPushedBack := false
    checks := {}
    quoteSeen := before.quoteSeen
    awaited := before.awaited }
  return s

-- What follows a dollar sign. One that begins nothing stands for itself.
def dollar (nested : Nested) (sum : Reader Word) (word : Bool → Reader Word) (quoted : Bool) :
    Reader Piece := do
  match ← peekJoined? with
  | none => return .text ['$'] quoted
  | some c =>
    if c == '(' then
      let _ ← next?
      if ← eat '(' then return .arithmetic (← sum) quoted
      else return .substitution (← isolated nested.parenthesized) quoted
    else if c == '\x7b' then
      let _ ← next?
      braced word quoted
    else if isNameStart c then return .parameter (← takeJoined isNameChar) .value quoted
    else if isSpecialParameter c then
      let _ ← next?
      return .parameter [c] .value quoted
    else return .text ['$'] quoted

-- Whether a text ends with this line, which consists of the mark.
def isMarkLine (mark : Bytes) (indented : Bool) (rest : Bytes) : Option Bytes :=
  let rest := if indented then rest.dropWhile (· == '\t') else rest
  if mark.isPrefixOf rest then
    match rest.drop mark.length with
    | [] => some []
    | '\n' :: rest => some rest
    | _ => none
  else none

-- Only the parameters that stand for all arguments, and nothing else between the quotes.
def isAllArguments : Word → Bool
  | [.parameter ['@'] .value _] => true
  | _ => false

-- The parts of a word up to the end of the context, the last one first, at most `fuel`
-- steps.
def pieces (nested : Nested) : Nat → Context → Word → Reader Word
  | 0, _, _ => fail "Unterminated quoted string"
  | fuel + 1, ctx, parts => do
    let quoted := ctx.isQuoted
    let add (bytes : Bytes) (quoted : Bool) : Word := .text bytes quoted :: parts
    let literal (c : Char) : Reader Word := do
      let _ ← next?
      pieces nested fuel ctx (add [c] quoted)
    if let .document mark indented true := ctx then
      match isMarkLine mark indented (← get).rest with
      | some rest =>
        modify fun r => { r with rest, line := r.line + 1 }
        return parts
      | none =>
        if indented then let _ ← takeWhile (· == '\t')
        return ← pieces nested fuel (.document mark indented false) parts
    match ← peekJoined? with
    | none =>
      match ctx.complaint? with
      | none => return parts
      | some complaint => fail complaint
    | some c =>
      match ctx, c with
      | .word _, ' ' | .word _, '\t' | .word _, '\n' | .word _, ';' | .word _, '&'
      | .word _, '|' | .word _, '<' | .word _, '>' | .word _, '(' | .word _, ')' => return parts
      | .document mark indented _, '\n' =>
        let _ ← next?
        pieces nested fuel (.document mark indented true) (add ['\n'] quoted)
      | .braces _, '\x7d' =>
        let _ ← next?
        return parts
      | .quotes _, '"' =>
        let _ ← next?
        noteQuote
        return parts
      | .sum depth, '(' =>
        let _ ← next?
        pieces nested fuel (.sum (depth + 1)) (add ['('] quoted)
      | .sum 0, ')' =>
        let _ ← next?
        if ← eat ')' then return parts
        else pieces nested fuel ctx (add [')'] quoted)
      | .sum (depth + 1), ')' =>
        let _ ← next?
        pieces nested fuel (.sum depth) (add [')'] quoted)
      | _, '\\' =>
        let _ ← next?
        match ← next? with
        | none => pieces nested fuel ctx (add ['\\'] true)
        | some d =>
          noteQuote
          pieces nested fuel ctx (add (if ctx.escapes d then [d] else ['\\', d]) true)
      | .word true, '$' | .word true, '\x60' => literal c
      | _, '$' =>
        let _ ← next?
        let sum : Reader Word := do
          return Word.merge (← pieces nested fuel (.sum 0) []).reverse
        let word (quoted : Bool) : Reader Word := do
          return Word.merge (← pieces nested fuel (.braces quoted) []).reverse
        let piece ← dollar nested sum word quoted
        pieces nested fuel ctx (piece :: parts)
      | _, '\x60' =>
        let _ ← next?
        let text ← backquoted quoted ((← get).rest.length + 1)
        let s ← inside text (isolated nested.whole)
        pieces nested fuel ctx (.substitution s quoted :: parts)
      | .sum _, '"' | .document .., '"' => literal c
      | _, '"' =>
        let _ ← next?
        let inBraces := match ctx with
          | .braces _ => true
          | _ => false
        let inner ← pieces nested fuel (.quotes inBraces) []
        let mark : Word := if isAllArguments inner then [] else [.text [] true]
        pieces nested fuel ctx (inner ++ mark ++ parts)
      | .word _, '\'' | .braces false, '\'' =>
        let _ ← next?
        let text ← takeWhile (· != '\'')
        if (← next?).isNone then fail "Unterminated quoted string"
        noteQuote
        pieces nested fuel ctx (add text true)
      | _, _ =>
        if isActive c then literal c
        else pieces nested fuel ctx (add (← takeWhile (!isActive ·)) quoted)

-- The parts of a word up to the end of the context.
def wordIn (nested : Nested) (ctx : Context) : Reader Word := do
  return Word.merge (← pieces nested (2 * (← get).rest.length + 2) ctx []).reverse

-- The texts that were announced, which begin here.
def readDocuments (nested : Nested) : Reader Unit := do
  let awaited := (← get).awaited
  modify fun r => { r with awaited := [] }
  for a in awaited do
    let w ← if a.literal then literal a else wordIn nested (.document a.mark a.indented true)
    modify fun r => { r with documents := (a.index, w) :: r.documents }
where
  literal (a : Awaited) : Reader Word := do
    let r ← get
    let (lines, rest) := linesUntil a (r.rest.length + 1) r.rest
    let taken := r.rest.take (r.rest.length - rest.length)
    set { r with rest, line := r.line + taken.count '\n' }
    return [.text lines true]
  -- the lines before the mark, and what follows it
  linesUntil (a : Awaited) : Nat → Bytes → Bytes × Bytes
    | 0, rest => ([], rest)
    | fuel + 1, rest =>
      match isMarkLine a.mark a.indented rest with
      | some rest => ([], rest)
      | none =>
        let rest := if a.indented then rest.dropWhile (· == '\t') else rest
        let line := rest.takeWhile (· != '\n')
        match rest.drop line.length with
        | [] => (line, [])
        | _ :: rest =>
          let (lines, rest) := linesUntil a fuel rest
          (line ++ '\n' :: lines, rest)

-- Forget aliases that are over. The word after one may be an alias as well.
def closeAliases (isOver : Nat → Nat → Bool) : Reader Unit := do
  let r ← get
  let length := r.rest.length
  let (ended, still) := r.opened.partition (fun o => isOver length o.remaining)
  let aliases := r.checks.aliases || ended.any (·.goesOn)
  set { r with opened := still, checks := { r.checks with aliases } }

-- Go over blanks and a comment.
def skipBlanks : Reader Unit := do
  let _ ← takeJoined (fun c => c == ' ' || c == '\t')
  if (← peek?) == some '#' then let _ ← takeWhile (· != '\n')

-- A redirection after its descriptor.
def redirection (descriptor : Option Nat) : Reader Token := do
  if ← eat '>' then
    let d ←
      if ← eat '>' then pure .append
      else if ← eat '|' then pure .overwrite
      else if ← eat '&' then pure .copy
      else pure .output
    return .redirection (descriptor.getD 1) d
  else
    let _ ← eat '<'
    let d ←
      if ← eat '<' then pure (.document (← eat '-'))
      else if ← eat '&' then pure .copy
      else if ← eat '>' then pure .both
      else pure .input
    return .redirection (descriptor.getD 0) d

-- A word, or a redirection with the digit before it.
def wordToken (nested : Nested) (isMark : Bool) : Reader Token := do
  modify fun r => { r with quoteSeen := false }
  let w ← wordIn nested (.word isMark)
  let redirects := (← peek?) == some '<' || (← peek?) == some '>'
  match redirects, w, (← get).quoteSeen with
  | true, [], false => redirection none
  | true, [.text [d] false], false =>
    if d.isDigit then redirection (some (d.toNat - '0'.toNat)) else return .word w false
  | _, _, quoted => return .word w quoted

-- The next token as it stands there.
def scan (nested : Nested) (isMark : Bool) : Reader Token := do
  skipBlanks
  let single (t : Token) : Reader Token := do
    let _ ← next?
    return t
  let double (c : Char) (one two : Token) : Reader Token := do
    let _ ← next?
    if ← eat c then return two else return one
  match ← peek? with
  | none => return .endOfFile
  | some '\n' => single .newline
  | some '&' => double '&' .ampersand .conjunction
  | some '|' => double '|' .bar .disjunction
  | some ';' => double ';' .semicolon .doubleSemicolon
  | some '(' => single .openParenthesis
  | some ')' => single .closeParenthesis
  | _ => wordToken nested isMark

-- More aliases and empty lines than any script has one after the other.
def patience : Nat := 1000000000

-- The next token, looked at for what the checks say, after at most `fuel` others.
def tokenWith (nested : Nested) (isMark : Bool) : Nat → Checks → Reader Token
  | 0, _ => unexpected none
  | fuel + 1, checks => do
    let r ← get
    let t ←
      if r.isPushedBack then
        set { r with isPushedBack := false }
        pure r.last
      else
        if !r.opened.isEmpty then closeAliases (fun length remaining => length ≤ remaining)
        let t ← scan nested isMark
        if !r.opened.isEmpty then closeAliases (fun length remaining => length < remaining)
        modify fun r => { r with last := t }
        pure t
    match checks.newlines, t with
    | true, .newline =>
      readDocuments nested
      tokenWith nested isMark fuel checks
    | _, _ =>
      let aliases := checks.aliases || (← get).checks.aliases
      modify fun r => { r with checks := {} }
      match t with
      | .word w false =>
        match Word.plain? w with
        | none => return t
        | some bytes =>
          let text := String.ofList bytes
          if checks.keywords && Token.keywords.contains text then
            modify fun r => { r with last := .keyword text }
            return .keyword text
          else if aliases then
            let r ← get
            match r.aliases.lookup bytes with
            | none => return t
            | some value =>
              if r.opened.any (·.name == bytes) then return t
              let goesOn := value.getLast? == some ' ' || value.getLast? == some '\t'
              let opened := { name := bytes, remaining := r.rest.length, goesOn } :: r.opened
              set { r with rest := value ++ r.rest, opened }
              tokenWith nested isMark fuel { checks with aliases }
          else return t
      | _ => return t

-- The next token, looked at for what was set.
def token (nested : Nested) : Reader Token := do
  tokenWith nested false patience (← get).checks

def pushBack : Reader Unit := modify fun r => { r with isPushedBack := true }

def check (newlines keywords aliases : Bool) : Reader Unit :=
  modify fun r => { r with checks := { newlines, keywords, aliases } }

end Reader

end SatFrontend.Shell

import SatFrontend.Shell.Token

namespace SatFrontend.Shell

open Text (Bytes)

-- Which list of commands is read: a command of the script up to the end of its line, the body
-- of a command, or a script inside of a word, which can be empty.
inductive ListKind where
  | line
  | body
  | inner
deriving DecidableEq

-- Which part of a script is to be read.
inductive Goal where
  -- with the commands of the list that were read before
  | list (kind : ListKind) (first : Option Script)
  | pipeline
  | command
  -- a script up to a closing parenthesis, and one up to the end of its text
  | enclosed
  | whole

-- Commands that are part of the shell in a way that no function can take their names.
def specialNames : List String :=
  [".", ":", "break", "continue", "eval", "exec", "exit", "export", "local", "readonly",
    "return", "set", "shift", "times", "trap", "unset"]

namespace Reader

variable (nested : Nested) (self : Goal → Reader (Option Script))

-- The next token has to be the given one.
def require (t : Token) : Reader Unit := do
  let found ← token nested
  if found.text != t.text then unexpected (some t)

-- The name of a redirection, which is the next word.
def redirectTo (descriptor : Nat) (d : Direction) : Reader Redirect := do
  match d with
  | .document indented =>
    match ← tokenWith nested true patience {} with
    | .word w quoted =>
      let mark := (w.map fun
        | .text bytes _ => bytes
        | _ => []).flatten
      let r ← get
      let index := r.nextDocument
      let a : Awaited := { index, mark, indented, literal := quoted }
      set { r with nextDocument := index + 1, awaited := r.awaited ++ [a] }
      return .document descriptor index
    | _ => unexpected none
  | _ =>
    match ← token nested with
    | .word w _ =>
      return match d with
        | .input => .input descriptor w
        | .output => .output descriptor w
        | .overwrite => .overwrite descriptor w
        | .append => .append descriptor w
        | .both => .both descriptor w
        | _ => .copy descriptor w
    | _ => unexpected none

-- The redirections after a command, at most `fuel` of them.
def redirects : Nat → List Redirect → Reader (List Redirect)
  | 0, _ => unexpected none
  | fuel + 1, before => do
    match ← token nested with
    | .redirection n d => redirects fuel (before ++ [← redirectTo nested n d])
    | _ =>
      pushBack
      return before

-- A function of the given name, after the opening parenthesis.
def function (name : Word) : Reader Script := do
  require nested .closeParenthesis
  match name.plain? with
  | none => fail "Bad function name"
  | some bytes =>
    if !isName bytes || specialNames.contains (String.ofList bytes) then fail "Bad function name"
    check true true true
    match ← self .command with
    | some body => return .define bytes body
    | none => unexpected none

-- The words and redirections of a simple command, at most `fuel` of them. Assignments stand
-- before the first other word.
def simpleParts (line : Nat) :
    Nat → List Word → List Word → List Redirect → Reader Script
  | 0, _, _, _ => unexpected none
  | fuel + 1, assignments, words, redirects => do
    check false false words.isEmpty
    match ← token nested with
    | .word w _ =>
      if words.isEmpty && (Word.assigned? w).isSome then
        simpleParts line fuel (w :: assignments) words redirects
      else simpleParts line fuel assignments (w :: words) redirects
    | .redirection n d =>
      let r ← redirectTo nested n d
      simpleParts line fuel assignments words (r :: redirects)
    | .openParenthesis =>
      match assignments, words, redirects with
      | [], [name], [] => function nested self name
      | _, _, _ => done assignments words redirects
    | _ => done assignments words redirects
where
  done (assignments words : List Word) (redirects : List Redirect) : Reader Script := do
    pushBack
    return .simple line assignments.reverse words.reverse redirects.reverse

-- The words of a loop up to the end of its line, at most `fuel` of them.
def loopWords : Nat → List Word → Reader (List Word)
  | 0, _ => unexpected none
  | fuel + 1, before => do
    match ← token nested with
    | .word w _ => loopWords fuel (w :: before)
    | .newline | .semicolon => return before.reverse
    | _ => unexpected none

-- The patterns of an arm and its parenthesis, at most `fuel` of them. Whatever stands in place
-- of a pattern is taken for the last word.
def patterns : Nat → Word → List Word → Reader (List Word)
  | 0, _, _ => unexpected none
  | fuel + 1, w, before => do
    let before := w :: before
    match ← token nested with
    | .bar =>
      match ← token nested with
      | .word w _ => patterns fuel w before
      | _ => patterns fuel w before
    | .closeParenthesis => return before.reverse
    | _ => unexpected (some .closeParenthesis)

-- The arms of a choice, at most `fuel` of them.
def arms (subject : Word) : Nat → List (List Word × Option Script) →
    Reader (List (List Word × Option Script))
  | 0, _ => unexpected none
  | fuel + 1, before => do
    check true true false
    let t ← token nested
    if t.isKeyword "esac" then return before.reverse
    let t ← match t with
      | .openParenthesis => token nested
      | _ => pure t
    let first : Word := match t with
      | .word w _ => w
      | .keyword text => [.text text.toList false]
      | _ => subject
    let ps ← patterns nested patience first []
    let body ← self (.list .inner none)
    let before := (ps, body) :: before
    check true true false
    match ← token nested with
    | .doubleSemicolon => arms subject fuel before
    | t => if t.isKeyword "esac" then return before.reverse else unexpected (some .doubleSemicolon)

def body : Reader (Option Script) := self (.list .body none)

-- What follows the test of a branch, at most `fuel` alternatives.
def branches : Nat → Reader Script
  | 0 => unexpected none
  | fuel + 1 => do
    let test ← body self
    require nested (.keyword "then")
    let yes ← body self
    let t ← token nested
    if t.isKeyword "elif" then return .branch test yes (some (← branches fuel))
    else if t.isKeyword "else" then return .branch test yes (← body self)
    else
      pushBack
      return .branch test yes none

def loop (wanted : Bool) : Reader Script := do
  let test ← body self
  require nested (.keyword "do")
  return .loop wanted test (← body self)

def each (line : Nat) : Reader Script := do
  let bad {α : Type} : Reader α := fail "Bad for loop variable"
  match ← token nested with
  | .word w false =>
    match w.plain? with
    | none => bad
    | some name =>
      if !isName name then bad
      check true true true
      let t ← token nested
      let words ←
        if t.isKeyword "in" then loopWords nested patience []
        else
          match t with
          | .semicolon => pure ()
          | _ => pushBack
          pure [[.parameter ['@'] .value true]]
      check true true true
      require nested (.keyword "do")
      return .each line name words (← body self)
  | _ => bad

def choice (line : Nat) : Reader Script := do
  match ← token nested with
  | .word subject _ =>
    check true true true
    require nested (.keyword "in")
    return .choice line subject (← arms nested self subject patience [])
  | _ => unexpected (some (.word [] false))

-- A command with the redirections that follow it.
def redirected (line : Nat) (s : Script) : Reader Script := do
  check false true true
  let rs ← redirects nested patience []
  match rs, s with
  | [], s => return s
  | rs, .subshell line body _ => return .subshell line body rs
  | rs, s => return .redirected line (some s) rs

def command : Reader (Option Script) := do
  let line := (← get).line
  let closed (s : Script) (t : Token) : Reader (Option Script) := do
    require nested t
    return some (← redirected nested line s)
  match ← token nested with
  | .keyword "if" => closed (← branches nested self patience) (.keyword "fi")
  | .keyword "while" => closed (← loop nested self true) (.keyword "done")
  | .keyword "until" => closed (← loop nested self false) (.keyword "done")
  | .keyword "for" => closed (← each nested self line) (.keyword "done")
  | .keyword "case" =>
    let s ← choice nested self line
    return some (← redirected nested line s)
  | .openParenthesis => closed (.subshell line (← body self) []) .closeParenthesis
  | .keyword "\x7b" =>
    let s ← body self
    require nested (.keyword "\x7d")
    check false true true
    let rs ← redirects nested patience []
    return if rs.isEmpty then s else some (.redirected line s rs)
  | .word .. | .redirection .. =>
    pushBack
    return some (← simpleParts nested self (← get).line patience [] [] [])
  | _ => unexpected none

-- A script that there has to be.
def something (s : Option Script) : Reader Script :=
  match s with
  | some s => return s
  | none => unexpected none

-- The commands of a pipeline after the first one, at most `fuel` of them.
def pipelineParts : Nat → List Script → Reader (List Script)
  | 0, _ => unexpected none
  | fuel + 1, before => do
    check true true true
    let before := (← something (← self .command)) :: before
    match ← token nested with
    | .bar => pipelineParts fuel before
    | _ =>
      pushBack
      return before.reverse

def pipeline : Reader (Option Script) := do
  let negated := (← token nested).isKeyword "!"
  if negated then check false true true else pushBack
  let first ← self .command
  let s ← match ← token nested, first with
    | .bar, some first => pure (some (.pipeline (← pipelineParts nested self patience [first]) false))
    | _, _ =>
      pushBack
      pure first
  match negated, s with
  | true, some s => return some (.negated s)
  | _, _ => return s

-- What follows the first pipeline of a conjunction, at most `fuel` pipelines.
def conjunction : Nat → Option Script → Reader (Option Script)
  | 0, _ => unexpected none
  | fuel + 1, first => do
    let t ← token nested
    let next (join : Script → Script → Script) : Reader (Option Script) := do
      check true true true
      let second ← self .pipeline
      match first, second with
      | some a, some b => conjunction fuel (some (join a b))
      | _, _ => unexpected none
    match t with
    | .conjunction => next .both
    | .disjunction => next .either
    | _ =>
      pushBack
      return first

-- A command that is not waited for.
def inBackground : Script → Script
  | .pipeline parts _ => .pipeline parts true
  | .redirected line body rs => .background line body rs
  | s => .background 0 (some s) []

-- The commands of a list, after those that were read before.
def list (kind : ListKind) (first : Option Script) : Reader (Option Script) := do
  let atEnd (s : Option Script) : Reader (Option Script) := do
    readDocuments nested
    modify fun r => { r with last := .endOfFile, isPushedBack := true }
    return s
  check (kind != .line) true true
  match ← token nested with
  | .newline =>
    readDocuments nested
    return first
  | .endOfFile => atEnd first
  | t =>
    pushBack
    let canEnd := match kind with
      | .line => false
      | .body => first.isSome
      | .inner => true
    if canEnd && t.endsList then return first
    let s ← conjunction nested self patience (← self .pipeline)
    let t ← token nested
    let s := match t, s with
      | .ampersand, some s => some (inBackground s)
      | _, s => s
    let s := match first, s with
      | some a, some b => some (.sequence a b)
      | none, s => s
      | a, none => a
    match t with
    | .endOfFile => atEnd s
    | .newline =>
      pushBack
      self (.list kind s)
    | .ampersand | .semicolon => self (.list kind s)
    | _ =>
      if kind = .line then unexpected none
      pushBack
      return s

-- The part of a script that is asked for.
def part : Goal → Reader (Option Script)
  | .list kind first => list nested self kind first
  | .pipeline => pipeline nested self
  | .command => command nested self
  | .enclosed => do
    let s ← self (.list .inner none)
    require nested .closeParenthesis
    readDocuments nested
    return s
  | .whole => do
    let s ← self (.list .inner none)
    readDocuments nested
    return s

end Reader

-- A part of a script that has at most `fuel` parts of its own.
def readPart : Nat → Goal → Reader (Option Script)
  | 0, _ => Reader.unexpected none
  | fuel + 1, goal =>
    Reader.part { parenthesized := readPart fuel .enclosed, whole := readPart fuel .whole }
      (readPart fuel) goal

-- What was read of a script: one line with everything that belongs to it, or the end.
inductive Line where
  | command (s : Option Script)
  | nothing

-- Whether the last command that was read goes up to the end of the text.
def Reading.isAtEnd (r : Reading) : Bool :=
  r.isPushedBack && match r.last with
    | .endOfFile => true
    | _ => false

-- Read the next line.
def Reading.next (r : Reading) : Except SyntaxError (Line × Reading) := do
  let start := { r with isPushedBack := false, checks := {}, awaited := [] }
  let (s, r) ← (readPart Reader.patience (.list .line none)).run start
  return if s.isNone && r.isAtEnd then (.nothing, r) else (.command s, r)

end SatFrontend.Shell

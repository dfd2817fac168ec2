import SatFrontend.Dimacs.Header
import SatFrontend.Notice
import SatFrontend.Text.Bytes

namespace SatFrontend.Dimacs

-- Why a text is not DIMACS CNF.
inductive SyntaxError where
  | unexpected (line : Nat) (byte : UInt8)
  -- the number of the accepted digits, and the digit that makes it too large
  | literalTooLarge (line index digit : Nat)
  -- the text went on after an error
  | afterError
deriving DecidableEq, Repr

-- A byte that does not fit is shown as the character of that number.
def SyntaxError.message : SyntaxError → String
  | unexpected line byte =>
    s!"line {line}: Unexpected character in DIMACS CNF input: '{Char.ofNat byte.toNat}'"
  | literalTooLarge line index digit =>
    s!"line {line}: Literal index is too large: {index}{digit}..."
  | afterError => "Parser invoked after a previous error"

-- Where in the text a reader stands.
inductive Mode where
  -- between literals; `fresh` if the line has only blanks so far
  | blank (fresh : Bool)
  -- after the minus sign of a literal
  | sign
  -- inside the digits of a literal
  | digits (negative : Bool) (value : Nat)
  | comment
  -- inside a problem line, with its bytes from the `p` on, the last one first
  | problem (text : List UInt8)
  -- after an error
  | failed
deriving DecidableEq, Repr

-- What a text says, in order.
inductive Event where
  | literal (l : Lit)
  | clauseEnd
  -- a problem line that announces nothing; `line` is where its end was noticed
  | malformedHeader (line : Nat) (text : String)
deriving DecidableEq

-- A reader takes the text byte by byte, so it can be given in pieces.
structure Reader where
  header : Option Header := none
  line : Nat := 1
  -- clause ends seen so far, those of empty clauses included
  clauseCount : Nat := 0
  -- literals after the last clause end
  openCount : Nat := 0
  mode : Mode := .blank true
deriving DecidableEq, Repr

def isLineEnd (b : UInt8) : Bool := b == 10 || b == 13

def isSpace (b : UInt8) : Bool := b == 32 || b == 9

def isDigit (b : UInt8) : Bool := 48 ≤ b && b ≤ 57

-- Whether one more digit lifts a number within the limit above it. The comparison needs
-- no number larger than the limit.
def exceeds (limit value digit : Nat) : Bool :=
  limit / 10 + (if digit ≤ limit % 10 then 1 else 0) ≤ value

namespace Reader

def isClauseOpen (r : Reader) : Bool := 0 < r.openCount

-- Take in the literal that ended, where 0 ends the clause.
def finishLiteral (r : Reader) (negative : Bool) (value : Nat) : Reader × Event :=
  if value = 0 then
    ({ r with clauseCount := r.clauseCount + 1, openCount := 0 }, .clauseEnd)
  else
    ({ r with openCount := r.openCount + 1 }, .literal ⟨Var.ofNumber value, negative⟩)

-- Take in a problem line, given by its bytes in reverse order.
def finishProblem (r : Reader) (text : List UInt8) : Reader × Option Event :=
  let cs := Text.decodeLossy text.reverse
  match Header.ofText? cs.tail with
  | some header => ({ r with header := some header }, none)
  | none => (r, some (.malformedHeader r.line (String.ofList cs)))

-- Take in one more digit of a literal.
def digit (limit : Nat) (r : Reader) (negative : Bool) (value : Nat) (b : UInt8) :
    Except SyntaxError Reader :=
  let d := b.toNat - 48
  if exceeds limit value d then .error (.literalTooLarge r.line value d)
  else .ok { r with mode := .digits negative (value * 10 + d) }

-- Count the line that a line feed begins.
def countLine (r : Reader) (b : UInt8) : Reader :=
  if b = 10 then { r with line := r.line + 1 } else r

-- Take in a byte, which can complete at most one event. No variable above `limit` passes.
def step (limit : Nat) (r : Reader) (b : UInt8) : Except SyntaxError (Reader × Option Event) :=
  let r := r.countLine b
  match r.mode with
  | .failed => .error .afterError
  | .comment =>
    .ok ({ r with mode := if isLineEnd b then .blank true else .comment }, none)
  | .problem text =>
    if isLineEnd b then .ok ({ r with mode := .blank true }.finishProblem text)
    else .ok ({ r with mode := .problem (b :: text) }, none)
  | .blank fresh =>
    if isDigit b then (digit limit r false 0 b).map (·, none)
    else if b = 45 then .ok ({ r with mode := .sign }, none)
    else if isSpace b then .ok (r, none)
    else if isLineEnd b then .ok ({ r with mode := .blank true }, none)
    else if b = 99 && fresh then .ok ({ r with mode := .comment }, none)
    else if b = 112 && fresh then .ok ({ r with mode := .problem [112] }, none)
    else .error (.unexpected r.line b)
  | .sign =>
    if isDigit b then (digit limit r true 0 b).map (·, none)
    else .error (.unexpected r.line b)
  | .digits negative value =>
    if isDigit b then (digit limit r negative value b).map (·, none)
    else if isSpace b || isLineEnd b then
      let (r, event) := { r with mode := .blank (isLineEnd b) }.finishLiteral negative value
      .ok (r, some event)
    else .error (.unexpected r.line b)

-- Take in the end of the text. A literal or problem line that it cuts short counts as
-- complete, and a comment goes on if there is more text after all.
def finish (r : Reader) : Except SyntaxError (Reader × Option Event) :=
  match r.mode with
  | .failed => .error .afterError
  | .sign => .error (.unexpected r.line 45)
  | .problem text => .ok ({ r with mode := .comment }.finishProblem text)
  | .digits negative value =>
    let (r, event) := { r with mode := .blank false }.finishLiteral negative value
    .ok (r, some event)
  | .blank _ | .comment => .ok (r, none)

end Reader

-- What came of a piece of text: where the reader stands now and what it has seen, up to
-- the first error.
structure Scan where
  reader : Reader
  events : Array Event := #[]
  error : Option SyntaxError := none

namespace Scan

-- Go on with what one step of the reader gave.
def after (s : Scan) : Except SyntaxError (Reader × Option Event) → Scan
  | .ok (r, none) => { s with reader := r }
  | .ok (r, some event) => { s with reader := r, events := s.events.push event }
  | .error e => { s with reader := { s.reader with mode := .failed }, error := some e }

-- Nothing is taken in after an error.
def step (limit : Nat) (s : Scan) (b : UInt8) : Scan :=
  if s.error.isSome then s else s.after (s.reader.step limit b)

end Scan

namespace Reader

-- Take in a piece of text. After an error every further piece is refused.
def feed (limit : Nat) (r : Reader) (bytes : List UInt8) : Scan :=
  if r.mode = .failed then { reader := r, error := some .afterError }
  else bytes.foldl (Scan.step limit) { reader := r }

-- Take in the end of the text.
def feedEnd (r : Reader) : Scan := Scan.after { reader := r } r.finish

end Reader

variable {σ : Type} [Receiver σ]

-- Hand what was seen on to a receiver.
def Event.forward (s : σ) : Event → σ
  | .literal l => Receiver.push s l
  | .clauseEnd => Receiver.endClause s
  | .malformedHeader .. => s

def Event.notice? : Event → Option Notice
  | .malformedHeader line text => some (.malformedHeader line text)
  | _ => none

def Scan.forward (s : σ) (scan : Scan) : σ := scan.events.foldl Event.forward s

def Scan.notices (scan : Scan) : List Notice := scan.events.toList.filterMap Event.notice?

end SatFrontend.Dimacs

import SatFrontend.Backend.Failure
import SatFrontend.Operation

namespace SatFrontend.CommandLine

-- One thing that is printed, mostly a line of its own.
inductive Message where
  | notice (n : Notice)
  -- why the session ended early
  | failure (text : String)
  | result (text : String)
deriving DecidableEq, Repr

-- What is no result is printed as a comment.
def Message.text : Message → String
  | notice n => (if n.isWarning then "c WARN: " else "c ") ++ n.text
  | failure text => "c ERROR: " ++ text
  | result text => text

-- A part of a session: what it prints, and its value or why the session ends with it.
structure Session (α : Type) where
  printed : List Message := []
  outcome : Except String α

namespace Session

-- Do one thing after the other, unless the first one ends the session.
instance : Monad Session where
  pure a := { outcome := .ok a }
  bind m f :=
    match m.outcome with
    | .error e => { printed := m.printed, outcome := .error e }
    | .ok a => { printed := m.printed ++ (f a).printed, outcome := (f a).outcome }

variable {α : Type}

def inform (ns : List Notice) : Session Unit where
  printed := ns.map .notice
  outcome := .ok ()

def print (lines : List String) : Session Unit where
  printed := lines.map .result
  outcome := .ok ()

def fail (message : String) : Session α where
  outcome := .error message

-- Go on with a value, or end the session with the message of an error.
def orFail {ε : Type} (message : ε → String) : Except ε α → Session α
  | .ok a => pure a
  | .error e => fail (message e)

end Session

-- How a session went as a whole.
structure Report where
  printed : List Message
  code : Nat
deriving DecidableEq, Repr

-- A session that ends early ends with a message and the exit code 1.
def Session.report (s : Session Nat) : Report :=
  match s.outcome with
  | .ok code => { printed := s.printed, code }
  | .error e => { printed := s.printed ++ [.failure e], code := 1 }

-- What is printed on standard output, each message with a line end.
def Report.text (r : Report) : String := String.join (r.printed.map (fun m => m.text ++ "\n"))

-- A model is printed as its literals and a 0, after a word that says what the line is.
def modelLine (lead : List String) (model : List Lit) : String :=
  " ".intercalate (lead ++ model.map Lit.text ++ ["0"])

-- What a session has to do with the world: the files and programs there are, and what
-- stands on standard input.
structure World where
  host : Host
  input : List UInt8

open Session

-- The literals that are to be assumed, as numbers.
def readAssumptions : List String → Session (List Int)
  | [] => pure []
  | text :: texts => do
    match Text.integer? text.toList with
    | none => fail s!"Invalid literal '{text}' given to --assume"
    | some n => return n :: (← readAssumptions texts)

-- The number that is given as a risk.
def readRisk (flag text : String) : Session Decimal.Binary64 :=
  match Decimal.Binary64.ofText? text.toList with
  | some risk => pure risk
  | none => fail s!"Invalid risk '{text}' given to {flag}"

-- Read the formula from the given file, or from standard input.
def readFormula {σ : Type} [Receiver σ] (w : World) (input : Option String) (s : σ) :
    Session σ := do
  let source ← match input with
    | some path => do
      inform [.readingFile path]
      pure (Dimacs.Source.path path)
    | none => do
      inform [.readingInput]
      pure (Dimacs.Source.supply (.ofBytes w.input))
  let reading := Dimacs.read w.host.files s source
  inform reading.notices
  match reading.error with
  | some e => fail e.message
  | none => return reading.receiver

-- Assume literals for the next invocation.
def assumeAll {σ : Type} [Receiver σ] (s : σ) (assumptions : List Int) : Session σ :=
  match Receiver.assumeAll s assumptions with
  | (s, none) => pure s
  | (_, some e) => fail e.message

end SatFrontend.CommandLine

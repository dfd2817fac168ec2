import SatFrontend.Shell.State

namespace SatFrontend.Shell.Builtin

open Text (Bytes)
open Effect

-- What a word of a test does if it is no operand.
inductive TestOperator where
  -- on one operand
  | unary (letter : Char)
  -- between two operands
  | binary (text : String)
  | negation
  | conjunction
  | disjunction
  | openParenthesis
  | closeParenthesis
deriving DecidableEq, Repr

namespace TestOperator

def ofWord? (word : Bytes) : Option TestOperator :=
  match String.ofList word with
  | "!" => some .negation
  | "-a" => some .conjunction
  | "-o" => some .disjunction
  | "(" => some .openParenthesis
  | ")" => some .closeParenthesis
  | text =>
    if binaries.contains text then some (.binary text)
    else match word with
      | ['-', c] => if unaries.contains c then some (.unary c) else none
      | _ => none
where
  binaries : List String :=
    ["=", "!=", "<", ">", "-eq", "-ne", "-ge", "-gt", "-le", "-lt", "-nt", "-ot", "-ef"]
  unaries : List Char := "rwxefdcbpugkstznhOGLS".toList

def isBinary : Option TestOperator → Bool
  | some (.binary _) => true
  | _ => false

end TestOperator

-- A word of a test, or its end.
inductive TestToken where
  | nothing
  | operand
  | operator (op : TestOperator)
deriving DecidableEq, Repr

-- The words of a test and the place of the one that is looked at.
structure Testing where
  words : Array Bytes
  place : Nat := 0

abbrev Tester := StateT Testing Effect

namespace Tester

def wordAt (n : Nat) : Tester (Option Bytes) := do return (← get).words[n]?

-- A unary operator is an operand when nothing is behind it that it could be applied to.
def tokenAt (n : Nat) : Tester TestToken := do
  match ← wordAt n with
  | none => return .nothing
  | some word =>
    match TestOperator.ofWord? word with
    | none => return .operand
    | some op =>
      let following ← wordAt (n + 1)
      let isOperand ← match op, following with
        | .unary _, none | .openParenthesis, none => pure true
        | .unary _, some next => do
          let more ← wordAt (n + 2)
          pure (more.isSome && TestOperator.isBinary (TestOperator.ofWord? next))
        | _, _ => pure false
      return if isOperand then .operand else .operator op

-- Look at a word further on.
def advance (n : Nat) : Tester Unit := modify fun s => { s with place := s.place + n }

def following : Tester TestToken := do tokenAt ((← get).place + 1)

def here : Tester Bytes := do return (← wordAt (← get).place).getD []

def wrong {α : Type} (word : Bytes) (text : String) : Tester α :=
  if word.isEmpty then abortText text else abort (word ++ ": ".toList ++ text.toList)

-- What a test on a file says.
def fileTest (letter : Char) (path : Bytes) : Effect Bool := do
  match ← ask (.inspect path) with
  | .error _ => return false
  | .ok entry =>
    return match letter, entry with
      | 'e', _ | 'r', _ | 'w', _ | 'O', _ | 'G', _ => true
      | 'f', .regular _ | 'f', .program => true
      | 'd', .directory | 'x', .directory | 'x', .program => true
      | 'c', .device (.stream _) => false
      | 'p', .device (.stream _) => true
      | 'c', .device _ => true
      | 's', .regular bytes => !bytes.isEmpty
      | 's', .directory | 's', .program => true
      | _, _ => false

def unary (letter : Char) (operand : Bytes) : Effect Bool := do
  match letter with
  | 'z' => return operand.isEmpty
  | 'n' => return !operand.isEmpty
  | 't' =>
    let _ ← integer operand
    return false
  | _ => fileTest letter operand

def binary (op : String) (a b : Bytes) : Effect Bool := do
  let compare (holds : Int → Int → Bool) : Effect Bool := do
    return holds (← integer a) (← integer b)
  match op with
  | "=" => return a == b
  | "!=" => return a != b
  | "<" => return decide (a < b)
  | ">" => return decide (b < a)
  | "-eq" => compare (· == ·)
  | "-ne" => compare (· != ·)
  | "-ge" => compare (fun m n => n ≤ m)
  | "-gt" => compare (fun m n => n < m)
  | "-le" => compare (fun m n => m ≤ n)
  | "-lt" => compare (fun m n => m < n)
  | "-ef" =>
    match ← ask (.locate a), ← ask (.locate b) with
    | .ok l, .ok m => return l == m
    | _, _ => return false
  -- all files are of the same age
  | _ => return false

-- Which part of a test is evaluated.
inductive Part where
  | disjunction
  | conjunction
  | negation
  | operand

-- Evaluate a part that begins with a token, with at most `fuel` parts of its own. It ends at
-- its last word.
def eval : Nat → Part → TestToken → Tester Bool
  | 0, _, _ => return false
  | fuel + 1, .disjunction, t => do
    let a ← eval fuel .conjunction t
    if (← following) != .operator .disjunction then return a
    advance 2
    let b ← eval fuel .disjunction (← tokenAt (← get).place)
    return a || b
  | fuel + 1, .conjunction, t => do
    let a ← eval fuel .negation t
    if (← following) != .operator .conjunction then return a
    advance 2
    let b ← eval fuel .conjunction (← tokenAt (← get).place)
    return a && b
  | fuel + 1, .negation, t => do
    if t != .operator .negation then return ← eval fuel .operand t
    let t ← following
    if t != .nothing then advance 1
    return !(← eval fuel .negation t)
  | fuel + 1, .operand, t => do
    match t with
    | .nothing => return false
    | .operator .openParenthesis =>
      advance 1
      let t ← tokenAt (← get).place
      if t == .operator .closeParenthesis then return false
      let a ← eval fuel .disjunction t
      advance 1
      if (← tokenAt (← get).place) != .operator .closeParenthesis then
        wrong [] "closing paren expected"
      return a
    | .operator (.unary letter) =>
      let op ← here
      advance 1
      match ← wordAt (← get).place with
      | none => wrong op "argument expected"
      | some word => unary letter word
    | _ =>
      let a ← here
      match ← following with
      | .operator (.binary op) =>
        advance 2
        match ← wordAt (← get).place with
        | none => wrong op.toList "argument expected"
        | some b => binary op a b
      | _ => return !a.isEmpty

-- The value of a whole test. With three or four words it is clear from their places what
-- they are.
def whole : Tester Bool := do
  let words := (← get).words
  let n := words.size
  if n = 0 then return false
  let isNot := words[0]? == some ['!']
  let enclosed := words[0]? == some ['('] && words[n - 1]? == some [')']
  let middle := (words[1]?).bind TestOperator.ofWord?
  let start ←
    if n = 3 && TestOperator.isBinary middle then pure .operand
    else if (n = 3 || n = 4) && enclosed then
      modify ({ · with words := words.extract 1 (n - 1) })
      tokenAt 0
    else if (n = 3 || n = 4) && isNot then pure (.operator .negation)
    else tokenAt 0
  let value ← eval (4 * n + 4) .disjunction start
  let s ← get
  match s.words[s.place]?, s.words[s.place + 1]? with
  | some word, some _ => wrong word "unexpected operator"
  | _, _ => return value

end Tester

-- Test something about texts, numbers or files.
def test (args : List Bytes) : Effect Nat := do
  let (value, _) ← Tester.whole.run { words := args.toArray }
  return if value then 0 else 1

-- The same with a closing bracket.
def bracketTest (args : List Bytes) : Effect Nat := do
  if args.getLast? != some [']'] then abortText "missing ]"
  test args.dropLast

end SatFrontend.Shell.Builtin

import SatFrontend.Shell.State

namespace SatFrontend.Shell.Arithmetic

open Text (Bytes)

inductive Operator where
  | mul
  | div
  | rem
  | add
  | sub
  | shiftLeft
  | shiftRight
  | less
  | lessEqual
  | greater
  | greaterEqual
  | equal
  | unequal
  | bitAnd
  | bitXor
  | bitOr
deriving DecidableEq, Repr

namespace Operator

-- Operators of a lower level bind tighter.
def level : Operator → Nat
  | mul | div | rem => 0
  | add | sub => 1
  | shiftLeft | shiftRight => 2
  | less | lessEqual | greater | greaterEqual => 3
  | equal | unequal => 4
  | bitAnd => 5
  | bitXor => 6
  | bitOr => 7

-- No operator binds looser.
def loosest : Nat := 8

def truth (b : Bool) : Int := if b then 1 else 0

-- A number without a sign that has the same bits.
def bits (n : Int) : Nat := (n % 18446744073709551616).toNat

-- The value, unless a number is divided by zero. Only the last six bits of a shift count.
def result? : Operator → Int → Int → Option Int
  | mul, a, b => some (wrap (a * b))
  | div, a, b => if b = 0 then none else some (wrap (a.tdiv b))
  | rem, a, b => if b = 0 then none else some (a.tmod b)
  | add, a, b => some (wrap (a + b))
  | sub, a, b => some (wrap (a - b))
  | shiftLeft, a, b => some (wrap ((bits a <<< (bits b % 64) : Nat) : Int))
  | shiftRight, a, b => some (a >>> (bits b % 64))
  | less, a, b => some (truth (a < b))
  | lessEqual, a, b => some (truth (a ≤ b))
  | greater, a, b => some (truth (b < a))
  | greaterEqual, a, b => some (truth (b ≤ a))
  | equal, a, b => some (truth (a == b))
  | unequal, a, b => some (truth (a != b))
  | bitAnd, a, b => some (wrap ((bits a &&& bits b : Nat) : Int))
  | bitXor, a, b => some (wrap ((bits a ^^^ bits b : Nat) : Int))
  | bitOr, a, b => some (wrap ((bits a ||| bits b : Nat) : Int))

end Operator

inductive Token where
  | number (n : Int)
  | name (name : Bytes)
  | operator (op : Operator)
  -- after an operation with what was there before
  | assign (op : Option Operator)
  | conjunction
  | disjunction
  | negation
  | complement
  | open
  | close
  | question
  | colon
  | bad
deriving DecidableEq, Repr

-- The longest operator at the beginning of a text.
def symbol? (text : Bytes) : Option (Token × Nat) :=
  symbols.findSome? fun (s, t) => if s.toList.isPrefixOf text then some (t, s.length) else none
where
  symbols : List (String × Token) :=
    [("<<=", .assign (some .shiftLeft)), (">>=", .assign (some .shiftRight)),
      ("<<", .operator .shiftLeft), (">>", .operator .shiftRight), ("<=", .operator .lessEqual),
      (">=", .operator .greaterEqual), ("==", .operator .equal), ("!=", .operator .unequal),
      ("&&", .conjunction), ("||", .disjunction), ("*=", .assign (some .mul)),
      ("/=", .assign (some .div)), ("%=", .assign (some .rem)), ("+=", .assign (some .add)),
      ("-=", .assign (some .sub)), ("&=", .assign (some .bitAnd)), ("^=", .assign (some .bitXor)),
      ("|=", .assign (some .bitOr)), ("<", .operator .less), (">", .operator .greater),
      ("*", .operator .mul), ("/", .operator .div), ("%", .operator .rem), ("+", .operator .add),
      ("-", .operator .sub), ("&", .operator .bitAnd), ("^", .operator .bitXor),
      ("|", .operator .bitOr), ("=", .assign none), ("!", .negation), ("~", .complement),
      ("(", .open), (")", .close), ("?", .question), (":", .colon)]

-- The tokens of an expression, at most `fuel` of them. Nothing is read after a character
-- that begins none.
def tokens : Nat → Bytes → List Token
  | 0, _ => []
  | _ + 1, [] => []
  | fuel + 1, c :: cs =>
    if c == ' ' || c == '\t' || c == '\n' then tokens fuel cs
    else if c.isDigit then
      let (n, rest, _) := leadingNumber 0 (c :: cs)
      .number n :: tokens fuel rest
    else if isNameStart c then
      let name := (c :: cs).takeWhile isNameChar
      .name name :: tokens fuel ((c :: cs).drop name.length)
    else
      match symbol? (c :: cs) with
      | some (t, length) => t :: tokens fuel ((c :: cs).drop length)
      | none => [.bad]

-- Evaluation takes tokens from the front.
abbrev Eval := StateT (List Token) Effect

-- Which part of an expression is evaluated.
inductive Part where
  | assignment
  | conditional
  | disjunction
  | conjunction
  | operations
  | operand
  -- the rest of operations up to a level, after a left side and an operator
  | operationsAfter (left : Int) (op : Operator) (level : Nat)

variable (text : Bytes)

def broken {α : Type} (what : String) : Effect α :=
  Effect.abort ("arithmetic expression: ".toList ++ what.toList ++ ": \"".toList ++ text ++ ['"'])

def next? : Eval (Option Token) := do return (← get).head?

def skip : Eval Unit := modify List.tail

def apply (op : Operator) (a b : Int) : Effect Int :=
  match op.result? a b with
  | some n => return n
  | none => broken text "division by zero"

-- The number that a variable holds.
def lookup (name : Bytes) : Effect Int := do
  let value := (← Effect.value? name).getD []
  match integer? 0 value with
  | some n => return n
  | none => Effect.abort ("Illegal number: ".toList ++ value)

-- Evaluate a part that has at most `fuel` parts of its own. What is passed over is only read.
def eval : Nat → Part → Bool → Eval Int
  | 0, _, _ => broken text "expecting primary"
  | fuel + 1, part, passed => do
    match part with
    | .assignment =>
      match ← get with
      | .name name :: .assign op :: rest =>
        set rest
        let n ← eval fuel .assignment passed
        if passed then return n
        let n ← match op with
          | none => pure n
          | some op => do apply text op (← lookup name) n
        Effect.setVariable name (Effect.decimal n)
        return n
      | _ => eval fuel .conditional passed
    | .conditional =>
      let a ← eval fuel .disjunction passed
      if (← next?) != some .question then return a
      skip
      let b ← eval fuel .assignment (passed || a == 0)
      if (← next?) != some .colon then broken text "expecting ':'"
      skip
      let c ← eval fuel .conditional (passed || a != 0)
      return if a != 0 then b else c
    | .disjunction =>
      let a ← eval fuel .conjunction passed
      if (← next?) != some .disjunction then return a
      skip
      let b ← eval fuel .disjunction (passed || a != 0)
      return Operator.truth (a != 0 || b != 0)
    | .conjunction =>
      let a ← eval fuel .operations passed
      if (← next?) != some .conjunction then return a
      skip
      let b ← eval fuel .conjunction (passed || a == 0)
      return Operator.truth (a != 0 && b != 0)
    | .operations =>
      let a ← eval fuel .operand passed
      match ← next? with
      | some (.operator op) =>
        skip
        eval fuel (.operationsAfter a op Operator.loosest) passed
      | _ => return a
    | .operationsAfter a op level =>
      let b ← eval fuel .operand passed
      let b ← match ← next? with
        | some (.operator tighter) =>
          if tighter.level < op.level then
            skip
            eval fuel (.operationsAfter b tighter op.level) passed
          else pure b
        | _ => pure b
      let a ← if passed then pure b else apply text op a b
      match ← next? with
      | some (.operator following) =>
        if following.level < level then
          skip
          eval fuel (.operationsAfter a following level) passed
        else return a
      | _ => return a
    | .operand =>
      let t ← next?
      skip
      match t with
      | some .open =>
        let n ← eval fuel .assignment passed
        if (← next?) != some .close then broken text "expecting ')'"
        skip
        return n
      | some (.number n) => return n
      | some (.name name) => if passed then return 0 else lookup name
      | some (.operator .add) => eval fuel .operand passed
      | some (.operator .sub) => return wrap (-(← eval fuel .operand passed))
      | some .negation => return Operator.truth ((← eval fuel .operand passed) == 0)
      | some .complement => return -(← eval fuel .operand passed) - 1
      | _ => broken text "expecting primary"

-- The value of a whole expression.
def value : Effect Int := do
  let ts := tokens (text.length + 1) text
  let (n, rest) ← (eval text (8 * ts.length + 8) .assignment false).run ts
  if !rest.isEmpty then broken text "expecting EOF"
  return n

end SatFrontend.Shell.Arithmetic

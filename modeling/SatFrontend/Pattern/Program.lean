import SatFrontend.Pattern.Expression

namespace SatFrontend.Pattern

open Unicode (CharSet)

-- One instruction of a matcher, with the instructions that can come after it.
inductive Node where
  | take (s : CharSet) (next : Nat)
  | look (a : Anchor) (next : Nat)
  -- the first way is preferred
  | split (first second : Nat)
  -- the borders of the first group
  | opens (next : Nat)
  | closes (next : Nat)
  | accept
deriving DecidableEq, Repr, Inhabited

-- The instructions of a matcher, by number.
structure Program where
  nodes : Array Node
  start : Nat
deriving DecidableEq, Repr

-- Building a program from its end: what is built goes on with an instruction that is there.
abbrev Building (α : Type) := StateM (Array Node) α

namespace Building

def add (node : Node) : Building Nat := fun nodes => (nodes.size, nodes.push node)

-- Put an instruction in the place of another one.
def replace (index : Nat) (node : Node) : Building Unit := modify (·.setIfInBounds index node)

-- Go on in the first way, or in the second way if that is preferred.
def splitting (greedy : Bool) (more next : Nat) : Node :=
  if greedy then .split more next else .split next more

-- Several copies, one after the other.
def copies (build : Nat → Building Nat) : Nat → Nat → Building Nat
  | 0, next => pure next
  | n + 1, next => do build (← copies build n next)

-- Up to `n` copies. Whenever one of them is not wanted it goes on with what comes after all.
def optional (build : Nat → Building Nat) (greedy : Bool) (next : Nat) : Nat → Building Nat
  | 0 => pure next
  | n + 1 => do
    let inner ← build (← optional build greedy next n)
    add (splitting greedy inner next)

-- A loop that is entered at its body.
def loop (build : Nat → Building Nat) (greedy : Bool) (next : Nat) : Building Nat := do
  let again ← add .accept
  let inner ← build again
  replace again (splitting greedy inner next)
  return inner

-- A loop that need not be entered. The decision to enter it is another one than the decision
-- to go on with it, unless the body always takes a character.
def optionalLoop (build : Nat → Building Nat) (greedy always : Bool) (next : Nat) :
    Building Nat := do
  if always then
    let again ← add .accept
    let inner ← build again
    replace again (splitting greedy inner next)
    return again
  else
    let inner ← loop build greedy next
    add (splitting greedy inner next)

-- The characters one after the other.
def chars (next : Nat) : List Char → Building Nat
  | [] => pure next
  | c :: cs => do add (.take (CharSet.single c) (← chars next cs))

end Building

open Building

-- Build an expression that goes on with `next`, and give where it begins.
def Expression.build : Expression → Nat → Building Nat
  | empty, next => pure next
  | literal cs, next => chars next cs
  | set s, next => add (.take s next)
  | anchor a, next => add (.look a next)
  | group index e, next =>
    if index = 1 then do
      let inner ← e.build (← add (.closes next))
      add (.opens inner)
    else e.build next
  | both a b, next => do a.build (← b.build next)
  | either a b, next => do
    let first ← a.build next
    let second ← b.build next
    add (.split first second)
  | repeated e min none greedy, next => do
    match min with
    | 0 => optionalLoop e.build greedy (e.minLength?.any (0 < ·)) next
    | n + 1 => copies e.build n (← loop e.build greedy next)
  | repeated e min (some max) greedy, next => do
    copies e.build min (← optional e.build greedy next (max - min))

def Program.ofExpression (e : Expression) : Program :=
  let (start, nodes) := (do e.build (← add .accept)).run #[]
  { nodes, start }

end SatFrontend.Pattern

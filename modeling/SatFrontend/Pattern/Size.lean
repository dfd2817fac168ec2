import SatFrontend.Pattern.Expression

namespace SatFrontend.Pattern

open Unicode (CharSet)

-- The bytes of a code point in UTF-8.
def utf8Bytes (n : Nat) : List Nat :=
  if n < 0x80 then [n]
  else if n < 0x800 then [0xC0 + n / 64, 0x80 + n % 64]
  else if n < 0x10000 then [0xE0 + n / 4096, 0x80 + n / 64 % 64, 0x80 + n % 64]
  else [0xF0 + n / 262144, 0x80 + n / 4096 % 64, 0x80 + n / 64 % 64, 0x80 + n % 64]

-- A range of bytes for each byte of some code points.
abbrev ByteRow := List (Nat × Nat)

-- Where a range of code points has to be cut so that all bytes before a changing byte are
-- fixed and all after it are free: at a border between two lengths, or at the first or the last
-- border of a block.
def cut? (low high : Nat) : Option Nat :=
  let border? := [0x7F, 0x7FF, 0xFFFF].find? (fun top => low ≤ top && top < high)
  let block? := [64, 4096, 262144].findSome? fun size =>
    if low / size = high / size then none
    else if low % size ≠ 0 then some (low / size * size + size - 1)
    else if high % size ≠ size - 1 then some (high / size * size - 1)
    else none
  border?.orElse (fun _ => if high < 0x80 then none else block?)

-- The rows of a range of code points in order, after at most `fuel` cuts.
def byteRows : Nat → Nat → Nat → List ByteRow
  | 0, _, _ => []
  | fuel + 1, low, high =>
    if low < 0xE000 && 0xD7FF < high then
      byteRows fuel low 0xD7FF ++ byteRows fuel 0xE000 high
    else if high < low then []
    else
      match cut? low high with
      | some last => byteRows fuel low last ++ byteRows fuel (last + 1) high
      | none => [(utf8Bytes low).zip (utf8Bytes high)]

-- No range is cut more often.
def rowsOf (s : CharSet) : List ByteRow := s.ranges.flatMap (fun r => byteRows 24 r.1 r.2)

-- Put rows that begin with the same range together.
def groupRows (rows : List ByteRow) : List ((Nat × Nat) × List ByteRow) :=
  rows.foldr
    (fun row groups => match row, groups with
      | r :: tail, (r', tails) :: rest =>
        if r = r' then (r, tail :: tails) :: rest else (r, [tail]) :: groups
      | r :: tail, [] => (r, [tail]) :: groups
      | [], _ => groups)
    []

-- A node of a tree of rows: for each range of bytes the number of the node that comes next,
-- where 0 is the end.
abbrev TreeNode := List ((Nat × Nat) × Nat)

-- Number the nodes of rows of at most `depth` bytes. Equal nodes have the same number.
def numberNodes : Nat → List ByteRow → StateM (Array TreeNode) Nat
  | 0, _ => pure 0
  | depth + 1, rows => do
    if rows.all List.isEmpty then return 0
    let node ← (groupRows rows).mapM (fun (r, tails) => do
      return (r, ← numberNodes depth tails))
    match (← get).findIdx? (· == node) with
    | some i => return i + 1
    | none =>
      modify (·.push node)
      return (← get).size

-- The number of different ways to begin a row.
def countStarts : Nat → List ByteRow → Nat
  | 0, _ => 0
  | depth + 1, rows => (groupRows rows).foldl (fun n g => n + 1 + countStarts depth g.2) 0

-- What a matcher on bytes may need at most.
def memoryLimit : Nat := 10485760

-- The direction in which a matcher reads. Forward it keeps track of groups.
inductive Direction where
  | forward
  | backward
deriving DecidableEq, Repr

-- What one state of a matcher needs, without the ways that lead from it.
def stateSize : Nat := 32

-- What a state with two ways needs.
def forkSize : Nat := stateSize + 8

-- What the states of a set need. Forward the rows share their ends, backward their beginnings.
def setSize (d : Direction) (s : CharSet) : Nat :=
  if s.isAscii then 2 * stateSize + 8 * s.ranges.length
  else
    let rows := rowsOf s
    match d with
    | .forward =>
      let nodes := ((numberNodes 4 rows).run #[]).2
      nodes.foldl (fun n node => n + stateSize + 8 * node.length) stateSize
    | .backward => 2 * stateSize + 4 * rows.length + stateSize * countStarts 4 rows

-- What the states of an expression need.
def Expression.memory (d : Direction) : Expression → Nat
  | empty | anchor _ => stateSize
  | literal cs => cs.foldl (fun n c => n + stateSize * c.utf8Size) 0
  | set s => setSize d s
  | group _ e => (if d = .forward then 2 * stateSize else 0) + e.memory d
  | both a b => a.memory d + b.memory d
  | either a b =>
    -- one state has the ways to all alternatives, and one joins them
    match b with
    | either .. => 4 + a.memory d + b.memory d
    | _ => 2 * stateSize + 8 + a.memory d + b.memory d
  | repeated e 0 none _ =>
    if e.minLength?.any (0 < ·) then forkSize + e.memory d
    else 2 * forkSize + stateSize + e.memory d
  | repeated e (n + 1) none _ => (n + 1) * e.memory d + forkSize
  | repeated e min (some max) _ =>
    let fixed := if min = 0 && max ≠ 1 then stateSize else min * e.memory d
    if min = max then fixed
    else fixed + stateSize + (max - min) * (forkSize + e.memory d)

-- What is needed besides, to look for a match anywhere and to keep track of it.
def Direction.overhead : Direction → Nat
  | .forward => 208
  | .backward => 144

def Expression.isTooLarge (e : Expression) : Bool :=
  [Direction.forward, .backward].any (fun d => memoryLimit < d.overhead + e.memory d)

end SatFrontend.Pattern

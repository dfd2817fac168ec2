namespace SatFrontend

-- Variables in a heap: those that were in the way more often come first. A place is one more
-- than the position in the heap, and 0 for a variable that is not in it.
structure Order where
  heap : Array Nat := #[]
  places : Array Nat := #[]
  scores : Array Nat := #[]
  -- what a variable gains when it is in the way
  gain : Nat := 1024

namespace Order

def score (o : Order) (v : Nat) : Nat := o.scores.getD v 0

def put (o : Order) (i v : Nat) : Order :=
  { o with heap := o.heap.setIfInBounds i v, places := o.places.setIfInBounds v (i + 1) }

-- Move a variable towards the front, from position `i`. Each of the at most `fuel` steps halves
-- the position.
def rise (v score : Nat) : Nat → Nat → Order → Order
  | 0, i, o => o.put i v
  | fuel + 1, i, o =>
    if i = 0 then o.put 0 v
    else
      let parent := (i - 1) / 2
      let w := o.heap.getD parent 0
      if o.score w < score then rise v score fuel parent (o.put i w) else o.put i v

-- Move a variable towards the back, from position `i`.
def sink (v score : Nat) : Nat → Nat → Order → Order
  | 0, i, o => o.put i v
  | fuel + 1, i, o =>
    let left := 2 * i + 1
    if o.heap.size ≤ left then o.put i v
    else
      let right := left + 1
      let child :=
        if right < o.heap.size &&
          decide (o.score (o.heap.getD left 0) < o.score (o.heap.getD right 0)) then right
        else left
      let w := o.heap.getD child 0
      if score < o.score w then sink v score fuel child (o.put i w) else o.put i v

-- No heap has more layers.
def layers : Nat := 64

def insert (o : Order) (v : Nat) : Order :=
  if o.places.getD v 0 ≠ 0 then o
  else
    let i := o.heap.size
    let score := o.score v
    rise v score layers i { o with heap := o.heap.push v }

-- The first variable of a heap that is not empty, and the others.
def pop (o : Order) : Nat × Order :=
  let v := o.heap.getD 0 0
  let w := o.heap.getD (o.heap.size - 1) 0
  let o := { o with heap := o.heap.pop, places := o.places.setIfInBounds v 0 }
  if o.heap.isEmpty then (v, o)
  else
    let score := o.score w
    (v, sink w score layers 0 o)

-- Go on with so many variables. Those that are new were not in the way so far.
def grow (o : Order) (n : Nat) : Order :=
  let before := o.scores.size
  let o :=
    { o with
      places := o.places ++ Array.replicate (n - o.places.size) 0
      scores := o.scores ++ Array.replicate (n - before) 0 }
  ((List.range (n - before)).map (before + ·)).foldl insert o

-- Scores are kept below this, and are made smaller by this factor when they get there.
def scoreLimit : Nat := 1152921504606846976
def shrinkage : Nat := 281474976710656

def shrink (o : Order) : Order :=
  { o with scores := o.scores.map (· / shrinkage), gain := max 1024 (o.gain / shrinkage) }

-- Note that a variable was in the way.
def bump (o : Order) (v : Nat) : Order :=
  let score := o.score v + o.gain
  let place := o.places.getD v 0
  let o := { o with scores := o.scores.setIfInBounds v score }
  let o := if place = 0 then o else rise v score layers (place - 1) o
  if scoreLimit ≤ score then o.shrink else o

-- Later gains count more.
def age (o : Order) : Order := { o with gain := o.gain + o.gain / 19 }

end Order

end SatFrontend

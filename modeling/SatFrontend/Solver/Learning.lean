import SatFrontend.Solver.Order
import SatFrontend.Solver.Refutation

namespace SatFrontend

open Code

-- What is known about a literal.
inductive Truth where
  | unknown
  | yes
  | no
deriving DecidableEq, Inhabited

-- A search for values of the variables that satisfies clauses, in the middle. Values are given
-- by decisions and by what follows from them. When a clause becomes false, a new clause is
-- learned that rules out what led to it.
structure Learning (cs : Array (Array Nat)) where
  -- the clauses, those that were learned included
  facts : Array (Fact cs)
  -- two literals of each clause that are not false as long as that is possible
  first : Array Nat
  second : Array Nat
  -- the clauses that are to be looked at when a literal becomes false
  watchers : Array (Array Nat)
  truths : Array Truth
  -- for each variable with a value: how many decisions it took, the clause that it follows
  -- from, and its place among the variables with values
  levels : Array Nat
  reasons : Array (Option Nat)
  places : Array Nat
  -- true literals in the order in which they became so
  trail : Array Nat := #[]
  -- how many literals were true before each decision
  limits : Array Nat := #[]
  -- so many true literals were looked at
  head : Nat := 0
  -- so many true literals have a clause of their own as a reason
  settled : Nat := 0
  -- a clause that is false
  conflict : Option Nat := none
  order : Order
  -- the value that a variable had last
  phases : Array Bool
  -- learned clauses, and on how many decisions their literals depended
  learned : Array Nat := #[]
  depths : Array Nat := #[]
  -- variables that were seen while a clause is learned
  seen : Array Bool
  -- so many learned clauses are kept before some are given up
  room : Nat := 1000

namespace Learning

variable {cs : Array (Array Nat)}

def size (s : Learning cs) : Nat := s.truths.size

def truth (s : Learning cs) (l : Nat) : Truth := s.truths.getD l .unknown

def level (s : Learning cs) : Nat := s.limits.size

def literals (s : Learning cs) (i : Nat) : Array Nat := (s.facts.getD i Fact.trivial).literals

def levelOf (s : Learning cs) (l : Nat) : Nat := s.levels.getD (variableOf l) 0

def reasonOf (s : Learning cs) (l : Nat) : Option Nat := (s.reasons.getD (variableOf l) none)

def placeOf (s : Learning cs) (l : Nat) : Nat := s.places.getD (variableOf l) 0

-- Let a literal be true.
def enqueue (s : Learning cs) (l : Nat) (reason : Option Nat) : Learning cs :=
  let v := variableOf l
  let level := s.limits.size
  let place := s.trail.size
  { s with
    truths := (s.truths.setIfInBounds l .yes).setIfInBounds (negate l) .no
    levels := s.levels.setIfInBounds v level
    reasons := s.reasons.setIfInBounds v reason
    places := s.places.setIfInBounds v place
    trail := s.trail.push l }

-- Have a clause looked at when a literal becomes false.
def watch (s : Learning cs) (l i : Nat) : Learning cs :=
  { s with watchers := s.watchers.modify l (·.push i) }

-- Have a clause looked at when another literal becomes false, in place of its first or second.
def rewatch (s : Learning cs) (isFirst : Bool) (i l : Nat) : Learning cs :=
  let watchers := s.watchers.modify l (·.push i)
  if isFirst then { s with watchers, first := s.first.setIfInBounds i l }
  else { s with watchers, second := s.second.setIfInBounds i l }

-- Have clauses looked at when a literal becomes false, and no others.
@[noinline] def putWatchers (s : Learning cs) (l : Nat) (ws : Array Nat) : Learning cs :=
  { s with watchers := s.watchers.setIfInBounds l ws }

-- Note that a clause is false.
@[noinline] def clash (s : Learning cs) (i : Nat) : Learning cs := { s with conflict := some i }

-- A literal that is not false and not the given one, from position `k` on.
def findOther (truths : Array Truth) (c : Array Nat) (other : Nat) : Nat → Nat → Option Nat
  | 0, _ => none
  | fuel + 1, k =>
    let l := c.getD k 0
    match truths.getD l .unknown with
    | .no => findOther truths c other fuel (k + 1)
    | _ => if l = other then findOther truths c other fuel (k + 1) else some l

-- Look at the clauses that watch a literal that became false, from position `i` on. Those
-- before position `j` go on watching it.
def visit (q : Nat) : Nat → Nat → Nat → Array Nat → Learning cs → Learning cs
  | 0, _, j, ws, s => s.putWatchers q (ws.shrink j)
  | fuel + 1, i, j, ws, s =>
    let c := ws.getD i 0
    let a := s.first.getD c 0
    let isFirst := a == q
    let other := if isFirst then s.second.getD c 0 else a
    match s.truth other with
    | .yes => visit q fuel (i + 1) (j + 1) (ws.setIfInBounds j c) s
    | t =>
      let ls := s.literals c
      match findOther s.truths ls other ls.size 0 with
      | some l => visit q fuel (i + 1) j ws (s.rewatch isFirst c l)
      | none =>
        let ws := ws.setIfInBounds j c
        match t with
        | .no => visit q fuel (i + 1) (j + 1) ws (s.clash c)
        | _ => visit q fuel (i + 1) (j + 1) ws (s.enqueue other (some c))

-- Look at the true literals one after the other, at most `fuel` of them, until a clause is
-- false.
def propagate : Nat → Learning cs → Learning cs
  | 0, s => s
  | fuel + 1, s =>
    if s.conflict.isSome then s
    else match s.trail[s.head]? with
      | none => s
      | some l =>
        let q := negate l
        let ws := s.watchers.getD q #[]
        let s := { s with head := s.head + 1, watchers := s.watchers.setIfInBounds q #[] }
        propagate fuel (visit q ws.size 0 0 ws s)

-- Take back all values after so many decisions.
def backtrack (s : Learning cs) (level : Nat) : Learning cs :=
  if s.level ≤ level then s
  else
    let count := s.limits.getD level 0
    let s := { s with limits := s.limits.shrink level, head := min s.head count }
    go (s.trail.size - count) s
where
  go : Nat → Learning cs → Learning cs
    | 0, s => s
    | fuel + 1, s =>
      match s.trail.back? with
      | none => s
      | some l =>
        let v := variableOf l
        go fuel
          { s with
            trail := s.trail.pop
            truths := (s.truths.setIfInBounds l .unknown).setIfInBounds (negate l) .unknown
            phases := s.phases.setIfInBounds v (isNegative l)
            order := s.order.insert v }

-- Add a fact that is not watched, with the depth of a clause that is kept.
def addFact (s : Learning cs) (f : Fact cs) (first second depth : Nat) : Learning cs :=
  { s with
    facts := s.facts.push f
    first := s.first.push first
    second := s.second.push second
    depths := s.depths.push depth }

-- Add a clause that is watched by two of its literals.
def attach (s : Learning cs) (f : Fact cs) (first second depth : Nat) : Learning cs :=
  let i := s.facts.size
  ((s.addFact f first second depth).watch first i).watch second i

-- The reasons of literals that are certain, which are clauses of their own.
def units (s : Learning cs) (ls : Array Nat) : List Nat :=
  ls.toList.filterMap s.reasonOf

-- Give each certain literal a clause of its own as its reason, at most `fuel` of them.
def settle : Nat → Learning cs → Option (Learning cs)
  | 0, s => some s
  | fuel + 1, s =>
    match s.trail[s.settled]? with
    | none => some s
    | some l =>
      match s.reasonOf l with
      | none => none
      | some c =>
        let ls := s.literals c
        let s := { s with settled := s.settled + 1 }
        if ls.size = 1 then settle fuel s
        else
          let others := s.units (ls.filter (· != l))
          match Fact.learn? s.facts s.size #[l] (others ++ [c]) with
          | none => none
          | some f =>
            let i := s.facts.size
            let s := s.addFact f l l 0
            settle fuel { s with reasons := s.reasons.setIfInBounds (variableOf l) (some i) }

-- What was found out about a clause that is false: literals that became true by earlier
-- decisions, how many others there are, and the clauses that were used, in the order in which
-- their literals became true.
structure Analysis where
  earlier : Array Nat := #[]
  pending : Nat := 0
  certain : List Nat := []
  used : List Nat := []

-- Note that a variable was seen.
@[noinline] def notice (s : Learning cs) (v : Nat) : Learning cs :=
  { s with seen := s.seen.setIfInBounds v true, order := s.order.bump v }

-- Take the literals of a clause into account, but not the one that follows from it.
def absorb (s : Learning cs) (a : Analysis) (c : Nat) (except : Option Nat) :
    Learning cs × Analysis :=
  let ls := s.literals c
  go ls except ls.size 0 s { a with used := c :: a.used }
where
  go (ls : Array Nat) (except : Option Nat) : Nat → Nat → Learning cs → Analysis →
      Learning cs × Analysis
    | 0, _, s, a => (s, a)
    | fuel + 1, k, s, a =>
      let l := ls.getD k 0
      let v := variableOf l
      if s.seen.getD v false || except == some l then go ls except fuel (k + 1) s a
      else
        let level := s.levels.getD v 0
        let s := s.notice v
        let a :=
          if level = 0 then { a with certain := (s.reasonOf l).toList ++ a.certain }
          else if level = s.level then { a with pending := a.pending + 1 }
          else { a with earlier := a.earlier.push l }
        go ls except fuel (k + 1) s a

-- Go back over true literals from position `i`, and replace each one that was seen by the
-- clause it follows from, until a single one is left. That one is the outcome.
def resolve : Nat → Nat → Learning cs → Analysis → Learning cs × Analysis × Nat
  | 0, _, s, a => (s, a, 0)
  | fuel + 1, i, s, a =>
    let l := s.trail.getD i 0
    if !s.seen.getD (variableOf l) false then resolve fuel (i - 1) s a
    else if a.pending ≤ 1 then (s, a, l)
    else
      match s.reasonOf l with
      | none => (s, a, l)
      | some c =>
        let (s, a) := s.absorb { a with pending := a.pending - 1 } c (some l)
        resolve fuel (i - 1) s a

-- Whether a literal is false because of others that are seen, so that it can be left out.
def isImplied (s : Learning cs) (l : Nat) : Bool :=
  match s.reasonOf l with
  | none => false
  | some c =>
    (s.literals c).all fun m => s.seen.getD (variableOf m) false || s.levelOf m == 0

-- The number of different decisions that literals depend on.
def depthOf (s : Learning cs) (ls : Array Nat) : Nat :=
  (ls.toList.map s.levelOf).mergeSort.eraseReps.length

-- A clause that was learned: the literal that follows from it after going back, the literal
-- that became false last before that, and the decisions that are kept.
structure Lesson (cs : Array (Array Nat)) where
  fact : Fact cs
  asserted : Nat
  last : Nat
  level : Nat
  depth : Nat

-- The literal that became false by the latest decision.
def latest (s : Learning cs) (ls : Array Nat) : Option Nat :=
  ls.foldl (fun best l => match best with
    | none => some l
    | some m => if s.levelOf m < s.levelOf l then some l else best) none

-- Forget which variables of clauses were seen.
def forget (s : Learning cs) (used : List Nat) : Learning cs :=
  let facts := s.facts
  let seen := s.seen
  -- nothing else holds the marks, so they need not be copied
  let s := { s with seen := #[] }
  let seen := used.foldl (fun seen c => (facts.getD c Fact.trivial).literals.foldl
    (fun seen l => seen.setIfInBounds (variableOf l) false) seen) seen
  { s with seen }

-- Learn from a clause that is false.
def study (s : Learning cs) (c : Nat) : Learning cs × Option (Lesson cs) :=
  let (s, a) := s.absorb {} c none
  let (s, a, l) := resolve s.trail.size (s.trail.size - 1) s a
  let asserted := negate l
  let (left, kept) := a.earlier.partition s.isImplied
  let byPlace := left.toList.mergeSort (fun l m => decide (s.placeOf l ≤ s.placeOf m))
  -- what follows for the literals that were left out can need certain literals as well
  let reasons := byPlace.filterMap s.reasonOf
  let certain := reasons.flatMap fun r =>
    s.units ((s.literals r).filter (fun m => s.levelOf m == 0))
  let hints := a.certain ++ certain ++ reasons ++ a.used
  let fact := Fact.learn? s.facts s.size (#[asserted] ++ kept) hints
  let s := s.forget a.used
  match fact with
  | none => (s, none)
  | some fact =>
    let last := s.latest kept
    (s, some
      { fact
        asserted
        last := last.getD asserted
        level := last.elim 0 s.levelOf
        depth := s.depthOf kept + 1 })

-- Go back and keep what was learned.
def apply (s : Learning cs) (lesson : Lesson cs) : Learning cs :=
  let s := s.backtrack lesson.level
  let i := s.facts.size
  let s := { s with conflict := none }
  let s :=
    if lesson.fact.literals.size = 1 then
      s.addFact lesson.fact lesson.asserted lesson.asserted lesson.depth
    else
      let s := s.attach lesson.fact lesson.asserted lesson.last lesson.depth
      { s with learned := s.learned.push i }
  let s := s.enqueue lesson.asserted (some i)
  { s with order := s.order.age }

-- Give up half of the learned clauses, those that depend on most decisions. No clause may be
-- the reason of a literal, so this is done before the first decision.
def reduce (s : Learning cs) : Learning cs :=
  let depth (c : Nat) : Nat := s.depths.getD c 0
  let (fixed, free) := s.learned.partition (fun c => depth c ≤ 2)
  let sorted := free.toList.mergeSort (fun c d =>
    decide (depth c < depth d ∨ depth c = depth d ∧ d ≤ c))
  let (good, bad) := sorted.splitAt (sorted.length / 2)
  let isBad := bad.foldl (fun marks c => marks.setIfInBounds c true)
    (Array.replicate s.facts.size false)
  { s with
    learned := fixed ++ good.toArray
    watchers := s.watchers.map (·.filter (fun c => !isBad.getD c false)) }

-- Take variables out of the order, at most `fuel` of them, until one has no value.
def choose : Nat → Order → Array Truth → Option Nat × Order
  | 0, o, _ => (none, o)
  | fuel + 1, o, truths =>
    if o.heap.isEmpty then (none, o)
    else
      let (v, o) := o.pop
      if truths.getD (2 * v) .unknown = .unknown then (some v, o) else choose fuel o truths

def decideOn (s : Learning cs) (l : Nat) : Learning cs :=
  enqueue { s with limits := s.limits.push s.trail.size } l none

-- How the search goes on after it has started anew: the number in the sequence
-- 1, 1, 2, 1, 1, 2, 4, … at a position, where each part is repeated before a larger number.
def luby (i : Nat) : Nat := go 64 i
where
  go : Nat → Nat → Nat
    | 0, _ => 1
    | fuel + 1, i =>
      let k := Nat.log2 (i + 1)
      if i + 2 = 2 * 2 ^ k then 2 ^ k else go fuel (i + 1 - 2 ^ k)

-- Why a literal is false: a clause that follows, with the negation of that literal and of
-- decisions that were made.
def blame (s : Learning cs) (l : Nat) : Learning cs × Option (Fact cs) :=
  match s.reasonOf l with
  | none => (s, some (Fact.excludedMiddle l))
  | some _ =>
    let s := { s with seen := s.seen.setIfInBounds (variableOf l) true }
    let (s, a) := go s.trail.size s {}
    let fact := Fact.learn? s.facts s.size (a.earlier.push (negate l)) a.used
    ({ s with seen := Array.replicate s.seen.size false }, fact)
where
  -- go back over true literals from position `n`, and collect those that are no consequence
  go : Nat → Learning cs → Analysis → Learning cs × Analysis
    | 0, s, a => (s, a)
    | n + 1, s, a =>
      let m := s.trail.getD n 0
      if !s.seen.getD (variableOf m) false then go n s a
      else match s.reasonOf m with
        | none => go n s { a with earlier := a.earlier.push (negate m) }
        | some c =>
          let s := (s.literals c).foldl
            (fun s k => { s with seen := s.seen.setIfInBounds (variableOf k) true }) s
          go n s { a with used := c :: a.used }

-- What comes out of a search.
inductive Verdict (cs : Array (Array Nat)) where
  -- all variables have values
  | values (s : Learning cs)
  -- a fact stands against literals that were to be true
  | impossible (f : Fact cs) (s : Learning cs)
  | undecided

-- How often a search starts anew: so often so far, and again after so many conflicts.
structure Pace where
  restarts : Nat := 0
  conflicts : Nat := 100

-- What follows a step of a search.
inductive Turn (cs : Array (Array Nat)) where
  | goesOn (pace : Pace) (s : Learning cs)
  | ends (v : Verdict cs)

-- Go on after a clause became false. If that did not take a decision, nothing satisfies the
-- clauses, and this stays so.
def recover (pace : Pace) (s : Learning cs) (c : Nat) : Turn cs :=
  if s.level = 0 then
    match settle s.size s with
    | none => .ends .undecided
    | some s =>
      match Fact.learn? s.facts s.size #[] (s.units (s.literals c) ++ [c]) with
      | none => .ends .undecided
      | some f =>
        let i := s.facts.size
        .ends (.impossible f { s.addFact f 0 0 0 with conflict := some i })
  else
    match s.study c with
    | (_, none) => .ends .undecided
    | (s, some lesson) => .goesOn { pace with conflicts := pace.conflicts - 1 } (s.apply lesson)

-- Give a value to a variable that has none.
def extend (pace : Pace) (s : Learning cs) : Turn cs :=
  let order := s.order
  -- nothing else holds the order, so it need not be copied
  let s := { s with order := {} }
  match choose s.size order s.truths with
  | (none, order) => .ends (.values { s with order })
  | (some v, order) =>
    let l := if s.phases.getD v true then 2 * v + 1 else 2 * v
    .goesOn pace ({ s with order }.decideOn l)

-- Tidy up before the first decision.
def tidy (s : Learning cs) : Option (Learning cs) :=
  (settle s.size s).map fun s =>
    if s.room < s.learned.size then { s.reduce with room := s.room + 200 } else s

-- Make a decision. Literals that are to be true come first.
def decideNext (goals : Array Nat) (pace : Pace) (s : Learning cs) : Turn cs :=
  match goals.find? (s.truth · ≠ .yes) with
  | none => extend pace s
  | some l =>
    if s.truth l = .unknown then .goesOn pace (s.decideOn l)
    else match s.blame l with
      | (s, some f) => .ends (.impossible f s)
      | (_, none) => .ends .undecided

-- The next step of a search, where literals can be given that are to be true.
def step (goals : Array Nat) (pace : Pace) (s : Learning cs) : Turn cs :=
  let s := propagate (s.size + 1) s
  match s.conflict with
  | some c => recover pace s c
  | none =>
    if pace.conflicts = 0 then
      let restarts := pace.restarts + 1
      .goesOn { restarts, conflicts := 100 * luby restarts } (s.backtrack 0)
    else if s.level = 0 then
      match s.tidy with
      | none => .ends .undecided
      | some s => decideNext goals pace s
    else decideNext goals pace s

-- Search in at most `fuel` steps.
def run (goals : Array Nat) : Nat → Pace → Learning cs → Verdict cs
  | 0, _, _ => .undecided
  | fuel + 1, pace, s =>
    match step goals pace s with
    | .ends v => v
    | .goesOn pace s => run goals fuel pace s

-- More steps than can be taken in any amount of time that matters.
def patience : Nat := 1000000000000000000

-- Search for values with which the clauses and the given literals are true.
def search (s : Learning cs) (goals : Array Nat) : Verdict cs :=
  run goals patience {} (s.backtrack 0)

-- Have a clause looked at, before any decision.
def introduce (s : Learning cs) (i : Nat) : Learning cs :=
  let ls := s.literals i
  if ls.any (s.truth · == .yes) then s
  else
    let free := ls.filter (s.truth · == .unknown)
    match free[0]? with
    | none => { s with conflict := some i }
    | some l =>
      match free.find? (· ≠ l) with
      | some m => (({ s with
          first := s.first.setIfInBounds i l
          second := s.second.setIfInBounds i m }).watch l i).watch m i
      | none => s.enqueue l (some i)

-- Nothing is known yet.
def empty : Learning #[] where
  facts := #[]
  first := #[]
  second := #[]
  watchers := #[]
  truths := #[]
  levels := #[]
  reasons := #[]
  places := #[]
  order := {}
  phases := #[]
  seen := #[]

-- Go on with more clauses, which come after those there were, and with so many variables.
def grow {ds : Array (Array Nat)} (s : Learning cs)
    (h : ∀ a, holdsAll a ds = true → holdsAll a cs = true) (varCount : Nat) : Learning ds :=
  let s := s.backtrack 0
  let more {α : Type} (xs : Array α) (count : Nat) (x : α) : Array α :=
    xs ++ Array.replicate (count - xs.size) x
  let before := s.facts.size
  let news := (Fact.ofClauses ds).extract cs.size ds.size
  let facts := s.facts.map (Fact.weaken h) ++ news
  let grown : Learning ds :=
    { s with
      facts
      first := more s.first facts.size 0
      second := more s.second facts.size 0
      watchers := more s.watchers (2 * varCount) #[]
      truths := more s.truths (2 * varCount) .unknown
      levels := more s.levels varCount 0
      reasons := more s.reasons varCount none
      places := more s.places varCount 0
      order := s.order.grow varCount
      phases := more s.phases varCount true
      depths := more s.depths facts.size 0
      seen := more s.seen varCount false }
  ((List.range news.size).map (before + ·)).foldl introduce grown

end Learning

end SatFrontend

import SatFrontend.Unicode.CharSet

namespace SatFrontend.Pattern

open Unicode (CharSet)

-- What has to hold for the characters on both sides of a place with respect to words.
inductive WordSide where
  | edge
  | noEdge
  | start
  | stop
  -- only one of the sides is looked at
  | notAfterWord
  | notBeforeWord
deriving DecidableEq, Repr

-- A place in a text that matches without taking a character.
inductive Anchor where
  | textStart
  | textEnd
  -- lines can be ended by carriage returns as well
  | lineStart (returns : Bool)
  | lineEnd (returns : Bool)
  -- words can be limited to ASCII characters
  | word (side : WordSide) (ascii : Bool)
deriving DecidableEq, Repr

inductive Expression where
  | empty
  | literal (cs : List Char)
  | set (s : CharSet)
  | anchor (a : Anchor)
  | group (index : Nat) (e : Expression)
  | both (first second : Expression)
  | either (first second : Expression)
  -- at least `min` times, and at most `max` times if that is given; as often as possible if
  -- `greedy`
  | repeated (e : Expression) (min : Nat) (max : Option Nat) (greedy : Bool)
deriving DecidableEq, Repr

namespace Expression

-- The length of the shortest text that matches, in bytes. There is none if nothing can match.
def minLength? : Expression → Option Nat
  | empty | anchor _ => some 0
  | literal cs => some (cs.foldl (fun n c => n + c.utf8Size) 0)
  | set s => s.ranges.head?.map (fun r => (Char.ofNat r.1).utf8Size)
  | group _ e => e.minLength?
  | both a b => do return (← a.minLength?) + (← b.minLength?)
  | either a b => do return min (← a.minLength?) (← b.minLength?)
  | repeated e min _ _ => e.minLength?.map (· * min)

-- Whether no character can be taken by a match.
def takesNothing : Expression → Bool
  | empty | anchor _ => true
  | literal _ | set _ => false
  | group _ e => e.takesNothing
  | both a b | either a b => a.takesNothing && b.takesNothing
  | repeated e _ _ _ => e.takesNothing

-- The largest number of a group, 0 if there is no group.
def lastGroup : Expression → Nat
  | empty | literal _ | set _ | anchor _ => 0
  | group index e => max index e.lastGroup
  | both a b | either a b => max a.lastGroup b.lastGroup
  | repeated e _ _ _ => e.lastGroup

-- The expressions that have to match one after the other.
def parts : Expression → List Expression
  | both a b => a :: b.parts
  | e => [e]

-- The expressions one of which has to match.
def choices : Expression → List Expression
  | either a b => a :: b.choices
  | e => [e]

def ofSet (s : CharSet) : Expression :=
  match s.single? with
  | some c => literal [c]
  | none => set s

-- Put literals that follow each other together.
def joinLiterals : List Expression → List Expression
  | literal cs :: rest =>
    match joinLiterals rest with
    | literal ds :: rest => literal (cs ++ ds) :: rest
    | rest => literal cs :: rest
  | e :: rest => e :: joinLiterals rest
  | [] => []

-- One after the other. What is empty is left out.
def sequence (es : List Expression) : Expression :=
  join (joinLiterals ((es.flatMap parts).filter (· ≠ empty)))
where
  join : List Expression → Expression
    | [] => empty
    | [e] => e
    | e :: es => both e (join es)

def char? : Expression → Option Char
  | literal [c] => some c
  | _ => none

def set? : Expression → Option CharSet
  | set s => some s
  | _ => none

-- The parts with which two lists begin.
def commonPrefix : List Expression → List Expression → List Expression
  | a :: as, b :: bs => if a = b then a :: commonPrefix as bs else []
  | _, _ => []

-- One of several. Single characters and sets become one set, and what all alternatives begin
-- with is matched only once if each of them has several parts. This is done at most `depth`
-- times in what is left of them.
def choice (depth : Nat) (es : List Expression) : Expression :=
  let es := es.flatMap choices
  match es with
  | [] => set CharSet.empty
  | [e] => e
  | first :: rest =>
    match es.mapM char?, es.mapM set? with
    | some cs, _ => ofSet (CharSet.ofRanges (cs.map (fun c => (c.toNat, c.toNat))))
    | none, some ss => ofSet (CharSet.unionAll ss)
    | none, none =>
      let shared := rest.foldl (fun shared e => commonPrefix shared e.parts) first.parts
      let several := es.all (fun e => 1 < e.parts.length)
      match depth with
      | depth + 1 =>
        if several && !shared.isEmpty then
          let tails := es.map (fun e => sequence (e.parts.drop shared.length))
          sequence (shared ++ [choice depth tails])
        else alternatives first rest
      | 0 => alternatives first rest
where
  alternatives (first : Expression) : List Expression → Expression
    | [] => first
    | e :: es => either first (alternatives e es)

-- A repetition. What takes no character needs not be repeated more than once, and what is
-- repeated not at all or just once is no repetition.
def repeating (e : Expression) (min : Nat) (max : Option Nat) (greedy : Bool) : Expression :=
  let (min, max) :=
    if e.takesNothing then (Nat.min min 1, some (Nat.min (max.getD 1) 1)) else (min, max)
  if min = 0 && max = some 0 then empty
  else if min = 1 && max = some 1 then e
  else repeated e min max greedy

end Expression

end SatFrontend.Pattern

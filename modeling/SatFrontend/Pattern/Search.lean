import SatFrontend.Pattern.Program
import SatFrontend.Unicode.Binary

namespace SatFrontend.Pattern

-- A place in a text, by what stands around it.
structure Place where
  position : Nat
  before : Option Char
  after : Option Char

-- The characters that words consist of.
def wordSet : Unicode.CharSet := Unicode.wordCharacters

def isWordChar (ascii : Bool) (c : Char) : Bool :=
  if c.toNat < 0x80 then c.isAlphanum || c == '_' else !ascii && wordSet.mem c

def WordSide.holds (before after : Bool) : WordSide → Bool
  | edge => before != after
  | noEdge => before == after
  | start => !before && after
  | stop => before && !after
  | notAfterWord => !before
  | notBeforeWord => !after

-- A carriage return and a line feed are one line end.
def Anchor.holds (p : Place) : Anchor → Bool
  | textStart => p.before.isNone
  | textEnd => p.after.isNone
  | lineStart false => p.before.all (· == '\n')
  | lineEnd false => p.after.all (· == '\n')
  | lineStart true =>
    p.before.all (· == '\n') || (p.before == some '\r' && p.after != some '\n')
  | lineEnd true => p.after.all (· == '\r') || (p.after == some '\n' && p.before != some '\r')
  | word side ascii => side.holds (p.before.any (isWordChar ascii)) (p.after.any (isWordChar ascii))

-- A way to match up to some place: the next instruction, and where the first group was opened
-- and closed last.
structure Thread where
  node : Nat
  opened : Option Nat := none
  closed : Option Nat := none
deriving Inhabited

-- The threads that wait for the next character, those that are preferred first. Each
-- instruction is visited at most once at a place, so that later threads at the same
-- instruction are dropped.
structure Frontier where
  ready : Array Thread := #[]
  -- the place at which an instruction was visited last, counted from 1
  visited : Array Nat

-- Follow threads to the instructions that wait for a character. At most `fuel` instructions are
-- looked at.
def Frontier.follow (program : Program) (place : Place) :
    Nat → Frontier → List Thread → Frontier
  | 0, f, _ => f
  | _ + 1, f, [] => f
  | fuel + 1, f, t :: rest =>
    if f.visited[t.node]?.getD 0 = place.position + 1 then follow program place fuel f rest
    else
      let f := { f with visited := f.visited.setIfInBounds t.node (place.position + 1) }
      match program.nodes[t.node]? with
      | some (.take ..) | some .accept =>
        follow program place fuel { f with ready := f.ready.push t } rest
      | some (.look a next) =>
        follow program place fuel f
          (if a.holds place then { t with node := next } :: rest else rest)
      | some (.split first second) =>
        follow program place fuel f ({ t with node := first } :: { t with node := second } :: rest)
      | some (.opens next) =>
        follow program place fuel f
          ({ t with node := next, opened := some place.position } :: rest)
      | some (.closes next) =>
        follow program place fuel f
          ({ t with node := next, closed := some place.position } :: rest)
      | none => follow program place fuel f rest

-- Follow one thread. Each instruction leads to at most two others.
def Frontier.start (program : Program) (place : Place) (f : Frontier) (t : Thread) : Frontier :=
  f.follow program place (2 * program.nodes.size + 2) [t]

-- Whether a thread goes on with a character, and where.
def Thread.step? (program : Program) (c : Char) (t : Thread) : Option Thread :=
  match program.nodes[t.node]? with
  | some (.take s next) => if s.mem c then some { t with node := next } else none
  | _ => none

def Thread.accepts (program : Program) (t : Thread) : Bool :=
  program.nodes[t.node]? == some .accept

-- Take a character with all threads.
def Frontier.advance (program : Program) (c : Char) (place : Place) (threads : List Thread)
    (visited : Array Nat) : Frontier :=
  threads.foldl
    (fun f t => match t.step? program c with
      | some t => f.start program place t
      | none => f)
    { visited }

-- The threads at a place that are preferred to a match there, and the best match so far. New
-- threads begin at the place if there is no match yet.
def Frontier.settle (program : Program) (place : Place) (best : Option Thread) (f : Frontier) :
    List Thread × Option Thread × Array Nat :=
  let f := if best.isNone then f.start program place { node := program.start } else f
  let threads := f.ready.toList
  (threads.takeWhile (fun t => !t.accepts program),
    (threads.find? (·.accepts program)).orElse (fun _ => best), f.visited)

-- The match that begins first and is preferred among those, as the thread that accepted.
def search (program : Program) (position : Nat) (before : Option Char) (best : Option Thread)
    (f : Frontier) : List Char → Option Thread
  | [] => (f.settle program { position, before, after := none } best).2.1
  | c :: cs =>
    let (threads, best, visited) := f.settle program { position, before, after := some c } best
    if threads.isEmpty && best.isSome then best
    else
      let next := { position := position + 1, before := some c, after := cs.head? }
      search program (position + 1) (some c) best (.advance program c next threads visited) cs

-- What the first group of the first match took. There is none if nothing matches or the group
-- took no part.
def Program.firstGroup? (program : Program) (text : List Char) : Option (List Char) := do
  let visited := Array.replicate program.nodes.size 0
  let t ← search program 0 none none { visited } text
  let opened ← t.opened
  let closed ← t.closed
  some ((text.drop opened).take (closed - opened))

end SatFrontend.Pattern

import SatFrontend.Kernel.Process
import SatFrontend.Kernel.Signal

namespace SatFrontend.Kernel

open Text (Bytes)

-- Bytes on their way from writers to readers. Those in `back` come later, the last one first.
structure Queue where
  front : Bytes := []
  back : List Bytes := []
  size : Nat := 0

namespace Queue

-- A queue that is as full takes no more.
def capacity : Nat := 65536

def push (q : Queue) (bytes : Bytes) : Queue :=
  { q with back := bytes :: q.back, size := q.size + bytes.length }

-- Take at most so many bytes from the front.
def pop (q : Queue) (count : Nat) : Bytes × Queue :=
  let front := if q.front.isEmpty then q.back.reverse.flatten else q.front
  let back := if q.front.isEmpty then [] else q.back
  let (taken, front) := front.splitAt count
  (taken, { front, back, size := q.size - taken.length })

end Queue

-- Where the bytes of a stream come from or go to.
inductive Channel where
  -- the two streams that are watched from outside
  | output (errors : Bool)
  | device (d : Device)
  | file (l : Location) (append : Bool)
  | directory
  | pipe (index : Nat)

-- A channel that was opened. All descriptors that stand for it share the position.
structure Stream where
  channel : Channel
  readable : Bool
  writable : Bool
  position : Nat := 0

-- A process that has not ended.
structure Task where
  id : Nat
  parent : Nat
  process : Process
  -- the open streams by number
  descriptors : List (Nat × Nat)
  here : Location
  ignored : List Nat := []
  caught : List Nat := []
  -- caught signals that it was not told of
  pending : List Nat := []

-- All processes and what they share. The first task goes on before the others.
structure Machine where
  tasks : List Task
  -- processes that have ended and their parents do not know of
  ended : List (Nat × Nat × Exit) := []
  streams : Array Stream
  pipes : Array Queue
  files : Files
  nextId : Nat
  -- how the first process has ended
  exit : Option Exit := none

-- What happens when one task goes on.
inductive Event where
  | goes (m : Machine)
  | prints (errors : Bool) (bytes : Bytes) (m : Machine)
  -- the task has to wait for another one
  | blocked

namespace Task

def stream? (t : Task) (descriptor : Nat) : Option Nat := t.descriptors.lookup descriptor

def closing (t : Task) (descriptor : Nat) : Task :=
  { t with descriptors := t.descriptors.filter (·.1 != descriptor) }

def opening (t : Task) (descriptor stream : Nat) : Task :=
  { t with descriptors := (descriptor, stream) :: (t.closing descriptor).descriptors }

-- Copies that are kept out of the way have these numbers.
def asideFrom : Nat := 10

-- The least number from `n` on that is free. A free one comes after so many steps.
def freeFrom (t : Task) (n : Nat) : Nat :=
  ((List.range (t.descriptors.length + 1)).map (n + ·)).find?
    (fun n => (t.stream? n).isNone) |>.getD n

end Task

namespace Machine

-- Put a task in front, to go on at once.
def resume (m : Machine) (t : Task) : Machine := { m with tasks := t :: m.tasks }

-- The id of the process that everything starts with.
def firstId : Nat := 100

-- End a process. Its children have no parent from then on.
def finish (m : Machine) (t : Task) (e : Exit) : Machine :=
  let m := { m with ended := m.ended.filter (fun z => z.2.1 != t.id) }
  if t.id = firstId then { m with exit := some e }
  else if m.tasks.any (·.id == t.parent) then { m with ended := m.ended ++ [(t.id, t.parent, e)] }
  else m

-- Whether a task holds a stream open that leads to a pipe.
def holds (m : Machine) (pipe : Nat) (writing : Bool) (t : Task) : Bool :=
  t.descriptors.any fun (_, index) =>
    match m.streams[index]? with
    | some s =>
      match s.channel with
      | .pipe p => p == pipe && (if writing then s.writable else s.readable)
      | _ => false
    | none => false

def openStream (m : Machine) (s : Stream) : Nat × Machine :=
  (m.streams.size, { m with streams := m.streams.push s })

-- Send a signal to a task: the task after it, if it goes on.
def receive (t : Task) (number : Nat) : Option Task :=
  if number ≠ Signal.kill ∧ t.ignored.contains number then some t
  else if number ≠ Signal.kill ∧ t.caught.contains number then
    some { t with pending := t.pending.filter (· != number) ++ [number] }
  else if Signal.ends number then none
  else some t

-- Read at most so many bytes from an open stream, unless there may be some later.
def readFrom (m : Machine) (t : Task) (index count : Nat) :
    Option (Except IoError Bytes × Machine) :=
  match m.streams[index]? with
  | none => some (.error .badDescriptor, m)
  | some s =>
    if !s.readable then some (.error .badDescriptor, m)
    else match s.channel with
    | .output _ => some (.error .badDescriptor, m)
    | .device .null => some (.ok [], m)
    | .device _ => some (.ok (List.replicate count '\x00'), m)
    | .directory => some (.error .isADirectory, m)
    | .file l _ =>
      match m.files.content? l with
      | some (.regular bytes) =>
        let taken := (bytes.drop s.position).take count
        let s := { s with position := s.position + taken.length }
        some (.ok (Text.widen taken), { m with streams := m.streams.setIfInBounds index s })
      | _ => some (.ok [], m)
    | .pipe p =>
      match m.pipes[p]? with
      | none => some (.ok [], m)
      | some q =>
        if q.size = 0 then
          if (t :: m.tasks).any (m.holds p true) then none else some (.ok [], m)
        else
          let (taken, q) := q.pop count
          some (.ok taken, { m with pipes := m.pipes.setIfInBounds p q })

-- Put bytes over and behind those of a file.
def overwrite (old : List UInt8) (position : Nat) (bytes : List UInt8) : List UInt8 :=
  let before := old.take position
  before ++ List.replicate (position - before.length) 0 ++ bytes ++
    old.drop (position + bytes.length)

-- Go on with a reply.
def reply (m : Machine) (t : Task) (p : Process) : Event :=
  .goes (m.resume { t with process := p })

-- Write to an open stream.
def writeTo (m : Machine) (t : Task) (index : Nat) (bytes : Bytes)
    (next : Except IoError Unit → Process) : Event :=
  match m.streams[index]? with
  | none => m.reply t (next (.error .badDescriptor))
  | some s =>
    if !s.writable then m.reply t (next (.error .badDescriptor))
    else match s.channel with
    | .output errors =>
      if bytes.isEmpty then m.reply t (next (.ok ()))
      else .prints errors bytes (m.resume { t with process := next (.ok ()) })
    | .device .full => m.reply t (next (.error .noSpace))
    | .device _ | .directory => m.reply t (next (.ok ()))
    | .file l append =>
      match m.files.content? l with
      | some (.regular old) =>
        let position := if append then old.length else s.position
        let new := overwrite old position (Text.narrow bytes)
        let s := { s with position := position + bytes.length }
        reply
          { m with
            streams := m.streams.setIfInBounds index s
            files := m.files.set l (.regular new) }
          t (next (.ok ()))
      | _ => m.reply t (next (.ok ()))
    | .pipe p =>
      if (t :: m.tasks).any (m.holds p false) then
        match m.pipes[p]? with
        | none => m.reply t (next (.ok ()))
        | some q =>
          if Queue.capacity ≤ q.size then .blocked
          else reply { m with pipes := m.pipes.setIfInBounds p (q.push bytes) } t (next (.ok ()))
      else
        match receive t Signal.brokenPipe with
        | some t => m.reply t (next (.error .brokenPipe))
        | none => .goes (m.finish t (.signal Signal.brokenPipe))

-- The files as a task sees them.
def filesOf (m : Machine) (t : Task) : Files := { m.files with here := t.here }

-- Whether a mode reads, and whether it writes.
def accessOf : Mode → Bool × Bool
  | .read => (true, false)
  | .readWrite => (true, true)
  | _ => (false, true)

-- Open what a path leads to. A file to be written is made if it is missing.
def openPath (m : Machine) (t : Task) (path : Bytes) (mode : Mode) :
    Except IoError (Nat × Machine) := do
  let (readable, writable) := accessOf mode
  let fs := m.filesOf t
  let l ← fs.locate (Text.narrow path)
  let opened (channel : Channel) : Nat × Machine := m.openStream { channel, readable, writable }
  match fs.content? l with
  | none =>
    if mode = .read then throw .notFound
    match fs.content? l.dropLast with
    | some .directory =>
      if path.getLast? == some '/' then throw .isADirectory
      return { m with files := m.files.set l (.regular []) }.openStream
        { channel := .file l (decide (mode = Mode.append)), readable, writable }
    | some _ => throw .notADirectory
    | none => throw .notFound
  | some entry =>
    match mode, entry with
    | .read, .directory => return opened .directory
    | _, .directory => throw .isADirectory
    | _, .device (.stream n) =>
      match t.stream? n with
      | some index =>
        match m.streams[index]? with
        | some s => return m.openStream { s with position := 0 }
        | none => throw .notFound
      | none => throw .notFound
    | _, .device .terminal => throw .noDevice
    | _, .device d => return opened (.device d)
    | .create, _ => throw .alreadyExists
    | .write, _ =>
      return { m with files := m.files.set l (.regular []) }.openStream
        { channel := .file l false, readable, writable }
    | _, _ => return opened (.file l (decide (mode = Mode.append)))

-- Send a signal to the process of an id. One that has ended can still be sent one, until its
-- parent knows of the end, and the parent of the first one is the last to know. The sender can
-- be the receiver.
def send (m : Machine) (t : Task) (id number : Nat) (next : Bool → Process) : Event :=
  if id = t.id then
    match receive t number with
    | some t => m.reply t (next true)
    | none => .goes (m.finish t (.signal number))
  else
    match m.tasks.find? (·.id == id) with
    | some target =>
      match receive target number with
      | some target =>
        let tasks := m.tasks.map (fun t => if t.id = id then target else t)
        reply { m with tasks } t (next true)
      | none =>
        let rest := { m with tasks := m.tasks.filter (·.id != id) }
        -- the sender counts as well when the parent is looked for
        let after := finish (rest.resume t) target (.signal number)
        reply { after with tasks := rest.tasks } t (next true)
    | none => m.reply t (next (id == firstId || m.ended.any (·.1 == id)))

-- Let a task go on, which is none of those in the machine.
def serve (m : Machine) (t : Task) : Event :=
  match t.process with
  | .ends e => .goes (m.finish t e)
  | .fork child next =>
    let id := m.nextId
    let born : Task := { t with id, parent := t.id, process := child (), pending := [] }
    reply { m with nextId := id + 1, tasks := m.tasks ++ [born] } t (next id)
  | .ask request next =>
    match request, next with
    | .pause, next => m.reply t (next ())
    | .read d count, next =>
      match t.stream? d with
      | none => m.reply t (next (.error .badDescriptor))
      | some index =>
        match m.readFrom t index count with
        | some (r, m) => m.reply t (next r)
        | none => .blocked
    | .write d bytes, next =>
      match t.stream? d with
      | none => m.reply t (next (.error .badDescriptor))
      | some index => m.writeTo t index bytes next
    | .openFile d path mode, next =>
      match m.openPath t path mode with
      | .ok (index, m) => m.reply (t.opening d index) (next (.ok ()))
      | .error e => m.reply t (next (.error e))
    | .supply d bytes, next =>
      let p := m.pipes.size
      let (index, m) := openStream { m with pipes := m.pipes.push (Queue.push {} bytes) }
        { channel := .pipe p, readable := true, writable := false }
      m.reply (t.opening d index) (next ())
    | .pipe, next =>
      let p := m.pipes.size
      let (source, m) := openStream { m with pipes := m.pipes.push {} }
        { channel := .pipe p, readable := true, writable := false }
      let (sink, m) := m.openStream { channel := .pipe p, readable := false, writable := true }
      let a := t.freeFrom Task.asideFrom
      let t := t.opening a source
      let b := t.freeFrom Task.asideFrom
      m.reply (t.opening b sink) (next (a, b))
    | .duplicate source target, next =>
      match t.stream? source with
      | some index => m.reply (t.opening target index) (next (.ok ()))
      | none => m.reply t (next (.error .badDescriptor))
    | .setAside d, next =>
      match t.stream? d with
      | some index =>
        let n := t.freeFrom Task.asideFrom
        m.reply (t.opening n index) (next (some n))
      | none => m.reply t (next none)
    | .close d, next => m.reply (t.closing d) (next ())
    | .wait interruptible, next =>
      match m.ended.find? (·.2.1 == t.id) with
      | some (id, _, e) =>
        reply { m with ended := m.ended.filter (·.1 != id) } t (next (.child id e))
      | none =>
        if interruptible && !t.pending.isEmpty then m.reply t (next .interrupted)
        else if m.tasks.any (·.parent == t.id) then .blocked
        else m.reply t (next .noChild)
    | .signal id number, next => m.send t id number next
    | .dispose number d, next =>
      let others (ns : List Nat) : List Nat := ns.filter (· != number)
      let t := { t with ignored := others t.ignored, caught := others t.caught }
      let t := match d with
        | .usual => t
        | .ignored => { t with ignored := number :: t.ignored }
        | .caught => { t with caught := number :: t.caught }
      m.reply t (next ())
    | .arrived, next => m.reply { t with pending := [] } (next t.pending)
    | .become, next =>
      let descriptors := t.descriptors.filter (·.1 < Task.asideFrom)
      m.reply { t with descriptors, caught := [], pending := [] } (next ())
    | .inspect path, next =>
      m.reply t (next (((m.filesOf t).find (Text.narrow path)).map (·.2)))
    | .locate path, next =>
      m.reply t (next (((m.filesOf t).find (Text.narrow path)).map (·.1)))
    | .list path, next =>
      let names := match (m.filesOf t).find (Text.narrow path) with
        | .ok (l, .directory) => (m.files.names l).map Text.widen
        | _ => []
      m.reply t (next names)
    | .enter path, next =>
      match (m.filesOf t).find (Text.narrow path) with
      | .ok (l, .directory) => m.reply { t with here := l } (next (.ok l))
      | .ok _ => m.reply t (next (.error .notADirectory))
      | .error e => m.reply t (next (.error e))
    | .ids, next => m.reply t (next (t.id, t.parent))

-- Let the first of so many tasks go on that has not to wait.
def advance : Nat → Machine → Event
  | 0, _ => .blocked
  | n + 1, m =>
    match m.tasks with
    | [] => .blocked
    | t :: ts =>
      match serve { m with tasks := ts } t with
      | .blocked => advance n { m with tasks := ts ++ [t] }
      | event => event

-- Whether someone is left who could print something.
def isWatched (m : Machine) : Bool :=
  m.tasks.any fun t => t.descriptors.any fun (_, index) =>
    match m.streams[index]? with
    | some s =>
      match s.channel with
      | .output _ => true
      | _ => false
    | none => false

-- What is seen of the machine from outside. All processes that could still print are waited
-- for. When each one waits for another, or after `fuel` steps, they are stopped.
def behavior : Nat → Machine → Behavior
  | 0, _ => .exits (.signal Signal.kill)
  | fuel + 1, m =>
    match m.exit with
    | some e => if m.isWatched then continued fuel m e else .exits e
    | none => continued fuel m (.signal Signal.kill)
where
  continued (fuel : Nat) (m : Machine) (e : Exit) : Behavior :=
    match m.advance m.tasks.length with
    | .blocked => .exits e
    | .goes m => behavior fuel m
    | .prints false bytes m => .prints (Text.narrow bytes) (fun _ => behavior fuel m)
    | .prints true bytes m => .complains (Text.narrow bytes) (fun _ => behavior fuel m)

-- More steps than can be taken in any amount of time that matters.
def patience : Nat := 1000000000000000000

-- Run a process on a text that comes over its standard input.
def run (files : Files) (p : Process) (input : List UInt8) : Behavior :=
  let task : Task :=
    { id := firstId, parent := 1, process := p, descriptors := [(0, 0), (1, 1), (2, 2)],
      here := files.here }
  behavior patience
    { tasks := [task]
      streams := #[{ channel := .pipe 0, readable := true, writable := false },
        { channel := .output false, readable := false, writable := true },
        { channel := .output true, readable := false, writable := true }]
      pipes := #[Queue.push {} (Text.widen input)]
      files
      nextId := firstId + 1 }

end Machine

end SatFrontend.Kernel

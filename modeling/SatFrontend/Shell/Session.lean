import SatFrontend.Kernel.Cat
import SatFrontend.Shell.Builtin.Input
import SatFrontend.Shell.Builtin.Jobs
import SatFrontend.Shell.Builtin.Print
import SatFrontend.Shell.Builtin.Test
import SatFrontend.Shell.Builtin.Variables
import SatFrontend.Shell.Redirect

namespace SatFrontend.Shell

open Text (Bytes)
open Kernel

-- What follows some work.
structure Manner where
  -- the shell ends after it
  exits : Bool := false
  -- its status is asked for, so that a failure is no reason to end
  tested : Bool := false

-- What there is to be run.
inductive Work where
  | script (s : Option Script)
  -- a text that commands are still read from, after some with the status. The text can be
  -- shown as it is read.
  | text (r : Reading) (isFile : Bool) (status : Nat)
  -- another round of a loop
  | rounds (wanted : Bool) (test body : Option Script) (status : Nat)
  | items (name : Bytes) (values : List Bytes) (body : Option Script) (status : Nat)

namespace Effect

def isSkipping : Effect Bool := do return (← get).skip != .nothing

-- Print what the command has to say. Whether that went wrong is part of its status.
def flush (status : Nat) : Effect Nat := do
  let s ← get
  let bytes := s.printed.reverse.flatten
  set { s with printed := [] }
  if bytes.isEmpty then return status
  else if ← write 1 bytes then return status
  else
    warn (s.command.getD [] ++ ": I/O error".toList)
    return status ||| 1

-- More parts than a text that is read can have.
def patience : Nat := 1000000000000000000

-- Everything that can be read from a descriptor, in at most `fuel` parts.
def readAll (descriptor : Nat) : Nat → List Bytes → Effect Bytes
  | 0, parts => return parts.reverse.flatten
  | fuel + 1, parts => do
    match ← ask (.read descriptor 65536) with
    | .ok [] | .error _ => return parts.reverse.flatten
    | .ok bytes => readAll descriptor fuel (bytes :: parts)

-- Scripts are read from here.
def scriptDescriptor : Nat := 255

-- The script in a file.
def readScript (path : Bytes) : Effect Bytes := do
  match ← ask (.openFile scriptDescriptor path .read) with
  | .error e => abort ("cannot open ".toList ++ path ++ (": " ++ reasonOf "No such file" e).toList)
  | .ok _ =>
    let text ← readAll scriptDescriptor patience []
    ask (.close scriptDescriptor)
    return text

variable (self : Work → Manner → Effect Nat)

def runText (text : Bytes) (manner : Manner) : Effect Nat :=
  self (.text { rest := text } false 0) manner

-- Do what is to be done about signals that have come.
def runTraps : Effect Unit := do
  if !(← Builtin.hasTraps) then return
  let news ← ask .arrived
  let all := ((← get).arrived ++ news).eraseDups.mergeSort
  modify ({ · with arrived := [] })
  go all
where
  go : List Nat → Effect Unit
    | [] => return
    | n :: ns => do
      let s ← get
      if s.skip != .nothing then set { s with arrived := n :: ns }
      else
        match s.traps.lookup n with
        | none => go ns
        | some action =>
          let status := s.before.getD s.status
          set { s with before := some status }
          let _ ← runText self action {}
          modify fun t =>
            { t with before := s.before, status := if t.skip = .function then t.status else status }
          go ns

-- End the shell, after what is to be done at its end.
def leave : Effect Unit := do
  modify ({ · with skip := .nothing, loops := 0 })
  restoreTo 0
  let s ← get
  match s.traps.lookup 0 with
  | none => finish
  | some action =>
    let before := s.status
    set { s with traps := s.traps.filter (·.1 != 0), before := some before }
    match ← attempt (runText self action {}) with
    | .ok _ => modify ({ · with status := before })
    | .error _ => pure ()
    restoreTo 0
    finish

-- Start a child that does something and ends. In the background it gets no input from here
-- if it is the first one of its job.
def child (background isFirst : Bool) (work : Effect Unit) : Effect Nat :=
  fork do
    modify ({ · with jobs := [], kept := [] })
    Builtin.clearTraps
    if background then
      ask (.dispose Signal.interrupt .ignored)
      ask (.dispose Signal.quit .ignored)
      if isFirst then
        let _ ← ask (.openFile 0 "/dev/null".toList .read)
    let _ ← attempt work
    leave self

-- What a shell that was just started knows.
def initial (name : Bytes) (given : List (Bytes × Bytes)) : State :=
  let known := given.filter (fun v => isName v.1)
  let set_ (vs : List (Bytes × Variable)) (name value : Bytes) : List (Bytes × Variable) :=
    (name, { value := some value }) :: vs.filter (·.1 != name)
  let default (vs : List (Bytes × Variable)) (name value : Bytes) : List (Bytes × Variable) :=
    if (vs.lookup name).isSome then vs else set_ vs name value
  let vs : List (Bytes × Variable) :=
    known.map fun (name, value) => (name, { value := some value, isExported := true })
  let vs := set_ vs "IFS".toList defaultSeparators
  let vs := set_ vs "OPTIND".toList ['1']
  let vs := default vs "PATH".toList defaultPath
  let vs := default vs "PS1".toList ['#', ' ']
  let vs := default vs "PS2".toList ['>', ' ']
  let vs := default vs "PS4".toList ['+', ' ']
  { name, args := [], values := vs }

-- Look around before anything is run.
def lookAround : Effect Unit := do
  let (id, parent) ← ask .ids
  modify ({ · with ownId := id })
  setVariable "PPID".toList (decimal parent)
  match ← ask (.enter ['.']) with
  | .ok l =>
    modify ({ · with directory := Builtin.pathOf l })
    setTo "PWD".toList (some (Builtin.pathOf l)) true
  | .error _ => return

-- Run what the arguments of a shell say: a script that is one of them, that is in a file, or
-- that comes over standard input.
def runArguments (args : List Bytes) : Effect Unit := do
  let r ← Builtin.setOptions true (args.length + 1) args
  if r.rest.isEmpty then
    if r.isCommand then abortText "-c requires an argument"
    setOption 's' true
  -- who is at the other end can control jobs
  if ← hasOption 'i' then setOption 'm' true
  let named (rest : List Bytes) : Effect Unit := do
    match rest with
    | [] => return
    | name :: args => modify ({ · with name, args })
  let fromInput ← hasOption 's'
  let loop (text : Bytes) : Effect Unit := do
    let _ ← self (.text { rest := text } true 0) {}
  match r.isCommand, r.rest with
  | true, text :: rest =>
    named rest
    Builtin.giveUpMonitor
    let _ ← runText self text {}
    if fromInput then loop (← readAll 0 patience [])
  | _, rest =>
    if fromInput then
      modify ({ · with args := rest })
      Builtin.giveUpMonitor
      loop (← readAll 0 patience [])
    else
      let text ← readScript (rest.headD [])
      named rest
      Builtin.giveUpMonitor
      loop text

-- A shell as a program.
def shell (name : Bytes) (args : List Bytes) (given : List (Bytes × Bytes)) : Process :=
  let all : Effect Unit := do
    lookAround
    let _ ← attempt (runArguments self args)
    leave self
  all (initial name given) fun _ s => .ends (.code s.status)

-- A command of the shell as a program.
def standalone (name : Bytes) (action : Effect Nat) : Process :=
  let all : Effect Unit := do
    let outcome ← attempt action
    let status ← flush (match outcome with
      | .ok n => n
      | .error _ => 2)
    modify ({ · with status })
    finish
  all (initial name []) fun _ s => .ends (.code s.status)

-- What the program that prints its arguments prints.
def echoed : List Bytes → Bool → Bool → Bytes
  | [], newline, _ => if newline then ['\n'] else []
  | arg :: args, newline, escapes =>
    match arg with
    | '-' :: c :: cs =>
      if (c :: cs).all "neE".toList.contains then
        let escapes := (c :: cs).foldl (fun escapes c =>
          if c == 'e' then true else if c == 'E' then false else escapes) escapes
        echoed args (newline && !(c :: cs).contains 'n') escapes
      else plain (arg :: args) newline escapes
    | _ => plain (arg :: args) newline escapes
where
  plain (args : List Bytes) (newline escapes : Bool) : Bytes :=
    let text := [' '].intercalate args
    let (text, ended) :=
      if escapes then Builtin.unescape (text.length + 1) text else (text, false)
    if newline && !ended then text ++ ['\n'] else text

-- The program at a path.
def launch (path : Bytes) (argv : List Bytes) (given : List (Bytes × Bytes)) : Option Process :=
  let name := argv.headD []
  let args := argv.tail
  match String.ofList ((Builtin.splitAt '/' path).getLast?.getD []) with
  | "sh" | "dash" => some (shell self name args given)
  | "cat" => some (Cat.main name args)
  | "true" => some (.ends (.code 0))
  | "false" => some (.ends (.code 1))
  | "echo" => some (standalone name (do
      say (echoed args true false)
      return 0))
  | "printf" => some (standalone name (Builtin.printf args))
  | "test" => some (standalone name (Builtin.test args))
  | _ => none

-- Longer arguments are refused, and more of them.
def argumentLimit : Nat := 131072
def argumentsLimit : Nat := 2097152

-- Let a program take over. If that is not possible the shell ends.
def execute (path : Option Bytes) (argv : List Bytes) : Effect Unit := do
  let name := argv.headD []
  let paths ←
    if name.contains '/' then pure [name]
    else pure (candidates (path.getD (← valueOf "PATH")) name)
  go name .notFound paths
where
  go (name : Bytes) (e : IoError) : List Bytes → Effect Unit
    | [] => do
      let status := if [.notFound, .notADirectory, .nameTooLong].contains e then 127 else 126
      modify ({ · with status })
      warnMissing name e
      throw .exit
    | path :: paths => do
      match ← ask (.inspect path) with
      | .ok .program =>
        let size := (argv.map (·.length + 9)).foldl (· + ·) 0
        if argv.any (argumentLimit ≤ ·.length) || argumentsLimit < size then
          go name .argumentsTooLong paths
        else
          match launch self path argv (← exports) with
          | some p => become p
          | none => go name .permissionDenied paths
      | .ok _ => go name .permissionDenied paths
      | .error .notFound | .error .notADirectory => go name e paths
      | .error e => go name e paths

end Effect

end SatFrontend.Shell

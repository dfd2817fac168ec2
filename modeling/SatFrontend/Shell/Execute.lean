import SatFrontend.Shell.Session

namespace SatFrontend.Shell

open Text (Bytes)
open Kernel

-- What the words of a command come to.
structure Call where
  -- all words
  shown : List Bytes := []
  -- the command and its arguments
  argv : List Bytes := []
  -- what the command stands for, if that is part of the shell
  own : Option Found := none
  -- an error in it ends the shell
  isSpecial : Bool := false
  -- variables that are set before it are only set for it
  isLocal : Bool := false
  -- where a program is looked for, if that is not the usual path
  path : Option Bytes := none

namespace Call

def builtin? (c : Call) : Option String :=
  match c.own with
  | some (.builtin name) => some name
  | _ => none

-- Descriptors that are redirected stay so.
def redirectsForGood (c : Call) : Bool := c.builtin? == some "exec"

end Call

-- Commands whose arguments are assignments.
def assigningNames : List String := ["alias", "export", "local", "readonly"]

namespace Effect

-- The parts of words that were expanded: what was made of them, and the words after them.
structure Partly where
  fields : List Bytes
  words : List Word

section

variable (substitute : Option Script → Effect Bytes)

-- Expand words up to the first one that comes to something.
def firstFields : List Word → Effect Partly
  | [] => return { fields := [], words := [] }
  | w :: ws => do
    match ← Shell.fields substitute w with
    | [] => firstFields ws
    | fs => return { fields := fs, words := ws }

-- The value of an assignment.
def assignedText (name : Bytes) (w : Word) : Effect Bytes :=
  textOf substitute { tilde := true, colons := true } (Word.assignedValue name w)

-- Expand an argument of a command.
def argument (assigns : Bool) (w : Word) : Effect (List Bytes) := do
  match (if assigns then Word.assigned? w else none) with
  | some name => return [name ++ ['='] ++ (← assignedText substitute name w)]
  | none => Shell.fields substitute w

-- The place of the command after `command` and its options, where more words are expanded if
-- that is needed. With other options there is none.
def wrapped (p : Partly) (path : Option Bytes) :
    Nat → Nat → Effect (Option (Nat × Option Bytes) × Partly)
  | 0, _ => return (none, p)
  | fuel + 1, place => do
    let p ←
      if place < p.fields.length then pure p
      else
        let more ← firstFields substitute p.words
        pure { more with fields := p.fields ++ more.fields }
    match p.fields[place]? with
    | none => return (none, p)
    | some ['-', '-'] =>
      let p ←
        if place + 1 < p.fields.length then pure p
        else
          let more ← firstFields substitute p.words
          pure { more with fields := p.fields ++ more.fields }
      return (if place + 1 < p.fields.length then some (place + 1, path) else none, p)
    | some ('-' :: c :: cs) =>
      if (c :: cs).all (· == 'p') then wrapped p (some defaultPath) fuel (place + 1)
      else return (none, p)
    | some _ => return (some (place, path), p)

-- Find out what a command is while its words are expanded, where at most `fuel` commands are
-- only there to find another one.
def resolve (call : Call) (special : Option Bool) (skipsFunctions : Bool) (place : Nat) :
    Nat → Partly → Effect Call
  | 0, p => return { call with shown := p.fields }
  | fuel + 1, p => do
    let name := (p.fields[place]?).getD []
    let own ← findOwn skipsFunctions name
    match own with
    | some (.builtin text) =>
      let special := special.getD (specialNames.contains text)
      let call := { call with isSpecial := special, isLocal := !special }
      if text != "command" then
        finish call own place p (assigningNames.contains text)
      else
        match ← wrapped substitute p call.path (p.words.length + p.fields.length + 2) (place + 1) with
        | (some (place, path), p) =>
          resolve { call with path } (some special) true place fuel p
        | (none, p) => finish call own place p false
    | _ => finish { call with isLocal := true } own place p false
where
  finish (call : Call) (own : Option Found) (place : Nat) (p : Partly) (assigns : Bool) :
      Effect Call := do
    let more ← p.words.mapM (argument substitute assigns)
    let shown := p.fields ++ more.flatten
    return { call with shown, argv := shown.drop place, own }

def callOf (words : List Word) : Effect Call := do
  let p ← firstFields substitute words
  if p.fields.isEmpty then return {}
  resolve substitute {} none false 0 (words.length + 1000000000) p

-- The text that stands before a command that is shown.
def traceMark : Effect Bytes := do
  let raw ← valueOf "PS4"
  let start : Reading := { rest := raw }
  match (readText).run start with
  | .ok (w, r) =>
    modify fun s => { s with documents := r.documents ++ s.documents }
    textOf substitute { quoted := true } w
  | .error _ => return raw
where
  -- a text in which parameters and scripts are replaced
  readText : Reader Word :=
    Reader.wordIn
      { parenthesized := readPart Reader.patience .enclosed
        whole := readPart Reader.patience .whole }
      (.document ['\x00'] false false)

-- Show a command with what it assigns.
def trace (assigned : List (Bytes × Bytes)) (words : List Bytes) (redirected : Bool) :
    Effect Unit := do
  if !(← hasOption 'x') || (← get).isMarking then return
  modify ({ · with isMarking := true })
  let mark ← traceMark substitute
  modify ({ · with isMarking := false })
  let shown := assigned.map (fun (name, value) => name ++ ['='] ++ value) ++ words
  let s ← get
  let descriptor := match (if redirected then s.kept.head? else none) with
    | some level =>
      match level.lookup 2 with
      | some (.aside n) => n
      | _ => 2
    | none => 2
  let _ ← write descriptor (mark ++ [' '].intercalate shown ++ ['\n'])

end

variable (self : Work → Manner → Effect Nat)

-- What a script prints, without line feeds at its end.
def printedBy (script : Option Script) : Effect Bytes := do
  match script with
  | none => return []
  | some s =>
    let (source, sink) ← ask .pipe
    let id ← child self false false do
      ask (.close source)
      let _ ← ask (.duplicate sink 1)
      ask (.close sink)
      let _ ← self (.script (some s)) { exits := true }
    ask (.close sink)
    let bytes ← readAll source patience []
    ask (.close source)
    let status ← Builtin.awaitJob [id]
    modify ({ · with substituted := status })
    let bytes := bytes.filter (· != '\x00')
    return (bytes.reverse.dropWhile (· == '\n')).reverse

-- End the shell.
def exitCommand (args : List Bytes) : Effect Nat := do
  let s ← get
  let status ← match args with
    | [] => pure (s.before.getD s.status)
    | arg :: _ => count arg
  modify ({ · with status })
  throw .exit

-- Leave a function or a script that was called.
def returnCommand (args : List Bytes) : Effect Nat := do
  let status ← match args with
    | [] => pure (← get).status
    | arg :: _ => count arg
  modify ({ · with skip := .function })
  return status

-- End loops or their rounds.
def breakCommand (goesOn : Bool) (args : List Bytes) : Effect Nat := do
  let n ← match args with
    | [] => pure 1
    | arg :: _ => do
      let n ← count arg
      if n = 0 then abort ("Illegal number: ".toList ++ arg)
      pure n
  let s ← get
  let n := min n s.loops
  if 0 < n then set { s with skip := .loops n goesOn }
  return 0

def evalCommand (args : List Bytes) (manner : Manner) : Effect Nat :=
  if args.isEmpty then return 0
  else runText self ([' '].intercalate args) { tested := manner.tested }

-- The first of some paths that leads to a file with a script.
def firstScript (name : Bytes) : List Bytes → Effect Bytes
  | [] => abort (name ++ ": not found".toList)
  | path :: paths => do
    match ← ask (.inspect path) with
    | .ok (.regular _) | .ok .program => return path
    | _ => firstScript name paths

-- Run the script in a file as a part of this one.
def dotCommand (args : List Bytes) : Effect Nat := do
  let (_, names) ← Builtin.options "" args
  match names with
  | [] => return 0
  | name :: _ =>
    let path ←
      if name.contains '/' then pure name
      else firstScript name (candidates (← valueOf "PATH") name)
    let text ← readScript path
    modify ({ · with command := some path })
    let status ← self (.text { rest := text } true 0) {}
    modify fun s => { s with skip := if s.skip = .function then .nothing else s.skip }
    return status

def execCommand (args : List Bytes) : Effect Nat := do
  if args.isEmpty then return 0
  setOption 'i' false
  setOption 'm' false
  execute self none args
  return 0

-- What a command of the shell does.
def builtin (name : String) (args : List Bytes) (manner : Manner) : Effect Nat :=
  match name with
  | "." => dotCommand self args
  | "[" => Builtin.bracketTest args
  | "alias" => Builtin.aliasCommand args
  | "bg" | "fg" => Builtin.controlCommand args
  | "break" => breakCommand false args
  | "cd" | "chdir" => Builtin.cdCommand args
  | "command" => Builtin.commandCommand args
  | "continue" => breakCommand true args
  | "echo" => do
    say (Builtin.echo args)
    return 0
  | "eval" => evalCommand self args manner
  | "exec" => execCommand self args
  | "exit" => exitCommand args
  | "export" => Builtin.markCommand "export" true false args
  | "false" => return 1
  | "getopts" => Builtin.getoptsCommand args
  | "hash" => Builtin.hashCommand args
  | "jobs" => Builtin.jobsCommand args
  | "kill" => Builtin.killCommand args
  | "local" => Builtin.localCommand args
  | "printf" => Builtin.printf args
  | "pwd" => Builtin.pwdCommand args
  | "read" => Builtin.readCommand args
  | "readonly" => Builtin.markCommand "readonly" false true args
  | "return" => returnCommand args
  | "set" => Builtin.setCommand args
  | "shift" => Builtin.shiftCommand args
  | "test" => Builtin.test args
  | "times" => Builtin.timesCommand
  | "trap" => Builtin.trapCommand args
  | "type" => Builtin.typeCommand args
  | "ulimit" => Builtin.ulimitCommand args
  | "umask" => Builtin.umaskCommand args
  | "unalias" => Builtin.unaliasCommand args
  | "unset" => Builtin.unsetCommand args
  | "wait" => Builtin.waitCommand args
  | _ => return 0

-- Run a command of the shell. If it stops the shell, what it has to say is lost.
def runBuiltin (name : Option Bytes) (isSpecial : Bool) (action : Effect Nat) : Effect Unit := do
  let before := (← get).command
  modify ({ · with command := name })
  let outcome ← attempt (do flush (← action))
  modify ({ · with command := before })
  match outcome with
  | .ok status => modify ({ · with status })
  | .error e =>
    modify ({ · with printed := [] })
    if isSpecial || e != .error then throw e

-- Run a function with arguments of its own.
def runFunction (body : Script) (args : List Bytes) (manner : Manner) : Effect Unit := do
  let before ← get
  set { before with args, loops := 0, place := {} }
  let outcome ← attempt (self (.script (some body)) { tested := manner.tested })
  modify fun s =>
    { s with
      args := before.args
      loops := before.loops
      place := before.place
      skip := if s.skip = .function then .nothing else s.skip }
  match outcome with
  | .ok _ => return
  | .error e => throw e

-- Run a command whose words are expanded. The status tells how it went.
def runCall (call : Call) (manner : Manner) : Effect Unit := do
  let name := call.argv.headD []
  let args := call.argv.tail
  if call.argv.isEmpty then
    runBuiltin none false do return (← get).substituted
  else
    let found ← match call.own with
      | some found => pure found
      | none => findProgram call.path name
    match found with
    | .builtin text =>
      runBuiltin (some name) call.isSpecial (builtin self text args manner)
    | .function body => runFunction self body args manner
    | .missing e =>
      warnMissing name e
      modify ({ · with status := 127 })
    | .program _ =>
      if !manner.exits || (← Builtin.hasTraps) then
        let id ← child self false false (execute self call.path call.argv)
        let status ← Builtin.awaitJob [id]
        modify ({ · with status })
      else execute self call.path call.argv

-- Set a variable for a command, or for good.
def assign (call : Call) (name value : Bytes) : Effect Unit := do
  if call.isLocal then
    makeLocal name
    setTo name (some value) true
  else setTo name (some value) call.redirectsForGood

-- Set the variables before a command, and go on with what was set.
def assignAll (call : Call) : List Word → Effect (List (Bytes × Bytes))
  | [] => return []
  | w :: ws => do
    let name := (Word.assigned? w).getD []
    let value ← assignedText (printedBy self) name w
    assign call name value
    return (name, value) :: (← assignAll call ws)

-- Run a simple command.
def simple (line : Nat) (assignments words : List Word) (redirects : List Redirect)
    (manner : Manner) : Effect Nat := do
  modify ({ · with line, substituted := 0 })
  let call ← callOf (printedBy self) words
  let before ← get
  if call.isLocal then openScope
  let targets ← redirects.mapM (targetOf (printedBy self))
  let failed ← connectKeeping (printedBy self) targets
  if failed != 0 then
    modify ({ · with status := failed })
    if call.isSpecial then throw .error
  else
    let assigned ← assignAll self call assignments
    trace (printedBy self) assigned call.shown (!targets.isEmpty)
    runCall self call manner
  if !targets.isEmpty then restore call.redirectsForGood
  restoreTo before.kept.length
  closeScopesTo before.scopes.length
  return (← get).status

-- Start the commands of a pipeline, each of which gets what the one before it prints.
def pipeline (background : Bool) (manner : Manner) :
    List Script → Option Nat → List Nat → Effect (List Nat)
  | [], _, ids => return ids.reverse
  | s :: rest, input, ids => do
    let pipe ← if rest.isEmpty then pure none else return_some (ask .pipe)
    let id ← child self background ids.isEmpty do
      if let some (source, _) := pipe then ask (.close source)
      if let some d := input then
        let _ ← ask (.duplicate d 0)
        ask (.close d)
      if let some (_, sink) := pipe then
        let _ ← ask (.duplicate sink 1)
        ask (.close sink)
      let _ ← self (.script (some s)) { manner with exits := true }
    if let some d := input then ask (.close d)
    if let some (_, sink) := pipe then ask (.close sink)
    pipeline background manner rest (pipe.map (·.1)) (id :: ids)
where
  return_some {α : Type} (m : Effect α) : Effect (Option α) := do return some (← m)

-- Run a script in a shell of its own, which is this one if nothing follows.
def subshell (line : Nat) (background : Bool) (body : Option Script) (redirects : List Redirect)
    (manner : Manner) : Effect Nat := do
  if 0 < line then modify ({ · with line })
  let targets ← redirects.mapM (targetOf (printedBy self))
  let work (manner : Manner) : Effect Unit := do
    connectAll (printedBy self) targets
    let _ ← self (.script body) { manner with exits := true }
  if !background && manner.exits && !(← Builtin.hasTraps) then
    work manner
    return (← get).status
  else
    let id ← child self background true (work { manner with tested := manner.tested && !background })
    if background then
      Builtin.addJob [id]
      return 0
    else Builtin.awaitJob [id]

-- After a round of a loop: whether the loop ends.
def endsLoop : Effect Bool := do
  let s ← get
  match s.skip with
  | .nothing => return false
  | .function => return true
  | .loops n goesOn =>
    if n ≤ 1 then
      set { s with skip := .nothing }
      return !goesOn
    else
      set { s with skip := .loops (n - 1) goesOn }
      return true

def inLoop (m : Effect Nat) : Effect Nat := do
  modify fun s => { s with loops := s.loops + 1 }
  let status ← m
  modify fun s => { s with loops := s.loops - 1 }
  return status

-- A round of a loop.
def round (wanted : Bool) (test body : Option Script) (status : Nat) (manner : Manner) :
    Effect Nat := do
  let outcome ← self (.script test) { tested := true }
  let skipped ← isSkipping
  let returns := (← get).skip == .function
  if ← endsLoop then return if returns then outcome else status
  if skipped then self (.rounds wanted test body status) manner
  else if (outcome == 0) != wanted then return status
  else
    let status ← self (.script body) manner
    if ← endsLoop then return status
    self (.rounds wanted test body status) manner

-- The rounds of a loop over values.
def items (name : Bytes) (values : List Bytes) (body : Option Script) (status : Nat)
    (manner : Manner) : Effect Nat := do
  match values with
  | [] => return status
  | value :: values =>
    setVariable name value
    let status ← self (.script body) manner
    if ← endsLoop then return status
    self (.items name values body status) manner

-- The first arm of a choice with a pattern that matches.
def armOf (subject : Bytes) : List (List Word × Option Script) → Effect (Option (Option Script))
  | [] => return none
  | (ps, body) :: arms => do
    if ← matchesOne ps then return some body else armOf subject arms
where
  matchesOne : List Word → Effect Bool
    | [] => return false
    | p :: ps => do
      if Wild.isMatch (← pattern (printedBy self) p) subject then return true else matchesOne ps

-- Whether the shell ends after a script that fails, if it is to do so.
def canFail : Script → Bool
  | .simple .. | .pipeline .. | .subshell .. | .background .. => true
  | _ => false

-- Run a command. Its value is its status.
def perform (s : Script) (manner : Manner) : Effect Nat := do
  match s with
  | .simple line assignments words redirects =>
    simple self line assignments words redirects manner
  | .pipeline parts background =>
    let ids ← pipeline self background manner parts none []
    if background then
      Builtin.addJob ids
      return 0
    else Builtin.awaitJob ids
  | .redirected line body redirects =>
    modify ({ · with line })
    let targets ← redirects.mapM (targetOf (printedBy self))
    let failed ← connectKeeping (printedBy self) targets
    let status ←
      if failed != 0 then pure failed
      else self (.script body) { tested := manner.tested }
    if !targets.isEmpty then restore false
    return status
  | .background line body redirects => subshell self line true body redirects manner
  | .subshell line body redirects => subshell self line false body redirects manner
  | .sequence a b =>
    let status ← self (.script (some a)) { tested := manner.tested }
    if ← isSkipping then return status
    self (.script (some b)) manner
  | .both a b =>
    let status ← self (.script (some a)) { tested := true }
    if status != 0 || (← isSkipping) then return status
    self (.script (some b)) manner
  | .either a b =>
    let status ← self (.script (some a)) { tested := true }
    if status == 0 || (← isSkipping) then return status
    self (.script (some b)) manner
  | .negated body =>
    let status ← self (.script (some body)) { tested := true }
    if ← isSkipping then return status
    return if status = 0 then 1 else 0
  | .branch test yes no =>
    let status ← self (.script test) { tested := true }
    if ← isSkipping then return status
    if status = 0 then self (.script yes) manner
    else match no with
      | some _ => self (.script no) manner
      | none => return 0
  | .loop wanted test body =>
    inLoop (self (.rounds wanted test body 0) { tested := manner.tested })
  | .each line name words body =>
    modify ({ · with line })
    let values ← words.mapM (Shell.fields (printedBy self))
    inLoop (self (.items name values.flatten body 0) { tested := manner.tested })
  | .choice line subject arms =>
    modify ({ · with line })
    let text ← textOf (printedBy self) { tilde := true } subject
    match ← armOf self text arms with
    | some (some body) => self (.script (some body)) manner
    | _ => return 0
  | .define name body =>
    modify fun s =>
      { s with
        functions := (name, body) :: s.functions.filter (·.1 != name)
        located := s.located.filter (·.1 != name) }
    return 0

-- Run a script and what signals ask for before and after it.
def script (s : Option Script) (manner : Manner) : Effect Nat := do
  ask .pause
  let mut failed := false
  if let some s := s then
    if !(← hasOption 'n') then
      runTraps self
      let status ← perform self s manner
      modify ({ · with status })
      failed := canFail s && status != 0
  runTraps self
  if manner.exits || (failed && !manner.tested && (← hasOption 'e')) then throw .exit
  return (← get).status

-- Show what was read of a text.
def echoRead (isFile : Bool) (before after : Bytes) : Effect Unit := do
  if isFile && (← hasOption 'v') then
    let _ ← write 2 (before.take (before.length - after.length))

-- Read the next command of a text and run it, and go on with the rest.
def text (r : Reading) (isFile : Bool) (status : Nat) (manner : Manner) : Effect Nat := do
  let s ← get
  let start := { r with aliases := s.aliases, nextDocument := s.nextDocument, documents := [] }
  match start.next with
  | .error e =>
    modify ({ · with line := e.line })
    abort ("Syntax error: " ++ e.message).toList
  | .ok (line, r') =>
    echoRead isFile r.rest r'.rest
    modify fun s =>
      { s with documents := r'.documents ++ s.documents, nextDocument := r'.nextDocument }
    match line with
    | .nothing => return status
    | .command c =>
      let outcome ← self (.script c) { manner with exits := manner.exits && r'.isAtEnd }
      let status := if c.isSome then outcome else status
      if ← isSkipping then return status
      self (.text r' isFile status) manner

-- Do some work, where at most `fuel` parts of it are inside of each other.
def run : Nat → Work → Manner → Effect Nat
  | 0, _, _ => throw .exit
  | fuel + 1, work, manner =>
    match work with
    | .script s => script (run fuel) s manner
    | .text r isFile status => text (run fuel) r isFile status manner
    | .rounds wanted test body status => round (run fuel) wanted test body status manner
    | .items name values body status => items (run fuel) name values body status manner

end Effect

end SatFrontend.Shell

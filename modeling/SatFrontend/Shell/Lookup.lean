import SatFrontend.Shell.Builtin.Directory

namespace SatFrontend.Shell

open Text (Bytes)

-- What the name of a command stands for.
inductive Found where
  | function (body : Script)
  | builtin (name : String)
  | program (path : Bytes)
  | missing (e : IoError)

namespace Effect

-- The commands that are part of the shell.
def builtinNames : List String :=
  [".", ":", "[", "alias", "bg", "break", "cd", "chdir", "command", "continue", "echo", "eval",
    "exec", "exit", "export", "false", "fg", "getopts", "hash", "jobs", "kill", "local",
    "printf", "pwd", "read", "readonly", "return", "set", "shift", "test", "times", "trap",
    "true", "type", "ulimit", "umask", "unalias", "unset", "wait"]

-- Programs are looked for here if nothing else is said.
def defaultPath : Bytes :=
  "/usr/local/sbin:/usr/local/bin:/usr/sbin:/usr/bin:/sbin:/bin".toList

-- What went wrong with a file or a program, where one that is missing has its own words.
def reasonOf (ifMissing : String) : IoError → String
  | .notFound | .notADirectory => ifMissing
  | e => e.reason

-- A function or a command of the shell.
def findOwn (skipsFunctions : Bool) (name : Bytes) : Effect (Option Found) := do
  if name.contains '/' then return none
  let s ← get
  match (if skipsFunctions then none else s.functions.lookup name) with
  | some body => return some (.function body)
  | none =>
    let text := String.ofList name
    return if builtinNames.contains text then some (.builtin text) else none

-- The directories of a search path, with a name behind each.
def candidates (path name : Bytes) : List Bytes :=
  (Builtin.splitAt ':' path).map fun directory =>
    if directory.isEmpty then name else directory ++ ['/'] ++ name

-- The first of some paths that leads to a program. Otherwise there is a reason.
def firstProgram (e : IoError) : List Bytes → Effect (Except IoError Bytes)
  | [] => return .error e
  | path :: paths => do
    match ← ask (.inspect path) with
    | .ok .program => return .ok path
    | .ok _ => firstProgram .permissionDenied paths
    | .error .notFound | .error .notADirectory => firstProgram e paths
    | .error e => firstProgram e paths

-- A program. It is looked for in a search path, or else in the usual one, which is remembered.
def findProgram (path : Option Bytes) (name : Bytes) : Effect Found := do
  if name.contains '/' then return .program name
  let s ← get
  match path, s.located.lookup name with
  | none, some found => return .program found
  | _, _ =>
    let searched := path.getD (← valueOf "PATH")
    match ← firstProgram .notFound (candidates searched name) with
    | .ok found =>
      if path.isNone then modify ({ · with located := (name, found) :: s.located })
      return .program found
    | .error e => return .missing e

def find (skipsFunctions : Bool) (path : Option Bytes) (name : Bytes) : Effect Found := do
  match ← findOwn skipsFunctions name with
  | some found => return found
  | none => findProgram path name

-- Say that something is not there, or why it cannot be used.
def warnMissing (name : Bytes) (e : IoError) : Effect Unit :=
  warn (name ++ ": ".toList ++ (reasonOf "not found" e).toList)

end Effect

namespace Builtin

open Effect

-- Say what the name of a command stands for.
def describe (verbose : Bool) (path : Option Bytes) (name : Bytes) : Effect Nat := do
  let s ← get
  let tell (text : Bytes) : Effect Nat := do
    say (text ++ ['\n'])
    return 0
  let phrase (text brief : Bytes) : Effect Nat :=
    if verbose then tell (name ++ text) else tell brief
  if Token.keywords.contains (String.ofList name) then phrase " is a shell keyword".toList name
  else match s.aliases.lookup name with
  | some value =>
    phrase (" is an alias for ".toList ++ value)
      ("alias ".toList ++ name ++ ['='] ++ quote value)
  | none =>
    let tracked := path.isNone && (s.located.lookup name).isSome
    let found ← find false path name
    let missing : Effect Nat := do
      if verbose then say (name ++ ": not found\n".toList)
      return 127
    match found with
    | .program p =>
      let exists_ ← if tracked then pure true else isThere p
      if !exists_ then missing
      else phrase ((if tracked then " is a tracked alias for " else " is ").toList ++ p) p
    | .function _ => phrase " is a shell function".toList name
    | .builtin text =>
      let kind := if specialNames.contains text then "special " else ""
      phrase (" is a " ++ kind ++ "shell builtin").toList name
    | .missing _ => missing
where
  isThere (path : Bytes) : Effect Bool := do
    match ← ask (.inspect path) with
    | .ok _ => return true
    | .error _ => return false

def describeAll : List Bytes → Nat → Effect Nat
  | [], status => return status
  | name :: names, status => do
    let s ← describe true none name
    describeAll names (status ||| s)

def typeCommand (args : List Bytes) : Effect Nat := describeAll args 0

-- Say what a command stands for. Without options to do so there is nothing to do.
def commandCommand (args : List Bytes) : Effect Nat := do
  let (found, names) ← options "pvV" args
  let has (c : Char) : Bool := found.any (·.1 == c)
  match names with
  | name :: _ =>
    if has 'v' || has 'V' then
      describe (has 'V') (if has 'p' then some defaultPath else none) name
    else return 0
  | [] => return 0

-- The order in which programs that were found are listed.
def listingKey (name : Bytes) : Nat :=
  match name with
  | [] => 0
  | c :: _ => (name.foldl (fun n c => n + c.toNat) (c.toNat * 16)) % 31

-- Look for programs and remember them, or list those that are remembered.
def hashCommand (args : List Bytes) : Effect Nat := do
  let (found, names) ← options "r" args
  if !found.isEmpty then
    modify ({ · with located := [] })
    return 0
  if names.isEmpty then
    let listed := (← get).located.reverse.mergeSort
      (fun a b => decide (listingKey a.1 ≤ listingKey b.1))
    for (_, path) in listed do say (path ++ ['\n'])
    return 0
  let mut status := 0
  for name in names do
    modify fun s => { s with located := s.located.filter (·.1 != name) }
    match ← find false none name with
    | .missing e =>
      warnMissing name e
      status := 1
    | _ => pure ()
  return status

end Builtin

end SatFrontend.Shell

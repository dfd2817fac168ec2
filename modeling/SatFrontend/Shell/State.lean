import SatFrontend.Shell.Reader
import SatFrontend.Kernel.Process
import SatFrontend.Kernel.Signal

namespace SatFrontend.Shell

open Text (Bytes)
open Kernel

structure Variable where
  -- a variable that is not set can still have the other properties
  value : Option Bytes := none
  isExported : Bool := false
  isReadOnly : Bool := false
deriving Inhabited

-- Commands that are passed over, because of a command that was done.
inductive Skip where
  | nothing
  -- end that many loops, or end all but the last one and go on with its next round
  | loops (count : Nat) (goesOn : Bool)
  | function
deriving DecidableEq

-- Why a shell stops early. After an error commands go on that can do so.
inductive Stop where
  | exit
  | error
deriving DecidableEq

-- Processes that belong together, with how they ended.
structure Job where
  number : Nat
  processes : List (Nat × Option Exit)
  -- the end was waited for, so the job can be forgotten
  isWaited : Bool := false

-- How a job has ended, if all of it has: as its last process has.
def Job.exit? (j : Job) : Option Exit :=
  if j.processes.all (·.2.isSome) then (j.processes.getLast?).bind (·.2) else none

-- What a descriptor stood for before it was redirected.
inductive Kept where
  | closed
  -- this descriptor stands for the same
  | aside (descriptor : Nat)
deriving DecidableEq

-- How far the arguments were looked through for options.
structure OptionPlace where
  index : Nat := 1
  -- the place in an argument with several options
  offset : Option Nat := none

-- What a shell knows.
structure State where
  name : Bytes
  args : List Bytes
  values : List (Bytes × Variable)
  functions : List (Bytes × Script) := []
  aliases : List (Bytes × Bytes) := []
  -- the texts in scripts
  documents : List (Nat × Word) := []
  nextDocument : Nat := 0
  options : List Char := []
  status : Nat := 0
  -- the status of the last substitution in a command
  substituted : Nat := 0
  -- the line of the command that is run
  line : Nat := 0
  -- the builtin command that is run
  command : Option Bytes := none
  loops : Nat := 0
  skip : Skip := .nothing
  -- the values that variables had before they became local, the innermost function first
  scopes : List (List (Bytes × Option Variable)) := []
  -- what is done when a signal comes, where 0 stands for the end of the shell
  traps : List (Nat × Bytes) := []
  -- signals that have come and that nothing was done about yet
  arrived : List Nat := []
  -- the descriptors that are to be restored, the innermost command first
  kept : List (List (Nat × Kept)) := []
  -- programs that were found, with their paths
  located : List (Bytes × Bytes) := []
  -- the path of the directory that it is in
  directory : Bytes := ['/']
  -- the permissions that new files do not get
  mask : Nat := 18
  ownId : Nat := 0
  lastBackground : Option Nat := none
  jobs : List Job := []
  place : OptionPlace := {}
  -- the status to which a trap returns
  before : Option Nat := none
  -- the text before a command that is shown is being expanded, where nothing is shown
  isMarking : Bool := false
  -- what builtin commands have printed, the last part first
  printed : List Bytes := []

-- Something that a shell does, with a result unless the shell stops.
def Effect (α : Type) : Type := State → (Except Stop α → State → Process) → Process

namespace Effect

instance : Monad Effect where
  pure a := fun s next => next (.ok a) s
  bind m f := fun s next => m s fun
    | .ok a, s => f a s next
    | .error e, s => next (.error e) s

instance : MonadStateOf State Effect where
  get := fun s next => next (.ok s) s
  set s := fun _ next => next (.ok ()) s
  modifyGet f := fun s next => next (.ok (f s).1) (f s).2

instance : MonadExceptOf Stop Effect where
  throw e := fun s next => next (.error e) s
  tryCatch m handler := fun s next => m s fun
    | .ok a, s => next (.ok a) s
    | .error e, s => handler e s next

instance {α : Type} : Inhabited (Effect α) := ⟨throw .exit⟩

-- Ask the system for something.
def ask (r : Request) : Effect r.Reply := fun s next => .ask r fun reply => next (.ok reply) s

-- Do something in a child.
def fork (child : Effect Unit) : Effect Nat := fun s next =>
  .fork (fun _ => child s fun _ s => .ends (.code (s.status % 256))) fun id => next (.ok id) s

-- Do something, and go on also if the shell was to stop.
def attempt {α : Type} (m : Effect α) : Effect (Except Stop α) := fun s next =>
  m s fun outcome s => next (.ok outcome) s

-- Let another program take over.
def become (p : Process) : Effect Unit := fun _ _ => .ask .become fun _ => p

-- End at once.
def finish : Effect Unit := fun s _ => .ends (.code (s.status % 256))

def write (descriptor : Nat) (bytes : Bytes) : Effect Bool := do
  match ← ask (.write descriptor bytes) with
  | .ok _ => return true
  | .error _ => return false

-- Print something at the end of a builtin command.
def say (bytes : Bytes) : Effect Unit := modify fun s => { s with printed := bytes :: s.printed }

def sayText (text : String) : Effect Unit := say text.toList

-- Complain about something.
def warn (text : Bytes) : Effect Unit := do
  let s ← get
  let command := match s.command with
    | some c => c ++ ": ".toList
    | none => []
  let line := (toString s.line).toList
  let _ ← write 2 (s.name ++ ": ".toList ++ line ++ ": ".toList ++ command ++ text ++ ['\n'])

-- Complain about something and give up.
def abort {α : Type} (text : Bytes) : Effect α := do
  modify ({ · with status := 2 })
  warn text
  throw .error

def abortText {α : Type} (text : String) : Effect α := abort text.toList

def hasOption (c : Char) : Effect Bool := do return (← get).options.contains c

def setOption (c : Char) (on : Bool) : Effect Unit :=
  modify fun s =>
    let others := s.options.filter (· != c)
    { s with options := if on then c :: others else others }

end Effect

open Effect

-- The number that decimal digits write.
def digitsValue (cs : Bytes) : Nat := cs.foldl (fun n c => n * 10 + (c.toNat - '0'.toNat)) 0

-- Numbers of the shell have 64 bits.
def numberLimit : Int := 9223372036854775808

-- The number that is left of a larger one.
def wrap (n : Int) : Int := Int.bmod n 18446744073709551616

def isSpace (c : Char) : Bool := " \t\n\x0b\x0c\r".toList.contains c

-- A number at the beginning of a text, what follows it, and whether it is too large. In base
-- 0 the digits tell the base. Without a number all of the text is left.
def leadingNumber (base : Nat) (text : Bytes) : Int × Bytes × Bool :=
  let body := text.dropWhile isSpace
  let negative := body.head? == some '-'
  let body := if negative || body.head? == some '+' then body.tail else body
  let (base, body') : Nat × Bytes := match base, body with
    | 0, '0' :: x :: c :: rest | 16, '0' :: x :: c :: rest =>
      if (x == 'x' || x == 'X') && (digit? 16 c).isSome then (16, c :: rest)
      else (if base = 0 then 8 else 16, body)
    | 0, '0' :: _ => (8, body)
    | 0, _ => (10, body)
    | n, _ => (n, body)
  let digits := body'.takeWhile fun c => (digit? base c).isSome
  if digits.isEmpty then (0, text, false)
  else
    let n : Int := digits.foldl (fun n c => n * base + (digit? base c).getD 0) 0
    let rest := body'.drop digits.length
    if negative then
      if numberLimit < n then (-numberLimit, rest, true) else (-n, rest, false)
    else if numberLimit ≤ n then (numberLimit - 1, rest, true)
    else (n, rest, false)
where
  digit? (base : Nat) (c : Char) : Option Nat :=
    let value :=
      if c.isDigit then some (c.toNat - '0'.toNat)
      else if c.isAlpha then some (c.toLower.toNat - 'a'.toNat + 10)
      else none
    value.filter (· < base)

-- The integer that a text writes, with blanks around it. In base 0 a text without digits
-- writes 0.
def integer? (base : Nat) (text : Bytes) : Option Int :=
  let (n, rest, tooLarge) := leadingNumber base text
  if tooLarge || (base != 0 && rest.length == text.length) then none
  else if rest.all isSpace then some n
  else none

namespace Effect

-- An integer that is given to a command.
def integer (text : Bytes) : Effect Int :=
  match integer? 10 text with
  | some n => return n
  | none => abort ("Illegal number: ".toList ++ text)

-- A count that is given to a command.
def count (text : Bytes) : Effect Nat := do
  let n ← integer text
  if n < 0 || 2147483647 < n then abort ("Illegal number: ".toList ++ text)
  return n.toNat

def decimal (n : Int) : Bytes := (toString n).toList

-- Variables

def known? (name : Bytes) : Effect (Option Variable) := do
  return (← get).values.lookup name

-- The value of a variable.
def value? (name : Bytes) : Effect (Option Bytes) := do
  return (← known? name).bind (·.value)

def valueOf (name : String) : Effect Bytes := do return (← value? name.toList).getD []

-- Put a variable in place of what was there, if anything is put.
def replace (name : Bytes) (v : Option Variable) : Effect Unit :=
  modify fun s =>
    let others := s.values.filter (·.1 != name)
    { s with
      values := match v with
        | some v => (name, v) :: others
        | none => others
      located := if name == "PATH".toList then [] else s.located }

-- The search for options starts again when its variable is set.
def noticeChange (name : Bytes) (value : Option Bytes) : Effect Unit := do
  if name == "OPTIND".toList then
    let n ← match value with
      | some text => count text
      | none => pure 1
    modify ({ · with place := { index := max n 1 } })

-- Set a variable, or make it have no value.
def setTo (name : Bytes) (value : Option Bytes) (exported : Bool) : Effect Unit := do
  if !isName name then abort (name ++ ": bad variable name".toList)
  let old := (← known? name).getD {}
  if old.isReadOnly then abort (name ++ ": is read only".toList)
  noticeChange name value
  let isExported := old.isExported || exported || (← hasOption 'a')
  if value.isNone && !exported then replace name none
  else replace name (some { old with value, isExported })

def setVariable (name value : Bytes) : Effect Unit := setTo name (some value) false

def unset (name : Bytes) : Effect Unit := setTo name none false

-- Give a variable properties besides its value.
def markVariable (name : Bytes) (exported readOnly : Bool) : Effect Unit := do
  if !isName name then abort (name ++ ": bad variable name".toList)
  let old := (← known? name).getD {}
  replace name (some
    { old with
      isExported := old.isExported || exported
      isReadOnly := old.isReadOnly || readOnly })

-- Make a variable local to the innermost function.
def makeLocal (name : Bytes) : Effect Unit := do
  let old ← known? name
  modify fun s => { s with scopes := match s.scopes with
    | scope :: scopes => ((name, old) :: scope) :: scopes
    | [] => [] }

-- Whether all options are kept as well, in place of a variable.
def optionsName : Bytes := ['-']

def openScope : Effect Unit := modify fun s => { s with scopes := [] :: s.scopes }

-- Give variables back the values that they had outside.
def closeScope : Effect Unit := do
  let s ← get
  match s.scopes with
  | [] => pure ()
  | scope :: scopes =>
    set { s with scopes }
    for (name, old) in scope do
      if name == optionsName then
        modify fun s => { s with options := (old.bind (·.value)).getD [] }
      else replace name old

-- The values that other programs get to know.
def exports : Effect (List (Bytes × Bytes)) := do
  return (← get).values.filterMap fun (name, v) =>
    if v.isExported then v.value.map (name, ·) else none

end Effect

end SatFrontend.Shell

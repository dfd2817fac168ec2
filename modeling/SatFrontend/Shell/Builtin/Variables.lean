import SatFrontend.Shell.Builtin.Options

namespace SatFrontend.Shell.Builtin

open Text (Bytes)
open Effect

-- The name and the value of an argument that can hold both.
def nameAndValue (arg : Bytes) : Bytes × Option Bytes :=
  let name := arg.takeWhile (· != '=')
  if name.length < arg.length then (name, some (arg.drop (name.length + 1))) else (name, none)

-- Mark variables as known to other programs or as not to be changed, or print those that are.
def markCommand (name : String) (exported readOnly : Bool) (args : List Bytes) : Effect Nat := do
  let (found, rest) ← options "p" args
  if !found.isEmpty || rest.isEmpty then
    let shown (v : Variable) : Bool := (exported && v.isExported) || (readOnly && v.isReadOnly)
    sayVariables (name ++ " ") shown
  else
    for arg in rest do
      let (name, value) := nameAndValue arg
      if let some value := value then setVariable name value
      markVariable name exported readOnly
  return 0

-- Make variables local to a function.
def localCommand (args : List Bytes) : Effect Nat := do
  if (← get).scopes.isEmpty then abortText "not in a function"
  for arg in args do
    if arg == optionsName then
      let s ← get
      let kept : Variable := { value := some s.options }
      set { s with scopes := match s.scopes with
        | scope :: scopes => ((optionsName, some kept) :: scope) :: scopes
        | [] => [] }
    else
      let (name, value) := nameAndValue arg
      if !isName name then abort (name ++ ": bad variable name".toList)
      makeLocal name
      if let some value := value then setVariable name value
  return 0

-- Forget variables or functions.
def unsetCommand (args : List Bytes) : Effect Nat := do
  let (found, rest) ← options "vf" args
  let functions := (found.getLast?).map (·.1) == some 'f'
  for name in rest do
    if functions then
      modify fun s => { s with functions := s.functions.filter (·.1 != name) }
    else
      unset name
  return 0

-- Leave out the first arguments.
def shiftCommand (args : List Bytes) : Effect Nat := do
  let n ← match args with
    | [] => pure 1
    | arg :: _ => count arg
  let s ← get
  if s.args.length < n then abortText "can't shift that many"
  setArguments (s.args.drop n)
  return 0

-- Define aliases, or print some or all of them.
def aliasCommand (args : List Bytes) : Effect Nat := do
  let shown (name value : Bytes) : Bytes := name ++ ['='] ++ quote value ++ ['\n']
  if args.isEmpty then
    for (name, value) in (← get).aliases.mergeSort (fun a b => Text.inOrder a.1 b.1) do
      say (shown name value)
    return 0
  let mut status := 0
  for arg in args do
    -- an equals sign at the beginning belongs to the name
    let name := arg.take 1 ++ (arg.drop 1).takeWhile (· != '=')
    if name.length < arg.length then
      let value := arg.drop (name.length + 1)
      modify fun s => { s with aliases := (name, value) :: s.aliases.filter (·.1 != name) }
    else
      match (← get).aliases.lookup name with
      | some value => say (shown name value)
      | none =>
        let _ ← write 2 ("alias: ".toList ++ name ++ " not found\n".toList)
        status := 1
  return status

def unaliasCommand (args : List Bytes) : Effect Nat := do
  let (found, rest) ← options "a" args
  if !found.isEmpty then
    modify ({ · with aliases := [] })
    return 0
  let mut status := 0
  for name in rest do
    if ((← get).aliases.lookup name).isNone then
      let _ ← write 2 ("unalias: ".toList ++ name ++ " not found\n".toList)
      status := 1
    modify fun s => { s with aliases := s.aliases.filter (·.1 != name) }
  return status

end SatFrontend.Shell.Builtin

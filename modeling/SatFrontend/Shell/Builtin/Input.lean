import SatFrontend.Shell.Builtin.Options
import SatFrontend.Shell.Expand

namespace SatFrontend.Shell.Builtin

open Text (Bytes)
open Effect

-- A line in the middle of being read. What stands behind a backslash is never split.
structure LineRead where
  segments : List Segment := []
  -- the characters since the last segment, backwards
  plain : List Atom := []

namespace LineRead

def flush (l : LineRead) : LineRead :=
  { segments := ⟨l.plain.reverse, .atSeparators⟩ :: l.segments, plain := [] }

def add (l : LineRead) (c : Char) : LineRead := { l with plain := .char c true :: l.plain }

def addEscaped (l : LineRead) (c : Char) : LineRead :=
  let l := l.flush
  { l with segments := ⟨[.char c true], .nowhere⟩ :: l.segments }

def finish (l : LineRead) : List Segment := l.flush.segments.reverse

end LineRead

-- Read a line, at most `fuel` characters of it, and tell whether it was ended.
def inputLine (raw : Bool) : Nat → Bool → LineRead → Effect (List Segment × Bool)
  | 0, _, l => return (l.finish, false)
  | fuel + 1, escaped, l => do
    match ← ask (.read 0 1) with
    | .ok [c] =>
      if c == '\x00' then inputLine raw fuel escaped l
      else if escaped then
        if c == '\n' then inputLine raw fuel false l.flush
        else inputLine raw fuel false (l.addEscaped c)
      else if c == '\\' && !raw then inputLine raw fuel true l
      else if c == '\n' then return (l.finish, true)
      else inputLine raw fuel false (l.add c)
    | _ => return (l.finish, false)

-- No line is longer.
def lineLimit : Nat := 1000000000000

-- Read a line into variables. At the end of the input this fails.
def readCommand (args : List Bytes) : Effect Nat := do
  let (found, names) ← options "p:r" args
  if names.isEmpty then abortText "arg count"
  let (segments, ended) ← inputLine (found.any (·.1 == 'r')) lineLimit false {}
  let fields := Splitter.fields (← separators) (some names.length) segments
  let values := fields.map Atom.toBytes
  for (name, i) in names.zipIdx do
    setVariable name (values[i]?.getD [])
  return if ended then 0 else 1

-- Set a variable without starting the search for options again.
def setQuietly (name value : Bytes) : Effect Unit := do
  let place := (← get).place
  setVariable name value
  modify ({ · with place })

-- Find the next option in arguments.
def nextOption (spec name : Bytes) (args : List Bytes) : Effect Nat := do
  let place := (← get).place
  let quiet := spec.head? == some ':'
  let known := if quiet then spec.tail else spec
  let argument : Bytes := "OPTARG".toList
  let finish (index : Nat) (offset : Option Nat) (c : Char) (status : Nat) : Effect Nat := do
    setQuietly "OPTIND".toList (decimal index)
    setQuietly name [c]
    modify ({ · with place := { index, offset } })
    return status
  -- what is left of the argument that was looked at before
  let left : Bytes := match place.offset, args[place.index - 2]? with
    | some offset, some arg => if 1 < place.index then arg.drop offset else []
    | _, _ => []
  let (letters, index) : Bytes × Nat :=
    if !left.isEmpty then (left, place.index)
    else match args[place.index - 1]? with
      | some ('-' :: letters) => (letters, place.index + 1)
      | _ => ([], place.index)
  match letters with
  | [] => finish place.index none '?' 1
  | c :: rest =>
    if left.isEmpty && c == '-' && rest.isEmpty then finish index none '?' 1
    else
      -- where the rest of the argument begins
      let offset : Option Nat :=
        (args[index - 2]?).map (fun arg => arg.length - rest.length)
      match known.dropWhile (· != c) with
      | [] =>
        if quiet then setVariable argument [c]
        else
          let _ ← write 2 ("Illegal option -".toList ++ [c, '\n'])
          unset argument
        finish index offset '?' 0
      | _ :: ':' :: _ =>
        if !rest.isEmpty then
          setVariable argument rest
          finish index none c 0
        else match args[index - 1]? with
        | some value =>
          setVariable argument value
          finish (index + 1) none c 0
        | none =>
          if quiet then
            setVariable argument [c]
            finish index offset ':' 0
          else
            let _ ← write 2 ("No arg for -".toList ++ [c] ++ " option\n".toList)
            unset argument
            finish index offset '?' 0
      | _ =>
        setVariable argument []
        finish index offset c 0

def getoptsCommand (args : List Bytes) : Effect Nat := do
  match args with
  | spec :: name :: rest =>
    let s ← get
    let args := if rest.isEmpty then s.args else rest
    if args.length + 1 < s.place.index then modify ({ · with place := {} })
    nextOption spec name args
  | _ => abortText "Usage: getopts optstring var [arg...]"

end SatFrontend.Shell.Builtin

import SatFrontend.Shell.Builtin.Options

namespace SatFrontend.Shell.Builtin

open Text (Bytes)
open Effect

-- The parts of a text between the places where a character stands.
def splitAt (separator : Char) : Bytes → List Bytes
  | [] => [[]]
  | c :: cs =>
    if c == separator then [] :: splitAt separator cs
    else match splitAt separator cs with
      | [] => [[c]]
      | part :: parts => (c :: part) :: parts

-- A path as it is from a directory, without names that lead back.
def absolute (directory path : Bytes) : Bytes :=
  let isAbsolute := path.head? == some '/'
  let start := if isAbsolute then [] else (splitAt '/' directory).filter (!·.isEmpty)
  -- two slashes at the beginning are kept, but not more
  let whole := if isAbsolute then path else directory
  let lead := if "//".toList.isPrefixOf whole && whole[2]? != some '/' then "//" else "/"
  let step (names : List Bytes) (name : Bytes) : List Bytes :=
    if name == ['.', '.'] then names.dropLast
    else if name.isEmpty || name == ['.'] then names
    else names ++ [name]
  lead.toList ++ ['/'].intercalate ((splitAt '/' path).foldl step start)

-- The path of a location.
def pathOf (l : Location) : Bytes := '/' :: ['/'].intercalate (l.map Text.widen)

-- Whether the last of some options asks for a path without detours.
def isPhysical (found : List (Char × Bytes)) : Bool := (found.getLast?).map (·.1) == some 'P'

-- Go to a directory and note where that is.
def enter (physical : Bool) (path : Bytes) : Effect Bool := do
  let s ← get
  let logical := absolute s.directory path
  match ← ask (.enter (if physical then path else logical)) with
  | .error _ => return false
  | .ok l =>
    let directory := if physical then pathOf l else logical
    modify ({ · with directory })
    setTo "OLDPWD".toList (some s.directory) true
    setTo "PWD".toList (some directory) true
    return true

-- Whether a path is not looked for in other directories.
def isFixed (path : Bytes) : Bool :=
  path.head? == some '/' || [['.'], ['.', '.']].contains (path.takeWhile (· != '/'))

-- The first directory in a search path that has what is looked for, and whether it has a name.
def searchDirectories (name : Bytes) : List Bytes → Effect (Option (Bytes × Bool))
  | [] => return none
  | directory :: directories => do
    let path := if directory.isEmpty then name else directory ++ ['/'] ++ name
    match ← ask (.inspect path) with
    | .ok .directory => return some (path, !directory.isEmpty)
    | _ => searchDirectories name directories

-- Go to another directory.
def cdCommand (args : List Bytes) : Effect Nat := do
  let (found, args) ← options "LP" args
  let back := args.head? == some ['-']
  let target ← match args.head? with
    | none => valueOf "HOME"
    | some arg => if back then valueOf "OLDPWD" else pure arg
  let searched ← match ← value? "CDPATH".toList with
    | some directories =>
      if isFixed target then pure none
      else
        searchDirectories (if target.isEmpty then ['.'] else target) (splitAt ':' directories)
    | none => pure none
  let (path, named) := searched.getD (target, false)
  let path := if path.isEmpty then ['.'] else path
  if !(← enter (isPhysical found) path) then abort ("can't cd to ".toList ++ target)
  if back || named then say ((← get).directory ++ ['\n'])
  return 0

def pwdCommand (args : List Bytes) : Effect Nat := do
  let (found, _) ← options "LP" args
  let s ← get
  if isPhysical found then
    match ← ask (.enter ['.']) with
    | .ok l => say (pathOf l ++ ['\n'])
    | .error _ => say (s.directory ++ ['\n'])
  else say (s.directory ++ ['\n'])
  return 0

-- Permissions, in a number with three bits for each of owner, group and others
namespace Permissions

def all : Nat := 511

-- A copy of three bits for everyone that is named.
def spread (who bits : Nat) : Nat :=
  (List.range 3).foldl (fun n i => if who.testBit i then n + (bits <<< (3 * i)) else n) 0

-- The letters of three bits.
def letters (bits : Nat) : String :=
  (if bits.testBit 2 then "r" else "") ++ (if bits.testBit 1 then "w" else "") ++
    (if bits.testBit 0 then "x" else "")

def shown (granted : Nat) : String :=
  "u=" ++ letters (granted / 64) ++ ",g=" ++ letters (granted / 8 % 8) ++
    ",o=" ++ letters (granted % 8) ++ "\n"

-- The bits that letters stand for, where letters for people stand for what they have.
def bits? (granted : Nat) (text : Bytes) : Option Nat :=
  text.foldl (fun bits c => bits.bind fun bits => match c with
    | 'r' => some (bits ||| 4)
    | 'w' => some (bits ||| 2)
    | 'x' => some (bits ||| 1)
    | 'X' | 's' | 't' => some bits
    | 'u' => some (bits ||| granted / 64)
    | 'g' => some (bits ||| granted / 8 % 8)
    | 'o' => some (bits ||| granted % 8)
    | _ => none) (some 0)

-- Change permissions as one part of a text says.
def changed? (granted : Nat) (part : Bytes) : Option Nat := do
  let people := part.takeWhile "ugoa".toList.contains
  let who := people.foldl (fun n c => n ||| match c with
    | 'u' => 4
    | 'g' => 2
    | 'o' => 1
    | _ => 7) 0
  let who := if people.isEmpty then 7 else who
  match part.drop people.length with
  | sign :: letters =>
    let bits := spread who (← bits? granted letters)
    match sign with
    | '+' => some (granted ||| bits)
    | '-' => some (granted &&& (all - bits))
    | '=' => some (granted &&& (all - spread who 7) ||| bits)
    | _ => none
  | [] => none

end Permissions

-- Print or set the permissions that new files do not get.
def umaskCommand (args : List Bytes) : Effect Nat := do
  let (found, args) ← options "S" args
  let mask := (← get).mask
  match args with
  | [] =>
    if !found.isEmpty then sayText (Permissions.shown (Permissions.all - mask))
    else
      let digits := Nat.toDigits 8 mask
      say (List.replicate (4 - digits.length) '0' ++ digits ++ ['\n'])
  | arg :: _ =>
    if arg.head?.any Char.isDigit then
      if !arg.all (fun c => '0' ≤ c && c ≤ '7') then abort ("Illegal number: ".toList ++ arg)
      modify ({ · with mask := arg.foldl (fun n c => n * 8 + (c.toNat - '0'.toNat)) 0 % 512 })
    else
      let change (granted : Option Nat) (part : Bytes) : Option Nat :=
        granted.bind (Permissions.changed? · part)
      match (splitAt ',' arg).foldl change (some (Permissions.all - mask)) with
      | some granted => modify ({ · with mask := Permissions.all - granted })
      | none => abort ("Illegal mode: ".toList ++ arg)
  return 0

-- Nothing is limited.
def ulimitCommand (args : List Bytes) : Effect Nat := do
  let (_, rest) ← options "HSatfdscmlpnvwr" args
  if rest.isEmpty then sayText "unlimited\n"
  return 0

-- No time is counted.
def timesCommand : Effect Nat := do
  let line := "0m0.000000s 0m0.000000s\n"
  sayText (line ++ line)
  return 0

end SatFrontend.Shell.Builtin

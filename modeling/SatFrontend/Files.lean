import SatFrontend.Text.Bytes

namespace SatFrontend

-- Why a file or a stream could not be used, or a program not be started.
inductive IoError where
  | notFound
  | permissionDenied
  | notADirectory
  | isADirectory
  | nameTooLong
  | argumentsTooLong
  | badDescriptor
  | alreadyExists
  | noSpace
  | noDevice
  | brokenPipe
  -- a name that no system call can be given
  | nulByte
  | invalidData
  | other
deriving DecidableEq, Repr

namespace IoError

-- What happened, in words.
def reason : IoError → String
  | notFound => "No such file or directory"
  | permissionDenied => "Permission denied"
  | notADirectory => "Not a directory"
  | isADirectory => "Is a directory"
  | nameTooLong => "File name too long"
  | argumentsTooLong => "Argument list too long"
  | badDescriptor => "Bad file descriptor"
  | alreadyExists => "File exists"
  | noSpace => "No space left on device"
  | noDevice => "No such device or address"
  | brokenPipe => "Broken pipe"
  | nulByte => "nul byte found in provided data"
  | invalidData => "stream did not contain valid UTF-8"
  | other => "reader failed"

-- The number of an error that comes from the operating system.
def number? : IoError → Option Nat
  | notFound => some 2
  | permissionDenied => some 13
  | notADirectory => some 20
  | isADirectory => some 21
  | nameTooLong => some 36
  | argumentsTooLong => some 7
  | badDescriptor => some 9
  | alreadyExists => some 17
  | noSpace => some 28
  | noDevice => some 6
  | brokenPipe => some 32
  | nulByte | invalidData | other => none

def message (e : IoError) : String :=
  match e.number? with
  | some n => s!"{e.reason} (os error {n})"
  | none => e.reason

end IoError

-- Something that can be read and written without being a file.
inductive Device where
  | null
  -- gives zeros without end
  | zero
  -- gives zeros and takes nothing
  | full
  | terminal
  -- stands for a descriptor of who opens it
  | stream (descriptor : Nat)
deriving DecidableEq, Repr

-- What a path can lead to.
inductive FileEntry where
  | regular (bytes : List UInt8)
  -- can be started
  | program
  | device (d : Device)
  | directory
deriving DecidableEq, Repr

-- The bytes of a name or of a path.
abbrev Name := List UInt8

-- Where something is: the names on the way from the root.
abbrev Location := List Name

-- The files that can be reached, the directory that other paths start from, and what comes
-- over standard input.
structure Files where
  entries : List (Location × FileEntry)
  here : Location
  input : List UInt8 := []
deriving Repr

namespace Files

-- The location with these names.
def place (names : List String) : Location := names.map Text.encode

-- The directories, devices and programs that are always there.
def standard : Files where
  entries :=
    directories.map (fun names => (place names, .directory)) ++
    devices.map (fun (name, d) => (place name, .device d)) ++
    programs.flatMap (fun name =>
      [(place ["usr", "bin", name], .program), (place ["bin", name], .program)])
  here := place ["tmp", "work"]
where
  directories : List (List String) :=
    [[], ["bin"], ["dev"], ["dev", "fd"], ["etc"], ["home"], ["lib"], ["proc"],
      ["proc", "self"], ["proc", "self", "fd"], ["root"], ["run"], ["sbin"], ["sys"], ["tmp"],
      ["tmp", "work"], ["usr"], ["usr", "bin"], ["usr", "lib"], ["usr", "local"],
      ["usr", "local", "bin"], ["usr", "sbin"], ["var"]]
  devices : List (List String × Device) :=
    [(["dev", "null"], .null), (["dev", "zero"], .zero), (["dev", "full"], .full),
      (["dev", "tty"], .terminal), (["dev", "stdin"], .stream 0), (["dev", "stdout"], .stream 1),
      (["dev", "stderr"], .stream 2)] ++
    (List.range 10).flatMap fun n =>
      [(["dev", "fd", toString n], .stream n), (["proc", "self", "fd", toString n], .stream n)]
  programs : List String := ["sh", "dash", "cat", "echo", "false", "printf", "test", "true"]

def content? (fs : Files) (l : Location) : Option FileEntry := fs.entries.lookup l

-- Put something at a location, in place of what was there.
def set (fs : Files) (l : Location) (e : FileEntry) : Files :=
  { fs with entries := (l, e) :: fs.entries.filter (·.1 != l) }

-- The names in a directory.
def names (fs : Files) (directory : Location) : List Name :=
  fs.entries.filterMap fun (l, _) =>
    if l.dropLast == directory && !l.isEmpty then l.getLast? else none

-- The names of a path. Between two slashes and after the last one there can be an empty one.
def split : Name → List Name
  | [] => [[]]
  | b :: bytes =>
    if b = 47 then [] :: split bytes
    else match split bytes with
      | [] => [[b]]
      | name :: names => (b :: name) :: names

-- Longer names and paths are refused.
def nameLimit : Nat := 255
def pathLimit : Nat := 4095

-- Go on from a location over names. Only from a directory it is possible to go on, and the
-- last name is not looked up.
def walk (fs : Files) (l : Location) : List Name → Except IoError Location
  | [] => .ok l
  | name :: names =>
    match fs.content? l with
    | none => .error .notFound
    | some .directory =>
      if name = [] ∨ name = [46] then walk fs l names
      else if name = [46, 46] then walk fs l.dropLast names
      else if nameLimit < name.length then .error .nameTooLong
      else walk fs (l ++ [name]) names
    | some _ => .error .notADirectory

-- The location that a path leads to. Something may be there or not.
def locate (fs : Files) (path : Name) : Except IoError Location :=
  if path.contains 0 then .error .nulByte
  else if path.isEmpty then .error .notFound
  else if pathLimit < path.length then .error .nameTooLong
  else walk fs (if path.head? == some 47 then [] else fs.here) (split path)

-- What a path leads to.
def find (fs : Files) (path : Name) : Except IoError (Location × FileEntry) := do
  let l ← fs.locate path
  match fs.content? l with
  | some e => return (l, e)
  | none => throw .notFound

-- Put something at a path, with the directories on the way to it.
def put (fs : Files) (path : String) (e : FileEntry) : Files :=
  let names := (split (Text.encode path)).filter (fun n => n ≠ [] ∧ n ≠ [46])
  let start := if path.startsWith "/" then [] else fs.here
  let way := (List.range names.length).map (fun n => start ++ names.take n)
  let fs := way.foldl (fun fs l => if (fs.content? l).isSome then fs else fs.set l .directory) fs
  fs.set (start ++ names) e

def ofList (files : List (String × List UInt8)) : Files :=
  files.foldl (fun fs file => fs.put file.1 (.regular file.2)) standard

-- Everything that can be read at a path. A device that gives no end gives nothing here.
def read (fs : Files) (path : String) : Except IoError (List UInt8) := do
  match (← fs.find (Text.encode path)).2 with
  | .regular bytes => return bytes
  | .directory => throw .isADirectory
  | .device (.stream 0) => return fs.input
  | .device .terminal => throw .noDevice
  | .device _ | .program => return []

def isRegular (fs : Files) (path : String) : Bool :=
  match fs.find (Text.encode path) with
  | .ok (_, .regular _) | .ok (_, .program) => true
  | _ => false

end Files

end SatFrontend

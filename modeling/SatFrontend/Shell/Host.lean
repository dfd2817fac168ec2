import SatFrontend.Kernel.Machine
import SatFrontend.Shell.Execute

namespace SatFrontend.Shell

open Text (Bytes)
open Kernel

-- Runs any work of a shell.
def worker : Work → Manner → Effect Nat := Effect.run Effect.patience

-- What a shell knows from outside when it is the first program.
def surroundings : List (Bytes × Bytes) :=
  [("HOME".toList, "/root".toList), ("PATH".toList, Effect.defaultPath)]

-- The program that a name or a path stands for, as a path. A name is looked for in the usual
-- directories.
def programPath (fs : Files) (name : Bytes) : Except IoError Bytes :=
  if name.contains '\x00' then .error .nulByte
  else if name.contains '/' then
    match fs.find (Text.narrow name) with
    | .ok (_, .program) => .ok name
    | .ok _ => .error .permissionDenied
    | .error e => .error e
  else if name.isEmpty then .error .notFound
  else if Files.nameLimit < name.length then .error .nameTooLong
  else go .notFound (Effect.candidates Effect.defaultPath name)
where
  go (e : IoError) : List Bytes → Except IoError Bytes
    | [] => .error e
    | path :: paths =>
      match fs.find (Text.narrow path) with
      | .ok (_, .program) => .ok path
      | .ok _ => go .permissionDenied paths
      | .error _ => go e paths

-- Start a program with its input. It does nothing before someone looks what it does.
def start (fs : Files) (command : Command) (input : List UInt8) : Except IoError Behavior := do
  let bytes (s : String) : Bytes := Text.widen (Text.encode s)
  let name := bytes command.program
  let argv := name :: command.args.map bytes
  if argv.any (·.contains '\x00') then throw .nulByte
  let path ← programPath fs name
  if argv.any (Effect.argumentLimit ≤ ·.length) then throw .argumentsTooLong
  match Effect.launch worker path argv surroundings with
  | some p => return .prints [] fun _ => Machine.run fs p input
  | none => throw .permissionDenied

-- A host that has the given files, and programs that run in a shell of its own.
def host (files : Files) : Host := { files, start := start files }

end SatFrontend.Shell

import SatFrontend.Shell.Expand
import SatFrontend.Shell.Lookup

namespace SatFrontend.Shell

open Text (Bytes)
open Kernel

-- What a descriptor is to be connected with, where all words are expanded.
inductive Target where
  -- a file that may have to be new
  | file (path : Bytes) (mode : Mode) (isGuarded : Bool)
  | same (descriptor : Nat)
  | nothing
  | document (text : Word)

namespace Target

-- What is written behind the sign for copies.
def ofText (text : Bytes) : Effect Target :=
  match text with
  | ['-'] => return .nothing
  | [c] => if c.isDigit then return .same (digitsValue [c]) else bad
  | _ => bad
where
  bad : Effect Target := Effect.abortText "Syntax error: Bad fd number"

end Target

namespace Effect

variable (substitute : Option Script → Effect Bytes)

-- Expand the words of a redirection.
def targetOf (r : Redirect) : Effect (Nat × Target) := do
  let path (w : Word) : Effect Bytes := textOf substitute { tilde := true } w
  match r with
  | .input d w => return (d, .file (← path w) .read false)
  | .output d w => return (d, .file (← path w) .write true)
  | .overwrite d w => return (d, .file (← path w) .write false)
  | .append d w => return (d, .file (← path w) .append false)
  | .both d w => return (d, .file (← path w) .readWrite false)
  | .copy d w => return (d, ← Target.ofText (← path w))
  | .document d index => return (d, .document (((← get).documents.lookup index).getD []))

-- Open a file for a descriptor. A file that is guarded may not be there yet.
def openFor (d : Nat) (path : Bytes) (mode : Mode) (isGuarded : Bool) : Effect Unit := do
  let mode ←
    if isGuarded && (← hasOption 'C') then
      match ← ask (.inspect path) with
      | .ok (.regular _) | .ok .program | .error _ => pure Mode.create
      | .ok _ => pure mode
    else pure mode
  match ← ask (.openFile d path mode) with
  | .ok _ => return
  | .error e =>
    let (verb, ifMissing) :=
      if mode = .write || mode = .create then ("create", "Directory nonexistent")
      else if mode = .read then ("open", "No such file")
      else ("create", "Directory nonexistent")
    abort (("cannot " ++ verb ++ " ").toList ++ path ++ (": " ++ reasonOf ifMissing e).toList)

-- Keep what a descriptor stands for, if nothing is kept yet at this level.
def keep (d : Nat) : Effect Unit := do
  match (← get).kept with
  | level :: levels =>
    if (level.lookup d).isNone then
      let kept ← match ← ask (.setAside d) with
        | some n => pure (Kept.aside n)
        | none => pure Kept.closed
      modify ({ · with kept := ((d, kept) :: level) :: levels })
  | [] => return

-- Connect a descriptor, and keep what it stood for.
def connect (keeps : Bool) (d : Nat) (target : Target) : Effect Unit := do
  if keeps then
    match target with
    | .same n => if n != d then keep d
    | _ => keep d
  match target with
  | .file path mode isGuarded => openFor d path mode isGuarded
  | .same n =>
    if n != d then
      match ← ask (.duplicate n d) with
      | .ok _ => return
      | .error e =>
        -- what was kept is not there any more, not even for the message
        if keeps then ask (.close d)
        abort (decimal n ++ (": " ++ e.reason).toList)
  | .nothing => ask (.close d)
  | .document w =>
    let text ← textOf substitute { quoted := true } w
    ask (.supply d text)

-- Connect all descriptors that are redirected for good.
def connectAll : List (Nat × Target) → Effect Unit
  | [] => return
  | (d, target) :: rest => do
    connect substitute false d target
    connectAll rest

-- Connect descriptors until they are restored. After an error the status is not 0.
def connectKeeping (targets : List (Nat × Target)) : Effect Nat := do
  if targets.isEmpty then return 0
  modify fun s => { s with kept := [] :: s.kept }
  match ← attempt (targets.forM fun (d, target) => connect substitute true d target) with
  | .ok _ => return 0
  | .error .error => return 2
  | .error e => throw e

-- Restore descriptors of the last level, or only forget what they stood for.
def restore (forgets : Bool) : Effect Unit := do
  match (← get).kept with
  | [] => return
  | level :: levels =>
    modify ({ · with kept := levels })
    for (d, kept) in level do
      match kept with
      | .closed => if !forgets then ask (.close d)
      | .aside n =>
        if !forgets then
          let _ ← ask (.duplicate n d)
        ask (.close n)

-- Restore descriptors until only so many levels are left.
def restoreTo (depth : Nat) : Effect Unit := do
  for _ in List.range ((← get).kept.length - depth) do restore false

-- Give variables back their values until only so many scopes are left.
def closeScopesTo (depth : Nat) : Effect Unit := do
  for _ in List.range ((← get).scopes.length - depth) do closeScope

end Effect

end SatFrontend.Shell

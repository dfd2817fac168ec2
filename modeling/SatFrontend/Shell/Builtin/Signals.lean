import SatFrontend.Shell.Builtin.Options

namespace SatFrontend.Shell.Builtin

open Text (Bytes)
open Effect
open Kernel

-- What a signal is called, where 0 stands for the end of the shell.
def signalName (number : Nat) : String :=
  if number = 0 then "EXIT"
  else match Signal.name? number with
  | some name => if number = 16 then "16" else name
  | none =>
    if number = 34 then "RTMIN"
    else if number = Signal.last then "RTMAX"
    else if 34 < number ∧ number < 50 then s!"RTMIN+{number - 34}"
    else if 50 ≤ number ∧ number < Signal.last then s!"RTMAX-{Signal.last - number}"
    else toString number

-- The number of a signal that is given by number or by a name from number `least` on.
def signalNumber? (least : Nat) (text : Bytes) : Option Nat :=
  if !text.isEmpty && text.all Char.isDigit then
    let n := digitsValue text
    if n ≤ Signal.last then some n else none
  else
    let wanted := (String.ofList text).toUpper
    (List.range (Signal.last + 1)).find? fun n => least ≤ n && signalName n == wanted

-- Decide what is done when signals come, or print what is.
def trapCommand (args : List Bytes) : Effect Nat := do
  let (_, args) ← options "" args
  match args with
  | [] =>
    for (n, action) in (← get).traps.mergeSort (fun a b => decide (a.1 ≤ b.1)) do
      say ("trap -- ".toList ++ quote action ++ (" " ++ signalName n ++ "\n").toList)
    return 0
  | first :: rest =>
    let isSignal := !first.isEmpty && first.all Char.isDigit && (signalNumber? 0 first).isSome
    let (action, names) : Option Bytes × List Bytes :=
      if rest.isEmpty || isSignal then (none, args)
      else (if first == ['-'] then none else some first, rest)
    go action names
where
  go (action : Option Bytes) : List Bytes → Effect Nat
    | [] => return 0
    | name :: names => do
      match signalNumber? 0 name with
      | none =>
        let _ ← write 2 ("trap: ".toList ++ name ++ ": bad trap\n".toList)
        return 1
      | some n =>
        modify fun s =>
          let others := s.traps.filter (·.1 != n)
          { s with traps := match action with
              | some action => (n, action) :: others
              | none => others }
        if n != 0 then
          ask (.dispose n (match action with
            | none => .usual
            | some [] => .ignored
            | some _ => .caught))
        go action names

-- Whether some signal, or the end, makes the shell do something.
def hasTraps : Effect Bool := do return (← get).traps.any (!·.2.isEmpty)

-- A shell of its own does nothing about signals, but still ignores those that are ignored.
def clearTraps : Effect Unit := do
  let s ← get
  let (active, ignored) := s.traps.partition (!·.2.isEmpty)
  for (n, _) in active do
    if n != 0 then ask (.dispose n .usual)
  set { s with traps := ignored }

def usage : String :=
  "Usage: kill [-s sigspec | -signum | -sigspec] [pid | job]... or
kill -l [exitstatus]"

-- Send a signal to processes.
def sendSignal (number : Nat) : List Bytes → Nat → Effect Nat
  | [], status => return status
  | target :: targets, status => do
    let reached ← match target with
      | '%' :: _ => abort ("No such job: ".toList ++ target)
      | '-' :: group => do
        let _ ← count group
        pure false
      | _ => do
        let id ← count target
        ask (.signal id number)
    if reached then sendSignal number targets status
    else
      warn "No such process\n".toList
      sendSignal number targets 1

-- Print the name of a signal, or of all.
def listSignals : List Bytes → Effect Nat
  | [] => do
    sayText "0\n"
    for n in List.range Signal.last do sayText (signalName (n + 1) ++ "\n")
    return 0
  | arg :: _ => do
    let n ← count arg
    let n := if 128 < n then n - 128 else n
    if 0 < n && n ≤ Signal.last then
      sayText (signalName n ++ "\n")
      return 0
    else abort ("invalid signal number or exit status: ".toList ++ arg)

def killCommand (args : List Bytes) : Effect Nat := do
  match args with
  | [] => abortText usage
  | first :: rest =>
    let given := match first with
      | '-' :: name => signalNumber? 1 name
      | _ => none
    match given, first with
    | some n, _ => if rest.isEmpty then abortText usage else sendSignal n rest 0
    | none, '-' :: _ =>
      let (found, targets) ← options "ls:" args
      let mut number : Option Nat := none
      let mut lists := false
      for (c, value) in found do
        if c == 'l' then lists := true
        else
          match signalNumber? 1 value with
          | some n => number := some n
          | none => abort ("invalid signal number or name: ".toList ++ value)
      if lists then
        if number.isSome then abortText usage else listSignals targets
      else if targets.isEmpty then abortText usage
      else sendSignal (number.getD Signal.terminate) targets 0
    | none, _ => sendSignal Signal.terminate args 0

end SatFrontend.Shell.Builtin

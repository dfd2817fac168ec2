import SatFrontend.Shell.Builtin.Signals

namespace SatFrontend.Shell.Builtin

open Text (Bytes)
open Effect
open Kernel

-- The status that stands for how a process ended.
def statusOf : Exit → Nat
  | .code n => n
  | .signal n => 128 + n

-- Note the end of a process in the jobs.
def noteEnd (id : Nat) (e : Exit) : Effect Unit := modify fun s =>
  let noted (p : Nat × Option Exit) : Nat × Option Exit := if p.1 = id then (id, some e) else p
  { s with jobs := s.jobs.map (fun j => { j with processes := j.processes.map noted }) }

-- Say what ended a process, if it is nothing usual.
def sayEnd : Exit → Effect Unit
  | .code _ => return
  | .signal n => do
    if n != Signal.interrupt && n != Signal.brokenPipe then
      let _ ← write 2 (Signal.description n ++ "\n").toList

-- More children than a shell can have.
def childLimit : Nat := 1000000000

-- Wait until all of some processes have ended, and go on with how. At most `fuel` children
-- end meanwhile.
def awaitAll (interruptible : Bool) : Nat → List (Nat × Option Exit) →
    Effect (Option (List (Nat × Option Exit)))
  | 0, _ => return none
  | fuel + 1, processes => do
    if processes.all (·.2.isSome) then return some processes
    match ← ask (.wait interruptible) with
    | .child id e =>
      noteEnd id e
      if processes.any (·.1 == id) then sayEnd e
      awaitAll interruptible fuel (processes.map fun p => if p.1 = id then (id, some e) else p)
    | _ => return none

-- The status of a job whose processes have ended.
def statusOfAll (processes : List (Nat × Option Exit)) : Nat :=
  ((processes.getLast?).bind (·.2)).elim 0 statusOf

-- Wait for a job that is in the foreground.
def awaitJob (ids : List Nat) : Effect Nat := do
  return ((← awaitAll false childLimit (ids.map (·, none))).map statusOfAll).getD 0

-- The first number that no job has, or only one that can be forgotten.
def freeNumber (jobs : List Job) : Nat :=
  let taken := jobs.filter fun j => !(j.isWaited && j.exit?.isSome)
  ((List.range (taken.length + 1)).map (· + 1)).find?
    (fun n => !taken.any (·.number == n)) |>.getD 1

-- Note a job that is in the background.
def addJob (ids : List Nat) : Effect Unit := modify fun s =>
  let number := freeNumber s.jobs
  let job : Job := { number, processes := ids.map (·, none) }
  { s with jobs := job :: s.jobs.filter (·.number != number), lastBackground := ids.getLast? }

-- The job that is named by an argument with a percent sign.
def findJob (arg : Bytes) : Effect Job := do
  let jobs := (← get).jobs
  let name := arg.tail
  let found :=
    if name.isEmpty || name == ['%'] || name == ['+'] then jobs[0]?
    else if name == ['-'] then jobs[1]?
    else if name.all Char.isDigit then jobs.find? (·.number == digitsValue name)
    else none
  match found with
  | some job => return job
  | none => abort ("No such job: ".toList ++ arg)

def markWaited (which : Job → Bool) : Effect Unit := modify fun s =>
  { s with jobs := s.jobs.map (fun j => if which j then { j with isWaited := true } else j) }

-- The status of a command that a signal has interrupted.
def interrupted : Effect Nat := do
  let news ← ask .arrived
  modify fun s => { s with arrived := s.arrived ++ news }
  return 128 + (news.getLast?).getD 0

-- Wait for all jobs to end.
def awaitEach : Nat → Effect Nat
  | 0 => return 0
  | fuel + 1 => do
    markWaited (·.exit?.isSome)
    if (← get).jobs.all (·.exit?.isSome) then return 0
    match ← ask (.wait true) with
    | .child id e =>
      noteEnd id e
      awaitEach fuel
    | .noChild => return 0
    | .interrupted => interrupted

-- Wait for jobs, which are given by number or by the id of their last process.
def awaitThese (status : Nat) : List Bytes → Effect Nat
  | [] => return status
  | arg :: args => do
    let job ← match arg with
      | '%' :: _ => pure (some (← findJob arg))
      | _ => do
        let id ← count arg
        pure ((← get).jobs.find? fun j => (j.processes.getLast?).any (·.1 == id))
    match job with
    | none => awaitThese status args
    | some job =>
      match ← awaitAll true childLimit job.processes with
      | some processes =>
        markWaited (·.number == job.number)
        awaitThese (statusOfAll processes) args
      | none => interrupted

def waitCommand (args : List Bytes) : Effect Nat := do
  let (_, args) ← options "" args
  if args.isEmpty then awaitEach childLimit else awaitThese 127 args

-- The state of a job in words.
def stateOf (j : Job) : String :=
  match j.exit? with
  | none => "Running"
  | some (.code 0) => "Done"
  | some (.code n) => s!"Done({n})"
  | some (.signal n) => Signal.description n

-- List the jobs, the latest one first, and forget those that have ended.
def jobsCommand (args : List Bytes) : Effect Nat := do
  let (found, _) ← options "lp" args
  for (job, i) in (← get).jobs.zipIdx do
    if found.any (·.1 == 'p') then
      say (decimal ((job.processes.head?).elim 0 (·.1)) ++ ['\n'])
    else
      let mark := if i = 0 then "+" else if i = 1 then "-" else " "
      let text := s!"[{job.number}] {mark} {stateOf job}"
      let blanks := String.ofList (List.replicate (max 1 (33 - text.length)) ' ')
      let bars := String.join (List.replicate (job.processes.length - 1) " | ")
      sayText (text ++ blanks ++ bars ++ "\n")
  modify fun s => { s with jobs := s.jobs.filter (·.exit?.isNone) }
  return 0

-- No job can be brought to the foreground, because none is under control.
def controlCommand (args : List Bytes) : Effect Nat := do
  match args with
  | [] =>
    if (← get).jobs.isEmpty then abortText "No current job"
    abortText "job (null) not created under job control"
  | arg :: _ =>
    let _ ← findJob arg
    abort ("job ".toList ++ arg ++ " not created under job control".toList)

end SatFrontend.Shell.Builtin

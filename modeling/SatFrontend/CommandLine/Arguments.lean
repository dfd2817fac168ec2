import SatFrontend.Text.Similarity

namespace SatFrontend.CommandLine

-- What can be switched on or set by an argument.
inductive Switch where
  | assume
  | enumerate
  | count
  | delta
  | configFile
  | configOption
  | risk
  | help
  | version
deriving DecidableEq, Repr

namespace Switch

def takesValue : Switch → Bool
  | enumerate | count | help | version => false
  | _ => true

-- Whether it can be given more than once.
def repeats : Switch → Bool
  | assume | configOption => true
  | _ => false

-- Whether its value may look like a switch.
def takesDashes : Switch → Bool
  | assume => true
  | _ => false

end Switch

-- The arguments that are understood.
structure Grammar where
  long : List (String × Switch)
  short : List (Char × Switch)
  -- the greatest number of arguments that are not switches
  operands : Nat
  -- the word after which another grammar is in force, if it comes first
  keyword : Option String := none

-- What can be given to the built-in solver.
def Grammar.solving : Grammar where
  long := [("assume", .assume), ("enumerate", .enumerate), ("count", .count), ("delta", .delta),
    ("help", .help), ("version", .version)]
  short := [('h', .help), ('V', .version)]
  operands := 1
  keyword := some "--run"

-- What can be given to run a backend.
def Grammar.running : Grammar where
  long := [("config", .configFile), ("config-option", .configOption), ("risk", .risk),
    ("assume", .assume), ("help", .help)]
  short := [('C', .configOption), ('h', .help)]
  operands := 2

-- Why nothing is run.
inductive Refusal where
  -- help was asked for
  | help
  | misuse
deriving DecidableEq, Repr

-- What arguments were understood as.
inductive Item where
  | given (s : Switch)
  | value (s : Switch) (text : String)
  | operand (text : String)
deriving DecidableEq, Repr

-- What was understood so far.
structure Progress where
  items : List Item := []
  -- the switch that waits for a value
  waiting : Option Switch := none
  -- whether everything that follows is an operand
  plain : Bool := false

namespace Progress

def operandCount (p : Progress) : Nat :=
  p.items.countP fun
    | .operand _ => true
    | _ => false

-- Whether an argument cannot be a value. One dash alone is a value.
def isSwitch (p : Progress) (a : String) : Bool :=
  !p.waiting.any Switch.takesDashes && a.startsWith "-" && a != "-"

def give (p : Progress) (s : Switch) (value : Option String) : Except Refusal Progress :=
  match s with
  | .help | .version => .error .help
  | _ =>
    if s.takesValue then
      match value with
      | some text => .ok { p with items := p.items ++ [.given s, .value s text], waiting := none }
      | none => .ok { p with items := p.items ++ [.given s], waiting := some s }
    else .ok { p with items := p.items ++ [.given s], waiting := none }

-- A switch with a long name. A value can follow an equals sign.
def long (g : Grammar) (p : Progress) (a : String) : Except Refusal Progress :=
  let body := a.toList.dropWhile (· == '-')
  let name := body.takeWhile (· != '=')
  let value := body.dropWhile (· != '=')
  match g.long.lookup (String.ofList name) with
  | none => .error .misuse
  | some s =>
    p.give s (if value.isEmpty then none else some (String.ofList (value.dropWhile (· == '='))))

-- A switch with a short name. What follows the name is a value, with or without an equals
-- sign. No switch without a value leaves anything to be read after its name.
def short (g : Grammar) (p : Progress) (a : String) : Except Refusal Progress :=
  match a.toList.drop 1 with
  | [] => .error .misuse
  | c :: value =>
    match g.short.lookup c with
    | none => .error .misuse
    | some s =>
      p.give s (if value.isEmpty then none else some (String.ofList (value.dropWhile (· == '='))))

-- An argument that is no switch. One that may be meant as the keyword is refused.
def operand (g : Grammar) (p : Progress) (a : String) : Except Refusal Progress :=
  if p.items.isEmpty && g.keyword.any (fun k => Text.resembles a.toList k.toList) then
    .error .misuse
  else if p.operandCount < g.operands then .ok { p with items := p.items ++ [.operand a] }
  else .error .misuse

-- Understand one argument that is not the keyword.
def step (g : Grammar) (p : Progress) (a : String) : Except Refusal Progress :=
  if p.plain then p.operand g a
  else if p.isSwitch a then
    if a = "--" then .ok { p with plain := true }
    else if a.startsWith "--" then p.long g a
    else p.short g a
  else
    match p.waiting with
    | some s => .ok { p with items := p.items ++ [.value s a], waiting := none }
    | none => p.operand g a

-- The keyword counts only before everything else.
def isKeyword (g : Grammar) (p : Progress) (a : String) : Bool :=
  g.keyword == some a && p.items.isEmpty && !p.plain

end Progress

-- Understand arguments up to the end or up to the keyword, and give what is left after it.
def readArguments (g : Grammar) (p : Progress) :
    List String → Except Refusal (List Item × Option (List String))
  | [] => .ok (p.items, none)
  | a :: as =>
    if p.isKeyword g a then .ok (p.items, some as)
    else do readArguments g (← p.step g a) as

-- All values of a switch.
def valuesOf (s : Switch) (items : List Item) : List String :=
  items.filterMap fun
    | .value t text => if t = s then some text else none
    | _ => none

def operandsOf (items : List Item) : List String :=
  items.filterMap fun
    | .operand text => some text
    | _ => none

def isGiven (s : Switch) (items : List Item) : Bool := items.contains (.given s)

-- A switch has its value, and only some can be given twice.
def isProper (items : List Item) : Bool :=
  items.all fun
    | .given s =>
      (!s.takesValue || !(valuesOf s items).isEmpty) && (s.repeats || items.count (.given s) == 1)
    | _ => true

-- What the built-in solver is used for.
inductive Task where
  | witness
  -- with the accepted risk
  | count (delta : Option String)
  | enumerate
deriving DecidableEq, Repr

structure Solving where
  input : Option String
  assumptions : List String
  task : Task
deriving DecidableEq, Repr

-- What a backend is run for.
inductive Mode where
  | witness
  | count
  | enumerate
deriving DecidableEq, Repr

def Mode.ofText? : String → Option Mode
  | "witness" => some .witness
  | "count" => some .count
  | "enumerate" => some .enumerate
  | _ => none

structure Running where
  mode : Mode
  input : Option String
  config : Option String
  options : List String
  risk : Option String
  assumptions : List String
deriving DecidableEq, Repr

-- What is asked for by all arguments.
inductive Invocation where
  | solve (a : Solving)
  | run (a : Running)
deriving DecidableEq, Repr

-- The models are counted or enumerated, but not both, and a risk goes with a count.
def Solving.ofItems (items : List Item) : Except Refusal Solving :=
  let input := (operandsOf items).head?
  let assumptions := valuesOf .assume items
  let delta := (valuesOf .delta items).head?
  if !isProper items then .error .misuse
  else
    match isGiven .count items, isGiven .enumerate items, delta with
    | true, false, _ => .ok { input, assumptions, task := .count delta }
    | false, true, none => .ok { input, assumptions, task := .enumerate }
    | false, false, none => .ok { input, assumptions, task := .witness }
    | _, _, _ => .error .misuse

def Running.ofItems (items : List Item) : Except Refusal Running :=
  if !isProper items then .error .misuse
  else
    match operandsOf items with
    | [] => .error .misuse
    | mode :: operands =>
      match Mode.ofText? mode with
      | none => .error .misuse
      | some mode =>
        .ok
          { mode
            input := operands.head?
            config := (valuesOf .configFile items).head?
            options := valuesOf .configOption items
            risk := (valuesOf .risk items).head?
            assumptions := valuesOf .assume items }

namespace Invocation

def ofArguments (args : List String) : Except Refusal Invocation := do
  match ← readArguments .solving {} args with
  | (items, none) => return .solve (← Solving.ofItems items)
  | (_, some rest) =>
    let (items, _) ← readArguments .running {} rest
    return .run (← Running.ofItems items)

-- The file that the formula is read from, if it is not read from standard input.
def input : Invocation → Option String
  | solve a => a.input
  | run a => a.input

-- The file that the configuration is read from.
def config : Invocation → Option String
  | solve _ => none
  | run a => a.config

end Invocation

end SatFrontend.CommandLine

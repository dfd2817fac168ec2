import SatFrontend.Shell.State

namespace SatFrontend.Shell.Builtin

open Text (Bytes)
open Effect

-- The options at the beginning of arguments and the arguments behind them. The letters that are
-- known stand in a text, those that have a value with a colon behind them.
def options (known : String) (args : List Bytes) : Effect (List (Char × Bytes) × List Bytes) :=
  go args.length args
where
  go : Nat → List Bytes → Effect (List (Char × Bytes) × List Bytes)
    | fuel + 1, ('-' :: c :: letters) :: args => do
      if c == '-' && letters.isEmpty then return ([], args)
      let (found, args) ← cluster args (c :: letters)
      let (more, args) ← go fuel args
      return (found ++ more, args)
    | _, args => return ([], args)
  -- several letters behind one dash
  cluster (args : List Bytes) : Bytes → Effect (List (Char × Bytes) × List Bytes)
    | [] => return ([], args)
    | c :: letters => do
      let spec := known.toList.dropWhile (· != c)
      match spec with
      | [] => abort ("Illegal option -".toList ++ [c])
      | _ :: ':' :: _ =>
        match letters, args with
        | [], value :: args => return ([(c, value)], args)
        | [], [] => abort ("No arg for -".toList ++ [c] ++ " option".toList)
        | _, _ => return ([(c, letters)], args)
      | _ =>
        let (more, args) ← cluster args letters
        return ((c, []) :: more, args)

-- The options of the shell with their letters, in the order in which they are listed.
def optionTable : List (String × Option Char) :=
  [("errexit", some 'e'), ("noglob", some 'f'), ("ignoreeof", some 'I'),
    ("interactive", some 'i'), ("monitor", some 'm'), ("noexec", some 'n'), ("stdin", some 's'),
    ("xtrace", some 'x'), ("verbose", some 'v'), ("vi", some 'V'), ("emacs", some 'E'),
    ("noclobber", some 'C'), ("allexport", some 'a'), ("notify", some 'b'),
    ("nounset", some 'u'), ("privileged", some 'p'), ("nolog", none), ("debug", none)]

def setLetter (c : Char) (on : Bool) : Effect Unit := do
  if optionTable.any (·.2 == some c) then setOption c on
  else abort ("Illegal option -".toList ++ [c])

-- Set an option that is given by name, or list all of them.
def setNamed (name : Option Bytes) (on : Bool) : Effect Unit := do
  match name with
  | none =>
    let s ← get
    if on then sayText "Current option settings\n"
    for (name, letter) in optionTable do
      let isOn := letter.any s.options.contains
      if on then
        let blanks := String.ofList (List.replicate (16 - name.length) ' ')
        sayText (name ++ blanks ++ (if isOn then "on\n" else "off\n"))
      else sayText ("set " ++ (if isOn then "-o " else "+o ") ++ name ++ "\n")
  | some name =>
    match optionTable.lookup (String.ofList name) with
    | some (some letter) => setOption letter on
    | some none => pure ()
    | none => abort ("Illegal option -o ".toList ++ name)

-- How far options go: what follows them, and whether something stands behind them that says
-- that they end.
structure OptionsRead where
  rest : List Bytes
  ended : Bool := false
  -- a script is to be read from an argument
  isCommand : Bool := false

-- Set the options at the beginning of arguments, at most `fuel` of them. On the command line
-- of a shell there can be those that say what it is to run.
def setOptions (isCommandLine : Bool) : Nat → List Bytes → Effect OptionsRead
  | 0, args => return { rest := args }
  | _ + 1, [] => return { rest := [] }
  | fuel + 1, arg :: args => do
    match arg with
    | ['-'] =>
      if !isCommandLine then
        setOption 'x' false
        setOption 'v' false
      return { rest := args, ended := true }
    | ['-', '-'] => return { rest := args, ended := true }
    | sign :: letters =>
      if sign != '-' && sign != '+' then return { rest := arg :: args }
      let (isCommand, args) ← cluster (sign == '-') args false letters
      let r ← setOptions isCommandLine fuel args
      return { r with isCommand := isCommand || r.isCommand }
    | [] => return { rest := arg :: args }
where
  cluster (on : Bool) (args : List Bytes) (isCommand : Bool) : Bytes → Effect (Bool × List Bytes)
    | [] => return (isCommand, args)
    | c :: letters => do
      if c == 'c' && isCommandLine then cluster on args true letters
      else if c == 'l' && isCommandLine then cluster on args isCommand letters
      else if c == 'o' then
        setNamed args.head? on
        cluster on args.tail isCommand letters
      else
        setLetter c on
        cluster on args isCommand letters

-- Give up the control of jobs, for which there is no terminal. A part of a shell does not look
-- for one.
def giveUpMonitor : Effect Unit := do
  let (id, _) ← ask .ids
  if (← hasOption 'm') && id == (← get).ownId then
    setOption 'm' false
    warn "can't access tty; job control turned off".toList

def setArguments (args : List Bytes) : Effect Unit := modify ({ · with args, place := {} })

-- A text in quotes that the shell reads as this text.
def quote (text : Bytes) : Bytes := go (text.length + 1) text
where
  go : Nat → Bytes → Bytes
    | 0, _ => []
    | fuel + 1, text =>
      let plain := text.takeWhile (· != '\'')
      let rest := text.drop plain.length
      let quotes := rest.takeWhile (· == '\'')
      let rest := rest.drop quotes.length
      ['\''] ++ plain ++ ['\''] ++
        (if quotes.isEmpty then [] else ['"'] ++ quotes ++ ['"'] ++
          (if rest.isEmpty then [] else go fuel rest))

-- Print variables as commands that set them.
def sayVariables (lead : String) (shown : Variable → Bool) : Effect Unit := do
  let vs := (← get).values.filter (fun v => shown v.2)
  for (name, v) in vs.mergeSort (fun a b => Text.inOrder a.1 b.1) do
    let value := match v.value with
      | some value => '=' :: quote value
      | none => []
    say (lead.toList ++ name ++ value ++ ['\n'])

-- Set options and arguments, or print all variables.
def setCommand (args : List Bytes) : Effect Nat := do
  if args.isEmpty then sayVariables "" (·.value.isSome)
  else
    let r ← setOptions false (args.length + 1) args
    giveUpMonitor
    if !r.rest.isEmpty || (r.ended && args.getLast? == some ['-', '-']) then setArguments r.rest
  return 0

end SatFrontend.Shell.Builtin

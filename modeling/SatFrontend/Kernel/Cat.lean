import SatFrontend.Kernel.Process

namespace SatFrontend.Kernel.Cat

open Text (Bytes)

-- How what is copied is changed on the way.
structure Options where
  -- what the program is called
  name : Bytes := []
  numbersAll : Bool := false
  numbersFilled : Bool := false
  showsEnds : Bool := false
  showsTabs : Bool := false
  showsOthers : Bool := false
  squeezes : Bool := false

namespace Options

def longNames : List (String × Char) :=
  [("number-nonblank", 'b'), ("number", 'n'), ("squeeze-blank", 's'), ("show-nonprinting", 'v'),
    ("show-ends", 'E'), ("show-tabs", 'T'), ("show-all", 'A'), ("help", 'h'), ("version", 'V')]

def set? (o : Options) : Char → Option Options
  | 'b' => some { o with numbersFilled := true }
  | 'n' => some { o with numbersAll := true }
  | 's' => some { o with squeezes := true }
  | 'v' => some { o with showsOthers := true }
  | 'E' => some { o with showsEnds := true }
  | 'T' => some { o with showsTabs := true }
  | 'e' => some { o with showsEnds := true, showsOthers := true }
  | 't' => some { o with showsTabs := true, showsOthers := true }
  | 'A' => some { o with showsEnds := true, showsTabs := true, showsOthers := true }
  | 'u' => some o
  | _ => none

def setAll (o : Options) : Bytes → Except String Options
  | [] => .ok o
  | c :: cs =>
    match o.set? c with
    | some o => o.setAll cs
    | none => .error ("invalid option -- '" ++ String.singleton c ++ "'")

-- The option of a name that can be shortened as long as it is clear.
def setLong (o : Options) (text : Bytes) : Except String Options := do
  let name := text.takeWhile (· != '=')
  let shown := String.ofList name
  let starting : List (String × Char) :=
    longNames.filter fun (long, _) => name.isPrefixOf long.toList
  let found := match longNames.filter (·.1 == shown) with
    | [] => starting
    | exact => exact
  match found with
  | [] => throw ("unrecognized option '--" ++ String.ofList text ++ "'")
  | [(long, c)] =>
    if name.length < text.length then
      throw ("option '--" ++ long ++ "' doesn't allow an argument")
    return (o.set? c).getD o
  | several =>
    let names := String.join (several.map fun (long, _) => " '--" ++ long ++ "'")
    throw ("option '--" ++ String.ofList text ++ "' is ambiguous; possibilities:" ++ names)

-- The options among some arguments and the other arguments. After two dashes there are only
-- others.
def ofArguments (o : Options) : List Bytes → Except String (Options × List Bytes)
  | [] => .ok (o, [])
  | arg :: args =>
    match arg with
    | ['-', '-'] => .ok (o, args)
    | '-' :: '-' :: name => do (← o.setLong name).ofArguments args
    | '-' :: c :: cs => do (← o.setAll (c :: cs)).ofArguments args
    | _ => do
      let (o, others) ← o.ofArguments args
      return (o, arg :: others)

end Options

-- Where the copying stands: inside of a line, or so many ended lines further, not counting
-- the first one that follows text.
inductive Place where
  | inLine
  | atStart (empty : Nat)
deriving DecidableEq

structure Progress where
  place : Place := .atStart 0
  lines : Nat := 0
  -- a carriage return that may belong to the end of a line
  held : Bool := false
  -- some file could not be copied
  failed : Bool := false
  -- standard input was copied
  usesInput : Bool := false

-- A character in visible form.
def visible (tabs : Bool) (c : Char) : Bytes :=
  let n := c.toNat
  let lead : Bytes := if n < 128 then [] else ['M', '-']
  let low := n % 128
  if n = 9 && !tabs then ['\t']
  else if low < 32 then lead ++ ['^', Char.ofNat (low + 64)]
  else if low = 127 then lead ++ ['^', '?']
  else lead ++ [Char.ofNat low]

def numbered (lines : Nat) : Bytes :=
  let digits := (toString lines).toList
  List.replicate (6 - digits.length) ' ' ++ digits ++ ['\t']

-- Take in a character, and put what comes of it before the output, backwards.
def step (o : Options) : Progress × Bytes → Char → Progress × Bytes
  | (p, out), c =>
    let number (p : Progress) (out : Bytes) : Progress × Bytes :=
      ({ p with lines := p.lines + 1 }, (numbered (p.lines + 1)).reverse ++ out)
    if c == '\n' then
      let empty := match p.place with
        | .inLine => 0
        | .atStart n => n + 1
      let p := { p with place := .atStart (min empty 2) }
      if 2 ≤ empty && o.squeezes then (p, out)
      else
        let (p, out) :=
          if 0 < empty && o.numbersAll && !o.numbersFilled then number p out else (p, out)
        let out := if p.held then 'M' :: '^' :: out else out
        let out := if o.showsEnds then '$' :: out else out
        ({ p with held := false }, '\n' :: out)
    else
      let out := if p.held then '\r' :: out else out
      let p := { p with held := false }
      let (p, out) :=
        if p.place != .inLine && (o.numbersAll || o.numbersFilled) then number p out else (p, out)
      let p := { p with place := .inLine }
      if o.showsOthers then (p, (visible o.showsTabs c).reverse ++ out)
      else if c == '\t' && o.showsTabs then (p, 'I' :: '^' :: out)
      else if c == '\r' && o.showsEnds then ({ p with held := true }, out)
      else (p, c :: out)

-- Whether a character makes it necessary to quote a name.
def isSpecial (c : Char) : Bool := " !\"$&()*;<=>?[\\^\x60|':".toList.contains c

-- A name in a message, in quotes if it needs them.
def quoted (name : Bytes) : Bytes :=
  let isPrintable (c : Char) : Bool := ' ' ≤ c && c ≤ '~'
  let needed := name.isEmpty || name.any (fun c => isSpecial c || !isPrintable c) ||
    name.head? == some '~' || name.head? == some '#' || name == ['\x7b'] || name == ['\x7d']
  let mild (c : Char) : Bool := isPrintable c && !"\"$\x60\\!".toList.contains c
  if !needed then name
  else if name.contains '\'' && name.all mild then ['"'] ++ name ++ ['"']
  else ['\''] ++ go name true
where
  -- the rest of a name, inside of quotes or else inside of those for codes
  go : Bytes → Bool → Bytes
    | [], _ => ['\'']
    | c :: cs, plain =>
      if ' ' ≤ c && c ≤ '~' then
        let text : Bytes := if c == '\'' then "'\\''".toList else [c]
        (if plain then text else "''".toList ++ text) ++ go cs true
      else
        let digits := Nat.toDigits 8 c.toNat
        let code : Bytes := match c with
          | '\n' => ['\\', 'n']
          | '\t' => ['\\', 't']
          | '\r' => ['\\', 'r']
          | '\x07' => ['\\', 'a']
          | '\x08' => ['\\', 'b']
          | '\x0b' => ['\\', 'v']
          | '\x0c' => ['\\', 'f']
          | _ => '\\' :: List.replicate (3 - digits.length) '0' ++ digits
        (if plain then "'$'".toList ++ code else code) ++ go cs false

-- Complain and go on.
def complain (o : Options) (text : Bytes) (next : Process) : Process :=
  .ask (.write 2 (o.name ++ ": ".toList ++ text ++ ['\n'])) fun _ => next

def failing (o : Options) (what : Bytes) (e : IoError) (next : Process) : Process :=
  complain o (what ++ (": " ++ e.reason).toList) next

def end_ (p : Progress) : Process := .ends (.code (if p.failed then 1 else 0))

-- Write something and go on if that is possible.
def put (o : Options) (bytes : Bytes) (next : Process) : Process :=
  if bytes.isEmpty then next
  else .ask (.write 1 bytes) fun
    | .ok _ => next
    | .error e => failing o "write error".toList e (.ends (.code 1))

-- So many bytes are read at once.
def blockSize : Nat := 131072

-- More blocks than can be read in any amount of time that matters.
def patience : Nat := 1000000000000000000

-- Copy what comes from a descriptor, in at most `fuel` blocks.
def copy (o : Options) (descriptor : Nat) (name : Bytes) (next : Progress → Process) :
    Nat → Progress → Process
  | 0, p => next p
  | fuel + 1, p =>
    .ask (.read descriptor blockSize) fun
      | .error e => failing o (quoted name) e (next { p with failed := true })
      | .ok [] => next p
      | .ok bytes =>
        let (p, out) := bytes.foldl (step o) (p, [])
        .ask .pause fun _ => put o out.reverse (copy o descriptor name next fuel p)

-- The end, where standard input is closed if it was used.
def finish (o : Options) (p : Progress) : Process :=
  put o (if p.held then ['\r'] else []) <|
    if p.usesInput then
      .ask (.duplicate 0 0) fun
        | .ok _ => end_ p
        | .error e => failing o "closing standard input".toList e (.ends (.code 1))
    else end_ p

-- Where a file is opened.
def fileDescriptor : Nat := 3

-- Copy files one after another. A dash is standard input.
def copyAll (o : Options) : List Bytes → Progress → Process
  | [], p => finish o p
  | name :: names, p =>
    if name == ['-'] then
      copy o 0 name (copyAll o names) patience { p with usesInput := true }
    else
      .ask (.openFile fileDescriptor name .read) fun
        | .error e => failing o (quoted name) e (copyAll o names { p with failed := true })
        | .ok _ =>
          let next (p : Progress) : Process :=
            .ask (.close fileDescriptor) fun _ => copyAll o names p
          copy o fileDescriptor name next patience p

-- Copy all files that are named to standard output.
def main (name : Bytes) (args : List Bytes) : Process :=
  match Options.ofArguments { name } args with
  | .error text =>
    let help := "\nTry '".toList ++ name ++ " --help' for more information.".toList
    complain { name } (text.toList ++ help) (.ends (.code 1))
  | .ok (o, names) =>
    .ask (.duplicate 1 1) fun
      | .error e => failing o "standard output".toList e (.ends (.code 1))
      | .ok _ => copyAll o (if names.isEmpty then [['-']] else names) {}

end SatFrontend.Kernel.Cat

import SatFrontend.Decimal.Notation
import SatFrontend.Shell.State

namespace SatFrontend.Shell.Builtin

open Text (Bytes)
open Effect

def isOctal (c : Char) : Bool := '0' ≤ c && c ≤ '7'

-- The character that an escape after a backslash stands for, and what follows it. What is no
-- escape leaves the backslash as it is.
def escape (text : Bytes) : Char × Bytes :=
  match text with
  | 'a' :: rest => ('\x07', rest)
  | 'b' :: rest => ('\x08', rest)
  | 'e' :: rest => ('\x1b', rest)
  | 'f' :: rest => ('\x0c', rest)
  | 'n' :: rest => ('\n', rest)
  | 'r' :: rest => ('\r', rest)
  | 't' :: rest => ('\t', rest)
  | 'v' :: rest => ('\x0b', rest)
  | '\\' :: rest => ('\\', rest)
  | _ =>
    let digits := (text.take 3).takeWhile isOctal
    if digits.isEmpty then ('\\', text)
    else
      let n := digits.foldl (fun n c => n * 8 + (c.toNat - '0'.toNat)) 0
      (Char.ofNat (n % 256), text.drop digits.length)

-- Text with its escapes replaced, and whether it ends all output. An octal number can have
-- one more zero before it.
def unescape : Nat → Bytes → Bytes × Bool
  | 0, text => (text, false)
  | _ + 1, [] => ([], false)
  | fuel + 1, '\\' :: rest =>
    match rest with
    | 'c' :: _ => ([], true)
    | _ =>
      let rest := match rest with
        | '0' :: c :: more => if isOctal c then c :: more else rest
        | _ => rest
      let (c, rest) := escape rest
      let (more, ended) := unescape fuel rest
      (c :: more, ended)
  | fuel + 1, c :: rest =>
    let (more, ended) := unescape fuel rest
    (c :: more, ended)

-- Words with blanks between them, and a line feed unless the first word is `-n`.
def echo (args : List Bytes) : Bytes :=
  let (newline, words) := match args with
    | ['-', 'n'] :: rest => (false, rest)
    | _ => (true, args)
  let text := [' '].intercalate words
  let (out, ended) := unescape (text.length + 1) text
  if newline && !ended then out ++ ['\n'] else out

-- How an argument of a format is to be printed.
structure Directive where
  flags : Bytes
  width : Nat
  precision : Option Nat
  letter : Char

namespace Directive

def has (d : Directive) (flag : Char) : Bool := d.flags.contains flag

-- Fill a text up to the width with blanks.
def pad (d : Directive) (text : Bytes) : Bytes :=
  let blanks := List.replicate (d.width - text.length) ' '
  if d.has '-' then text ++ blanks else blanks ++ text

-- A number after its sign, filled up to the width with zeros or blanks.
def padNumber (d : Directive) (sign digits : Bytes) (canHaveZeros : Bool) : Bytes :=
  if d.has '0' && !d.has '-' && canHaveZeros then
    sign ++ List.replicate (d.width - sign.length - digits.length) '0' ++ digits
  else d.pad (sign ++ digits)

-- What stands before a number that has a sign.
def signOf (d : Directive) (negative : Bool) : Bytes :=
  if negative then ['-'] else if d.has '+' then ['+'] else if d.has ' ' then [' '] else []

-- The digits of a natural number, at least as many as the precision says.
def digits (d : Directive) (base n : Nat) : Bytes :=
  let ds := if n = 0 && d.precision == some 0 then [] else Nat.toDigits base n
  List.replicate (d.precision.getD 1 - ds.length) '0' ++ ds

def signed (d : Directive) (n : Int) : Bytes :=
  d.padNumber (d.signOf (n < 0)) (d.digits 10 n.natAbs) d.precision.isNone

def unsigned (d : Directive) (n : Nat) : Bytes :=
  let plain := d.precision.isNone
  match d.letter with
  | 'o' =>
    let ds := d.digits 8 n
    d.padNumber [] (if d.has '#' && ds.head? != some '0' then '0' :: ds else ds) plain
  | 'x' => d.padNumber (if d.has '#' && n != 0 then ['0', 'x'] else []) (d.digits 16 n) plain
  | 'X' =>
    let ds := (d.digits 16 n).map Char.toUpper
    d.padNumber (if d.has '#' && n != 0 then ['0', 'X'] else []) ds plain
  | _ => d.padNumber [] (d.digits 10 n) plain

def float (d : Directive) (x : Decimal.Binary64) : Bytes :=
  let capital (text : Bytes) : Bytes := if d.letter.isUpper then text.map Char.toUpper else text
  let form : Decimal.Notation := match d.letter.toLower with
    | 'f' => .fixed
    | 'e' => .scientific
    | _ => .general
  match x with
  | .nan => d.pad (d.signOf false ++ capital "nan".toList)
  | .infinite negative => d.pad (d.signOf negative ++ capital "inf".toList)
  | .finite negative m e =>
    let (num, den) := Decimal.ratio 2 e
    let text := form.write (d.precision.getD 6) (d.has '#') (m * num) den
    d.padNumber (d.signOf negative) (capital text) true

end Directive

-- The number at the beginning of a text, and what follows it.
def leadingFloat (text : Bytes) : Decimal.Binary64 × Bytes :=
  let body := text.dropWhile isSpace
  let sign := body.take 1 |>.filter (fun c => c == '-' || c == '+')
  let body := body.drop sign.length
  let word := ["infinity", "inf", "nan"].find? fun w =>
    w.toList.isPrefixOf (body.map Char.toLower)
  let number : Bytes := match word with
    | some w => body.take w.length
    | none =>
      let whole := body.takeWhile Char.isDigit
      let rest := body.drop whole.length
      let fraction := match rest with
        | '.' :: more => '.' :: more.takeWhile Char.isDigit
        | _ => []
      let mantissa := whole ++ fraction
      let exponent := match rest.drop fraction.length with
        | e :: more =>
          let sign := more.take 1 |>.filter (fun c => c == '-' || c == '+')
          let ds := (more.drop sign.length).takeWhile Char.isDigit
          if (e == 'e' || e == 'E') && !ds.isEmpty then e :: sign ++ ds else []
        | [] => []
      if mantissa.any Char.isDigit then mantissa ++ exponent else []
  match Decimal.Binary64.ofText? (sign ++ number) with
  | some x => (x, body.drop number.length)
  | none => (.finite false 0 0, text)

-- The arguments that are left for a format, and whether one was no number.
structure Supply where
  args : List Bytes
  wrong : Bool := false

abbrev Printing := StateT Supply Effect

namespace Printing

def next? : Printing (Option Bytes) := do
  let s ← get
  set { s with args := s.args.tail }
  return s.args.head?

-- Complain about an argument unless all of it was a number in range.
def check (arg rest : Bytes) (tooLarge : Bool) : Printing Unit := do
  let complain (text : String) : Printing Unit := do
    warn (arg ++ ": ".toList ++ text.toList)
    modify ({ · with wrong := true })
  if !rest.isEmpty then
    if rest.length = arg.length then complain "expected numeric value"
    else complain "not completely converted"
  else if tooLarge then complain "Numerical result out of range"

-- A quote stands before a character whose number is meant.
def quoted? : Bytes → Option Nat
  | '"' :: c :: _ | '\'' :: c :: _ => some c.toNat
  | ['"'] | ['\''] => some 0
  | _ => none

def signed : Printing Int := do
  match ← next? with
  | none => return 0
  | some arg =>
    match quoted? arg with
    | some n => return n
    | none =>
      let (n, rest, tooLarge) := leadingNumber 0 arg
      check arg rest tooLarge
      return n

-- The largest number without a sign.
def unsignedLimit : Nat := 18446744073709551615

def unsigned : Printing Nat := do
  match ← next? with
  | none => return 0
  | some arg =>
    match quoted? arg with
    | some n => return n
    | none =>
      let (n, rest, tooLarge) := wide arg
      check arg rest tooLarge
      return n
where
  -- numbers without a sign go further, and negative ones count from the end
  wide (arg : Bytes) : Nat × Bytes × Bool :=
    let (n, rest, tooLarge) := leadingNumber 0 arg
    if !tooLarge then ((n % 18446744073709551616).toNat, rest, false)
    else
      let negative := (arg.dropWhile isSpace).head? == some '-'
      let used := arg.take (arg.length - rest.length)
      let digits := used.dropWhile (fun c => isSpace c || c == '-' || c == '+')
      let m := match digits with
        | '0' :: 'x' :: ds | '0' :: 'X' :: ds =>
          ds.foldl (fun n c => n * 16 + (leadingNumber.digit? 16 c).getD 0) 0
        | '0' :: ds => ds.foldl (fun n c => n * 8 + (c.toNat - '0'.toNat)) 0
        | ds => digitsValue ds
      if unsignedLimit < m then (unsignedLimit, rest, true)
      else (if negative then (unsignedLimit + 1 - m) % (unsignedLimit + 1) else m, rest, false)

def float : Printing Decimal.Binary64 := do
  match ← next? with
  | none => return .finite false 0 0
  | some arg =>
    match quoted? arg with
    | some n => return Decimal.Binary64.nearest false n 1
    | none =>
      let (x, rest) := leadingFloat arg
      check arg rest false
      return x

-- A width or precision: digits, or a star for the next argument.
def measure (text : Bytes) : Printing (Option Int × Bytes) := do
  match text with
  | '*' :: rest => return (some (← signed), rest)
  | _ =>
    let ds := text.takeWhile (fun c => c.isDigit || c == '*')
    let n : Int := digitsValue (ds.filter Char.isDigit)
    return (if ds.isEmpty then none else some n, text.drop ds.length)

-- The directive after a percent sign, and what follows it.
def directive (text : Bytes) : Printing (Directive × Bytes) := do
  let flags := text.takeWhile (fun c => "#-+ 0".toList.contains c)
  let (width, rest) ← measure (text.drop flags.length)
  let width := width.getD 0
  let (precision, rest) ← match rest with
    | '.' :: rest => do
      let (n, rest) ← measure rest
      let n := n.getD 0
      pure (if n < 0 then none else some n.toNat, rest)
    | _ => pure (none, rest)
  match rest with
  | [] => abortText "missing format character"
  | letter :: rest =>
    let flags := if width < 0 then '-' :: flags else flags
    return ({ flags, width := width.natAbs, precision, letter }, rest)

-- Go once through a format. The result says whether the output was ended early.
def once : Nat → Bytes → Printing Bool
  | 0, _ => return false
  | _ + 1, [] => return false
  | fuel + 1, '\\' :: rest => do
    let (c, rest) := escape rest
    say [c]
    once fuel rest
  | fuel + 1, '%' :: '%' :: rest => do
    say ['%']
    once fuel rest
  | fuel + 1, '%' :: text => do
    let (d, rest) ← directive text
    match d.letter with
    | 's' =>
      let arg := (← next?).getD []
      say (d.pad (arg.take (d.precision.getD arg.length)))
      once fuel rest
    | 'c' =>
      let arg := (← next?).getD []
      say (d.pad (if arg.isEmpty then ['\x00'] else arg.take 1))
      once fuel rest
    | 'b' =>
      let arg := (← next?).getD []
      let (out, ended) := unescape (arg.length + 1) arg
      say (d.pad (out.take (d.precision.getD out.length)))
      if ended then return true else once fuel rest
    | 'd' | 'i' =>
      say (d.signed (← signed))
      once fuel rest
    | 'o' | 'u' | 'x' | 'X' =>
      say (d.unsigned (← unsigned))
      once fuel rest
    | 'e' | 'E' | 'f' | 'F' | 'g' | 'G' =>
      say (d.float (← float))
      once fuel rest
    | _ =>
      let used := '%' :: text.take (text.length - rest.length)
      abort (used ++ ": invalid directive".toList)
  | fuel + 1, c :: rest => do
    say [c]
    once fuel rest

-- Go through a format until the arguments are used up, at most `fuel` times.
def repeated (format : Bytes) : Nat → Printing Unit
  | 0 => return
  | fuel + 1 => do
    let before := (← get).args.length
    let ended ← once (format.length + 1) format
    let left := (← get).args.length
    if !ended && left != 0 && left != before then repeated format fuel

end Printing

-- Print arguments in a format.
def printf (args : List Bytes) : Effect Nat := do
  let args := match args with
    | ['-', '-'] :: rest => rest
    | _ => args
  match args with
  | [] => abortText "usage: printf format [arg ...]"
  | format :: args =>
    let ((), s) ← (Printing.repeated format (args.length + 1)).run { args }
    return if s.wrong then 1 else 0

end SatFrontend.Shell.Builtin

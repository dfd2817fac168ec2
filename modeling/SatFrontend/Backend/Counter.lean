import SatFrontend.Backend.Batch
import SatFrontend.Pattern.Compiled

namespace SatFrontend.Backend

-- The probability with which a count may be wrong, strictly between 0 and 1.
structure Risk where
  value : Decimal.Binary64
  proper : value.isProper = true

namespace Risk

def ofValue (value : Decimal.Binary64) : Except Failure Risk :=
  if h : value.isProper = true then .ok ⟨value, h⟩ else .error (.argument (.risk value))

def text (r : Risk) : String := r.value.text

end Risk

-- A pattern whose first group is a count.
structure CountPattern where
  text : String
  compiled : Pattern.Compiled
  hasGroup : 0 < compiled.groups

namespace CountPattern

def ofText (text : String) : Except Failure CountPattern :=
  match Pattern.Compiled.ofText text with
  | .error .malformed => .error (.argument (.pattern text))
  | .error .tooLarge => .error (.argument (.patternTooLarge text))
  | .ok compiled =>
    if h : 0 < compiled.groups then .ok ⟨text, compiled, h⟩
    else .error (.argument (.patternWithoutGroup text))

-- The pattern of the result line of the usual counters.
def standard : String := "^s mc (\\d+)"

-- The count in the output of a program.
def count (p : CountPattern) (program : String) (output : String) : Except Failure Nat :=
  match p.compiled.firstGroup? output.toList with
  | none => .error (.output program (.noMatch p.text))
  | some cs =>
    match Text.count? cs with
    | some n => .ok n
    | none => .error (.output program (.invalidCount (String.ofList cs)))

end CountPattern

-- A program that counts models. A probabilistic one is also told the accepted risk, after
-- a flag if that is not empty.
structure Counter where
  base : Command
  pattern : CountPattern
  risk : Option (String × Risk) := none

namespace Counter

def exact (base : Command) (pattern : String) : Except Failure Counter := do
  let pattern ← CountPattern.ofText pattern
  .ok { base, pattern }

-- The risk is checked before the pattern.
def probabilistic (base : Command) (pattern flag : String) (risk : Decimal.Binary64) :
    Except Failure Counter := do
  let risk ← Risk.ofValue risk
  let pattern ← CountPattern.ofText pattern
  .ok { base, pattern, risk := some (flag, risk) }

def command (c : Counter) : Command :=
  match c.risk with
  | none => c.base
  | some (flag, risk) => ((if flag.isEmpty then c.base else c.base.arg flag).arg risk.text)

-- The count that a counter reports. Its exit code does not matter, but one other than 0 is
-- worth a notice.
def extract (c : Counter) (program : String) (finished : Finished) :
    List Notice × Except Failure Nat :=
  match finished.exit.code? with
  | none => ([], .error (.exit program none (finished.stdout ++ finished.stderr)))
  | some code =>
    (if code = 0 then [] else [.counterExit program code],
      c.pattern.count program finished.stdout)

def batch (c : Counter) : Batch Nat where
  command := c.command
  extract program _ finished := c.extract program finished

end Counter

end SatFrontend.Backend

import SatFrontend.Files
import SatFrontend.Text.Bytes

namespace SatFrontend

-- A program with its arguments.
structure Command where
  program : String
  args : List String := []
deriving DecidableEq, Repr, Inhabited

-- The command with one more argument.
def Command.arg (c : Command) (a : String) : Command := { c with args := c.args ++ [a] }

-- How a program ended.
inductive Exit where
  | code (n : Nat)
  | signal (n : Nat)
deriving DecidableEq, Repr

namespace Exit

-- A program that was killed by a signal has no exit code.
def code? : Exit → Option Nat
  | code n => some n
  | signal _ => none

def isSuccess (e : Exit) : Bool := e.code? == some 0

end Exit

-- What a program does once it has its input. Each piece is made only when it is asked for,
-- so a program that would go on printing can still be stopped after any piece.
inductive Behavior where
  | exits (e : Exit)
  | prints (bytes : List UInt8) (rest : Unit → Behavior)
  | complains (bytes : List UInt8) (rest : Unit → Behavior)

-- What a program left behind after it ended.
structure Finished where
  exit : Exit
  stdout : String
  stderr : String
deriving DecidableEq, Repr

namespace Behavior

-- Everything that is printed, and how the program ends.
def output : Behavior → List UInt8
  | exits _ => []
  | prints bytes rest => bytes ++ (rest ()).output
  | complains _ rest => (rest ()).output

def errors : Behavior → List UInt8
  | exits _ => []
  | prints _ rest => (rest ()).errors
  | complains bytes rest => bytes ++ (rest ()).errors

def exit : Behavior → Exit
  | exits e => e
  | prints _ rest => (rest ()).exit
  | complains _ rest => (rest ()).exit

-- Wait for the end and collect everything, as text.
def collect : Behavior → Array UInt8 → Array UInt8 → Finished
  | exits exit, out, err =>
    { exit
      stdout := String.ofList (Text.decodeLossy out.toList)
      stderr := String.ofList (Text.decodeLossy err.toList) }
  | prints bytes rest, out, err => (rest ()).collect (out ++ bytes) err
  | complains bytes rest, out, err => (rest ()).collect out (err ++ bytes)

def finish (b : Behavior) : Finished := b.collect #[] #[]

theorem collect_eq (b : Behavior) (out err : Array UInt8) :
    b.collect out err =
      { exit := b.exit
        stdout := String.ofList (Text.decodeLossy (out.toList ++ b.output))
        stderr := String.ofList (Text.decodeLossy (err.toList ++ b.errors)) } := by
  induction b generalizing out err with
  | exits e => simp [collect, exit, output, errors]
  | prints bytes rest ih => simp [collect, ih, exit, output, errors]
  | complains bytes rest ih => simp [collect, ih, exit, output, errors]

end Behavior

-- The surroundings: the files there are, and what a command does with an input.
structure Host where
  files : Files
  start : Command → List UInt8 → Except IoError Behavior

end SatFrontend

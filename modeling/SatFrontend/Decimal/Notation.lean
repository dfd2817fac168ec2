import SatFrontend.Decimal.Binary64

namespace SatFrontend.Decimal

-- How a number is written with a given number of digits.
inductive Notation where
  -- so many digits behind the point
  | fixed
  -- one digit before the point, and an exponent
  | scientific
  -- so many digits in all, in the shorter one of both ways and without zeros at the end
  | general
deriving DecidableEq, Repr

namespace Notation

-- The digits of a natural number, with zeros before them up to a length.
def padded (length n : Nat) : List Char :=
  let digits := Nat.toDigits 10 n
  List.replicate (length - digits.length) '0' ++ digits

-- Put a point before the last so many digits. Without digits behind it the point stays only
-- if it is asked for.
def withPoint (places : Nat) (keepPoint : Bool) (digits : List Char) : List Char :=
  let whole := digits.take (digits.length - places)
  let fraction := digits.drop (digits.length - places)
  whole ++ (if fraction.isEmpty && !keepPoint then [] else '.' :: fraction)

-- The quotient times a power of ten, rounded.
def roundAt (num den : Nat) (e : Int) : Nat :=
  let (up, down) := ratio 10 e
  roundDiv (num * up) (den * down)

-- The exponent of ten of the first digit of a quotient that is not 0.
def magnitude (num den : Nat) : Int :=
  let guess : Int := (Nat.toDigits 10 num).length - (Nat.toDigits 10 den).length
  let (up, down) := ratio 10 guess
  if den * up ≤ num * down then guess else guess - 1

def writeFixed (places : Nat) (keepPoint : Bool) (num den : Nat) : List Char :=
  withPoint places keepPoint (padded (places + 1) (roundAt num den places))

-- The digits with one more than `places`, and the exponent of the first one.
def significant (places num den : Nat) : Nat × Int :=
  if num = 0 then (0, 0)
  else
    let x := magnitude num den
    let digits := roundAt num den (places - x)
    if digits = Nat.pow 10 (places + 1) then (Nat.pow 10 places, x + 1) else (digits, x)

def writeExponent (x : Int) : List Char :=
  'e' :: (if x < 0 then '-' else '+') :: padded 2 x.natAbs

def writeScientific (places : Nat) (keepPoint : Bool) (num den : Nat) : List Char :=
  let (digits, x) := significant places num den
  withPoint places keepPoint (padded (places + 1) digits) ++ writeExponent x

-- Leave out zeros at the end of a fraction.
def withoutZeros (text : List Char) : List Char :=
  if text.contains '.' then
    let kept := (text.reverse.dropWhile (· == '0')).reverse
    if kept.getLast? == some '.' then kept.dropLast else kept
  else text

def writeGeneral (precision : Nat) (keepZeros : Bool) (num den : Nat) : List Char :=
  let precision := max precision 1
  let (_, x) := significant (precision - 1) num den
  let shorten (text : List Char) : List Char := if keepZeros then text else withoutZeros text
  if -4 ≤ x ∧ x < precision then
    shorten (writeFixed (precision - 1 - x).toNat keepZeros num den)
  else
    let text := writeScientific (precision - 1) keepZeros num den
    shorten (text.takeWhile (· != 'e')) ++ text.dropWhile (· != 'e')

-- The quotient in a notation. An alternative form keeps the point and all zeros.
def write (n : Notation) (precision : Nat) (alternative : Bool) (num den : Nat) : List Char :=
  match n with
  | fixed => writeFixed precision alternative num den
  | scientific => writeScientific precision alternative num den
  | general => writeGeneral precision alternative num den

end Notation

end SatFrontend.Decimal

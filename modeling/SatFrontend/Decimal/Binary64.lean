import SatFrontend.Text.Numeral

namespace SatFrontend.Decimal

-- A floating point number of 64 bits. A finite one is `mantissa * 2 ^ exponent`, where the
-- mantissa is below `2 ^ 53` and the exponent is as small as it can be, but not below -1074.
inductive Binary64 where
  | nan
  | infinite (negative : Bool)
  | finite (negative : Bool) (mantissa : Nat) (exponent : Int)
deriving DecidableEq, Repr

-- A power with an integer exponent, as numerator and denominator.
def ratio (base : Nat) (e : Int) : Nat × Nat :=
  if 0 ≤ e then (Nat.pow base e.toNat, 1) else (1, Nat.pow base (-e).toNat)

-- The quotient rounded to the nearest natural number, and to the even one of two.
def roundDiv (num den : Nat) : Nat :=
  let q := num / den
  let twice := 2 * (num % den)
  if twice < den then q
  else if den < twice then q + 1
  else q + q % 2

-- The quotient by a power of two, rounded.
def roundScaled (num den : Nat) (e : Int) : Nat :=
  let (up, down) := ratio 2 e
  roundDiv (num * down) (den * up)

namespace Binary64

def minExponent : Int := -1074

def maxExponent : Int := 971

-- The exponent at which the floor of `num / den` has 53 binary digits.
def exponentOf (num den : Nat) : Int :=
  let e : Int := (num.log2 : Int) - (den.log2 : Int) - 53
  let (up, down) := ratio 2 e
  if num * down / (den * up) < Nat.pow 2 53 then e else e + 1

-- The number nearest to `num / den`, where ties go to the even mantissa.
def nearest (negative : Bool) (num den : Nat) : Binary64 :=
  if num = 0 then finite negative 0 minExponent
  else
    let e := max (exponentOf num den) minExponent
    let m := roundScaled num den e
    let (m, e) := if m = Nat.pow 2 53 then (Nat.pow 2 52, e + 1) else (m, e)
    if maxExponent < e then infinite negative else finite negative m e

-- The number nearest to `digits * 10 ^ e`. Numbers far out of range are not computed.
def ofDecimal (negative : Bool) (digits : Nat) (e : Int) : Binary64 :=
  let size : Int := (Nat.toDigits 10 digits).length + e
  if digits = 0 then finite negative 0 minExponent
  else if 400 < size then infinite negative
  else if size < -400 then finite negative 0 minExponent
  else
    let (up, down) := ratio 10 e
    nearest negative (digits * up) down

-- An exponent: a letter `e`, an optional sign and digits. No text is the exponent 0.
def exponent? : List Char → Option Int
  | [] => some 0
  | c :: r =>
    if c = 'e' || c = 'E' then
      match r with
      | '-' :: ds => (Text.digits? ds).map (fun n => -(Int.ofNat n))
      | '+' :: ds => (Text.digits? ds).map Int.ofNat
      | ds => (Text.digits? ds).map Int.ofNat
    else none

-- Digits with an optional point among, before or after them, and an optional exponent.
def unsigned? (negative : Bool) (cs : List Char) : Option Binary64 := do
  let whole := cs.takeWhile Char.isDigit
  let rest := cs.dropWhile Char.isDigit
  let (fraction, rest) := match rest with
    | '.' :: r => (r.takeWhile Char.isDigit, r.dropWhile Char.isDigit)
    | _ => ([], rest)
  let digits ← Text.digits? (whole ++ fraction)
  let e ← exponent? rest
  some (ofDecimal negative digits (e - fraction.length))

-- A number as it is written: `nan`, `inf` and `infinity` in any case, or a decimal.
def ofText? (cs : List Char) : Option Binary64 :=
  let (negative, body) := match cs with
    | '-' :: r => (true, r)
    | '+' :: r => (false, r)
    | _ => (false, cs)
  match body.map Char.toLower with
  | ['n', 'a', 'n'] => some nan
  | ['i', 'n', 'f'] => some (infinite negative)
  | ['i', 'n', 'f', 'i', 'n', 'i', 't', 'y'] => some (infinite negative)
  | _ => unsigned? negative body

-- Whether the number lies strictly between 0 and 1.
def isProper : Binary64 → Bool
  | finite false m e => 0 < m && e < 0 && m < Nat.pow 2 (-e).toNat
  | _ => false

end Binary64

end SatFrontend.Decimal

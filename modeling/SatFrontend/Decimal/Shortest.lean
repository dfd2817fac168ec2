import SatFrontend.Decimal.Binary64

namespace SatFrontend.Decimal

-- The values that round to a number: from `low` to `high`, each a multiple of
-- `2 ^ exponent`, with the ends if `closed`.
structure Interval where
  low : Nat
  value : Nat
  high : Nat
  exponent : Int
  closed : Bool
deriving DecidableEq, Repr

namespace Interval

-- In quarters of the last place. Below a power of two the next number is half as far away.
def ofFinite (mantissa : Nat) (exponent : Int) : Interval where
  low := if mantissa = Nat.pow 2 52 ∧ Binary64.minExponent < exponent then 4 * mantissa - 1
    else 4 * mantissa - 2
  value := 4 * mantissa
  high := 4 * mantissa + 2
  exponent := exponent - 2
  closed := mantissa % 2 = 0

-- The two sides to compare for `digits * 10 ^ k` and `n * 2 ^ e`.
def sides (digits : Nat) (k : Int) (n : Nat) (e : Int) : Nat × Nat :=
  let (tenUp, tenDown) := ratio 10 k
  let (twoUp, twoDown) := ratio 2 e
  (digits * tenUp * twoDown, n * twoUp * tenDown)

-- Whether `digits * 10 ^ k` lies in the interval.
def contains (i : Interval) (digits : Nat) (k : Int) : Bool :=
  let (dl, l) := sides digits k i.low i.exponent
  let (dh, h) := sides digits k i.high i.exponent
  if i.closed then l ≤ dl && dh ≤ h else l < dl && dh < h

-- The largest multiple of `10 ^ k` that is not above the value.
def floorAt (i : Interval) (k : Int) : Nat :=
  let (tenUp, tenDown) := ratio 10 k
  let (twoUp, twoDown) := ratio 2 i.exponent
  (i.value * twoUp * tenDown) / (tenUp * twoDown)

-- Whether the value is at least as near to the multiple of `10 ^ k` above `digits` as to
-- `digits` itself.
def nearerAbove (i : Interval) (digits : Nat) (k : Int) : Bool :=
  let (d, v) := sides (2 * digits + 1) k (2 * i.value) i.exponent
  d ≤ v

-- A multiple of `10 ^ k` in the interval, the nearer one if both neighbours are.
def pick? (i : Interval) (k : Int) : Option Nat :=
  let d := i.floorAt k
  match i.contains d k, i.contains (d + 1) k with
  | true, true => some (if i.nearerAbove d k then d + 1 else d)
  | true, false => some d
  | false, true => some (d + 1)
  | false, false => none

-- Try finer and finer grids, at most `fuel` of them.
def search (i : Interval) : Nat → Int → Nat × Int
  | 0, k => (i.floorAt k, k)
  | fuel + 1, k =>
    match i.pick? k with
    | some d => (d, k)
    | none => search i fuel (k - 1)

end Interval

-- The fewest digits that are read back as the number, and the power of ten of the last one.
-- No finite number needs a grid coarser than `10 ^ 309` or finer than `10 ^ -342`.
def shortest (mantissa : Nat) (exponent : Int) : Nat × Int :=
  (Interval.ofFinite mantissa exponent).search 652 309

-- Digits with the point where the power of ten puts it, and no exponent.
def positional (digits : Nat) (k : Int) : String :=
  let ds := Nat.toDigits 10 digits
  if 0 ≤ k then String.ofList (ds ++ List.replicate k.toNat '0')
  else
    let places := (-k).toNat
    if places < ds.length then
      String.ofList (ds.take (ds.length - places) ++ '.' :: ds.drop (ds.length - places))
    else
      String.ofList ('0' :: '.' :: List.replicate (places - ds.length) '0' ++ ds)

-- The text of a number: the fewest digits that read back, never with an exponent.
def Binary64.text : Binary64 → String
  | nan => "NaN"
  | infinite negative => if negative then "-inf" else "inf"
  | finite negative m e =>
    (if negative then "-" else "") ++
      (if m = 0 then "0" else let (d, k) := shortest m e; positional d k)

end SatFrontend.Decimal

namespace SatFrontend.Text

-- The number written by a nonempty row of decimal digits.
def digits? (cs : List Char) : Option Nat :=
  if cs.isEmpty || !cs.all Char.isDigit then none
  else some (cs.foldl (fun n c => n * 10 + (c.toNat - '0'.toNat)) 0)

-- A natural number of 64 bits, with an optional plus sign.
def natural? (cs : List Char) : Option Nat :=
  let body := match cs with
    | '+' :: r => r
    | _ => cs
  (digits? body).filter (· ≤ 18446744073709551615)

-- An integer of 64 bits, with an optional sign.
def integer? (cs : List Char) : Option Int :=
  let value := match cs with
    | '+' :: r => (digits? r).map Int.ofNat
    | '-' :: r => (digits? r).map (fun n => -(Int.ofNat n))
    | _ => (digits? cs).map Int.ofNat
  value.filter (fun n => -9223372036854775808 ≤ n && n ≤ 9223372036854775807)

-- A natural number of any size, with an optional plus sign. Underscores may stand anywhere
-- but first.
def count? (cs : List Char) : Option Nat :=
  let body := match cs with
    | '+' :: '+' :: _ => cs
    | '+' :: r => r
    | _ => cs
  if body.head? = some '_' then none else digits? (body.filter (· != '_'))

-- The value of a hexadecimal digit.
def hexDigit? (c : Char) : Option Nat :=
  if c.isDigit then some (c.toNat - '0'.toNat)
  else if 'a' ≤ c && c ≤ 'f' then some (c.toNat - 'a'.toNat + 10)
  else if 'A' ≤ c && c ≤ 'F' then some (c.toNat - 'A'.toNat + 10)
  else none

-- The character of a hexadecimal code point. Surrogates are no characters.
def codePoint? (cs : List Char) : Option Char := do
  let digits ← cs.mapM hexDigit?
  let n := digits.foldl (fun n d => n * 16 + d) 0
  if digits.isEmpty || !(n.isValidChar) then none else some (Char.ofNat n)

end SatFrontend.Text

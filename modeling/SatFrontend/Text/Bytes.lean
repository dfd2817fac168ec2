namespace SatFrontend.Text

-- Bytes as text: each character stands for the byte of its number and is below 256.
abbrev Bytes := List Char

-- Whether one text does not come after another one in a dictionary.
def inOrder : Bytes → Bytes → Bool
  | [], _ => true
  | _ :: _, [] => false
  | a :: r, b :: s => a.toNat < b.toNat || a == b && inOrder r s

-- A byte of the form `10xxxxxx`, which continues a character and never starts one.
def isContinuation (b : UInt8) : Bool := 0x80 ≤ b && b ≤ 0xBF

-- The low bits of a lead byte followed by the six low bits of each continuation byte.
def scalar (lead : Nat) (rest : List UInt8) : Char :=
  Char.ofNat (rest.foldl (fun n b => n * 64 + b.toNat % 64) lead)

-- The second bytes that may follow the lead byte of a longer character. The bounds leave
-- out overlong forms, surrogates and code points past the last one.
def isSecond (lead b : UInt8) : Bool :=
  if lead = 0xE0 then 0xA0 ≤ b && b ≤ 0xBF
  else if lead = 0xED then 0x80 ≤ b && b ≤ 0x9F
  else if lead = 0xF0 then 0x90 ≤ b && b ≤ 0xBF
  else if lead = 0xF4 then 0x80 ≤ b && b ≤ 0x8F
  else isContinuation b

-- Read UTF-8. Where the bytes are not well formed, `none` stands for the longest piece
-- that could have been the beginning of a character, or for a single byte.
def decode : List UInt8 → List (Option Char)
  | [] => []
  | a :: r =>
    if a < 0x80 then
      some (scalar a.toNat []) :: decode r
    else if 0xC2 ≤ a && a ≤ 0xDF then
      match r with
      | b :: r₁ =>
        if isContinuation b then some (scalar (a.toNat % 32) [b]) :: decode r₁
        else none :: decode (b :: r₁)
      | [] => [none]
    else if 0xE0 ≤ a && a ≤ 0xEF then
      match r with
      | b :: c :: r₂ =>
        if !isSecond a b then none :: decode (b :: c :: r₂)
        else if !isContinuation c then none :: decode (c :: r₂)
        else some (scalar (a.toNat % 16) [b, c]) :: decode r₂
      | [b] => if isSecond a b then [none] else none :: decode [b]
      | [] => [none]
    else if 0xF0 ≤ a && a ≤ 0xF4 then
      match r with
      | b :: c :: d :: r₃ =>
        if !isSecond a b then none :: decode (b :: c :: d :: r₃)
        else if !isContinuation c then none :: decode (c :: d :: r₃)
        else if !isContinuation d then none :: decode (d :: r₃)
        else some (scalar (a.toNat % 8) [b, c, d]) :: decode r₃
      | [b, c] =>
        if !isSecond a b then none :: decode [b, c]
        else if isContinuation c then [none]
        else none :: decode [c]
      | [b] => if isSecond a b then [none] else none :: decode [b]
      | [] => [none]
    else
      none :: decode r
termination_by bytes => bytes.length

-- Read UTF-8 and put the replacement character where the bytes are not well formed.
def decodeLossy (bytes : List UInt8) : List Char :=
  (decode bytes).map (·.getD '\uFFFD')

-- Read UTF-8 that is well formed throughout.
def decode? (bytes : List UInt8) : Option (List Char) :=
  (decode bytes).mapM id

-- The UTF-8 bytes of a text.
def encode (s : String) : List UInt8 :=
  s.toUTF8.data.toList

-- Write characters below 256 as single bytes.
def narrow (cs : Bytes) : List UInt8 :=
  cs.map (fun c => UInt8.ofNat c.toNat)

-- Read each byte as the character of that number.
def widen (bytes : List UInt8) : Bytes :=
  bytes.map (fun b => Char.ofNat b.toNat)

theorem encode_append (s t : String) : encode (s ++ t) = encode s ++ encode t := by
  simp [encode, String.toUTF8]

end SatFrontend.Text

import SatFrontend.Text.Blank
import SatFrontend.Text.Numeral

namespace SatFrontend.Unicode

-- A set of code points, as ranges in ascending order with gaps between them.
structure CharSet where
  ranges : List (Nat × Nat)
deriving DecidableEq, Repr, Inhabited

-- The words of a text.
def names (text : String) : List String := (Text.words text.toList).map String.ofList

namespace CharSet

def maxCodePoint : Nat := 0x10FFFF

def empty : CharSet := ⟨[]⟩

-- Ranges that lie above a number need not be looked at.
def inRanges (n : Nat) : List (Nat × Nat) → Bool
  | [] => false
  | (low, high) :: rest => if n < low then false else n ≤ high || inRanges n rest

def memCode (s : CharSet) (n : Nat) : Bool := inRanges n s.ranges

def mem (s : CharSet) (c : Char) : Bool := s.memCode c.toNat

-- Put a range in between, and join it with those that it touches.
def insertRange (low high : Nat) : List (Nat × Nat) → List (Nat × Nat)
  | [] => [(low, high)]
  | (a, b) :: rest =>
    if high + 1 < a then (low, high) :: (a, b) :: rest
    else if b + 1 < low then (a, b) :: insertRange low high rest
    else insertRange (min low a) (max high b) rest

def ofRanges (rs : List (Nat × Nat)) : CharSet :=
  ⟨rs.foldl (fun ranges r => insertRange r.1 r.2 ranges) []⟩

def range (low high : Char) : CharSet := ⟨[(low.toNat, high.toNat)]⟩

def single (c : Char) : CharSet := range c c

def union (s t : CharSet) : CharSet :=
  ⟨t.ranges.foldl (fun ranges r => insertRange r.1 r.2 ranges) s.ranges⟩

def unionAll (ss : List CharSet) : CharSet := ss.foldl union empty

-- What lies between ranges, from a number on.
def gaps (start : Nat) : List (Nat × Nat) → List (Nat × Nat)
  | [] => if start ≤ maxCodePoint then [(start, maxCodePoint)] else []
  | (low, high) :: rest =>
    if start < low then (start, low - 1) :: gaps (high + 1) rest else gaps (high + 1) rest

def complement (s : CharSet) : CharSet := ⟨gaps 0 s.ranges⟩

def intersection (s t : CharSet) : CharSet := (s.complement.union t.complement).complement

def difference (s t : CharSet) : CharSet := s.intersection t.complement

def symmetricDifference (s t : CharSet) : CharSet := (s.difference t).union (t.difference s)

-- The code points that are no characters.
def surrogates : CharSet := ⟨[(0xD800, 0xDFFF)]⟩

-- The only element, if there is only one.
def single? (s : CharSet) : Option Char :=
  match s.ranges with
  | [(low, high)] => if low = high then some (Char.ofNat low) else none
  | _ => none

-- A set that has ASCII characters only.
def isAscii (s : CharSet) : Bool := s.ranges.all (fun r => r.2 < 0x80)

def hexValue (cs : List Char) : Nat :=
  cs.foldl (fun n c => n * 16 + (Text.hexDigit? c).getD 0) 0

-- The ranges that a word of a table writes: a code point, a range, or every second code point
-- of a range.
def rangesOfWord (word : List Char) : List (Nat × Nat) :=
  let low := hexValue (word.takeWhile (· != '-'))
  match word.dropWhile (· != '-') with
  | _ :: rest =>
    let high := hexValue (rest.takeWhile (· != '/'))
    if rest.contains '/' then
      (List.range ((high - low) / 2 + 1)).map (fun i => (low + 2 * i, low + 2 * i))
    else [(low, high)]
  | [] => [(low, low)]

-- The set that a text of a table writes. Such a text is in ascending order.
def ofText (text : String) : CharSet := ⟨(Text.words text.toList).flatMap rangesOfWord⟩

theorem mem_single (c d : Char) : (single c).mem d = (c == d) := by
  rw [Bool.eq_iff_iff, beq_iff_eq]
  simp only [single, range, mem, memCode, inRanges, Bool.or_false, Bool.if_false_left,
    Bool.and_eq_true, Bool.not_eq_true', decide_eq_false_iff_not, decide_eq_true_eq]
  constructor
  · intro h
    have : c.toNat = d.toNat := by omega
    exact Char.ext (UInt32.toNat_inj.mp this)
  · rintro rfl
    omega

end CharSet

end SatFrontend.Unicode

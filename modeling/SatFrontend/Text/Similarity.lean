namespace SatFrontend.Text

-- The characters of one text that were found in another one so far.
structure Matching where
  -- places of the other text that are taken
  taken : List Nat := []
  -- the place of the last character that was found
  last : Nat := 0
  -- how often a character was found before the one found last
  turns : Nat := 0

-- Look for the character at place `i` at most `range` places away in the other text.
def Matching.step (range : Nat) (other : List Char) (m : Matching) (at_ : Char × Nat) : Matching :=
  let (c, i) := at_
  let near (j : Nat) : Bool :=
    i - range ≤ j && j ≤ i + range && other[j]? == some c && !m.taken.contains j
  match (List.range other.length).find? near with
  | none => m
  | some j =>
    { taken := j :: m.taken
      last := j
      turns := if j < m.last then m.turns + 1 else m.turns }

-- The number of characters at the beginning that two texts have in common.
def commonLength : List Char → List Char → Nat
  | a :: as, b :: bs => if a = b then commonLength as bs + 1 else 0
  | _, _ => 0

-- Whether a text is likely to be a misspelling of another one: the mean of three shares is
-- taken, of the characters of either text that are found in the other and of those that
-- are found in order. A tenth of what is missing to 1 is added for each character of a
-- common beginning, and the sum has to be above four fifths.
def resembles (as bs : List Char) : Bool :=
  let a := as.length
  let b := bs.length
  let found := as.zipIdx.foldl (Matching.step (max a b / 2 - 1) bs) {}
  let m := found.taken.length
  let whole := 3 * a * b * m
  let share := m * m * b + m * m * a + (m - found.turns) * a * b
  m ≠ 0 && 8 * whole < 10 * share + commonLength as bs * (whole - share)

end SatFrontend.Text

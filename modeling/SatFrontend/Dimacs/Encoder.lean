import SatFrontend.Dimacs.Header

namespace SatFrontend.Dimacs

-- The lines of a formula that are still to come. They are made one at a time, so a long
-- formula never has to be held as text.
structure Encoder where
  header : Option Header
  clauses : List (List Lit)
  assumptions : List Lit

namespace Encoder

def ofFormula (f : Formula) (assumptions : List Lit) : Encoder where
  header := some (Header.ofFormula f assumptions)
  clauses := f.clauses
  assumptions := assumptions

-- The line of a clause: its literals and a 0, with blanks between them.
def clauseLine (c : List Lit) : String :=
  " ".intercalate (c.map Lit.text ++ ["0"])

-- The number of lines still to come.
def length (e : Encoder) : Nat :=
  (if e.header.isSome then 1 else 0) + e.clauses.length + e.assumptions.length

-- The next line, and what is left after it: first the problem line, then the committed
-- clauses, then the assumptions as unit clauses.
def next? (e : Encoder) : Option (String × Encoder) :=
  match e.header, e.clauses, e.assumptions with
  | some h, _, _ => some (h.line, { e with header := none })
  | none, c :: cs, _ => some (clauseLine c, { e with clauses := cs })
  | none, [], l :: ls => some (clauseLine [l], { e with assumptions := ls })
  | none, [], [] => none

-- Each line that is taken shortens what is left by one.
theorem length_of_next? {e e' : Encoder} {line : String} (h : e.next? = some (line, e')) :
    e.length = e'.length + 1 := by
  unfold next? at h
  split at h
  · rename_i hh
    obtain ⟨rfl, rfl⟩ := Prod.mk.inj (Option.some.inj h)
    simp [length, hh]
    omega
  · rename_i hh hc
    obtain ⟨rfl, rfl⟩ := Prod.mk.inj (Option.some.inj h)
    simp [length, hh, hc]
    omega
  · rename_i hh hc ha
    obtain ⟨rfl, rfl⟩ := Prod.mk.inj (Option.some.inj h)
    simp [length, hh, hc, ha]
  · simp at h

-- All lines still to come.
def lines (e : Encoder) : List String :=
  match _h : e.next? with
  | none => []
  | some (line, e') => line :: e'.lines
termination_by e.length
decreasing_by
  have := length_of_next? _h
  omega

-- The first lines still to come with the number of lines left after each of them.
def take (e : Encoder) : Nat → List (String × Nat)
  | 0 => []
  | n + 1 =>
    match e.next? with
    | none => []
    | some (line, e') => (line, e'.length) :: e'.take n

end Encoder

-- Lines as they are sent, each ended by a line feed.
def sendLines (lines : List String) : String :=
  lines.foldr (fun line rest => line ++ "\n" ++ rest) ""

end SatFrontend.Dimacs

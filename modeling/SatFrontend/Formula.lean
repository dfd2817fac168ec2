import SatFrontend.Receiver

namespace SatFrontend

-- The place of a clause in a row of literals.
structure Span where
  start : Nat
  stop : Nat
deriving DecidableEq, Repr

-- A formula in conjunctive normal form. All literals stand in one row. The spans cut it
-- into the committed clauses, and what comes after the last of them is the open clause.
-- Assumptions hold for the next invocation only.
structure Formula where
  varCount : Nat := 0
  literals : Array Lit := #[]
  spans : Array Span := #[]
  assumptions : List Lit := []

namespace Formula

def empty : Formula := {}

-- Where the open clause begins.
def openStart (f : Formula) : Nat :=
  match f.spans.back? with
  | some span => span.stop
  | none => 0

-- The literals pushed since the last commit.
def openClause (f : Formula) : List Lit :=
  (f.literals.extract f.openStart f.literals.size).toList

-- The literals of a span.
def clauseAt (f : Formula) (span : Span) : List Lit :=
  (f.literals.extract span.start span.stop).toList

-- The committed clauses in the order they were committed.
def clauses (f : Formula) : List (List Lit) :=
  f.spans.toList.map f.clauseAt

-- The number of committed clauses.
def size (f : Formula) : Nat := f.spans.size

def isEmpty (f : Formula) : Bool := f.spans.isEmpty

def push (f : Formula) (l : Lit) : Formula :=
  { f with literals := f.literals.push l }

-- Commit the open clause. An empty one is dropped.
def close (f : Formula) : Formula :=
  if f.openStart = f.literals.size then f
  else
    { f with
      varCount := varCountWith f.varCount f.openClause
      spans := f.spans.push ⟨f.openStart, f.literals.size⟩ }

def assume (f : Formula) (l : Lit) : Formula :=
  { f with assumptions := f.assumptions ++ [l] }

-- The formula without its assumptions.
def forget (f : Formula) : Formula := { f with assumptions := [] }

-- The pending assumptions, and the formula without them.
def takeAssumptions (f : Formula) : List Lit × Formula := (f.assumptions, f.forget)

instance : Receiver Formula where
  limit _ := Var.maxCount
  push := push
  endClause := close
  assume := assume

-- The formula of some clauses, without the empty ones.
def ofClauses (cs : List (List Lit)) : Formula :=
  cs.foldl (fun f c => (Receiver.pushAll f c).close) empty

-- Formulas are equal when they have the same clauses, open clause and assumptions,
-- however they came about. The clauses are compared in pairs, which leaves none of them out
-- if there are equally many on both sides.
instance : BEq Formula where
  beq f g :=
    f.varCount == g.varCount && f.size == g.size &&
      (f.clauses.zip g.clauses).all (fun pair => pair.1 == pair.2) &&
      f.openClause == g.openClause && f.assumptions == g.assumptions

-- A clause as a list of numbers in brackets.
def clauseText (c : List Lit) : String :=
  "[" ++ ", ".intercalate (c.map Lit.text) ++ "]"

-- A short description: the number of variables and the clauses, then the open clause and
-- the assumptions if there are any.
def describe (f : Formula) : String :=
  toString f.varCount ++ "[" ++ ", ".intercalate (f.clauses.map clauseText) ++ "]" ++
    (if f.openClause.isEmpty then "" else " open " ++ clauseText f.openClause) ++
    (if f.assumptions.isEmpty then "" else " assuming " ++ clauseText f.assumptions)

end Formula

-- A formula that accepts no variable above a limit of its own.
structure LimitedFormula where
  formula : Formula := .empty
  limit : Nat := Var.maxCount

instance : Receiver LimitedFormula where
  limit f := f.limit
  push f l := { f with formula := f.formula.push l }
  endClause f := { f with formula := f.formula.close }
  assume f l := { f with formula := f.formula.assume l }

end SatFrontend

import SatFrontend.Literal

namespace SatFrontend

-- What clauses and assumptions can be given to. A clause is received literal by literal
-- and stays open until it is ended. Every other way of adding is built from these four.
class Receiver (σ : Type) where
  -- the largest variable number that is accepted
  limit : σ → Nat
  -- put a literal at the end of the open clause
  push : σ → Lit → σ
  -- commit the open clause
  endClause : σ → σ
  -- assume a literal for the next invocation
  assume : σ → Lit → σ

namespace Receiver

-- One thing that can be added: a number of a running clause, 0 to end it, or a clause of
-- its own.
inductive Item where
  | number (n : Int)
  | clause (ns : List Int)
deriving DecidableEq, Repr

variable {σ : Type} [Receiver σ]

-- A literal within the limit of the receiver.
def accept (s : σ) (l : Lit) : Except EntryError Lit :=
  if l.var.number ≤ limit s then .ok l
  else .error (.literalTooLarge l.toInt (limit s))

-- The literal of a number, if the receiver accepts it.
def acceptNumber (s : σ) (n : Int) : Except EntryError Lit := do
  accept s (← Lit.ofInt n)

-- Refuse the first literal that is out of range.
def acceptAll (s : σ) : List Lit → Except EntryError Unit
  | [] => .ok ()
  | l :: ls => do
    let _ ← accept s l
    acceptAll s ls

-- Put literals at the end of the open clause.
def pushAll (s : σ) (ls : List Lit) : σ := ls.foldl push s

-- Commit a whole clause, after the clause that is open.
def commit (s : σ) (ls : List Lit) : σ :=
  endClause (pushAll (endClause s) ls)

-- A whole clause is added only if every literal of it is accepted.
def addClause (s : σ) (ls : List Lit) : Except EntryError σ := do
  acceptAll s ls
  .ok (commit s ls)

-- A number continues the open clause and 0 ends it.
def addNumber (s : σ) (n : Int) : Except EntryError σ :=
  if n = 0 then .ok (endClause s)
  else do
    let l ← acceptNumber s n
    .ok (push s l)

-- The numbers of a clause without the one 0 that may end it.
def body (ns : List Int) : List Int :=
  if ns.getLast? = some 0 then ns.dropLast else ns

-- The literals of a clause of `length` numbers, the first of which stands at `position`.
def acceptBody (s : σ) (length : Nat) (position : Nat) : List Int → Except EntryError (List Lit)
  | [] => .ok []
  | n :: ns =>
    if n = 0 then .error (.misplacedTerminator position length)
    else do
      let l ← acceptNumber s n
      let ls ← acceptBody s length (position + 1) ns
      .ok (l :: ls)

-- A clause of numbers is added whole or not at all.
def addNumbers (s : σ) (ns : List Int) : Except EntryError σ := do
  let ls ← acceptBody s ns.length 0 (body ns)
  addClause s ls

def addItem (s : σ) : Item → Except EntryError σ
  | .number n => addNumber s n
  | .clause ns => addNumbers s ns

-- Do one thing after the other until one is refused. What was done before stays done.
def runAll {α : Type} {ε : Type} (step : σ → α → Except ε σ) (s : σ) :
    List α → σ × Option ε
  | [] => (s, none)
  | a :: as =>
    match step s a with
    | .ok s' => runAll step s' as
    | .error e => (s, some e)

def addAll (s : σ) (items : List Item) : σ × Option EntryError :=
  runAll addItem s items

-- A number is assumed for the next invocation.
def assumeNumber (s : σ) (n : Int) : Except EntryError σ :=
  if n = 0 then .error .zeroAssumption
  else do
    let l ← acceptNumber s n
    .ok (assume s l)

def assumeAll (s : σ) (ns : List Int) : σ × Option EntryError :=
  runAll assumeNumber s ns

omit [Receiver σ] in
-- Stopping at the first refusal, a longer run is the shorter one and then the rest.
theorem runAll_append {α ε : Type} (step : σ → α → Except ε σ) (s : σ) (as bs : List α) :
    runAll step s (as ++ bs) =
      match runAll step s as with
      | (s', none) => runAll step s' bs
      | (s', some e) => (s', some e) := by
  induction as generalizing s with
  | nil => rfl
  | cons a as ih =>
    simp only [List.cons_append, runAll]
    cases step s a with
    | ok s' => exact ih s'
    | error e => rfl

end Receiver

end SatFrontend

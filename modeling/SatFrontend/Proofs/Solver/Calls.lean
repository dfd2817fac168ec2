import SatFrontend.Solver.Recorder

namespace SatFrontend

namespace Call

variable {η : Type} [Engine η]

-- What a call makes of an engine.
def apply (e : η) : Call → η
  | push l => Engine.push e l
  | endClause => Engine.endClause e
  | assume l => Engine.assume e l
  | solve => (Engine.solve e).2
  | value _ => e

-- The engine after some calls.
def replay (e : η) (calls : List Call) : η := calls.foldl apply e

theorem replay_append (e : η) (xs ys : List Call) :
    replay e (xs ++ ys) = replay (replay e xs) ys := by
  simp [replay, List.foldl_append]

end Call

-- An engine with a record of what it was asked to do.
structure Watched (η : Type) where
  engine : η
  calls : List Call := []

namespace Watched

variable {η : Type} [Engine η]

def call (w : Watched η) (c : Call) : Watched η := ⟨c.apply w.engine, w.calls ++ [c]⟩

instance : Engine (Watched η) where
  limit w := Engine.limit w.engine
  push w l := w.call (.push l)
  endClause w := w.call .endClause
  assume w l := w.call (.assume l)
  solve w := ((Engine.solve w.engine).1, w.call .solve)
  value w v := Engine.value w.engine v

theorem foldl_assume (w : Watched η) (ls : List Lit) :
    ls.foldl Engine.assume w =
      ⟨ls.foldl Engine.assume w.engine, w.calls ++ ls.map Call.assume⟩ := by
  induction ls generalizing w with
  | nil => simp
  | cons l ls ih =>
    rw [List.foldl_cons, ih]
    simp [Engine.assume, call, Call.apply]

end Watched

-- Literals in parts, the last of which is not ended yet.
structure Parts where
  done : List (List Lit) := []
  current : List Lit := []
deriving DecidableEq

-- What a call is to a row of literals that it is cut into parts.
inductive Mark where
  | item (l : Lit)
  | cut
  | skip

namespace Parts

@[simp] def add (p : Parts) : Mark → Parts
  | .item l => { p with current := p.current ++ [l] }
  | .cut => ⟨p.done ++ [p.current], []⟩
  | .skip => p

def of (mark : Call → Mark) (calls : List Call) : Parts :=
  calls.foldl (fun p c => p.add (mark c)) {}

theorem of_append (mark : Call → Mark) (calls : List Call) (c : Call) :
    of mark (calls ++ [c]) = (of mark calls).add (mark c) := by
  simp [of, List.foldl_append]

end Parts

namespace Call

-- Literals are pushed, and clauses are ended.
@[simp] def clauseMark : Call → Mark
  | push l => .item l
  | endClause => .cut
  | _ => .skip

-- Literals are assumed, and questions end with the answer.
@[simp] def questionMark : Call → Mark
  | assume l => .item l
  | solve => .cut
  | _ => .skip

-- The clauses that were given to an engine, cut at each clause end, and the open one.
def loaded (calls : List Call) : Parts := .of clauseMark calls

-- The assumptions of each question, and those that were made since the last one.
def asked (calls : List Call) : Parts := .of questionMark calls

@[simp] theorem loaded_append (calls : List Call) (c : Call) :
    loaded (calls ++ [c]) = (loaded calls).add c.clauseMark := Parts.of_append ..

@[simp] theorem asked_append (calls : List Call) (c : Call) :
    asked (calls ++ [c]) = (asked calls).add c.questionMark := Parts.of_append ..

theorem loaded_append_assume (calls : List Call) (ls : List Lit) :
    loaded (calls ++ ls.map Call.assume) = loaded calls := by
  induction ls generalizing calls with
  | nil => simp
  | cons l ls ih =>
    rw [List.map_cons, List.append_cons, ih, loaded_append]
    rfl

theorem asked_append_assume (calls : List Call) (ls : List Lit) :
    asked (calls ++ ls.map Call.assume) =
      { asked calls with current := (asked calls).current ++ ls } := by
  induction ls generalizing calls with
  | nil => simp
  | cons l ls ih =>
    rw [List.map_cons, List.append_cons, ih, asked_append]
    simp

theorem replay_append_assume {η : Type} [Engine η] (e : η) (calls : List Call) (ls : List Lit) :
    replay e (calls ++ ls.map Call.assume) = ls.foldl Engine.assume (replay e calls) := by
  rw [replay_append, replay, List.foldl_map]
  rfl

end Call

end SatFrontend

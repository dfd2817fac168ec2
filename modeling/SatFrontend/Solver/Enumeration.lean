import SatFrontend.Solver.Incremental

namespace SatFrontend.Solver

-- How the search for all models ended.
inductive Ending where
  -- there are no other models
  | complete
  | stopped
  | refused (e : EntryError)
deriving DecidableEq, Repr

-- The models that were found, in order.
structure Enumeration (η : Type) where
  models : List (List Lit) := []
  ending : Ending
  solver : Solver η

variable {η : Type} [Engine η]

-- Ask for a model and exclude it by a clause, again and again. After a model without
-- literals there cannot be another one.
def rounds (assumptions : List Int) : Nat → Solver η → Enumeration η
  | 0, s => { ending := .stopped, solver := s }
  | n + 1, s =>
    match Receiver.assumeAll s assumptions with
    | (s, some e) => { ending := .refused e, solver := s }
    | (s, none) =>
      match s.solve with
      | (.unsat, s) => { ending := .complete, solver := s }
      | (.unknown, s) => { ending := .stopped, solver := s }
      | (.sat, s) =>
        let m := s.modelLiterals
        if m.isEmpty then { models := [m], ending := .complete, solver := s }
        else
          match Receiver.addClause s (m.map Lit.not) with
          | .error e => { models := [m], ending := .refused e, solver := s }
          | .ok s =>
            let rest := rounds assumptions n s
            { rest with models := m :: rest.models }

-- The models under the assumptions. Each round excludes one of the assignments of the
-- variables, so there is one round more than there are assignments.
def enumerate (s : Solver η) (assumptions : List Int) : Enumeration η :=
  let assumed := (Receiver.assumeAll s assumptions).1
  rounds assumptions (Nat.pow 2 assumed.nextVarCount + 1) s

end SatFrontend.Solver

import SatFrontend.Proofs.Formula.Layout
import SatFrontend.Proofs.Operation.Simulation
import SatFrontend.Proofs.Solver.Calls

namespace SatFrontend

theorem varCountWith_append (n : Nat) (ls ms : List Lit) :
    varCountWith n (ls ++ ms) = varCountWith (varCountWith n ls) ms := by
  simp [varCountWith, List.foldl_append]

theorem varCountWith_eq_max (n : Nat) (ls : List Lit) :
    varCountWith n ls = max n (varCountWith 0 ls) := by
  induction ls generalizing n with
  | nil => simp [varCountWith]
  | cons l ls ih =>
    have hstep : ∀ m, varCountWith m (l :: ls) = varCountWith (max m l.var.number) ls := fun _ => rfl
    rw [hstep, hstep, ih, ih (max 0 l.var.number)]
    omega

-- A receiver, and what came of everything that was done to it.
structure Track (σ : Type) where
  receiver : σ
  results : List (List Notice × Option Dimacs.ReadError) := []

def Track.operate {σ : Type} [Receiver σ] (files : Files) (x : Track σ) (op : Operation) :
    Track σ :=
  let reading := op.perform files x.receiver
  { receiver := reading.receiver, results := x.results ++ [(reading.notices, reading.error)] }

-- A formula takes the place of a solver. In place of each question it is closed and gives away
-- its assumptions.
structure StoreTrack extends Track Formula where
  taken : List (List Lit) := []

-- One thing after the other that is done to a solver.
inductive Move where
  | operate (op : Operation)
  | solve

namespace Move

-- The variables of a move that are held against a limit.
def numbers (files : Files) : Move → List Nat
  | operate op => op.numbers files
  | solve => []

def onSolver {η : Type} [Engine η] (files : Files) (x : Track (Solver η)) :
    Move → Track (Solver η)
  | operate op => x.operate files op
  | solve => { x with receiver := x.receiver.solve.2 }

def onStore (files : Files) (x : StoreTrack) : Move → StoreTrack
  | operate op => { x with toTrack := x.toTrack.operate files op }
  | solve =>
    let (taken, formula) := x.receiver.close.takeAssumptions
    { x with receiver := formula, taken := x.taken ++ [taken] }

end Move

namespace Solver

variable {η : Type} [Engine η]

-- What a solver counts and what reached its engine, against plain lists.
structure Mirrors (e : η) (taken : List (List Lit)) (s : Solver (Watched η)) (p : Formula.Plain) :
    Prop where
  proper : p.Proper
  replay : s.engine.engine = Call.replay e s.engine.calls
  loaded : Call.loaded s.engine.calls = ⟨p.clauses, p.openClause⟩
  asked : Call.asked s.engine.calls = ⟨taken, []⟩
  varCount : s.varCount = varCountWith 0 p.clauses.flatten
  openCount : s.openCount = p.openClause.length
  openVarCount : s.openVarCount = varCountWith 0 p.openClause
  assumptions : s.assumptions = p.assumptions

theorem mirrors_ofEngine (e : η) : Mirrors e [] (ofEngine ⟨e, []⟩) {} where
  proper := by simp [Formula.Plain.Proper]
  replay := rfl
  loaded := rfl
  asked := rfl
  varCount := rfl
  openCount := rfl
  openVarCount := rfl
  assumptions := rfl

namespace Mirrors

variable {e : η} {taken : List (List Lit)} {s : Solver (Watched η)} {p : Formula.Plain}

theorem push (h : Mirrors e taken s p) (l : Lit) : Mirrors e taken (s.push l) (p.push l) where
  proper := h.proper
  replay := by
    have : (s.push l).engine = s.engine.call (.push l) := rfl
    rw [this, Watched.call, Call.replay_append, ← h.replay]
    rfl
  loaded := by
    have : (s.push l).engine.calls = s.engine.calls ++ [.push l] := rfl
    rw [this, Call.loaded_append, h.loaded]
    rfl
  asked := by
    have : (s.push l).engine.calls = s.engine.calls ++ [.push l] := rfl
    rw [this, Call.asked_append, h.asked]
    rfl
  varCount := h.varCount
  openCount := by simp [Solver.push, Formula.Plain.push, h.openCount]
  openVarCount := by
    simp only [Solver.push, Formula.Plain.push, varCountWith_append, ← h.openVarCount]
    rfl
  assumptions := h.assumptions

theorem endClause (h : Mirrors e taken s p) : Mirrors e taken s.endClause p.endClause := by
  by_cases hopen : p.openClause = []
  · have hzero : s.openCount = 0 := by simp [h.openCount, hopen]
    have hsame : p.endClause = p := by simp [Formula.Plain.endClause, hopen]
    rw [hsame, Solver.endClause, if_pos hzero]
    refine { h with openVarCount := ?_ }
    simp [hopen, varCountWith]
  · have hcount : s.openCount ≠ 0 := by simpa [h.openCount] using hopen
    have hcalls : s.endClause.engine = s.engine.call .endClause := by
      simp [Solver.endClause, hcount, Engine.endClause]
    have hplain : p.endClause = { p with clauses := p.clauses ++ [p.openClause], openClause := [] } := by
      simp [Formula.Plain.endClause, hopen]
    constructor
    · exact h.proper.endClause
    · rw [hcalls, Watched.call, Call.replay_append, ← h.replay]
      rfl
    · rw [hcalls, Watched.call, Call.loaded_append, h.loaded, hplain]
      rfl
    · rw [hcalls, Watched.call, Call.asked_append, h.asked]
      rfl
    · simp only [Solver.endClause, hcount, if_false, hplain, h.varCount, h.openVarCount,
        List.flatten_append, List.flatten_cons, List.flatten_nil, List.append_nil]
      rw [varCountWith_append, varCountWith_eq_max (varCountWith 0 p.clauses.flatten)]
    · simp [Solver.endClause, hcount]
    · simp [Solver.endClause, hcount, varCountWith]
    · simp [Solver.endClause, hcount, h.assumptions]

theorem assume (h : Mirrors e taken s p) (l : Lit) : Mirrors e taken (s.assume l) (p.assume l) :=
  { h with assumptions := by simp [Solver.assume, Formula.Plain.assume, h.assumptions] }

-- A question commits the open clause and hands over exactly the pending assumptions.
theorem solve (h : Mirrors e taken s p) :
    Mirrors e (taken ++ [p.assumptions]) s.solve.2 p.endClause.forget := by
  have hend := h.endClause
  have hcalls : s.solve.2.engine =
      (s.endClause.assumptions.foldl Engine.assume s.endClause.engine).call .solve := rfl
  rw [Watched.foldl_assume, hend.assumptions, Formula.Plain.assumptions_endClause] at hcalls
  constructor
  · exact hend.proper
  · rw [hcalls, Watched.call, Call.replay_append, Call.replay_append_assume, ← hend.replay]
    rfl
  · rw [hcalls, Watched.call, Call.loaded_append, Call.loaded_append_assume, hend.loaded]
    rfl
  · rw [hcalls, Watched.call, Call.asked_append, Call.asked_append_assume, hend.asked]
    rfl
  · exact hend.varCount
  · exact hend.openCount
  · exact hend.openVarCount
  · rfl

end Mirrors

theorem simulation_store (e : η) (taken : List (List Lit)) :
    Receiver.Simulation
      (fun (s : Solver (Watched η)) (f : Formula) => ∃ p, f = p.layout ∧ Mirrors e taken s p)
      (fun _ => True) where
  allowed _ _ := trivial
  push := by
    rintro s f l ⟨p, rfl, h⟩ -
    exact ⟨p.push l, p.push_layout l, h.push l⟩
  endClause := by
    rintro s f ⟨p, rfl, h⟩
    exact ⟨p.endClause, p.close_layout, h.endClause⟩
  assume := by
    rintro s f l ⟨p, rfl, h⟩ -
    exact ⟨p.assume l, p.assume_layout l, h.assume l⟩

-- The solver without the record of its engine.
def unwatch (s : Solver (Watched η)) : Solver η where
  engine := s.engine.engine
  varCount := s.varCount
  openCount := s.openCount
  openVarCount := s.openVarCount
  assumptions := s.assumptions
  answer := s.answer
  modelVarCount := s.modelVarCount

theorem endClause_unwatch (s : Solver (Watched η)) : s.unwatch.endClause = s.endClause.unwatch := by
  have hcount : s.unwatch.openCount = s.openCount := rfl
  unfold endClause
  rw [hcount]
  split <;> rfl

-- A question gets the same answer, with or without a record.
theorem solve_unwatch (s : Solver (Watched η)) :
    s.unwatch.solve = (s.solve.1, s.solve.2.unwatch) := by
  unfold solve nextVarCount
  simp only [endClause_unwatch]
  rw [Watched.foldl_assume]
  rfl

-- Keeping a record changes nothing.
theorem simulation_unwatch :
    Receiver.Simulation (fun (s : Solver (Watched η)) (t : Solver η) => t = s.unwatch)
      (fun _ => True) where
  allowed _ _ := trivial
  push := by
    rintro s t l rfl -
    rfl
  endClause := by
    rintro s t rfl
    exact s.endClause_unwatch
  assume := by
    rintro s t l rfl -
    rfl

end Solver

section Run

variable {η : Type} [Engine η]

-- In every state of an engine, its limit is the one of a formula, or no variable that is held
-- against a limit lies above either of them.
def Move.Unlimited (files : Files) (e : η) (moves : List Move) : Prop :=
  ∀ calls, Engine.limit (Call.replay e calls) = Var.maxCount ∨
    ∀ move ∈ moves, ∀ n ∈ move.numbers files,
      n ≤ Engine.limit (Call.replay e calls) ∧ n ≤ Var.maxCount

structure Agrees (e : η) (x : Track (Solver (Watched η))) (y : StoreTrack) : Prop where
  results : x.results = y.results
  mirrors : ∃ p, y.receiver = p.layout ∧ Solver.Mirrors e y.taken x.receiver p

theorem Track.operate_alike {σ τ : Type} [Receiver σ] [Receiver τ] {Related : σ → τ → Prop}
    (files : Files) {x : Track σ} {y : Track τ} {op : Operation}
    (h : Dimacs.Reading.Alike Related (op.perform files x.receiver) (op.perform files y.receiver))
    (hresults : x.results = y.results) :
    Related (x.operate files op).receiver (y.operate files op).receiver ∧
      (x.operate files op).results = (y.operate files op).results := by
  refine ⟨h.receiver, ?_⟩
  simp only [operate, hresults, h.notices, h.error]

theorem Agrees.move {e : η} {x : Track (Solver (Watched η))} {y : StoreTrack} (files : Files)
    {move : Move} (hlimit : Move.Unlimited files e [move]) (h : Agrees e x y) :
    Agrees e (move.onSolver files x) (move.onStore files y) := by
  cases move with
  | operate op =>
    have halike := op.perform_alike files (Solver.simulation_store e y.taken)
      (by
        rintro s f ⟨p, rfl, hmirrors⟩
        have hengine : Receiver.limit s = Engine.limit (Call.replay e s.engine.calls) :=
          congrArg Engine.limit hmirrors.replay
        rcases hlimit s.engine.calls with heq | hall
        · exact Or.inl (hengine.trans heq)
        · refine Or.inr fun n hn => ?_
          rw [hengine]
          exact hall _ List.mem_cons_self n hn)
      (fun _ _ => trivial) h.mirrors
    obtain ⟨hmirrors, hresults⟩ := Track.operate_alike files halike h.results
    exact ⟨hresults, hmirrors⟩
  | solve =>
    obtain ⟨p, hp, hmirrors⟩ := h.mirrors
    have hclose : y.receiver.close = p.endClause.layout := by rw [hp, p.close_layout]
    refine ⟨h.results, p.endClause.forget, ?_, ?_⟩
    · simp only [Move.onStore, Formula.takeAssumptions, hclose, Formula.Plain.forget_layout]
    · have htaken : (Move.solve.onStore files y).taken = y.taken ++ [p.assumptions] := by
        simp [Move.onStore, Formula.takeAssumptions, hclose]
      rw [htaken]
      exact hmirrors.solve

theorem unwatch_move (files : Files) {x : Track (Solver (Watched η))} {y : Track (Solver η)}
    (hreceiver : y.receiver = x.receiver.unwatch) (hresults : x.results = y.results)
    (move : Move) :
    (move.onSolver files y).receiver = (move.onSolver files x).receiver.unwatch ∧
      (move.onSolver files x).results = (move.onSolver files y).results := by
  cases move with
  | operate op =>
    have halike := op.perform_alike files Solver.simulation_unwatch
      (fun s t h => Or.inl (congrArg Receiver.limit h).symm) (fun _ _ => trivial) hreceiver
    exact Track.operate_alike files halike hresults
  | solve =>
    refine ⟨?_, hresults⟩
    simp only [Move.onSolver]
    rw [hreceiver, Solver.solve_unwatch]

-- A solver on an engine without clauses, and an empty formula in its place.
def startSolver (e : η) : Track (Solver η) := { receiver := Solver.ofEngine e }

def startStore : StoreTrack := { receiver := Formula.empty }

theorem agrees_start (e : η) : Agrees e (startSolver ⟨e, []⟩) startStore where
  results := rfl
  mirrors := ⟨{}, Formula.Plain.empty_layout, Solver.mirrors_ofEngine e⟩

theorem agrees_run (files : Files) {e : η} {x : Track (Solver (Watched η))} {y : StoreTrack}
    (h : Agrees e x y) {moves : List Move} (hlimit : Move.Unlimited files e moves) :
    Agrees e (moves.foldl (Move.onSolver files) x) (moves.foldl (Move.onStore files) y) := by
  induction moves generalizing x y with
  | nil => exact h
  | cons move moves ih =>
    have hfirst : Move.Unlimited files e [move] := fun calls => (hlimit calls).imp id
      fun hall m hm => hall m (by rw [List.mem_singleton.mp hm]; exact List.mem_cons_self)
    have hrest : Move.Unlimited files e moves := fun calls => (hlimit calls).imp id
      fun hall m hm => hall m (List.mem_cons_of_mem _ hm)
    exact ih (h.move files hfirst) hrest

theorem unwatch_run (files : Files) {x : Track (Solver (Watched η))} {y : Track (Solver η)}
    (hreceiver : y.receiver = x.receiver.unwatch) (hresults : x.results = y.results)
    (moves : List Move) :
    (moves.foldl (Move.onSolver files) y).receiver =
        (moves.foldl (Move.onSolver files) x).receiver.unwatch ∧
      (moves.foldl (Move.onSolver files) x).results =
        (moves.foldl (Move.onSolver files) y).results := by
  induction moves generalizing x y with
  | nil => exact ⟨hreceiver, hresults⟩
  | cons move moves ih =>
    obtain ⟨hreceiver', hresults'⟩ := unwatch_move files hreceiver hresults move
    exact ih hreceiver' hresults'

-- After every run, a solver and the formula in its place have refused the same and noticed the
-- same. What reached the engine are the clauses of the formula, none of them empty, and its open
-- clause. Each question came after exactly the assumptions that the formula gave away. All this
-- is read off a record of the calls, and keeping the record changes nothing.
theorem run_agrees (files : Files) (e : η) (moves : List Move)
    (hlimit : Move.Unlimited files e moves) :
    let solver := moves.foldl (Move.onSolver files) (startSolver (⟨e, []⟩ : Watched η))
    let store := moves.foldl (Move.onStore files) startStore
    let calls := solver.receiver.engine.calls
    solver.results = store.results ∧
    Call.loaded calls = ⟨store.receiver.clauses, store.receiver.openClause⟩ ∧
    [] ∉ (Call.loaded calls).done ∧
    solver.receiver.varCount = store.receiver.varCount ∧
    Call.asked calls = ⟨store.taken, []⟩ ∧
    solver.receiver.assumptions = store.receiver.assumptions ∧
    moves.foldl (Move.onSolver files) (startSolver e) =
      { receiver := solver.receiver.unwatch, results := store.results } ∧
    solver.receiver.unwatch.engine = Call.replay e calls := by
  intro solver store calls
  obtain ⟨hresults, p, hp, hmirrors⟩ := agrees_run files (agrees_start e) hlimit
  obtain ⟨hreceiver, hsame⟩ := unwatch_run files (x := startSolver ⟨e, []⟩) (y := startSolver e)
    rfl rfl moves
  have hclauses : store.receiver.clauses = p.clauses := by rw [hp, p.clauses_layout]
  have hopen : store.receiver.openClause = p.openClause := by rw [hp, p.openClause_layout]
  refine ⟨hresults, ?_, ?_, ?_, hmirrors.asked, ?_, ?_, hmirrors.replay⟩
  · rw [hclauses, hopen]
    exact hmirrors.loaded
  · rw [hmirrors.loaded]
    exact fun hempty => hmirrors.proper [] hempty rfl
  · rw [hp, p.varCount_layout]
    exact hmirrors.varCount
  · rw [hp, p.assumptions_layout]
    exact hmirrors.assumptions
  · rw [← hreceiver, ← hresults, hsame]

-- A clause that the first question commits, numbers that are refused, and a text that breaks off
-- at a lone minus sign.
def sampleMoves : List Move :=
  [.operate (.add [.number 1, .number (-2)]), .operate (.assume [3]), .solve,
    .operate (.addNumbers [5, 0, 6]), .operate (.read (.text [52, 32, 48, 10, 45])), .solve]

theorem Recorder.limit_replay (r : Recorder) (calls : List Call) :
    Engine.limit (Call.replay r calls) = r.limit := by
  induction calls generalizing r with
  | nil => rfl
  | cons c calls ih =>
    have hstep : (c.apply r).limit = r.limit := by
      cases c with
      | solve =>
        simp only [Call.apply, Engine.solve, Recorder.solve]
        split <;> rfl
      | _ => rfl
    exact (ih (c.apply r)).trans hstep

theorem run_agrees_sampleMoves :
    Move.Unlimited ⟨[], [], []⟩ ({ limit := 9 } : Recorder) sampleMoves ∧
    (let solver := sampleMoves.foldl (Move.onSolver ⟨[], [], []⟩)
      (startSolver (⟨{ limit := 9 }, []⟩ : Watched Recorder))
    let calls := solver.receiver.engine.calls
    (Call.loaded calls).done.map (·.map Lit.toInt) = [[1, -2], [4]] ∧
      (Call.asked calls).done.map (·.map Lit.toInt) = [[3], []] ∧
      solver.receiver.varCount = 4 ∧ solver.results.map (·.2.isSome) = [false, false, true, true]) := by
  have hunlimited : Move.Unlimited ⟨[], [], []⟩ ({ limit := 9 } : Recorder) sampleMoves := by
    intro calls
    rw [Recorder.limit_replay]
    exact Or.inr (by decide)
  obtain ⟨hresults, hloaded, -, hcount, hasked, -⟩ := run_agrees _ _ _ hunlimited
  refine ⟨hunlimited, ?_, ?_, hcount.trans (by decide), ?_⟩
  · rw [hloaded]
    decide
  · rw [hasked]
    decide
  · rw [hresults]
    decide

end Run

end SatFrontend

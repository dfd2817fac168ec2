import SatFrontend.Proofs.Formula.Refinement
import SatFrontend.Proofs.Solver.SearchEngine

namespace SatFrontend

-- An engine that says yes only with values that make the clauses it was given and the assumptions
-- of the question true, as long as no literal lies above a bound. It takes no larger ones in.
-- Nothing is asked about the answers no and unknown.
structure Engine.Truthful {η : Type} [Engine η] (bound : Nat) (e : η) : Prop where
  limit (calls : List Call) (v : Var) (hv : v.number ≤ Engine.limit (Call.replay e calls)) :
    v.number ≤ bound
  sat (calls : List Call) (hasks : Call.Asks bound calls)
    (hsat : (Engine.solve (Call.replay e calls)).1 = .sat) :
    let found := (Engine.solve (Call.replay e calls)).2
    (∀ v l, Engine.value found v = some l → l.var = v) ∧
      (∀ c ∈ (Call.loaded calls).done, ∃ l ∈ c, Engine.value found l.var = some l) ∧
      ∀ l ∈ (Call.asked calls).current, Engine.value found l.var = some l

theorem Engine.Sound.truthful {η : Type} [Engine η] {e : η} (h : Engine.Sound e) :
    Engine.Truthful (Engine.limit e) e where
  limit calls v hv := by rwa [← h.limit calls]
  sat := h.sat

namespace Solver

variable {η : Type} [Engine η] {e : η} {bound : Nat} {w : Solver (Watched η)} {s : Solver η}
  {p : Formula.Plain}

-- What the engine says yes with gives a model. It names all variables of the clauses and of the
-- assumptions, so nothing that makes them true is cut off.
theorem Backed.isModel (htruthful : Engine.Truthful bound e) (h : Backed bound e w s p)
    (hsat : s.solve.1 = .sat) :
    IsModel s.nextVarCount p.endClause.clauses p.assumptions s.solve.2.modelLiterals := by
  obtain ⟨calls, hasks, hloaded, hasked, hanswer, hengine⟩ := h.question
  rw [hanswer] at hsat
  obtain ⟨hnames, hclauses, hassumptions⟩ := htruthful.sat calls hasks hsat
  rw [← hengine] at hnames
  rw [hloaded, ← hengine] at hclauses
  rw [hasked, ← hengine] at hassumptions
  have hcount : s.nextVarCount = _ := h.nextVarCount_eq
  have hvars : s.solve.2.modelVars = Var.upTo s.nextVarCount := rfl
  have hle := varCountWith_le_iff.mp (Nat.le_of_eq hcount.symm)
  have hvar : ∀ v, (s.solve.2.literalOf v).var = v := by
    intro v
    unfold literalOf
    cases hvalue : Engine.value s.solve.2.engine v with
    | none => rfl
    | some l => exact hnames v l hvalue
  have hmem : ∀ l : Lit, Engine.value s.solve.2.engine l.var = some l →
      l.var.number ≤ s.nextVarCount → l ∈ s.solve.2.modelLiterals := by
    intro l hvalue hnumber
    have hl : s.solve.2.literalOf l.var = l := by rw [literalOf, hvalue]; rfl
    rw [← hl, modelLiterals, hvars]
    exact List.mem_map_of_mem (Var.mem_upTo.mpr hnumber)
  constructor
  · rw [modelLiterals, hvars, List.map_map]
    simp [Function.comp_def, hvar]
  · intro c hc
    obtain ⟨l, hl, hvalue⟩ := hclauses c hc
    refine ⟨l, hl, hmem l hvalue (hle.2 l ?_)⟩
    exact List.mem_append_left _ (List.mem_flatten.mpr ⟨c, hc, hl⟩)
  · intro l hl
    exact hmem l (hassumptions l hl) (hle.2 l (List.mem_append_right _ hl))

-- The last number of a variable that is named is one that a literal can have.
theorem Backed.nextVarCount_le (h : Backed bound e w s p) : s.nextVarCount ≤ Var.maxCount := by
  rw [h.nextVarCount_eq]
  exact varCountWith_le_iff.mpr ⟨Nat.zero_le _, fun l _ => l.var.number_le⟩

-- An engine that always decides says yes exactly if there is a model.
theorem Backed.solve_eq_sat (hsound : Engine.Sound e) (hdecides : Engine.Decides e)
    (h : Backed (Engine.limit e) e w s p)
    (hmodels : ∃ a, Models a p.endClause.clauses p.assumptions) : s.solve.1 = .sat := by
  obtain ⟨a, ha⟩ := hmodels
  obtain ⟨calls, hasks, hloaded, hasked, hanswer, -⟩ := h.question
  rw [hanswer]
  cases hcase : (Engine.solve (Call.replay e calls)).1 with
  | sat => rfl
  | unsat => exact absurd (by rwa [hloaded, hasked]) (hsound.unsat calls hasks hcase a)
  | unknown => exact absurd hcase (hdecides calls hasks)

theorem Backed.solve_eq_unsat (hsound : Engine.Sound e) (hdecides : Engine.Decides e)
    (h : Backed (Engine.limit e) e w s p)
    (hnone : ¬∃ a, Models a p.endClause.clauses p.assumptions) : s.solve.1 = .unsat := by
  cases hcase : s.solve.1 with
  | sat => exact absurd ((h.isModel hsound.truthful hcase).holds h.nextVarCount_le) hnone
  | unsat => rfl
  | unknown =>
    obtain ⟨calls, hasks, -, -, hanswer, -⟩ := h.question
    exact absurd (hanswer.symm.trans hcase) (hdecides calls hasks)

theorem Reached.isModel (hsound : Engine.Sound e) (h : Reached e s p) (hsat : s.solve.1 = .sat) :
    IsModel s.nextVarCount p.endClause.clauses p.assumptions s.solve.2.modelLiterals := by
  obtain ⟨w, hw⟩ := h.exists_backed
  exact hw.isModel hsound.truthful hsat

-- A solver, and what it was given so far. The assumptions are those since the last question.
structure Kept (η : Type) where
  solver : Solver η
  given : Formula.Plain := {}

instance : Receiver (Kept η) where
  limit k := Receiver.limit k.solver
  push k l := ⟨k.solver.push l, k.given.push l⟩
  endClause k := ⟨k.solver.endClause, k.given.endClause⟩
  assume k l := ⟨k.solver.assume l, k.given.assume l⟩

-- After a question, the clauses stay, and the assumptions are gone.
def Kept.solve (k : Kept η) : Kept η := ⟨k.solver.solve.2, k.given.endClause.forget⟩

end Solver

open Solver

section Run

variable {η : Type} [Engine η] {e : η} {bound : Nat}

def Move.onKept (files : Files) (x : Track (Kept η)) : Move → Track (Kept η)
  | operate op => x.operate files op
  | solve => { x with receiver := x.receiver.solve }

def startKept (e : η) : Track (Kept η) := { receiver := { solver := Solver.ofEngine e } }

-- The literals that a move does not hold against a limit lie within a bound.
def Move.Within (bound : Nat) : Move → Prop
  | operate op => ∀ l, op.Unchecked l → l.var.number ≤ bound
  | solve => True

-- Writing down what a solver is given changes nothing.
theorem simulation_kept :
    Receiver.Simulation (fun (k : Kept η) (s : Solver η) => k.solver = s) (fun _ => True) where
  allowed _ _ := trivial
  push := by
    rintro k s l rfl -
    rfl
  endClause := by
    rintro k s rfl
    rfl
  assume := by
    rintro k s l rfl -
    rfl

theorem preserves_backed (htruthful : Engine.Truthful bound e) :
    Receiver.Preserves (fun k : Kept η => ∃ w, Backed bound e w k.solver k.given)
      (·.var.number ≤ bound) where
  allowed := by
    rintro k l ⟨w, hw⟩ hle
    obtain ⟨taken, hmirrors⟩ := hw.mirrors
    refine htruthful.limit w.engine.calls l.var ?_
    rwa [← hmirrors.replay, ← show Receiver.limit k.solver = Engine.limit w.engine.engine by
      rw [hw.unwatch]; rfl]
  push := by
    rintro k l ⟨w, hw⟩ hl
    exact ⟨_, hw.push hl⟩
  endClause := by
    rintro k ⟨w, hw⟩
    exact ⟨_, hw.endClause⟩
  assume := by
    rintro k l ⟨w, hw⟩ hl
    exact ⟨_, hw.assume hl⟩

theorem kept_move (htruthful : Engine.Truthful bound e) (files : Files) {x : Track (Kept η)}
    {y : Track (Solver η)} (hsolver : x.receiver.solver = y.receiver)
    (hresults : x.results = y.results) (hbacked : ∃ w, Backed bound e w y.receiver x.receiver.given)
    {move : Move} (hmove : move.Within bound) :
    (move.onKept files x).receiver.solver = (move.onSolver files y).receiver ∧
      (move.onKept files x).results = (move.onSolver files y).results ∧
      ∃ w, Backed bound e w (move.onSolver files y).receiver
        (move.onKept files x).receiver.given := by
  cases move with
  | operate op =>
    have halike := op.perform_alike files simulation_kept
      (fun k s h => Or.inl (congrArg Receiver.limit h)) (fun _ _ => trivial) hsolver
    obtain ⟨hreceiver, hsame⟩ := Track.operate_alike files halike hresults
    have hkeep := op.perform_preserves files (preserves_backed htruthful) hmove
      (s := x.receiver) (by rwa [hsolver])
    refine ⟨hreceiver, hsame, ?_⟩
    simp only [Move.onSolver, ← hreceiver]
    exact hkeep
  | solve =>
    refine ⟨?_, hresults, hbacked.imp' _ fun w hw => hw.solve⟩
    simp only [Move.onKept, Move.onSolver, Kept.solve, hsolver]

theorem kept_run (htruthful : Engine.Truthful bound e) (files : Files) {x : Track (Kept η)}
    {y : Track (Solver η)} (hsolver : x.receiver.solver = y.receiver)
    (hresults : x.results = y.results) (hbacked : ∃ w, Backed bound e w y.receiver x.receiver.given)
    {moves : List Move} (hmoves : ∀ move ∈ moves, move.Within bound) :
    let kept := moves.foldl (Move.onKept files) x
    let run := moves.foldl (Move.onSolver files) y
    kept.receiver.solver = run.receiver ∧ kept.results = run.results ∧
      ∃ w, Backed bound e w run.receiver kept.receiver.given := by
  induction moves generalizing x y with
  | nil => exact ⟨hsolver, hresults, hbacked⟩
  | cons move moves ih =>
    obtain ⟨hmove, hrest⟩ := List.forall_mem_cons.mp hmoves
    obtain ⟨hsolver', hresults', hbacked'⟩ :=
      kept_move htruthful files hsolver hresults hbacked hmove
    exact ih hsolver' hresults' hbacked' hrest

-- Whatever was done to a solver, the question that comes next and is answered with yes gives a
-- model. It has the variables of all clauses that were given, the open one included, and of the
-- assumptions since the last question, so the assumptions of earlier questions have no part in it.
-- For the largest variable as the bound, any moves will do.
theorem model_after_run (htruthful : Engine.Truthful bound e) (files : Files) (moves : List Move)
    (hmoves : ∀ move ∈ moves, move.Within bound) :
    let run := moves.foldl (Move.onSolver files) (startSolver e)
    let kept := moves.foldl (Move.onKept files) (startKept e)
    let cs := kept.receiver.given.endClause.clauses
    let ls := kept.receiver.given.assumptions
    let asked := run.receiver.solve
    (kept.receiver.solver = run.receiver ∧ kept.results = run.results) ∧
    (asked.1 = .sat → ∃ m,
      asked.2.model = .ok m ∧
      run.receiver.witness = (.ok (some m), asked.2) ∧
      IsVarCount m.length (cs.flatten ++ ls) ∧
      IsModel m.length cs ls m ∧
      m.map Except.ok = (Var.upTo m.length).map asked.2.value) := by
  intro run kept cs ls asked
  obtain ⟨hsolver, hresults, w, hbacked⟩ := kept_run htruthful files (x := startKept e)
    (y := startSolver e) rfl rfl ⟨_, backed_start bound e⟩ hmoves
  refine ⟨⟨hsolver, hresults⟩, fun hsat => ?_⟩
  have hhas : asked.2.hasModel = true := by
    have hanswer : asked.2.answer = some asked.1 := rfl
    simp [Solver.hasModel, hanswer, hsat]
  have hmodel : asked.2.model = .ok asked.2.modelLiterals := by simp [Solver.model, hhas]
  have hlength : asked.2.modelLiterals.length = run.receiver.nextVarCount := by
    have hcount : asked.2.modelVarCount = run.receiver.nextVarCount := rfl
    simp [Solver.modelLiterals, Solver.modelVars, hcount]
  refine ⟨asked.2.modelLiterals, hmodel, ?_, ?_, ?_, ?_⟩
  · have heq : run.receiver.solve = (.sat, asked.2) := Prod.ext hsat rfl
    simp only [Solver.witness, heq, hmodel]
    rfl
  · rw [hlength, hbacked.nextVarCount_eq]
    exact isVarCount_varCountWith _
  · rw [hlength]
    exact hbacked.isModel htruthful hsat
  · rw [hlength]
    have hvars : asked.2.modelVars = Var.upTo run.receiver.nextVarCount := rfl
    rw [Solver.modelLiterals, hvars, List.map_map]
    refine List.map_congr_left fun v _ => ?_
    simp [Solver.value, hhas]

-- A search is truthful about any variables, also about those that it does not take in.
theorem SearchEngine.truthful : Engine.Truthful Var.maxCount ({} : SearchEngine) where
  limit _ v _ := v.number_le
  sat calls _ hsat := SearchEngine.sat_spec calls hsat

-- The assumption about the last variable is for the first question only, and the second question
-- commits a clause that is still open.
def clausesInTwoQuestions : List Move :=
  [.operate (.add [.number 1, .number 2]), .operate (.assume [9]), .solve,
    .operate (.assume [-1]), .operate (.push 4)]

theorem within_clausesInTwoQuestions :
    ∀ move ∈ clausesInTwoQuestions, move.Within (Engine.limit ({} : SearchEngine)) := by
  simp only [clausesInTwoQuestions, List.forall_mem_cons, Move.Within, Operation.Unchecked]
  refine ⟨by simp, by simp, trivial, by simp, fun l hl => ?_, by simp⟩
  rw [← l.natAbs_toInt, Lit.toInt_of_ofInt hl]
  decide

theorem model_after_clausesInTwoQuestions :
    Engine.Truthful Var.maxCount ({} : SearchEngine) ∧
    (∀ move ∈ clausesInTwoQuestions, move.Within Var.maxCount) ∧
    ∃ m, (clausesInTwoQuestions.foldl (Move.onSolver ⟨[], [], []⟩)
        (startSolver ({} : SearchEngine))).receiver.solve.2.model = .ok m ∧
      m.length = 4 ∧ ⟨.ofNumber 1, true⟩ ∈ m ∧ ⟨.ofNumber 4, false⟩ ∈ m := by
  have hmoves : ∀ move ∈ clausesInTwoQuestions, move.Within Var.maxCount := by
    intro move _
    cases move with
    | operate op => exact fun l _ => l.var.number_le
    | solve => trivial
  have hgiven : (clausesInTwoQuestions.foldl (Move.onKept ⟨[], [], []⟩)
      (startKept ({} : SearchEngine))).receiver.given =
        ⟨[[⟨.ofNumber 1, false⟩, ⟨.ofNumber 2, false⟩]], [⟨.ofNumber 4, false⟩],
          [⟨.ofNumber 1, true⟩]⟩ := rfl
  obtain ⟨-, hmodel⟩ :=
    model_after_run SearchEngine.truthful ⟨[], [], []⟩ clausesInTwoQuestions hmoves
  obtain ⟨-, -, w, hbacked⟩ := kept_run SearchEngine.sound.truthful ⟨[], [], []⟩
    (x := startKept {}) (y := startSolver {}) rfl rfl ⟨_, backed_start _ _⟩
    within_clausesInTwoQuestions
  rw [hgiven] at hmodel hbacked
  have hexists : IsModel 4 [[⟨.ofNumber 1, false⟩, ⟨.ofNumber 2, false⟩], [⟨.ofNumber 4, false⟩]]
      [⟨.ofNumber 1, true⟩]
      [⟨.ofNumber 1, true⟩, ⟨.ofNumber 2, false⟩, ⟨.ofNumber 3, false⟩, ⟨.ofNumber 4, false⟩] := by
    decide
  obtain ⟨m, hm, -, hcount, hisModel, -⟩ := hmodel
    (hbacked.solve_eq_sat SearchEngine.sound SearchEngine.decides (hexists.holds (by decide)))
  refine ⟨SearchEngine.truthful, hmoves, m, hm, ?_, ?_, ?_⟩
  · exact hcount.unique ⟨by decide, Or.inr (by decide)⟩
  · exact hisModel.assumptions _ List.mem_cons_self
  · obtain ⟨l, hl, hmem⟩ := hisModel.clauses [⟨.ofNumber 4, false⟩] (by decide)
    rwa [← List.mem_singleton.mp hl]

end Run

end SatFrontend

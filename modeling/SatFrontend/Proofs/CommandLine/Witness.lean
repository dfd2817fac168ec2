import SatFrontend.CommandLine.Program
import SatFrontend.Proofs.Backend.Witness
import SatFrontend.Proofs.CommandLine.Loading
import SatFrontend.Proofs.CommandLine.Output

namespace SatFrontend.CommandLine

open Backend Text
open Formula (Reachable)

-- What can be seen of the program from outside: what it leaves on standard output, in pieces of
-- any size, and the code that it exits with.
structure Report.Shows (build : Build) (r : Report) (b : Behavior) : Prop where
  output : b.output = encode (r.output build)
  exit : b.exit = .code r.code

-- All of the output in one piece.
def Report.behavior (build : Build) (r : Report) : Behavior :=
  .prints (encode (r.output build)) fun _ => .exits (.code r.code)

theorem Report.shows_behavior (build : Build) (r : Report) : r.Shows build (r.behavior build) where
  output := by simp [behavior, Behavior.output]
  exit := rfl

section Solve

variable {η : Type} [Engine η] {e : η}

-- What can be seen of a run that understood its arguments and its input.
theorem shows_solve {args texts : List String} {task : Task} {w : World} {build : Build}
    {b : Behavior} (hshows : (programOn e args w).Shows build b)
    (hargs : Invocation.ofArguments args = .ok (.solve ⟨none, texts, task⟩))
    {assumptions : List Int} (htexts : readAssumptions texts = pure assumptions)
    {reading : Dimacs.TextReading (Solver η)}
    (hreading : Dimacs.readText (.ofBytes w.input) (Solver.ofEngine e) = reading)
    (herror : reading.error = none) {results : List Message} {code : Nat}
    (htask : solveTask reading.receiver assumptions task = ⟨results, .ok code⟩) :
    ∃ log : List String, (∀ t ∈ log, IsComment t) ∧ b.exit = .code code ∧
      b.output = encode (unlines (log ++ results.map Message.text)) := by
  obtain ⟨hcode, log, hlog, hlines⟩ := lines_solve htexts hreading herror task htask build
  have hprogram : programOn e args w = (solve w e ⟨none, texts, task⟩).report := by
    rw [programOn, hargs]
    rfl
  obtain ⟨houtput, hexit⟩ := hshows
  rw [hprogram, hcode] at hexit
  rw [hprogram, Report.output, hlines] at houtput
  exact ⟨log, hlog, hexit, houtput⟩

theorem solveWitness_of_sat {s : Solver η} (hsat : s.solve.1 = .sat) :
    solveTask s [] .witness =
      ⟨[.result Witness.satMarker, .result (modelLine ["v"] s.solve.2.modelLiterals)],
        .ok Witness.satExit⟩ := by
  have hsolve : s.solve = (.sat, s.solve.2) := Prod.ext hsat rfl
  simp only [solveTask, solveWitness, assumeAll, Receiver.assumeAll, Receiver.runAll, bind, pure]
  rw [hsolve]
  rfl

theorem solveWitness_of_unsat {s : Solver η} (hunsat : s.solve.1 = .unsat) :
    solveTask s [] .witness = ⟨[.result Witness.unsatMarker], .ok Witness.unsatExit⟩ := by
  have hsolve : s.solve = (.unsat, s.solve.2) := Prod.ext hunsat rfl
  simp only [solveTask, solveWitness, assumeAll, Receiver.assumeAll, Receiver.runAll, bind, pure]
  rw [hsolve]
  rfl

-- The program is a solver for its own front end: what it prints for a formula under assumptions is
-- always understood, and it is a model if there is one.
theorem extract_solveWitness (hsound : Engine.Sound e) (hdecides : Engine.Decides e)
    {f : Formula} (hf : Reachable f) {assumptions : List Lit}
    (hwithin : ∀ l ∈ f.close.clauses.flatten ++ assumptions, l.var.number ≤ Engine.limit e)
    {w : World} (hinput : w.input = encode (Dimacs.write f.close assumptions)) {build : Build}
    {b : Behavior} (hshows : (programOn e [] w).Shows build b) (program : String) :
    let n := varCountWith f.close.varCount assumptions
    let found := Witness.extract program n b.finish
    ((∃ a, Models a f.close.clauses assumptions) →
      ∃ m, found = .ok (some m) ∧ IsModel n f.close.clauses assumptions m) ∧
    ((¬∃ a, Models a f.close.clauses assumptions) → found = .ok none) := by
  intro n found
  obtain ⟨herror, hreached⟩ := Solver.reached_of_write hf.close hwithin
  rw [← hinput] at herror hreached
  generalize hreading : Dimacs.readText (.ofBytes w.input) (Solver.ofEngine e) = reading at *
  obtain ⟨watched, hbacked⟩ := hreached.exists_backed
  have htexts : readAssumptions [] = pure [] := rfl
  -- The solver knows the assumptions as clauses. The reader of the output knows their variables
  -- only.
  have hcount : reading.receiver.nextVarCount = n := by
    have hunits := varCountWith_units hf.close assumptions []
    rw [List.append_nil assumptions] at hunits
    exact hbacked.nextVarCount_eq.trans hunits
  constructor
  · rintro ⟨a, ha⟩
    have hsat := hbacked.solve_eq_sat hsound hdecides
      ⟨a, models_units_iff.mpr (by rwa [List.append_nil])⟩
    have hmodel := hreached.isModel hsound hsat
    rw [hcount] at hmodel
    obtain ⟨log, hlog, hexit, houtput⟩ :=
      shows_solve hshows rfl htexts hreading herror (solveWitness_of_sat hsat)
    obtain ⟨hfinished, hstdout⟩ := Behavior.finish_of_output houtput
    refine ⟨_, Witness.extract_sat program hlog ?_ hmodel.vars (hfinished.trans hexit) hstdout, ?_⟩
    · rw [← hcount]
      exact hbacked.nextVarCount_le
    · have := isModel_units_iff.mp hmodel
      rwa [List.append_nil] at this
  · intro hnone
    have hunsat := hbacked.solve_eq_unsat hsound hdecides fun ⟨a, ha⟩ =>
      hnone ⟨a, by simpa using models_units_iff.mp ha⟩
    obtain ⟨log, hlog, hexit, houtput⟩ :=
      shows_solve hshows rfl htexts hreading herror (solveWitness_of_unsat hunsat)
    obtain ⟨hfinished, hstdout⟩ := Behavior.finish_of_output houtput
    exact Witness.extract_unsat program hlog n (hfinished.trans hexit) hstdout

-- A clause that is still open, and an assumption about one of its variables.
def openFormula : Formula :=
  (Formula.empty.push ⟨.ofNumber 1, true⟩).push ⟨.ofNumber 2, false⟩

theorem reachable_openFormula : Reachable openFormula := .push _ (.push _ .empty)

def sampleBuild : Build where
  version := "1.0"
  profile := "release"
  compiler := "compiler 1.40"
  oneLine := by decide

theorem extract_solveWitness_openFormula :
    let assumptions : List Lit := [⟨.ofNumber 1, false⟩]
    let w : World :=
      { host := ⟨.standard, fun _ _ => .error .notFound⟩
        input := encode (Dimacs.write openFormula.close assumptions) }
    let b := (programOn ({} : SearchEngine) [] w).behavior sampleBuild
    ∃ m, Witness.extract "satbridge" 2 b.finish = .ok (some m) ∧ m.length = 2 ∧
      ⟨.ofNumber 1, false⟩ ∈ m := by
  intro assumptions w b
  have hmodel : IsModel 2 openFormula.close.clauses assumptions
      [⟨.ofNumber 1, false⟩, ⟨.ofNumber 2, false⟩] := by decide
  have hwithin : ∀ l ∈ openFormula.close.clauses.flatten ++ assumptions,
      l.var.number ≤ SearchEngine.maxVarCount := by decide
  obtain ⟨hsat, -⟩ := extract_solveWitness SearchEngine.sound SearchEngine.decides
    reachable_openFormula hwithin (w := w) rfl (Report.shows_behavior sampleBuild _) "satbridge"
  obtain ⟨m, hfound, hm⟩ := hsat (hmodel.holds (by decide))
  have hcount : varCountWith openFormula.close.varCount assumptions = 2 := by decide
  rw [hcount] at hfound hm
  refine ⟨m, hfound, ?_, hm.assumptions _ List.mem_cons_self⟩
  simpa [Var.upTo] using congrArg List.length hm.vars

end Solve

end SatFrontend.CommandLine

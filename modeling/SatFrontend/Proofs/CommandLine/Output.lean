import SatFrontend.CommandLine.Banner
import SatFrontend.CommandLine.Solve
import SatFrontend.Proofs.Dimacs.Notices

namespace SatFrontend.CommandLine

open Text

theorem Message.isComment_notice {n : Notice} (h : OneLine n.text) :
    IsComment (Message.notice n).text := by
  have hlead : IsComment (if n.isWarning then "c WARN: " else "c ") := by
    split <;> exact ⟨by decide, by decide⟩
  exact hlead.append h

theorem Message.isComment_failure {text : String} (h : OneLine text) :
    IsComment (Message.failure text).text := by
  have hlead : IsComment "c ERROR: " := ⟨oneLine_literal rfl (by decide), by decide⟩
  exact hlead.append h

theorem Build.isComment_banner (b : Build) : ∀ t ∈ b.banner, IsComment t := by
  obtain ⟨hversion, hprofile, hcompiler⟩ : OneLine b.version ∧ OneLine b.profile ∧
      OneLine b.compiler := by simpa [OneLine] using b.oneLine
  have hfirst : IsComment "c This is satbridge " := ⟨by decide, by decide⟩
  have hsecond : IsComment "c   " := ⟨by decide, by decide⟩
  have hbuild : OneLine " build - " := oneLine_literal rfl (by decide)
  intro t ht
  simp only [banner, List.mem_cons, List.not_mem_nil, or_false] at ht
  rcases ht with rfl | rfl
  · exact hfirst.append hversion
  · exact ((hsecond.append hprofile).append hbuild).append hcompiler

theorem oneLine_loaded (n : Nat) : OneLine (Notice.loaded n).text := by
  have hfront : OneLine "Loaded formula with " := oneLine_literal rfl (by decide)
  have hback : OneLine " variables" := oneLine_literal rfl (by decide)
  exact (hfront.append (oneLine_repr n)).append hback

theorem oneLine_foundAll (n : Nat) : OneLine (Notice.foundAll n).text := by
  have hfront : OneLine "Found all " := oneLine_literal rfl (by decide)
  have hback : OneLine " models" := oneLine_literal rfl (by decide)
  exact (hfront.append (oneLine_repr n)).append hback

theorem oneLine_stoppedAfter (n : Nat) : OneLine (Notice.stoppedAfter n).text := by
  have hfront : OneLine "Stopped after " := oneLine_literal rfl (by decide)
  have hback : OneLine " models" := oneLine_literal rfl (by decide)
  exact (hfront.append (oneLine_repr n)).append hback

section Solve

variable {σ η : Type} [Receiver σ] [Engine η]

theorem readFormula_of_ok {w : World} {s : σ}
    (h : (Dimacs.readText (.ofBytes w.input) s).error = none) :
    readFormula w none s =
      { printed := (.readingInput :: (Dimacs.readText (.ofBytes w.input) s).notices).map .notice
        outcome := .ok (Dimacs.readText (.ofBytes w.input) s).receiver } := by
  simp [readFormula, Dimacs.read, h, bind, pure, Session.inform]

-- What comes of reading a formula is noticed before anything else.
def loadingNotices (reading : Dimacs.TextReading (Solver η)) : List Notice :=
  .readingInput :: reading.notices ++ [.loaded reading.receiver.varCount]

theorem oneLine_loadingNotices (supply : Dimacs.Supply) (s : Solver η) :
    ∀ n ∈ loadingNotices (Dimacs.readText supply s), OneLine n.text := by
  intro n hn
  simp only [loadingNotices, List.cons_append, List.mem_cons, List.mem_append, List.not_mem_nil,
    or_false] at hn
  rcases hn with rfl | hn | rfl
  · decide
  · exact Dimacs.notices_readText supply s n hn
  · exact oneLine_loaded _

-- After a text that was understood comes the task.
theorem solve_of_ok {w : World} {engine : η} {texts : List String} {assumptions : List Int}
    (htexts : readAssumptions texts = pure assumptions) {reading : Dimacs.TextReading (Solver η)}
    (hreading : Dimacs.readText (.ofBytes w.input) (Solver.ofEngine engine) = reading)
    (herror : reading.error = none) (task : Task) :
    solve w engine ⟨none, texts, task⟩ =
      { printed := (loadingNotices reading).map .notice ++
          (solveTask reading.receiver assumptions task).printed
        outcome := (solveTask reading.receiver assumptions task).outcome } := by
  have hformula := readFormula_of_ok (w := w) (s := Solver.ofEngine engine)
    (by rw [hreading]; exact herror)
  rw [hreading] at hformula
  simp [solve, htexts, hformula, loadingNotices, bind, pure, Session.inform]

-- The results of the task are printed after comments only.
theorem lines_solve {w : World} {engine : η} {texts : List String} {assumptions : List Int}
    (htexts : readAssumptions texts = pure assumptions) {reading : Dimacs.TextReading (Solver η)}
    (hreading : Dimacs.readText (.ofBytes w.input) (Solver.ofEngine engine) = reading)
    (herror : reading.error = none) (task : Task) {results : List Message} {code : Nat}
    (htask : solveTask reading.receiver assumptions task = ⟨results, .ok code⟩) (build : Build) :
    (solve w engine ⟨none, texts, task⟩).report.code = code ∧
      ∃ log : List String, (∀ t ∈ log, IsComment t) ∧
        (solve w engine ⟨none, texts, task⟩).report.lines build =
          log ++ results.map Message.text := by
  have hsolve := solve_of_ok htexts hreading herror task
  rw [htask] at hsolve
  rw [hsolve]
  refine ⟨rfl, build.banner ++ (loadingNotices reading).map (fun n => (Message.notice n).text),
    fun t ht => ?_, by simp [Report.lines, Session.report, Function.comp_def]⟩
  rcases List.mem_append.mp ht with ht | ht
  · exact build.isComment_banner t ht
  · obtain ⟨n, hn, rfl⟩ := List.mem_map.mp ht
    rw [← hreading] at hn
    exact Message.isComment_notice (oneLine_loadingNotices _ _ n hn)

end Solve

end SatFrontend.CommandLine

import Mathlib.Data.Set.Card
import SatFrontend.Proofs.Backend.Counter
import SatFrontend.Proofs.Backend.ModelStream
import SatFrontend.Proofs.CommandLine.Arguments
import SatFrontend.Proofs.CommandLine.Witness

namespace SatFrontend.CommandLine

open Backend Text
open Formula (Reachable)

variable {η : Type} [Engine η] {e : η}

-- Listing every model once is counting them.
theorem ncard_of_nodup {ms : List (List Lit)} (hnodup : ms.Nodup) {P : List Lit → Prop}
    (hiff : ∀ m, m ∈ ms ↔ P m) : {m | P m}.ncard = ms.length := by
  have hset : {m | P m} = (ms.toFinset : Set (List Lit)) := by
    ext m
    simp [hiff]
  rw [hset, Set.ncard_coe_finset, List.toFinset_card_of_nodup hnodup]

theorem nodup_signings (vs : List Var) : (signings vs).Nodup := by
  induction vs with
  | nil => simp [signings]
  | cons v vs ih =>
    have hinj : ∀ l : Lit, Function.Injective (l :: · : List Lit → List Lit) := fun l _ _ h =>
      (List.cons.inj h).2
    rw [signings, List.nodup_append]
    refine ⟨ih.map (hinj _), ih.map (hinj _), ?_⟩
    simp

-- The models can be counted by trying all assignments.
theorem ncard_isModel (n : Nat) (cs : List (List Lit)) (ls : List Lit) :
    {m | IsModel n cs ls m}.ncard =
      ((signings (Var.upTo n)).filter (fun m => IsModel n cs ls m)).length := by
  refine ncard_of_nodup ((nodup_signings _).filter _) fun m => ?_
  rw [List.mem_filter, decide_eq_true_eq, and_iff_right_iff_imp]
  intro hm
  rw [← hm.vars]
  exact mem_signings m

section Loaded

variable {f : Formula} {written given : List Lit} {w : World}
  {reading : Dimacs.TextReading (Solver η)}

-- Assumptions hold for the search for all models whether they were loaded as clauses or are made
-- for each question.
theorem enumerate_written (hsound : Engine.Sound e) (hdecides : Engine.Decides e)
    (hf : Reachable f)
    (hwithin : ∀ l ∈ f.clauses.flatten ++ (written ++ given), l.var.number ≤ Engine.limit e)
    (hinput : w.input = encode (Dimacs.write f written))
    (hreading : Dimacs.readText (.ofBytes w.input) (Solver.ofEngine e) = reading) :
    reading.error = none ∧
      (reading.receiver.enumerate (given.map Lit.toInt)).ending = .complete ∧
      (reading.receiver.enumerate (given.map Lit.toInt)).models.Nodup ∧
      ∀ m, m ∈ (reading.receiver.enumerate (given.map Lit.toInt)).models ↔
        IsModel (varCountWith f.varCount (written ++ given)) f.clauses (written ++ given) m := by
  rw [← List.append_assoc] at hwithin
  obtain ⟨hload, hassume⟩ := List.forall_mem_append.mp hwithin
  obtain ⟨herror, hreached⟩ := Solver.reached_of_write hf hload
  rw [← hinput, hreading] at herror hreached
  obtain ⟨answers, -, -, hfound⟩ :=
    Solver.found_enumerate hsound hreached rfl (Lit.ofInts_toInt given) hassume
  obtain ⟨hending, -, hall⟩ | ⟨-, -, hundecided⟩ := hfound.ending
  swap
  · exact absurd hdecides hundecided
  refine ⟨herror, hending, hfound.nodup, fun m => Iff.trans ⟨hfound.sound m, hall m⟩ ?_⟩
  rw [← varCountWith_units hf]
  exact isModel_units_iff

end Loaded

theorem solveCount_of_complete {s : Solver η} {assumptions : List Int}
    (h : (s.enumerate assumptions).ending = .complete) :
    solveTask s assumptions (.count none) =
      ⟨[.result ("s mc " ++ (s.enumerate assumptions).models.length.repr)], .ok 0⟩ := by
  simp only [solveTask, solveCount, h]
  rfl

theorem solveEnumerate_of_complete {s : Solver η} {assumptions : List Int}
    (h : (s.enumerate assumptions).ending = .complete) :
    solveTask s assumptions .enumerate =
      ⟨(s.enumerate assumptions).models.map (fun m => .result (modelLine [] m)) ++
        [.notice (.foundAll (s.enumerate assumptions).models.length)], .ok 0⟩ := by
  simp only [solveTask, solveEnumerate, h]
  simp [bind, pure, Session.print, Session.inform]

theorem prints_found {log : List String} (hlog : ∀ t ∈ log, IsComment t) (ms : List (List Lit)) :
    ModelStream.Prints
      (log ++ (ms.map (fun m => Message.result (modelLine [] m)) ++
        [Message.notice (.foundAll ms.length)]).map Message.text) ms := by
  have hlast : ∀ t ∈ [(Message.notice (.foundAll ms.length)).text], IsComment t :=
    List.forall_mem_singleton.mpr (Message.isComment_notice (oneLine_foundAll _))
  have h := (ModelStream.Prints.comments hlog).append
    ((ModelStream.Prints.models ms).append (.comments hlast))
  rw [List.nil_append, List.append_nil] at h
  rw [List.map_append, List.map_map]
  exact h

section Program

variable {f : Formula} {assumptions written given : List Lit} {w : World} {build : Build}
  {b : Behavior}

theorem extract_solveCount (hsound : Engine.Sound e) (hdecides : Engine.Decides e)
    (hf : Reachable f)
    (hwithin : ∀ l ∈ f.clauses.flatten ++ (written ++ given), l.var.number ≤ Engine.limit e)
    (hinput : w.input = encode (Dimacs.write f written))
    (hshows : (programOn e ("--count" :: assuming given) w).Shows build b) (base : Command)
    (program : String) :
    Counter.extract { base, pattern := standardPattern } program b.finish =
      ([], .ok {m | IsModel (varCountWith f.varCount (written ++ given)) f.clauses
        (written ++ given) m}.ncard) := by
  obtain ⟨herror, hending, hnodup, hiff⟩ :=
    enumerate_written hsound hdecides hf hwithin hinput rfl
  obtain ⟨log, hlog, hexit, houtput⟩ := shows_solve hshows (ofArguments_count given)
    (readAssumptions_text given) rfl herror (solveCount_of_complete hending)
  obtain ⟨hfinished, hstdout⟩ := Behavior.finish_of_output houtput
  rw [ncard_of_nodup hnodup hiff]
  exact extract_resultLine findsResult_standardPattern base program hlog (hfinished.trans hexit)
    hstdout

theorem drain_solveEnumerate (hsound : Engine.Sound e) (hdecides : Engine.Decides e)
    (hf : Reachable f)
    (hwithin : ∀ l ∈ f.clauses.flatten ++ (written ++ given), l.var.number ≤ Engine.limit e)
    (hinput : w.input = encode (Dimacs.write f written))
    (hshows : (programOn e ("--enumerate" :: assuming given) w).Shows build b)
    (program : String) :
    ∃ (ms : List (List Lit)) (s : ModelStream),
      (ModelStream.mk program .running [] b).drain = (ms, none, s) ∧ s.state = .exhausted ∧
      ms.Nodup ∧ ∀ m, m ∈ ms ↔
        IsModel (varCountWith f.varCount (written ++ given)) f.clauses (written ++ given) m := by
  obtain ⟨herror, hending, hnodup, hiff⟩ :=
    enumerate_written hsound hdecides hf hwithin hinput rfl
  obtain ⟨log, hlog, hexit, houtput⟩ := shows_solve hshows (ofArguments_enumerate given)
    (readAssumptions_text given) rfl herror (solveEnumerate_of_complete hending)
  obtain ⟨s, hdrain, hstate⟩ := ModelStream.drain_prints (prints_found hlog _)
    (s := ⟨program, .running, [], b⟩) rfl houtput (by rw [hexit]; rfl)
  exact ⟨_, s, hdrain, hstate, hnodup, hiff⟩

end Program

-- The program counts and lists the models of a formula under assumptions, and both are understood
-- as they are meant: the count is the number of the models, and the models are delivered, each
-- once, up to the end. Any part of the assumptions can be written with the formula and the rest be
-- given as arguments. Of the search for the pattern of the counter nothing is needed but
-- `FindsResult`, which the matcher of this library is proved to meet.
theorem count_and_enumerate (hsound : Engine.Sound e) (hdecides : Engine.Decides e) {f : Formula}
    (hf : Reachable f) {assumptions written given : List Lit}
    (hsplit : written ++ given = assumptions)
    (hwithin : ∀ l ∈ f.clauses.flatten ++ assumptions, l.var.number ≤ Engine.limit e) {w : World}
    (hinput : w.input = encode (Dimacs.write f written)) (build : Build) (program : String) :
    let n := varCountWith f.varCount assumptions
    (∀ base : Command, ∃ counter, Counter.exact base CountPattern.standard = .ok counter ∧
      ∀ b : Behavior, (programOn e ("--count" :: assuming given) w).Shows build b →
        counter.extract program b.finish =
          ([], .ok {m | IsModel n f.clauses assumptions m}.ncard)) ∧
    ∀ b : Behavior, (programOn e ("--enumerate" :: assuming given) w).Shows build b →
      ∃ (ms : List (List Lit)) (s : ModelStream),
        (ModelStream.mk program .running [] b).drain = (ms, none, s) ∧ s.state = .exhausted ∧
        ms.Nodup ∧ ∀ m, m ∈ ms ↔ IsModel n f.clauses assumptions m := by
  subst hsplit
  exact ⟨fun base => ⟨_, counter_exact_standard base, fun b hshows =>
      extract_solveCount hsound hdecides hf hwithin hinput hshows base program⟩,
    fun b hshows => drain_solveEnumerate hsound hdecides hf hwithin hinput hshows program⟩

-- Two of the four assignments satisfy the clause and the assumption.
theorem count_and_enumerate_openFormula :
    let given : List Lit := [⟨.ofNumber 2, false⟩]
    let w : World :=
      { host := ⟨.standard, fun _ _ => .error .notFound⟩
        input := encode (Dimacs.write openFormula.close []) }
    let counted :=
      (programOn ({} : SearchEngine) ("--count" :: assuming given) w).behavior sampleBuild
    let listed :=
      (programOn ({} : SearchEngine) ("--enumerate" :: assuming given) w).behavior sampleBuild
    ∃ counter ms s, Counter.exact { program := "satbridge" } CountPattern.standard = .ok counter ∧
      counter.extract "satbridge" counted.finish = ([], .ok 2) ∧
      (ModelStream.mk "satbridge" .running [] listed).drain = (ms, none, s) ∧
      s.state = .exhausted ∧ ms.length = 2 := by
  intro given w counted listed
  have hwithin : ∀ l ∈ openFormula.close.clauses.flatten ++ given,
      l.var.number ≤ SearchEngine.maxVarCount := by decide
  obtain ⟨hcount, henumerate⟩ := count_and_enumerate SearchEngine.sound SearchEngine.decides
    reachable_openFormula.close (List.nil_append given) hwithin (w := w) rfl sampleBuild "satbridge"
  obtain ⟨counter, hcounter, hextract⟩ := hcount { program := "satbridge" }
  obtain ⟨ms, s, hdrain, hstate, hnodup, hiff⟩ := henumerate listed (Report.shows_behavior _ _)
  have htwo : {m | IsModel (varCountWith openFormula.close.varCount given)
      openFormula.close.clauses given m}.ncard = 2 := by
    rw [ncard_isModel]
    decide
  have hcounted := hextract counted (Report.shows_behavior _ _)
  rw [htwo] at hcounted
  exact ⟨counter, ms, s, hcounter, hcounted, hdrain, hstate,
    (ncard_of_nodup hnodup hiff).symm.trans htwo⟩

end SatFrontend.CommandLine

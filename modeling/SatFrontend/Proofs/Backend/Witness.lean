import SatFrontend.Proofs.Backend.ModelLine
import SatFrontend.Proofs.Solver.Models

namespace SatFrontend.Backend

open Text CommandLine

-- A text that was printed in pieces is collected as a whole.
theorem Behavior.finish_of_output {b : Behavior} {t : String} (h : b.output = encode t) :
    b.finish.exit = b.exit ∧ b.finish.stdout = t := by
  have hfinish : b.finish = _ := b.collect_eq #[] #[]
  rw [hfinish]
  simp [h, decodeLossy_encode]

namespace Witness

theorem ofText_comment {t : String} (h : IsComment t) :
    Line.ofText (stripReturn t.toList) = .other := by
  obtain ⟨rest, hrest⟩ := h.lead
  obtain ⟨stripped, hstripped⟩ := exists_stripReturn (c := 'c') (by decide) (' ' :: rest)
  have hsat : satMarker.toList = 's' :: " SATISFIABLE".toList := by decide
  have hunsat : unsatMarker.toList = 's' :: " UNSATISFIABLE".toList := by decide
  have hcons : t.toList = 'c' :: ' ' :: rest := hrest.symm
  rw [hcons, hstripped, Line.ofText, trimEnd_cons (by decide), hsat, hunsat]
  simp

-- The line of a model is a value line with the words of the model.
theorem ofText_modelLine (m : List Lit) :
    Line.ofText (stripReturn (modelLine ["v"] m).toList) =
      .values (' ' :: (modelLine [] m).toList) := by
  obtain ⟨-, cs, hcs⟩ := ends_modelLine m
  have hsat : satMarker.toList = 's' :: " SATISFIABLE".toList := by decide
  have hunsat : unsatMarker.toList = 's' :: " UNSATISFIABLE".toList := by decide
  have hends : 'v' :: ' ' :: (cs ++ ['0']) = ('v' :: ' ' :: cs) ++ ['0'] := rfl
  have hblank : isBlank ' ' = true := by decide
  rw [toList_modelLine_v, hcs, hends, stripReturn_append_singleton (by decide), Line.ofText,
    trimEnd_append_singleton (by decide), ← hends, hsat, hunsat]
  simp [hblank]

theorem words_modelLine_v (m : List Lit) :
    words (' ' :: (modelLine [] m).toList) = modelWords m := by
  rw [← words_modelLine m, words, splitWhere_cons_of_pos (by decide)]
  rfl

theorem readLines_comments (program : String) (marker : Option Bool) (model : Array Lit)
    {ts : List String} (h : ∀ t ∈ ts, IsComment t) (rest : List (List Char)) :
    readLines program marker model (ts.map (fun t => stripReturn t.toList) ++ rest) =
      readLines program marker model rest := by
  induction ts with
  | nil => rfl
  | cons t ts ih =>
    obtain ⟨ht, hts⟩ := List.forall_mem_cons.mp h
    rw [List.map_cons, List.cons_append, readLines, ofText_comment ht]
    exact ih hts

theorem misplaced?_eq_none {k : Nat} {m : List Lit}
    (h : ∀ i (hi : i < m.length), m[i].var.number = k + i) : misplaced? k m = none := by
  induction m generalizing k with
  | nil => rfl
  | cons l m ih =>
    have hfirst : l.var.number = k := h 0 (by simp)
    rw [misplaced?, if_pos hfirst]
    refine ih fun i hi => ?_
    have hnext : m[i].var.number = k + (i + 1) := h (i + 1) (by simpa using hi)
    omega

-- One literal for each variable, in order, is what is asked of a model.
theorem checkModel_of_vars (program : String) {n : Nat} (hn : n ≤ Var.maxCount) {m : List Lit}
    (h : m.map Lit.var = Var.upTo n) : checkModel program n m = .ok m := by
  have hlength : m.length = n := by
    have := congrArg List.length h
    simpa [Var.upTo] using this
  have hplace : ∀ i (hi : i < m.length), m[i].var.number = 1 + i := by
    intro i hi
    have hget : m[i].var = Var.ofIndex i := by
      have hmap : (m.map Lit.var)[i]? = some m[i].var := by simp [hi]
      rw [h] at hmap
      simpa [Var.upTo, ← hlength, hi] using hmap.symm
    rw [hget, Var.ofIndex, Var.number_ofNumber (by omega) (by omega), Nat.add_comm]
  rw [checkModel, if_neg (by simp [hlength]), misplaced?_eq_none hplace]

variable {log : List String} {finished : Finished}

-- A model that is printed after comments is found again.
theorem extract_sat (program : String) (hlog : ∀ t ∈ log, IsComment t) {n : Nat}
    (hn : n ≤ Var.maxCount) {m : List Lit} (hm : m.map Lit.var = Var.upTo n)
    (hexit : finished.exit = .code satExit)
    (hout : finished.stdout = unlines (log ++ [satMarker, modelLine ["v"] m])) :
    extract program n finished = .ok (some m) := by
  have honeLine : ∀ t ∈ log ++ [satMarker, modelLine ["v"] m], OneLine t := by
    intro t ht
    simp only [List.mem_append, List.mem_cons, List.not_mem_nil, or_false] at ht
    rcases ht with ht | rfl | rfl
    · exact (hlog t ht).oneLine
    · decide
    · exact oneLine_modelLine_v m
  have hmarker : Line.ofText (stripReturn satMarker.toList) = .marker true := by decide
  have hlines : readLines program none #[] (lines finished.stdout.toList) = .ok (some true, m) := by
    rw [hout, lines_unlines honeLine, List.map_append, readLines_comments program none #[] hlog]
    simp only [List.map_cons, List.map_nil, readLines, hmarker, ofText_modelLine,
      words_modelLine_v, literals_modelWords]
    simp
  simp only [extract, hexit, Exit.code?, hlines, bind, Except.bind,
    checkModel_of_vars program hn hm]
  rfl

theorem extract_unsat (program : String) (hlog : ∀ t ∈ log, IsComment t) (n : Nat)
    (hexit : finished.exit = .code unsatExit)
    (hout : finished.stdout = unlines (log ++ [unsatMarker])) :
    extract program n finished = .ok none := by
  have honeLine : ∀ t ∈ log ++ [unsatMarker], OneLine t := by
    intro t ht
    rcases List.mem_append.mp ht with ht | ht
    · exact (hlog t ht).oneLine
    · rw [List.mem_singleton.mp ht]
      decide
  have hmarker : Line.ofText (stripReturn unsatMarker.toList) = .marker false := by decide
  have hlines :
      readLines program none #[] (lines finished.stdout.toList) = .ok (some false, []) := by
    rw [hout, lines_unlines honeLine, List.map_append, readLines_comments program none #[] hlog]
    simp only [List.map_cons, List.map_nil, readLines, hmarker]
  simp only [extract, hexit, Exit.code?, hlines, bind, Except.bind]
  rfl

end Witness

end SatFrontend.Backend

import Mathlib.Logic.Function.Iterate
import SatFrontend.Dimacs.Encoder
import SatFrontend.Proofs.Backend.ModelLine
import SatFrontend.Proofs.Formula.Refinement
import SatFrontend.Proofs.Solver.Models

namespace SatFrontend.Dimacs

open Formula (Plain Reachable)

namespace Encoder

theorem lines_assumptions (ls : List Lit) :
    lines ⟨none, [], ls⟩ = ls.map fun l => clauseLine [l] := by
  induction ls with
  | nil =>
    rw [lines]
    rfl
  | cons l ls ih =>
    rw [lines]
    simp only [next?, List.map_cons, ih]

theorem lines_clauses (cs : List (List Lit)) (ls : List Lit) :
    lines ⟨none, cs, ls⟩ = cs.map clauseLine ++ ls.map fun l => clauseLine [l] := by
  induction cs with
  | nil => exact lines_assumptions ls
  | cons c cs ih =>
    rw [lines]
    simp only [next?, List.map_cons, List.cons_append, ih]

-- The problem line comes first, then the clauses, then the assumptions.
theorem lines_eq (e : Encoder) :
    e.lines = e.header.toList.map Header.line ++
      (e.clauses.map clauseLine ++ e.assumptions.map fun l => clauseLine [l]) := by
  obtain ⟨header, cs, ls⟩ := e
  cases header with
  | none => exact lines_clauses cs ls
  | some h =>
    rw [lines]
    simp only [next?, lines_clauses]
    rfl

theorem lines_ofFormula (f : Formula) (ls : List Lit) :
    (ofFormula f ls).lines =
      (Header.ofFormula f ls).line :: (f.clauses.map clauseLine ++ ls.map fun l => clauseLine [l]) :=
  lines_eq _

-- The encoder after a call for a line. A call that has no line to give changes nothing.
def advance (e : Encoder) : Encoder :=
  match e.next? with
  | none => e
  | some (_, e') => e'

section Calls

variable (e : Encoder)

-- The number of lines that is announced is the number of lines that come.
theorem length_lines : e.lines.length = e.length := by
  rw [lines_eq, length]
  cases e.header with
  | none => simp
  | some h =>
    simp
    omega

-- A call gives the first of the lines that are still to come, and leaves the others.
theorem next?_advance :
    e.next?.map Prod.fst = e.lines.head? ∧ e.advance.lines = e.lines.tail := by
  cases hnext : e.next? with
  | some out =>
    obtain ⟨line, e'⟩ := out
    have hlines : e.lines = line :: e'.lines := by
      rw [lines]
      split <;> simp_all
    simp only [advance, hnext, hlines]
    exact ⟨rfl, rfl⟩
  | none =>
    have hlines : e.lines = [] := by
      rw [lines]
      split <;> simp_all
    simp only [advance, hnext, hlines]
    exact ⟨rfl, rfl⟩

theorem lines_advance (k : Nat) : (advance^[k] e).lines = e.lines.drop k := by
  induction k with
  | zero => rfl
  | succ k ih =>
    rw [Function.iterate_succ_apply', (next?_advance _).2, ih, List.tail_drop]

end Calls

-- The numbers that stand in a line.
def numbersIn (line : String) : List Int := (Text.words line.toList).filterMap Text.integer?

-- The line of a clause is that of a model, and is read back as the numbers of its literals and a 0.
theorem numbersIn_clauseLine (c : List Lit) : numbersIn (clauseLine c) = c.map Lit.toInt ++ [0] := by
  have hwords : Text.words (clauseLine c).toList = modelWords c := words_modelLine c
  have hzero : Text.integer? ['0'] = some 0 := by decide
  rw [numbersIn, hwords, modelWords, List.filterMap_append, List.filterMap_map]
  simp [Lit.integer?_text, hzero]

-- A number is at most `m` in all lines of clauses if it is so in the clauses.
theorem numbersIn_le_iff {cs : List (List Lit)} {m : Nat} :
    (∀ line ∈ cs.map clauseLine, ∀ z ∈ numbersIn line, z.natAbs ≤ m) ↔
      ∀ l ∈ cs.flatten, l.var.number ≤ m := by
  simp only [List.forall_mem_map, numbersIn_clauseLine, List.forall_mem_append,
    List.forall_mem_singleton, Lit.natAbs_toInt, List.mem_flatten]
  constructor
  · rintro h l ⟨c, hc, hl⟩
    exact (h c hc).1 l hl
  · intro h c hc
    exact ⟨fun l hl => h l ⟨c, hc, hl⟩, Nat.zero_le m⟩

theorem toList_writeClause (c : List Lit) :
    (writeClause c).toList = [' '].intercalate (modelWords c) ++ ['\n'] := by
  induction c with
  | nil => rfl
  | cons l c ih =>
    have hne : modelWords c ≠ [] := by simp [modelWords]
    have hwords : modelWords (l :: c) = l.text.toList :: modelWords c := rfl
    have hwrite : writeClause (l :: c) = l.text ++ " " ++ writeClause c := rfl
    rw [hwords, List.intercalate_cons_of_ne_nil hne, hwrite, String.toList_append,
      String.toList_append, ih]
    simp

-- Blanks between the literals and a line feed after them, or one after the other.
theorem clauseLine_append (c : List Lit) : clauseLine c ++ "\n" = writeClause c := by
  have hline : (clauseLine c).toList = [' '].intercalate (modelWords c) := toList_modelLine c
  rw [← String.toList_inj, String.toList_append, hline, toList_writeClause]
  rfl

theorem sendLines_cons (line : String) (lines : List String) :
    sendLines (line :: lines) = line ++ "\n" ++ sendLines lines := rfl

theorem sendLines_append (xs ys : List String) :
    sendLines (xs ++ ys) = sendLines xs ++ sendLines ys := by
  induction xs with
  | nil => simp [sendLines]
  | cons x xs ih => simp only [List.cons_append, sendLines_cons, ih, String.append_assoc]

theorem sendLines_clauseLines (cs : List (List Lit)) :
    sendLines (cs.map clauseLine) = writeClauses cs := by
  rw [sendLines, writeClauses, List.foldr_map]
  simp only [clauseLine_append]

-- What is sent line by line is what is written at once.
theorem sendLines_ofFormula (f : Formula) (ls : List Lit) :
    sendLines (ofFormula f ls).lines = write f ls := by
  have hunits : (ls.map fun l => clauseLine [l]) = (ls.map fun l => [l]).map clauseLine := by
    rw [List.map_map]
    rfl
  rw [lines_ofFormula, sendLines_cons, sendLines_append, hunits, sendLines_clauseLines,
    sendLines_clauseLines, write, writeHeader]
  simp only [String.append_assoc]

-- Nothing of a formula but its committed clauses is encoded.
theorem ofFormula_congr {f g : Formula} (hf : Reachable f) (hg : Reachable g)
    (h : g.clauses = f.clauses) (ls : List Lit) : ofFormula g ls = ofFormula f ls := by
  obtain ⟨p, -, rfl⟩ := hf.exists_plain
  obtain ⟨q, -, rfl⟩ := hg.exists_plain
  rw [Plain.clauses_layout, Plain.clauses_layout] at h
  simp only [ofFormula, Header.ofFormula, Plain.clauses_layout, Plain.varCount_layout,
    Plain.size_layout, h]

end Encoder

-- The lines of a formula under assumptions, each ended by a line feed, are its written text: the
-- problem line, then the clauses that were committed, then the assumptions as unit clauses. The
-- problem line announces the last variable that stands in a line after it, and how many lines
-- these are. Before each call the encoder tells how many lines are to come, and after the last one
-- there never is another. An open clause has no part in all this.
theorem encoder_writes {f : Formula} (hf : Reachable f) (ls : List Lit) :
    let e := Encoder.ofFormula f ls
    let cs := f.clauses ++ ls.map (fun l => [l])
    (∃ n rest, e.lines = s!"p cnf {n} {rest.length}" :: rest ∧
      rest.map Encoder.numbersIn = cs.map (fun c => c.map Lit.toInt ++ [0]) ∧
      rest.length = f.size + ls.length ∧
      ∀ m, n ≤ m ↔ ∀ line ∈ rest, ∀ z ∈ Encoder.numbersIn line, z.natAbs ≤ m) ∧
    sendLines e.lines = write f ls ∧
    (∀ k, let e' := Encoder.advance^[k] e
      e'.next?.map Prod.fst = e.lines[k]? ∧ e'.lines = e.lines.drop k ∧
        e'.length = e'.lines.length ∧ e'.length = 1 + f.size + ls.length - k) ∧
    ∀ g, Reachable g → g.clauses = f.clauses →
      Encoder.ofFormula g ls = e ∧ write g ls = write f ls := by
  intro e cs
  have hlines : e.lines = (Header.ofFormula f ls).line :: cs.map Encoder.clauseLine := by
    rw [Encoder.lines_ofFormula, List.map_append, List.map_map]
    rfl
  have hsize : cs.length = f.size + ls.length := by
    simp only [cs, List.length_append, List.length_map, Formula.clauses, Array.length_toList]
    rfl
  have hlength : e.lines.length = 1 + f.size + ls.length := by
    rw [hlines, List.length_cons, List.length_map, hsize]
    omega
  refine ⟨⟨(Header.ofFormula f ls).varCount, cs.map Encoder.clauseLine, ?_, ?_, ?_, fun m => ?_⟩,
    Encoder.sendLines_ofFormula f ls, fun k => ?_, fun g hg hclauses => ?_⟩
  · rw [hlines, List.length_map, hsize]
    rfl
  · rw [List.map_map]
    exact List.map_congr_left fun c _ => Encoder.numbersIn_clauseLine c
  · rw [List.length_map, hsize]
  · obtain ⟨p, -, rfl⟩ := hf.exists_plain
    have hflatten : cs.flatten = p.clauses.flatten ++ ls := by
      simp [cs, ← List.flatMap_def]
    rw [Encoder.numbersIn_le_iff, hflatten, Header.ofFormula, Plain.varCount_layout,
      ← varCountWith_append, varCountWith_le_iff]
    simp
  · have hdrop := Encoder.lines_advance e k
    refine ⟨?_, hdrop, (Encoder.length_lines _).symm, ?_⟩
    · rw [(Encoder.next?_advance _).1, hdrop, List.head?_drop]
    · rw [← Encoder.length_lines, hdrop, List.length_drop, hlength]
  · have hsame := Encoder.ofFormula_congr hf hg hclauses ls
    refine ⟨hsame, ?_⟩
    rw [← Encoder.sendLines_ofFormula, hsame, Encoder.sendLines_ofFormula]

-- A clause, an open clause that is not written, and an assumption.
theorem encoder_writes_openClause :
    let f := (Formula.empty.push ⟨.ofNumber 2, false⟩).close.push ⟨.ofNumber 7, true⟩
    let e := Encoder.ofFormula f [⟨.ofNumber 3, true⟩]
    Reachable f ∧ sendLines e.lines = "p cnf 3 2\n2 0\n-3 0\n" ∧
      (Encoder.advance^[2] e).next?.map Prod.fst = some "-3 0" ∧
      (Encoder.advance^[7] e).next?.map Prod.fst = none := by
  intro f e
  have hreachable : Reachable f := (Reachable.push _ .empty).close.push _
  obtain ⟨-, htext, hcalls, -⟩ := encoder_writes hreachable [⟨.ofNumber 3, true⟩]
  have hlines : e.lines = ["p cnf 3 2", "2 0", "-3 0"] := by
    rw [Encoder.lines_ofFormula]
    decide
  refine ⟨hreachable, htext.trans (by decide), ?_, ?_⟩
  · rw [(hcalls 2).1, hlines]
    rfl
  · rw [(hcalls 7).1, hlines]
    rfl

end SatFrontend.Dimacs

import SatFrontend.Proofs.Formula.Refinement
import SatFrontend.Proofs.Operation.Addition
import SatFrontend.Proofs.Operation.Loading
import SatFrontend.Proofs.Solver.Standing

namespace SatFrontend

open Receiver (Orderly load)
open Formula (Plain Reachable)

-- What a receiver holds, however it keeps it.
structure Contents where
  clauses : List (List Lit)
  openClause : List Lit
  assumptions : List Lit
  varCount : Nat
deriving DecidableEq

-- The contents with more clauses, but for the empty ones, and with other literals left open.
def Contents.extend (k : Contents) (cs : List (List Lit)) (opened : List Lit) : Contents where
  clauses := k.clauses ++ cs.filter (fun c => !c.isEmpty)
  openClause := opened
  assumptions := k.assumptions
  varCount := varCountWith k.varCount cs.flatten

def Formula.contents (f : Formula) : Contents :=
  ⟨f.clauses, f.openClause, f.assumptions, f.varCount⟩

def LimitedFormula.contents (f : LimitedFormula) : Contents := f.formula.contents

-- The clauses of a solver are those that its engine received.
def Solver.contents {η : Type} (s : Solver (Watched η)) : Contents :=
  let received := Call.loaded s.engine.calls
  ⟨received.done, received.current, s.assumptions, s.varCount⟩

-- All the ways to give clauses to a receiver succeed alike, and they fail alike but for the
-- literals that are left open.
structure LoadsAlike {σ : Type} [Receiver σ] (files : Files) (contents : σ → Contents) (s : σ)
    (cs : List (List Lit)) : Prop where
  succeeds {op : Operation} (hop : GivesWhole cs op ∨ GivesRunning files cs op) :
    (op.perform files s).error = none ↔ ∀ l ∈ cs.flatten, l.var.number ≤ Receiver.limit s
  loaded (h : ∀ l ∈ cs.flatten, l.var.number ≤ Receiver.limit s) :
    ∃ s', contents s' = (contents s).extend cs [] ∧
      ∀ op, GivesWhole cs op ∨ GivesRunning files cs op → (op.perform files s).receiver = s'
  refused {before : List (List Lit)} {opened : List Lit}
    (h : Overrun (Receiver.limit s) cs before opened) :
    ∃ s', contents s' = (contents s).extend before [] ∧
      contents (Receiver.pushAll s' opened) = (contents s).extend before opened ∧
      (∀ op, GivesWhole cs op → (op.perform files s).receiver = s') ∧
      ∀ op, GivesRunning files cs op →
        (op.perform files s).receiver = Receiver.pushAll s' opened

def Formula.Plain.contents (p : Plain) : Contents :=
  ⟨p.clauses, p.openClause, p.assumptions, varCountWith 0 p.clauses.flatten⟩

section Plain

variable {p : Plain}

theorem Formula.pushAll_plain (p : Plain) (ls : List Lit) :
    Receiver.pushAll p ls = { p with openClause := p.openClause ++ ls } := by
  induction ls generalizing p with
  | nil => simp [Receiver.pushAll]
  | cons l ls ih =>
    have hstep : Receiver.pushAll p (l :: ls) = Receiver.pushAll (p.push l) ls := rfl
    rw [hstep, ih]
    simp [Plain.push]

theorem Formula.load_plain (hopen : p.openClause = []) (cs : List (List Lit)) :
    load p cs = { p with clauses := p.clauses ++ cs.filter (fun c => !c.isEmpty) } := by
  induction cs generalizing p with
  | nil => simp [load]
  | cons c cs ih =>
    have hstep : load p (c :: cs) =
        load ({ p with clauses := p.clauses ++ [c].filter (fun c => !c.isEmpty) } : Plain) cs := by
      obtain ⟨clauses, openClause, assumptions⟩ := p
      obtain rfl : openClause = [] := hopen
      rw [← endClause_append clauses c assumptions]
      simp only [load, List.foldl_cons, pushAll_plain]
      rfl
    refine (hstep.trans (ih hopen)).trans ?_
    simp only [List.append_assoc, ← List.filter_append]
    rfl

theorem Formula.contents_load_plain (hopen : p.openClause = []) (cs : List (List Lit))
    (opened : List Lit) :
    (Receiver.pushAll (load p cs) opened).contents = p.contents.extend cs opened := by
  rw [load_plain hopen, pushAll_plain]
  simp [Plain.contents, Contents.extend, hopen, flatten_filter, varCountWith_append]

end Plain

section Simulation

variable {σ : Type} [Receiver σ] {Related : σ → Plain → Prop} {s : σ} {p : Plain}

theorem Receiver.Simulation.load {τ : Type} [Receiver τ] {Related : σ → τ → Prop} {t : τ}
    (hsim : Receiver.Simulation Related (fun _ => True)) (h : Related s t)
    (cs : List (List Lit)) : Related (load s cs) (load t cs) := by
  induction cs generalizing s t with
  | nil => exact h
  | cons c cs ih => exact ih (hsim.endClause (hsim.pushAll h fun _ _ => trivial))

-- What goes on like plain lists holds, after a loading, what the plain lists hold.
theorem loadsAlike_of_simulation (files : Files) (horderly : Orderly σ) {contents : σ → Contents}
    (hsim : Receiver.Simulation Related (fun _ => True))
    (hcontents : ∀ s p, Related s p → contents s = p.contents) (h : Related s p)
    (hopen : p.openClause = []) (hclosed : Receiver.endClause s = s) (cs : List (List Lit)) :
    LoadsAlike files contents s cs := by
  have hextend : ∀ (before : List (List Lit)) (opened : List Lit),
      contents (Receiver.pushAll (load s before) opened) = (contents s).extend before opened := by
    intro before opened
    rw [hcontents _ _ (hsim.pushAll (hsim.load h before) fun _ _ => trivial), hcontents _ _ h]
    exact Formula.contents_load_plain hopen before opened
  constructor
  · intro op hop
    refine ⟨fun hnone => ?_, fun hwithin =>
      (Operation.perform_of_within horderly hclosed hop hwithin).1⟩
    rcases within_or_overrun (Receiver.limit s) cs with hwithin | ⟨before, opened, hover⟩
    · exact hwithin
    · rcases hop with hop | hop
      · exact absurd hnone (Operation.perform_whole_of_overrun horderly hclosed hop hover).1
      · exact absurd hnone (Operation.perform_running_of_overrun horderly hop hover).1
  · intro hwithin
    exact ⟨load s cs, hextend cs [], fun op hop =>
      (Operation.perform_of_within horderly hclosed hop hwithin).2⟩
  · intro before opened hover
    exact ⟨load s before, hextend before [], hextend before opened,
      fun op hop => (Operation.perform_whole_of_overrun horderly hclosed hop hover).2,
      fun op hop => (Operation.perform_running_of_overrun horderly hop hover).2⟩

end Simulation

section Formula

theorem Formula.close_close (f : Formula) : f.close.close = f.close := by
  have hclosed : f.close.openStart = f.close.literals.size := by
    by_cases h : f.openStart = f.literals.size
    · rwa [close, if_pos h]
    · rw [close, if_neg h]
      simp [openStart]
  exact if_pos hclosed

theorem orderly_formula : Orderly Formula where
  toSteady := steady_formula
  again := Formula.close_close

theorem orderly_limitedFormula : Orderly LimitedFormula where
  toSteady := steady_limitedFormula
  again f := congrArg (LimitedFormula.mk · f.limit) f.formula.close_close

theorem Formula.contents_layout (p : Plain) : p.layout.contents = p.contents := by
  simp [Formula.contents, Plain.contents, Plain.varCount_layout]

theorem Formula.close_layout_of_closed {p : Plain} (hopen : p.openClause = []) :
    p.layout.close = p.layout := by
  rw [p.close_layout, Plain.endClause, if_pos hopen]

theorem Formula.loadsAlike {f : Formula} (files : Files) (hf : Reachable f)
    (hopen : f.openClause = []) (cs : List (List Lit)) :
    LoadsAlike files Formula.contents f cs := by
  obtain ⟨p, hproper, rfl⟩ := hf.exists_plain
  rw [Plain.openClause_layout] at hopen
  exact loadsAlike_of_simulation files orderly_formula simulation_layout.receiver
    (fun _ p h => h.2 ▸ contents_layout p) ⟨hproper, rfl⟩ hopen (close_layout_of_closed hopen) cs

theorem LimitedFormula.simulation :
    Receiver.Simulation (fun (f : LimitedFormula) (p : Plain) => f.formula = p.layout)
      (fun _ => True) where
  allowed _ _ := trivial
  push := by
    rintro ⟨f, limit⟩ p l rfl -
    exact p.push_layout l
  endClause := by
    rintro ⟨f, limit⟩ p rfl
    exact p.close_layout
  assume := by
    rintro ⟨f, limit⟩ p l rfl -
    exact p.assume_layout l

theorem LimitedFormula.loadsAlike {f : LimitedFormula} (files : Files) (hf : Reachable f.formula)
    (hopen : f.formula.openClause = []) (cs : List (List Lit)) :
    LoadsAlike files LimitedFormula.contents f cs := by
  obtain ⟨p, -, hp⟩ := hf.exists_plain
  rw [hp, Plain.openClause_layout] at hopen
  have hclosed : Receiver.endClause f = f :=
    congrArg (LimitedFormula.mk · f.limit) (hp ▸ Formula.close_layout_of_closed hopen)
  refine loadsAlike_of_simulation files orderly_limitedFormula simulation (fun f p h => ?_) hp hopen
    hclosed cs
  rw [LimitedFormula.contents, h, Formula.contents_layout]

end Formula

section Solver

variable {η : Type} [Engine η]

theorem Engine.Steady.watched (h : Engine.Steady η) : Engine.Steady (Watched η) where
  push w l := h.push w.engine l
  endClause w := h.endClause w.engine

theorem Solver.openCount_endClause (s : Solver η) : s.endClause.openCount = 0 := by
  unfold endClause
  split
  · assumption
  · rfl

theorem Solver.openVarCount_endClause (s : Solver η) : s.endClause.openVarCount = 0 := by
  unfold endClause
  split <;> rfl

theorem orderly_solver (h : Engine.Steady η) : Orderly (Solver η) where
  toSteady := steady_solver h
  again s := Solver.endClause_of_closed s.openCount_endClause s.openVarCount_endClause

theorem Solver.simulation_mirrors (e : η) (taken : List (List Lit)) :
    Receiver.Simulation (Mirrors e taken) (fun _ => True) where
  allowed _ _ := trivial
  push h _ := h.push _
  endClause h := h.endClause
  assume h _ := h.assume _

theorem Solver.Mirrors.contents_eq {e : η} {taken : List (List Lit)} {s : Solver (Watched η)}
    {p : Plain} (h : Mirrors e taken s p) : s.contents = p.contents := by
  simp only [Solver.contents, Plain.contents, h.loaded, h.assumptions, h.varCount]

theorem Solver.loadsAlike (files : Files) (hsteady : Engine.Steady η) {e : η}
    {answers : List Answer} {r : Recorded (Solver (Watched η))} (h : Holds e answers r)
    (hcount : r.receiver.openCount = 0) (cs : List (List Lit)) :
    LoadsAlike files Solver.contents r.receiver cs := by
  obtain ⟨p, hp⟩ := h.mirrors
  have hopen : p.openClause = [] := List.length_eq_zero_iff.mp (hp.openCount.symm.trans hcount)
  have hvars : r.receiver.openVarCount = 0 := by rw [hp.openVarCount, hopen]; rfl
  exact loadsAlike_of_simulation files (orderly_solver hsteady.watched)
    (simulation_mirrors e _) (fun _ _ h => h.contents_eq) hp hopen
    (endClause_of_closed hcount hvars) cs

end Solver

-- All the ways to give clauses, by any text, from memory, whole or number by number, lead to the
-- same contents without an open clause if no literal lies above the limit. Otherwise all of them
-- fail, and those clauses with literals are committed that stand before the first literal above
-- the limit. What stands before it in its own clause is left open if the clauses were given number
-- by number. This holds for formulas with and without a limit and for solvers with any engine, as
-- long as no clause is open. The clauses of a solver are read off a record of the calls to its
-- engine, and keeping the record changes nothing.
theorem loading_alike (files : Files) (cs : List (List Lit)) :
    (∀ f, Reachable f → f.openClause = [] → LoadsAlike files Formula.contents f cs) ∧
    (∀ f : LimitedFormula, Reachable f.formula → f.formula.openClause = [] →
      LoadsAlike files LimitedFormula.contents f cs) ∧
    ∀ (η : Type) [Engine η], Engine.Steady η → ∀ (e : η) (turns : List Turn),
      let s := turns.foldl Turn.apply (Solver.ofEngine e)
      let w := (turns.foldl Turn.chronicle (Chronicle.start e)).recorded.receiver
      s = w.unwatch ∧
      (s.openCount = 0 → LoadsAlike files Solver.contents w cs) ∧
      ∀ op : Operation, (op.perform files s).error = (op.perform files w).error ∧
        (op.perform files s).receiver = (op.perform files w).receiver.unwatch := by
  refine ⟨fun f hf hopen => Formula.loadsAlike files hf hopen cs,
    fun f hf hopen => LimitedFormula.loadsAlike files hf hopen cs, ?_⟩
  intro η _ hsteady e turns s w
  obtain ⟨hs, hholds⟩ := holds_run (x := Chronicle.start e) (Solver.Holds.start e) turns
  have hs : s = w.unwatch := hs
  refine ⟨hs, fun hcount => ?_, fun op => ?_⟩
  · rw [hs] at hcount
    exact Solver.loadsAlike files hsteady hholds hcount cs
  · have halike := op.perform_alike files Solver.simulation_unwatch
      (fun _ _ h => Or.inl (congrArg Receiver.limit h).symm) (fun _ _ => trivial)
      (rfl : w.unwatch = w.unwatch)
    rw [hs]
    exact ⟨halike.error.symm, halike.receiver⟩

-- A clause, an empty one, and one with a literal above a limit of 9.
def sampleClauses : List (List Lit) :=
  [[⟨.ofNumber 1, false⟩], [], [⟨.ofNumber 2, true⟩, ⟨.ofNumber 10, false⟩]]

-- The literal is within the limit of a formula. A formula with a limit of its own refuses it, and
-- so does a solver that has a clause already.
theorem loading_alike_sampleClauses :
    let files : Files := ⟨[], [], []⟩
    let f : LimitedFormula := { limit := 9 }
    let turns := [Turn.operate files (.add [.number 3, .number 0])]
    let w := (turns.foldl Turn.chronicle
      (Chronicle.start ({ limit := 9 } : Recorder))).recorded.receiver
    let opened : List Lit := [⟨.ofNumber 2, true⟩]
    (∃ s', s'.contents = ⟨[[⟨.ofNumber 1, false⟩], [⟨.ofNumber 2, true⟩, ⟨.ofNumber 10, false⟩]],
        [], [], 10⟩ ∧ ∀ op, GivesWhole sampleClauses op ∨ GivesRunning files sampleClauses op →
          (op.perform files Formula.empty).receiver = s') ∧
    (∃ s', s'.contents = ⟨[[⟨.ofNumber 1, false⟩]], [], [], 1⟩ ∧
      (∀ op, GivesWhole sampleClauses op → (op.perform files f).receiver = s') ∧
      ∀ op, GivesRunning files sampleClauses op →
        (op.perform files f).receiver = Receiver.pushAll s' opened) ∧
    ∃ s', s'.contents = ⟨[[⟨.ofNumber 3, false⟩], [⟨.ofNumber 1, false⟩]], [], [], 3⟩ ∧
      (∀ op, GivesWhole sampleClauses op → (op.perform files w).receiver = s') ∧
      ∀ op, GivesRunning files sampleClauses op →
        (op.perform files w).receiver = Receiver.pushAll s' opened := by
  intro files f turns w opened
  have hover : Overrun 9 sampleClauses [[⟨.ofNumber 1, false⟩], []] opened :=
    ⟨by decide, ⟨.ofNumber 10, false⟩, [], [], rfl, by decide⟩
  have hrecorder : Engine.Steady Recorder := ⟨fun _ _ => rfl, fun _ => rfl⟩
  obtain ⟨hformula, hlimited, hsolver⟩ := loading_alike files sampleClauses
  obtain ⟨-, hw, -⟩ := hsolver Recorder hrecorder { limit := 9 } turns
  refine ⟨?_, ?_, ?_⟩
  · exact (hformula _ .empty rfl).loaded (by decide)
  · obtain ⟨s', hs', -, hwhole, hrunning⟩ := (hlimited f .empty rfl).refused hover
    exact ⟨s', hs', hwhole, hrunning⟩
  · obtain ⟨s', hs', -, hwhole, hrunning⟩ := (hw (by decide)).refused hover
    exact ⟨s', hs'.trans (by decide), hwhole, hrunning⟩

end SatFrontend

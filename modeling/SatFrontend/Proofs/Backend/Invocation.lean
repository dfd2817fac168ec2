import SatFrontend.Backend.ModelStream
import SatFrontend.Proofs.Dimacs.Encoder
import SatFrontend.Proofs.Formula.Refinement
import SatFrontend.Proofs.Operation.Recorded

namespace SatFrontend

namespace Parts

-- Parts that are continued by some calls.
def after (mark : Call → Mark) (p : Parts) (calls : List Call) : Parts :=
  calls.foldl (fun p c => p.add (mark c)) p

theorem after_append (mark : Call → Mark) (p : Parts) (calls : List Call) (c : Call) :
    p.after mark (calls ++ [c]) = (p.after mark calls).add (mark c) := by
  simp [after, List.foldl_append]

-- All parts that have literals, also the one that is not ended.
def whole (p : Parts) : List (List Lit) := (p.done ++ [p.current]).filter (fun c => !c.isEmpty)

end Parts

namespace Backend

open Formula

-- What is sent for clauses and assumptions on `n` variables.
def encoding (n : Nat) (cs : List (List Lit)) (ls : List Lit) : List String :=
  Dimacs.Header.line ⟨n, cs.length + ls.length⟩ ::
    (cs.map Dimacs.Encoder.clauseLine ++ ls.map fun l => Dimacs.Encoder.clauseLine [l])

theorem feedOf_layout (cs : List (List Lit)) (ls : List Lit) :
    feedOf (⟨cs, [], []⟩ : Plain).layout ls =
      encoding (varCountWith 0 (cs.flatten ++ ls)) cs ls := by
  rw [feedOf, Dimacs.Encoder.lines_ofFormula, Dimacs.Header.ofFormula, Plain.clauses_layout,
    Plain.size_layout, Plain.varCount_layout, ← varCountWith_append]
  rfl

-- One thing after the other that is done with a formula: it grows, a program is run on it, or a
-- program starts to print its models.
inductive Step where
  | operate (files : Files) (op : Operation)
  | run {α : Type} (host : Host) (b : Batch α)
  | enumerate (host : Host) (command : Command)

namespace Step

def apply (f : Formula) : Step → Formula
  | operate files op => (op.perform files f).receiver
  | run host b => (Backend.run host b f).1
  | enumerate host command => (ModelStream.start host command f).1

-- What a step adds. A step that calls a program adds nothing, no matter which program it is.
def addition : Step → Option (Files × Operation)
  | operate files op => some (files, op)
  | run .. | enumerate .. => none

-- A formula with a record of what reached it. A call of a program is a question to the formula,
-- which ends the open clause. What the program does has no part in it.
def grow (x : Recorded Formula) : Option (Files × Operation) → Recorded Formula
  | some (files, op) => (op.perform files x).receiver
  | none => ⟨x.receiver.close.forget, x.calls ++ [.endClause, .solve]⟩

def record (x : Recorded Formula) (step : Step) : Recorded Formula := grow x step.addition

theorem foldl_record (steps : List Step) (x : Recorded Formula) :
    steps.foldl record x = (steps.map addition).foldl grow x := by
  rw [List.foldl_map]
  rfl

theorem record_receiver (x : Recorded Formula) (step : Step) :
    (step.record x).receiver = step.apply x.receiver := by
  cases step with
  | operate files op => exact Recorded.perform_erase files op x
  | run host b => rfl
  | enumerate host command => rfl

end Step

-- The clauses and the assumptions of a formula are those that reached it, after what it had at
-- first.
structure Accepted (f₀ : Formula) (x : Recorded Formula) (p : Plain) : Prop where
  proper : p.Proper
  layout : x.receiver = p.layout
  clauses : ((Parts.mk f₀.clauses f₀.openClause).after Call.clauseMark x.calls).done.filter
    (fun c => !c.isEmpty) = p.clauses
  openClause :
    ((Parts.mk f₀.clauses f₀.openClause).after Call.clauseMark x.calls).current = p.openClause
  assumptions : ((Parts.mk [] f₀.assumptions).after Call.questionMark x.calls).current =
    p.assumptions

namespace Accepted

variable {f₀ : Formula} {x : Recorded Formula} {p : Plain}

theorem start (h : Reachable f₀) : ∃ p, Accepted f₀ { receiver := f₀ } p := by
  obtain ⟨p, hproper, rfl⟩ := h.exists_plain
  refine ⟨p, hproper, rfl, ?_, p.openClause_layout, rfl⟩
  rw [Parts.after, List.foldl_nil, p.clauses_layout, filter_of_ne_nil hproper]

theorem push (h : Accepted f₀ x p) (l : Lit) : Accepted f₀ (Receiver.push x l) (p.push l) where
  proper := h.proper
  layout := (congrArg (Formula.push · l) h.layout).trans (p.push_layout l)
  clauses := by
    rw [Recorded.calls_push, Parts.after_append]
    exact h.clauses
  openClause := by
    rw [Recorded.calls_push, Parts.after_append]
    exact congrArg (· ++ [l]) h.openClause
  assumptions := by
    rw [Recorded.calls_push, Parts.after_append]
    exact h.assumptions

theorem endClause (h : Accepted f₀ x p) : Accepted f₀ (Receiver.endClause x) p.endClause where
  proper := h.proper.endClause
  layout := (congrArg Formula.close h.layout).trans p.close_layout
  clauses := by
    rw [Recorded.calls_endClause, Parts.after_append]
    simp only [Call.clauseMark, Parts.add, List.filter_append, h.clauses, h.openClause]
    exact congrArg Plain.clauses (endClause_append p.clauses p.openClause p.assumptions).symm
  openClause := by
    rw [Recorded.calls_endClause, Parts.after_append, p.openClause_endClause]
    rfl
  assumptions := by
    rw [Recorded.calls_endClause, Parts.after_append, p.assumptions_endClause]
    exact h.assumptions

theorem assume (h : Accepted f₀ x p) (l : Lit) :
    Accepted f₀ (Receiver.assume x l) (p.assume l) where
  proper := h.proper
  layout := (congrArg (Formula.assume · l) h.layout).trans (p.assume_layout l)
  clauses := by
    rw [Recorded.calls_assume, Parts.after_append]
    exact h.clauses
  openClause := by
    rw [Recorded.calls_assume, Parts.after_append]
    exact h.openClause
  assumptions := by
    rw [Recorded.calls_assume, Parts.after_append]
    exact congrArg (· ++ [l]) h.assumptions

theorem preserves (f₀ : Formula) :
    Receiver.Preserves (fun x => ∃ p, Accepted f₀ x p) (fun _ => True) where
  allowed _ _ := trivial
  push := by
    rintro x l ⟨p, h⟩ -
    exact ⟨_, h.push l⟩
  endClause := by
    rintro x ⟨p, h⟩
    exact ⟨_, h.endClause⟩
  assume := by
    rintro x l ⟨p, h⟩ -
    exact ⟨_, h.assume l⟩

-- A question is put to the formula with its last clause ended, and takes the assumptions away.
theorem question (h : Accepted f₀ x p) :
    Accepted f₀ ⟨x.receiver.close.forget, x.calls ++ [.endClause, .solve]⟩ p.endClause.forget := by
  have hend := h.endClause
  have hcalls : x.calls ++ [.endClause, .solve] = (Receiver.endClause x).calls ++ [.solve] := by
    simp
  rw [hcalls]
  refine ⟨hend.proper, congrArg Formula.forget hend.layout, ?_, ?_, ?_⟩ <;>
    rw [Parts.after_append]
  · exact hend.clauses
  · exact hend.openClause
  · rfl

theorem step (h : ∃ p, Accepted f₀ x p) (step : Step) : ∃ p, Accepted f₀ (step.record x) p := by
  cases step with
  | operate files op => exact op.perform_preserves files (preserves f₀) (fun _ _ => trivial) h
  | run host b => exact h.imp' _ fun p hp => hp.question
  | enumerate host command => exact h.imp' _ fun p hp => hp.question

theorem run (h : ∃ p, Accepted f₀ x p) (steps : List Step) :
    (steps.foldl Step.record x).receiver = steps.foldl Step.apply x.receiver ∧
      ∃ p, Accepted f₀ (steps.foldl Step.record x) p := by
  induction steps generalizing x with
  | nil => exact ⟨rfl, h⟩
  | cons step steps ih =>
    rw [List.foldl_cons, List.foldl_cons, ← step.record_receiver]
    exact ih (Accepted.step h step)

theorem whole (h : Accepted f₀ x p) :
    ((Parts.mk f₀.clauses f₀.openClause).after Call.clauseMark x.calls).whole =
      p.endClause.clauses := by
  rw [Parts.whole, List.filter_append, h.clauses, h.openClause]
  exact congrArg Plain.clauses (endClause_append p.clauses p.openClause p.assumptions).symm

-- A program is called with these clauses and assumptions.
theorem taken (h : Accepted f₀ x p) :
    x.receiver.close.takeAssumptions =
      (p.assumptions, (⟨p.endClause.clauses, [], []⟩ : Plain).layout) := by
  have hforget : p.endClause.forget = ⟨p.endClause.clauses, [], []⟩ :=
    congrArg (Plain.mk p.endClause.clauses · []) p.openClause_endClause
  rw [h.layout, p.close_layout, takeAssumptions, Plain.forget_layout, hforget,
    Plain.assumptions_layout, p.assumptions_endClause]

end Accepted

-- Whatever was done with a formula before, and whatever became of the programs that were called, a
-- program is given all clauses that were accepted, in order and with the one that was open, and as
-- unit clauses the assumptions that were made since the call before. The number of variables that
-- it is told is the one that its output is understood with. Either way of calling it leaves the
-- formula of the clauses alone, which has no trace of the assumptions or of what became of the call.
theorem invocation_after_steps {f₀ : Formula} (h : Reachable f₀) (steps : List Step) :
    let f := steps.foldl Step.apply f₀
    let calls := (steps.foldl Step.record { receiver := f₀ }).calls
    let cs := ((Parts.mk f₀.clauses f₀.openClause).after Call.clauseMark calls).whole
    let ls := ((Parts.mk [] f₀.assumptions).after Call.questionMark calls).current
    let n := varCountWith 0 (cs.flatten ++ ls)
    let feed := Text.encode (Dimacs.sendLines (encoding n cs ls))
    let after := Formula.ofClauses cs
    IsVarCount n (cs.flatten ++ ls) ∧
    (∀ {α : Type} (host : Host) (b : Batch α),
      let begun := .running b.command.program cs.length ls.length
      run host b f = (after, match host.start b.command feed with
        | .error e => ([begun], .error (.start b.command.program e))
        | .ok behavior =>
          let extracted := b.extract b.command.program n behavior.finish
          (begun :: extracted.1, extracted.2))) ∧
    (∀ (host : Host) (command : Command),
      let begun := .enumerating command.program cs.length
      ModelStream.start host command f = (after, match host.start command feed with
        | .error e => ([begun], .error (.start command.program e))
        | .ok behavior => ([begun], .ok ⟨command.program, .running, [], behavior⟩))) ∧
    (after.clauses = cs ∧ after.openClause = [] ∧ after.assumptions = [] ∧
      IsVarCount after.varCount cs.flatten) ∧
    ∀ steps' : List Step, steps'.map Step.addition = steps.map Step.addition →
      steps'.foldl Step.apply f₀ = f := by
  intro f calls cs ls n feed after
  obtain ⟨hreceiver, p, hp⟩ := Accepted.run (Accepted.start h) steps
  have hcs : cs = p.endClause.clauses := hp.whole
  have hls : ls = p.assumptions := hp.assumptions
  have hafter : after = (⟨cs, [], []⟩ : Plain).layout := by
    refine ofClauses_of_ne_nil ?_
    rw [hcs]
    exact hp.proper.endClause
  have htaken : f.close.takeAssumptions = (ls, after) := by
    have hf : f = (steps.foldl Step.record { receiver := f₀ }).receiver := hreceiver.symm
    rw [hf, hp.taken, hafter, hcs, hls]
  have hfeed : feedOf after ls = encoding n cs ls := by rw [hafter, feedOf_layout]
  have hcount : varCountWith after.varCount ls = n := by
    rw [hafter, Plain.varCount_layout, ← varCountWith_append]
  have hsize : after.size = cs.length := by rw [hafter, Plain.size_layout]
  refine ⟨isVarCount_varCountWith _, fun host b => ?_, fun host command => ?_, ⟨?_, ?_, ?_, ?_⟩,
    fun steps' hsame => ?_⟩
  · simp only [run, htaken, runAssuming, runCommand, hfeed, hcount, hsize]
    cases host.start b.command feed <;> rfl
  · simp only [ModelStream.start, htaken, ModelStream.startAssuming, hfeed, hsize]
    cases host.start command feed <;> rfl
  · rw [hafter, Plain.clauses_layout]
  · rw [hafter, Plain.openClause_layout]
  · rw [hafter, Plain.assumptions_layout]
  · rw [hafter, Plain.varCount_layout]
    exact isVarCount_varCountWith _
  · rw [← (Accepted.run (Accepted.start h) steps').1, Step.foldl_record, hsame,
      ← Step.foldl_record]
    exact hreceiver

-- A formula with a clause that is open and an assumption, for a first program that does not start.
def pendingFormula : Formula :=
  (Formula.empty.push ⟨.ofNumber 2, false⟩).assume ⟨.ofNumber 7, true⟩

-- A program of which nothing but the number of variables that it was told is kept.
def told : Batch Nat where
  command := { program := "told" }
  extract _ n _ := ([], .ok n)

def refusedSteps : List Step :=
  [.run ⟨⟨[], [], []⟩, fun _ _ => .error .notFound⟩ told, .operate ⟨[], [], []⟩ (.assume [-3]),
    .operate ⟨[], [], []⟩ (.push 5)]

theorem invocation_after_refusedSteps :
    Reachable pendingFormula ∧
    encoding 5 [[⟨.ofNumber 2, false⟩], [⟨.ofNumber 5, false⟩]] [⟨.ofNumber 3, true⟩] =
      ["p cnf 5 3", "2 0", "5 0", "-3 0"] ∧
    ∀ host : Host, (run host told (refusedSteps.foldl Step.apply pendingFormula)).2 =
      match host.start told.command
        (Text.encode (Dimacs.sendLines ["p cnf 5 3", "2 0", "5 0", "-3 0"])) with
      | .error e => ([.running "told" 2 1], .error (.start "told" e))
      | .ok _ => ([.running "told" 2 1], .ok 5) := by
  have hreachable : Reachable pendingFormula := (Reachable.empty.push _).assume _
  have hencoding : encoding 5 [[⟨.ofNumber 2, false⟩], [⟨.ofNumber 5, false⟩]]
      [⟨.ofNumber 3, true⟩] = ["p cnf 5 3", "2 0", "5 0", "-3 0"] := by decide
  obtain ⟨-, hrun, -⟩ := invocation_after_steps hreachable refusedSteps
  refine ⟨hreachable, hencoding, fun host => ?_⟩
  rw [hrun host told, ← hencoding]
  rfl

end Backend

end SatFrontend

import SatFrontend.Proofs.Operation.Nothing
import SatFrontend.Proofs.Operation.Recorded
import SatFrontend.Proofs.Solver.Agreement

namespace SatFrontend

namespace Call

-- There was a question, and no literal was pushed or assumed since the last one.
def Settled (calls : List Call) : Prop :=
  ∃ before after, calls = before ++ .solve :: after ∧ .solve ∉ after ∧
    ∀ l, .push l ∉ after ∧ .assume l ∉ after

theorem not_settled_nil : ¬Settled [] := by
  rintro ⟨before, after, h, -⟩
  simp at h

theorem settled_append_solve (calls : List Call) : Settled (calls ++ [.solve]) :=
  ⟨calls, [], rfl, List.not_mem_nil, fun _ => ⟨List.not_mem_nil, List.not_mem_nil⟩⟩

theorem settled_append {calls : List Call} {c : Call} (hc : c ≠ .solve) :
    Settled (calls ++ [c]) ↔ (∀ l, c ≠ .push l ∧ c ≠ .assume l) ∧ Settled calls := by
  constructor
  · rintro ⟨before, after, h, hlast, hclean⟩
    rcases List.eq_nil_or_concat after with rfl | ⟨after, d, rfl⟩
    · exact absurd (List.append_inj' h rfl).2 (by simpa using hc)
    · rw [List.concat_eq_append, ← List.cons_append, ← List.append_assoc] at h
      obtain ⟨hcalls, hd⟩ := List.append_inj' h rfl
      obtain rfl : c = d := by simpa using hd
      simp only [List.concat_eq_append, List.mem_append, List.mem_singleton, not_or] at hlast hclean
      refine ⟨fun l => ⟨(hclean l).1.2 ∘ Eq.symm, (hclean l).2.2 ∘ Eq.symm⟩, before, after, hcalls,
        hlast.1, fun l => ⟨(hclean l).1.1, (hclean l).2.1⟩⟩
  · rintro ⟨hadds, before, after, rfl, hlast, hclean⟩
    refine ⟨before, after ++ [c], by simp, ?_, fun l => ⟨?_, ?_⟩⟩
    · simp [hlast, hc.symm]
    · simp [(hclean l).1, (hadds l).1.symm]
    · simp [(hclean l).2, (hadds l).2.symm]

end Call

-- One thing after the other that is done with a solver.
inductive Turn where
  | operate (files : Files) (op : Operation)
  | solve
  | witness

-- A solver on an engine that is watched, with a record of what reached the solver and of the
-- answers that its questions got.
structure Chronicle (η : Type) where
  recorded : Recorded (Solver (Watched η))
  answers : List Answer := []

section Chronicle

variable {η : Type} [Engine η]

def Chronicle.start (e : η) : Chronicle η := { recorded := { receiver := Solver.ofEngine ⟨e, []⟩ } }

-- A question ends the open clause first.
def Chronicle.ask (x : Chronicle η) : Chronicle η where
  recorded := ⟨x.recorded.receiver.solve.2, x.recorded.calls ++ [.endClause, .solve]⟩
  answers := x.answers ++ [x.recorded.receiver.solve.1]

theorem Chronicle.calls_ask (x : Chronicle η) :
    x.ask.recorded.calls = x.recorded.calls ++ [.endClause] ++ [.solve] := by
  simp [Chronicle.ask]

namespace Turn

def apply (s : Solver η) : Turn → Solver η
  | operate files op => (op.perform files s).receiver
  | solve => s.solve.2
  | witness => s.witness.2

def chronicle (x : Chronicle η) : Turn → Chronicle η
  | operate files op => { x with recorded := (op.perform files x.recorded).receiver }
  | solve | witness => x.ask

end Turn

namespace Solver

-- Asking for a model leaves the solver like asking for an answer alone.
theorem witness_snd (s : Solver η) : s.witness.2 = s.solve.2 := by
  unfold witness
  split <;> simp_all

theorem endClause_of_closed {s : Solver η} (hcount : s.openCount = 0)
    (hvars : s.openVarCount = 0) : s.endClause = s := by
  rw [endClause, if_pos hcount, ← hvars]

variable {e : η} {answers : List Answer}

-- What the answer of a solver stands for: nothing, or the last question, which is the last thing
-- that the engine was asked to do. Then no clause is open and nothing is assumed.
inductive Standing (e : η) (answers : List Answer) (r : Recorded (Solver (Watched η))) : Prop
  | idle (hopen : ¬Call.Settled r.calls) (hanswer : r.receiver.answer = none)
  | settled {a : Answer} {before : List Call} (hsettled : Call.Settled r.calls)
      (hanswer : r.receiver.answer = some a) (hlast : answers.getLast? = some a)
      (hcount : r.receiver.openCount = 0) (hassumptions : r.receiver.assumptions = [])
      (hengine : r.receiver.engine.calls = before ++ [.solve])
      (hasked : (Engine.solve (Call.replay e before)).1 = a)

namespace Standing

variable {r : Recorded (Solver (Watched η))}

theorem answer_eq_some_iff (h : Standing e answers r) {a : Answer} :
    r.receiver.answer = some a ↔ Call.Settled r.calls ∧ answers.getLast? = some a := by
  cases h with
  | idle hopen hnone => simp [hopen, hnone]
  | settled hsettled hsome hlast => simp [hsettled, hsome, hlast]

theorem answer_ne_none_iff (h : Standing e answers r) :
    r.receiver.answer ≠ none ↔ Call.Settled r.calls := by
  cases h with
  | idle hopen hnone => simp [hopen, hnone]
  | settled hsettled hsome => simp [hsettled, hsome]

theorem question (h : Standing e answers r) (hsome : r.receiver.answer ≠ none) :
    ∃ before, r.receiver.engine.calls = before ++ [.solve] ∧
      r.receiver.answer = some (Engine.solve (Call.replay e before)).1 := by
  cases h with
  | idle hopen hnone => exact absurd hnone hsome
  | settled hsettled hanswer hlast hcount hassumptions hengine hasked =>
    exact ⟨_, hengine, by rw [hanswer, hasked]⟩

end Standing

-- What a chronicle keeps: the calls of the engine carry the assumptions that were made between two
-- questions, and those since the last question are pending.
structure Holds (e : η) (answers : List Answer) (r : Recorded (Solver (Watched η))) : Prop where
  mirrors : ∃ p, Mirrors e (Call.asked r.calls).done r.receiver p
  pending : r.receiver.assumptions = (Call.asked r.calls).current
  standing : Standing e answers r

namespace Holds

variable {r : Recorded (Solver (Watched η))}

theorem start (e : η) : Holds e [] (Chronicle.start e).recorded where
  mirrors := ⟨{}, mirrors_ofEngine e⟩
  pending := rfl
  standing := .idle Call.not_settled_nil rfl

theorem push (h : Holds e answers r) (l : Lit) : Holds e answers (Receiver.push r l) where
  mirrors := by
    obtain ⟨p, hp⟩ := h.mirrors
    refine ⟨p.push l, ?_⟩
    rw [Recorded.calls_push, Call.asked_append]
    exact hp.push l
  pending := by
    rw [Recorded.calls_push, Call.asked_append]
    exact h.pending
  standing := by
    refine .idle (fun hsettled => ?_) rfl
    exact (((Call.settled_append (by simp)).mp hsettled).1 l).1 rfl

theorem assume (h : Holds e answers r) (l : Lit) : Holds e answers (Receiver.assume r l) where
  mirrors := by
    obtain ⟨p, hp⟩ := h.mirrors
    refine ⟨p.assume l, ?_⟩
    rw [Recorded.calls_assume, Call.asked_append]
    exact hp.assume l
  pending := by
    rw [Recorded.calls_assume, Call.asked_append]
    exact congrArg (· ++ [l]) h.pending
  standing := by
    refine .idle (fun hsettled => ?_) rfl
    exact (((Call.settled_append (by simp)).mp hsettled).1 l).2 rfl

-- The end of a clause with literals forgets the answer, but a literal has done so before. The end
-- of an empty clause does not reach the engine.
theorem standing_endClause (h : Standing e answers r) :
    Standing e answers (Receiver.endClause r) := by
  have hsettled : Call.Settled (Receiver.endClause r).calls ↔ Call.Settled r.calls :=
    (Call.settled_append (by simp)).trans (and_iff_right (by simp))
  have hreceiver : (Receiver.endClause r).receiver = r.receiver.endClause := rfl
  cases h with
  | idle hopen hanswer =>
    refine .idle (fun hrest => hopen (hsettled.mp hrest)) ?_
    rw [hreceiver, Solver.endClause]
    split
    · exact hanswer
    · rfl
  | settled hrest hanswer hlast hcount hassumptions hengine hasked =>
    have hclosed : r.receiver.endClause = { r.receiver with openVarCount := 0 } := by
      rw [Solver.endClause, if_pos hcount]
    rw [← hsettled] at hrest
    refine .settled hrest ?_ hlast ?_ ?_ ?_ hasked <;> rw [hreceiver, hclosed]
    · exact hanswer
    · exact hcount
    · exact hassumptions
    · exact hengine

theorem endClause (h : Holds e answers r) : Holds e answers (Receiver.endClause r) where
  mirrors := by
    obtain ⟨p, hp⟩ := h.mirrors
    refine ⟨p.endClause, ?_⟩
    rw [Recorded.calls_endClause, Call.asked_append]
    exact hp.endClause
  pending := by
    have hkeep : r.receiver.endClause.assumptions = r.receiver.assumptions := by
      rw [Solver.endClause]
      split <;> rfl
    rw [Recorded.calls_endClause, Call.asked_append]
    exact hkeep.trans h.pending
  standing := standing_endClause h.standing

theorem preserves (e : η) (answers : List Answer) :
    Receiver.Preserves (Holds e answers) (fun _ => True) where
  allowed _ _ := trivial
  push h _ := h.push _
  endClause h := h.endClause
  assume h _ := h.assume _

-- While there is an answer, nothing is on its way into the engine.
theorem closed (h : Holds e answers r) (hsome : r.receiver.answer ≠ none) :
    r.receiver.openCount = 0 ∧ r.receiver.openVarCount = 0 ∧
      (Call.loaded r.receiver.engine.calls).current = [] ∧ r.receiver.assumptions = [] := by
  obtain ⟨p, hp⟩ := h.mirrors
  cases h.standing with
  | idle hopen hnone => exact absurd hnone hsome
  | settled hsettled hanswer hlast hcount hassumptions =>
    have hopen : p.openClause = [] := List.length_eq_zero_iff.mp (hp.openCount.symm.trans hcount)
    exact ⟨hcount, by rw [hp.openVarCount, hopen]; rfl, by rw [hp.loaded, hopen], hassumptions⟩

theorem ask {x : Chronicle η} (h : Holds e x.answers x.recorded) :
    Holds e x.ask.answers x.ask.recorded := by
  obtain ⟨p, hp⟩ := h.mirrors
  have hcalls : Call.asked x.ask.recorded.calls =
      ⟨(Call.asked x.recorded.calls).done ++ [p.assumptions], []⟩ := by
    rw [x.calls_ask, Call.asked_append, Call.asked_append]
    simp [← h.pending, hp.assumptions]
  have hsolved := hp.solve
  refine ⟨⟨p.endClause.forget, by rwa [hcalls]⟩, by rw [hcalls]; rfl, ?_⟩
  -- what reached the engine before the question itself
  let ready := x.recorded.receiver.endClause
  have hengine : x.ask.recorded.receiver.engine.calls =
      ready.engine.calls ++ ready.assumptions.map .assume ++ [.solve] := by
    have hlast : x.ask.recorded.receiver.engine =
        (ready.assumptions.foldl Engine.assume ready.engine).call .solve := rfl
    rw [hlast, Watched.foldl_assume]
    rfl
  have hasked : (Engine.solve (Call.replay e
      (ready.engine.calls ++ ready.assumptions.map .assume))).1 = x.recorded.receiver.solve.1 := by
    rw [Call.replay_append_assume, ← hp.endClause.replay]
    have hanswer : x.recorded.receiver.solve.1 =
        (Engine.solve (ready.assumptions.foldl Engine.assume ready.engine)).1 := rfl
    rw [hanswer, Watched.foldl_assume]
    rfl
  refine .settled (a := x.recorded.receiver.solve.1) ?_ rfl ?_ ?_ rfl hengine hasked
  · rw [x.calls_ask]
    exact Call.settled_append_solve _
  · simp [Chronicle.ask]
  · exact hsolved.openCount.trans (by simp [Formula.Plain.forget])

end Holds

theorem perform_unwatch (files : Files) (op : Operation) (s : Solver (Watched η)) :
    (op.perform files s.unwatch).receiver = (op.perform files s).receiver.unwatch :=
  (op.perform_alike files simulation_unwatch
    (fun _ _ h => Or.inl (congrArg Receiver.limit h).symm) (fun _ _ => trivial) rfl).receiver

end Solver

open Solver

variable {e : η}

-- The record is kept on the side.
theorem Turn.apply_unwatch (x : Chronicle η) (turn : Turn) :
    turn.apply x.recorded.receiver.unwatch = (turn.chronicle x).recorded.receiver.unwatch := by
  cases turn with
  | operate files op =>
    rw [apply, perform_unwatch, ← Recorded.perform_erase]
    rfl
  | solve => exact congrArg Prod.snd (solve_unwatch _)
  | witness =>
    rw [apply, witness_snd]
    exact congrArg Prod.snd (solve_unwatch _)

theorem Turn.holds {x : Chronicle η} (h : Holds e x.answers x.recorded) (turn : Turn) :
    Holds e (turn.chronicle x).answers (turn.chronicle x).recorded := by
  cases turn with
  | operate files op =>
    exact op.perform_preserves files (Holds.preserves e x.answers) (fun _ _ => trivial) h
  | solve => exact h.ask
  | witness => exact h.ask

theorem holds_run {x : Chronicle η} (h : Holds e x.answers x.recorded) (turns : List Turn) :
    let y := turns.foldl Turn.chronicle x
    turns.foldl Turn.apply x.recorded.receiver.unwatch = y.recorded.receiver.unwatch ∧
      Holds e y.answers y.recorded := by
  induction turns generalizing x with
  | nil => exact ⟨rfl, h⟩
  | cons turn turns ih =>
    rw [List.foldl_cons, List.foldl_cons, turn.apply_unwatch x]
    exact ih (turn.holds h)

-- After every run, the answer of a solver is that of the last question if no literal was pushed or
-- assumed since, and there is none otherwise. While there is an answer, the question is the last
-- thing that reached the engine, no clause is open and nothing is assumed, so the model that is
-- given out is the one of this question, and what adds nothing leaves it there. A question takes
-- all pending assumptions away: the engine gets those that were made since the question before.
theorem answer_after_turns (e : η) (turns : List Turn) :
    let s := turns.foldl Turn.apply (Solver.ofEngine e)
    let x := turns.foldl Turn.chronicle (Chronicle.start e)
    let reached := x.recorded.calls
    let passed := x.recorded.receiver.engine.calls
    let satisfied := Call.Settled reached ∧ x.answers.getLast? = some .sat
    (s = x.recorded.receiver.unwatch ∧ s.engine = Call.replay e passed) ∧
    (∀ a, s.answer = some a ↔ Call.Settled reached ∧ x.answers.getLast? = some a) ∧
    (s.answer ≠ none ↔ Call.Settled reached) ∧
    (s.answer ≠ none →
      (s.openCount = 0 ∧ (Call.loaded passed).current = [] ∧ s.assumptions = []) ∧
      ∃ before, passed = before ++ [.solve] ∧
        s.answer = some (Engine.solve (Call.replay e before)).1) ∧
    (satisfied → s.model = .ok s.modelLiterals ∧ ∀ v, s.value v = .ok (s.literalOf v)) ∧
    (¬satisfied → s.model = .error .noModel ∧ ∀ v, s.value v = .error .noModel) ∧
    (∀ files (op : Operation), s.answer ≠ none → op.AddsNothing files s →
      (op.perform files s).receiver = s) ∧
    (s.solve.2.assumptions = [] ∧ s.witness.2.assumptions = []) ∧
    s.assumptions = (Call.asked reached).current ∧
    Call.asked passed = ⟨(Call.asked reached).done, []⟩ := by
  intro s x reached passed satisfied
  obtain ⟨hs, hholds⟩ := holds_run (x := Chronicle.start e) (Holds.start e) turns
  obtain ⟨p, hp⟩ := hholds.mirrors
  have hs : s = x.recorded.receiver.unwatch := hs
  have hanswer : s.answer = x.recorded.receiver.answer := by rw [hs]; rfl
  have hassumptions : s.assumptions = x.recorded.receiver.assumptions := by rw [hs]; rfl
  have hanswers : ∀ a, s.answer = some a ↔ Call.Settled reached ∧ x.answers.getLast? = some a := by
    intro a
    rw [hanswer]
    exact hholds.standing.answer_eq_some_iff
  have hhas : s.hasModel = true ↔ satisfied := by
    rw [Solver.hasModel, beq_iff_eq]
    exact hanswers .sat
  have hcloses : s.answer ≠ none → s.openCount = 0 ∧ s.openVarCount = 0 ∧
      (Call.loaded passed).current = [] ∧ s.assumptions = [] := by
    intro hsome
    rw [hanswer] at hsome
    rw [hs]
    exact hholds.closed hsome
  refine ⟨⟨hs, by rw [hs]; exact hp.replay⟩, hanswers, ?_, fun hsome => ?_, fun hmodel => ?_,
    fun hmodel => ?_, fun files op hsome hnothing => ?_, ⟨rfl, ?_⟩, hassumptions.trans hholds.pending,
    hp.asked⟩
  · rw [hanswer]
    exact hholds.standing.answer_ne_none_iff
  · obtain ⟨hcount, -, hopen, hnone⟩ := hcloses hsome
    rw [hanswer] at hsome ⊢
    exact ⟨⟨hcount, hopen, hnone⟩, hholds.standing.question hsome⟩
  · simp [Solver.model, Solver.value, hhas.mpr hmodel]
  · simp [Solver.model, Solver.value, mt hhas.mp hmodel]
  · obtain ⟨hcount, hvars, -⟩ := hcloses hsome
    exact Operation.perform_of_addsNothing (endClause_of_closed hcount hvars) hnothing
  · rw [witness_snd]
    rfl

-- A literal takes the answer away, an empty clause and a comment do not.
example :
    let files : Files := ⟨[], [], []⟩
    let asked := [Turn.operate files (.add [.clause [1, -2]]), .witness]
    let idle := [Turn.operate files (.add [.number 0, .clause []]),
      .operate files (.read (.text [99, 10])), .operate files (.assume [0, 3])]
    let s := (asked ++ idle).foldl Turn.apply (Solver.ofEngine ({ script := [.sat []] } : Recorder))
    s.answer = some .sat ∧ (Turn.apply s (.operate files (.push 3))).answer = none := by
  decide

end Chronicle

end SatFrontend

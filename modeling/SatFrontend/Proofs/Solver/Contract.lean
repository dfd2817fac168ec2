import SatFrontend.Proofs.Solver.Agreement
import SatFrontend.Proofs.Solver.Models

namespace SatFrontend

-- A literal that a call hands over lies within a limit.
def Call.Within (limit : Nat) : Call → Prop
  | push l | assume l => l.var.number ≤ limit
  | _ => True

-- An engine is asked: no clause is left open, and no literal lies above the limit.
structure Call.Asks (limit : Nat) (calls : List Call) : Prop where
  closed : (loaded calls).current = []
  within : ∀ c ∈ calls, c.Within limit

-- What is expected of an engine. It says yes only with values that make the clauses it was given
-- and the assumptions of the question true, and no only if there are no such values. It may also
-- give up.
structure Engine.Sound {η : Type} [Engine η] (e : η) : Prop where
  limit (calls : List Call) : Engine.limit (Call.replay e calls) = Engine.limit e
  sat (calls : List Call) (hasks : Call.Asks (Engine.limit e) calls)
    (hsat : (Engine.solve (Call.replay e calls)).1 = .sat) :
    let found := (Engine.solve (Call.replay e calls)).2
    (∀ v l, Engine.value found v = some l → l.var = v) ∧
      (∀ c ∈ (Call.loaded calls).done, ∃ l ∈ c, Engine.value found l.var = some l) ∧
      ∀ l ∈ (Call.asked calls).current, Engine.value found l.var = some l
  unsat (calls : List Call) (hasks : Call.Asks (Engine.limit e) calls)
    (hunsat : (Engine.solve (Call.replay e calls)).1 = .unsat) :
    ∀ a, ¬Models a (Call.loaded calls).done (Call.asked calls).current

-- An engine that always decides.
def Engine.Decides {η : Type} [Engine η] (e : η) : Prop :=
  ∀ calls, Call.Asks (Engine.limit e) calls → (Engine.solve (Call.replay e calls)).1 ≠ .unknown

namespace Solver

variable {η : Type} [Engine η] {e : η}

-- The solvers that come about from an engine without clauses, with what they were given.
inductive Reached (e : η) : Solver η → Formula.Plain → Prop
  | start : Reached e (ofEngine e) {}
  | push {s : Solver η} {p : Formula.Plain} (l : Lit) (hl : l.var.number ≤ Engine.limit e)
      (h : Reached e s p) : Reached e (s.push l) (p.push l)
  | endClause {s : Solver η} {p : Formula.Plain} (h : Reached e s p) :
      Reached e s.endClause p.endClause
  | assume {s : Solver η} {p : Formula.Plain} (l : Lit) (hl : l.var.number ≤ Engine.limit e)
      (h : Reached e s p) : Reached e (s.assume l) (p.assume l)
  | solve {s : Solver η} {p : Formula.Plain} (h : Reached e s p) :
      Reached e s.solve.2 p.endClause.forget

-- Calls that stand for a solver and for what it was given. No literal of them lies above a bound.
structure Backed (bound : Nat) (e : η) (w : Solver (Watched η)) (s : Solver η)
    (p : Formula.Plain) : Prop where
  unwatch : s = w.unwatch
  mirrors : ∃ taken, Mirrors e taken w p
  within : ∀ c ∈ w.engine.calls, c.Within bound
  assumptions : ∀ l ∈ p.assumptions, l.var.number ≤ bound

theorem within_call {w : Watched η} {limit : Nat} (h : ∀ c ∈ w.calls, c.Within limit) (c : Call)
    (hc : c.Within limit) : ∀ d ∈ (w.call c).calls, d.Within limit := by
  intro d hd
  rcases List.mem_append.mp hd with hd | hd
  · exact h d hd
  · obtain rfl := List.mem_singleton.mp hd
    exact hc

theorem backed_start (bound : Nat) (e : η) : Backed bound e (ofEngine ⟨e, []⟩) (ofEngine e) {} where
  unwatch := rfl
  mirrors := ⟨[], mirrors_ofEngine e⟩
  within := by simp [ofEngine]
  assumptions := by simp

namespace Backed

variable {bound : Nat} {w : Solver (Watched η)} {s : Solver η} {p : Formula.Plain}

theorem push (h : Backed bound e w s p) {l : Lit} (hl : l.var.number ≤ bound) :
    Backed bound e (w.push l) (s.push l) (p.push l) where
  unwatch := by rw [h.unwatch]; rfl
  mirrors := h.mirrors.imp fun _ hmirrors => hmirrors.push l
  within := within_call h.within (.push l) hl
  assumptions := h.assumptions

theorem endClause (h : Backed bound e w s p) :
    Backed bound e w.endClause s.endClause p.endClause where
  unwatch := by rw [h.unwatch, w.endClause_unwatch]
  mirrors := h.mirrors.imp fun _ hmirrors => hmirrors.endClause
  within := by
    unfold Solver.endClause
    split
    · exact h.within
    · exact within_call h.within .endClause trivial
  assumptions := by simpa using h.assumptions

theorem assume (h : Backed bound e w s p) {l : Lit} (hl : l.var.number ≤ bound) :
    Backed bound e (w.assume l) (s.assume l) (p.assume l) where
  unwatch := by rw [h.unwatch]; rfl
  mirrors := h.mirrors.imp fun _ hmirrors => hmirrors.assume l
  within := h.within
  assumptions := by
    intro k hk
    rcases List.mem_append.mp hk with hk | hk
    · exact h.assumptions k hk
    · rwa [List.mem_singleton.mp hk]

-- The calls before the question itself.
theorem within_assumed (h : Backed bound e w s p) :
    ∀ c ∈ w.endClause.engine.calls ++ p.assumptions.map Call.assume,
      c.Within bound := by
  intro c hc
  rcases List.mem_append.mp hc with hc | hc
  · exact h.endClause.within c hc
  · obtain ⟨l, hl, rfl⟩ := List.mem_map.mp hc
    exact h.assumptions l hl

theorem engine_assumed (h : Backed bound e w s p) :
    w.endClause.assumptions.foldl Engine.assume w.endClause.engine =
      ⟨Call.replay e (w.endClause.engine.calls ++ p.assumptions.map Call.assume),
        w.endClause.engine.calls ++ p.assumptions.map Call.assume⟩ := by
  obtain ⟨taken, hmirrors⟩ := h.endClause.mirrors
  rw [Watched.foldl_assume, hmirrors.assumptions, Formula.Plain.assumptions_endClause,
    Call.replay_append_assume, hmirrors.replay]

theorem solve (h : Backed bound e w s p) :
    Backed bound e w.solve.2 s.solve.2 p.endClause.forget where
  unwatch := by rw [h.unwatch, w.solve_unwatch]
  mirrors := by
    obtain ⟨taken, hmirrors⟩ := h.mirrors
    exact ⟨_, hmirrors.solve⟩
  within := by
    have hcalls : w.solve.2.engine =
        (w.endClause.assumptions.foldl Engine.assume w.endClause.engine).call .solve := rfl
    rw [hcalls, h.engine_assumed]
    exact within_call h.within_assumed .solve trivial
  assumptions := by simp [Formula.Plain.forget]

-- A question to the engine comes after exactly the clauses that the solver was given, the open one
-- included, and its assumptions.
theorem question (h : Backed bound e w s p) :
    ∃ calls, Call.Asks bound calls ∧
      (Call.loaded calls).done = p.endClause.clauses ∧
      (Call.asked calls).current = p.assumptions ∧
      s.solve.1 = (Engine.solve (Call.replay e calls)).1 ∧
      s.solve.2.engine = (Engine.solve (Call.replay e calls)).2 := by
  obtain ⟨taken, hmirrors⟩ := h.endClause.mirrors
  have hloaded : Call.loaded (w.endClause.engine.calls ++ p.assumptions.map Call.assume) =
      ⟨p.endClause.clauses, []⟩ := by
    rw [Call.loaded_append_assume, hmirrors.loaded, Formula.Plain.openClause_endClause]
  refine ⟨_, ⟨by rw [hloaded], h.within_assumed⟩, by rw [hloaded], ?_, ?_, ?_⟩
  · rw [Call.asked_append_assume, hmirrors.asked]
    rfl
  · rw [h.unwatch, w.solve_unwatch]
    have hsolve : w.solve.1 =
        (Engine.solve (w.endClause.assumptions.foldl Engine.assume w.endClause.engine)).1 := rfl
    simp only [hsolve, h.engine_assumed]
    rfl
  · rw [h.unwatch, w.solve_unwatch]
    have hcalls : w.solve.2.engine =
        (w.endClause.assumptions.foldl Engine.assume w.endClause.engine).call .solve := rfl
    simp only [Solver.unwatch, hcalls, h.engine_assumed]
    rfl

-- The variables of a model that the next question can give are those of all clauses and of the
-- assumptions.
theorem nextVarCount_eq (h : Backed bound e w s p) :
    s.nextVarCount = varCountWith 0 (p.endClause.clauses.flatten ++ p.assumptions) := by
  obtain ⟨taken, hmirrors⟩ := h.mirrors
  obtain ⟨taken', hmirrors'⟩ := h.endClause.mirrors
  have hcount : s.endClause.varCount = w.endClause.varCount := by rw [h.endClause.unwatch]; rfl
  have hassumptions : s.assumptions = w.assumptions := by rw [h.unwatch]; rfl
  rw [nextVarCount, hcount, hassumptions, hmirrors'.varCount, hmirrors.assumptions,
    varCountWith_append]

end Backed

namespace Reached

variable {s : Solver η} {p : Formula.Plain}

theorem exists_backed (h : Reached e s p) : ∃ w, Backed (Engine.limit e) e w s p := by
  induction h with
  | start => exact ⟨_, backed_start _ e⟩
  | push l hl h ih => exact ih.imp' _ fun w hw => hw.push hl
  | endClause h ih => exact ih.imp' _ fun w hw => hw.endClause
  | assume l hl h ih => exact ih.imp' _ fun w hw => hw.assume hl
  | solve h ih => exact ih.imp' _ fun w hw => hw.solve

-- A question to the engine comes after exactly the clauses that the solver was given, the open one
-- included, and its assumptions.
theorem question (h : Reached e s p) :
    ∃ calls, Call.Asks (Engine.limit e) calls ∧
      (Call.loaded calls).done = p.endClause.clauses ∧
      (Call.asked calls).current = p.assumptions ∧
      s.solve.1 = (Engine.solve (Call.replay e calls)).1 ∧
      s.solve.2.engine = (Engine.solve (Call.replay e calls)).2 := by
  obtain ⟨w, hw⟩ := h.exists_backed
  exact hw.question

theorem proper (h : Reached e s p) : p.Proper := by
  obtain ⟨w, hw⟩ := h.exists_backed
  obtain ⟨taken, hmirrors⟩ := hw.mirrors
  exact hmirrors.proper

theorem limit_eq (hsound : Engine.Sound e) (h : Reached e s p) :
    Receiver.limit s = Engine.limit e := by
  obtain ⟨w, hw⟩ := h.exists_backed
  obtain ⟨taken, hmirrors⟩ := hw.mirrors
  rw [hw.unwatch, ← hsound.limit w.engine.calls, ← hmirrors.replay]
  rfl

theorem nextVarCount_eq (h : Reached e s p) :
    s.nextVarCount = varCountWith 0 (p.endClause.clauses.flatten ++ p.assumptions) := by
  obtain ⟨w, hw⟩ := h.exists_backed
  exact hw.nextVarCount_eq

theorem within (h : Reached e s p) : p.All (·.var.number ≤ Engine.limit e) := by
  induction h with
  | start => exact ⟨by simp, by simp, by simp⟩
  | push l hl h ih => exact ih.push hl
  | endClause h ih => exact ih.endClause
  | assume l hl h ih => exact ih.assume hl
  | solve h ih => exact ih.endClause.forget

theorem preserves (hsound : Engine.Sound e) :
    Receiver.Preserves (fun s => ∃ p, Reached e s p) (·.var.number ≤ Engine.limit e) where
  allowed := by
    rintro s l ⟨p, h⟩ hle
    rwa [← h.limit_eq hsound]
  push := by
    rintro s l ⟨p, h⟩ hl
    exact ⟨_, h.push l hl⟩
  endClause := by
    rintro s ⟨p, h⟩
    exact ⟨_, h.endClause⟩
  assume := by
    rintro s l ⟨p, h⟩ hl
    exact ⟨_, h.assume l hl⟩

-- Nothing that can be done to a solver leads out of these solvers, refused or not.
theorem perform (hsound : Engine.Sound e) (h : Reached e s p) (files : Files) (op : Operation)
    (hunchecked : ∀ l, op.Unchecked l → l.var.number ≤ Engine.limit e) :
    ∃ q, Reached e (op.perform files s).receiver q :=
  op.perform_preserves files (preserves hsound) hunchecked ⟨p, h⟩

end Reached

end Solver

end SatFrontend

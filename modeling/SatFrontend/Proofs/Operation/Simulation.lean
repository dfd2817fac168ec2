import SatFrontend.Operation
import SatFrontend.Proofs.Dimacs.Simulation
import SatFrontend.Proofs.Formula.Layout

namespace SatFrontend.Operation

open Receiver

-- The variables that an operation names, as far as they are held against a limit.
def numbers (files : Files) : Operation → List Nat
  | add items => Lit.numbers (items.flatMap Item.numbers)
  | addNumber n => Lit.numbers [n]
  | addNumbers ns | addClause ns | assume ns => Lit.numbers ns
  | push _ | assumeLit _ | endClause => []
  | read source => source.numbers files

-- The literal of an operation that is not held against a limit.
def Unchecked : Operation → Lit → Prop
  | push n, l | assumeLit n, l => Lit.ofInt n = .ok l
  | _, _ => False

variable {σ τ : Type} [Receiver σ] [Receiver τ] {Related : σ → τ → Prop} {Allowed : Lit → Prop}
  {s : σ} {t : τ}

omit [Receiver σ] [Receiver τ] in
theorem attempt_alike {a : Except EntryError σ} {b : Except EntryError τ} (hrelated : Related s t)
    (h : Agree Related a b) : Dimacs.Reading.Alike Related (attempt s a) (attempt t b) := by
  cases h with
  | ok h => exact ⟨h, rfl, rfl⟩
  | error e => exact ⟨hrelated, rfl, rfl⟩

omit [Receiver σ] [Receiver τ] in
theorem partly_alike {a : σ × Option EntryError} {b : τ × Option EntryError}
    (h : Related a.1 b.1 ∧ a.2 = b.2) : Dimacs.Reading.Alike Related (partly a) (partly b) :=
  ⟨h.1, rfl, congrArg (Option.map Dimacs.ReadError.entry) h.2⟩

-- What a simulation of the four primitives gives for every operation: the same refusals and
-- notices on both sides, and related receivers after them.
theorem perform_alike (files : Files) {op : Operation} (hsim : Simulation Related Allowed)
    (hnear : ∀ s t, Related s t → Near (op.numbers files) s t)
    (hunchecked : ∀ l, op.Unchecked l → Allowed l) (h : Related s t) :
    Dimacs.Reading.Alike Related (op.perform files s) (op.perform files t) := by
  cases op with
  | add items =>
    refine partly_alike (runAll_related (fun item hitem s t h => ?_) h)
    refine hsim.addItem h (hnear s t h) ?_
    intro n hn
    exact List.mem_flatMap.mpr ⟨item, hitem, hn⟩
  | addNumber n => exact attempt_alike h (hsim.addNumber h (hnear s t h) List.mem_cons_self)
  | addNumbers ns => exact attempt_alike h (hsim.addNumbers h (hnear s t h) (List.Subset.refl ns))
  | addClause ns =>
    refine attempt_alike h ?_
    cases hls : Lit.ofInts ns with
    | error e => exact .error e
    | ok ls =>
      refine hsim.addClause h (hnear s t h) fun l hl => ?_
      rw [← Lit.map_toInt_of_ofInts hls]
      exact List.mem_map_of_mem hl
  | push n =>
    refine attempt_alike h ?_
    cases hl : Lit.ofInt n with
    | error e => exact .error e
    | ok l => exact .ok (hsim.push h (hunchecked l hl))
  | endClause => exact ⟨hsim.endClause h, rfl, rfl⟩
  | assume ns =>
    refine partly_alike (runAll_related (fun n hn s t h => ?_) h)
    exact hsim.assumeNumber h (hnear s t h) hn
  | assumeLit n =>
    refine attempt_alike h ?_
    cases hl : Lit.ofInt n with
    | error e => exact .error e
    | ok l => exact .ok (hsim.assume h (hunchecked l hl))
  | read source => exact Dimacs.read_alike files hsim hnear h

-- What the four primitives preserve, every operation preserves.
theorem perform_preserves (files : Files) {op : Operation} {P : σ → Prop}
    (hkeep : Preserves P Allowed) (hunchecked : ∀ l, op.Unchecked l → Allowed l) (h : P s) :
    P (op.perform files s).receiver :=
  (op.perform_alike files hkeep.simulation (fun _ _ h => Or.inl (congrArg limit h.1)) hunchecked
    ⟨rfl, h⟩).receiver.2

end SatFrontend.Operation

namespace SatFrontend.Formula

theorem Reachable.preserves : Receiver.Preserves Reachable (fun _ => True) where
  allowed _ _ := trivial
  push h _ := h.push _
  endClause h := h.close
  assume h _ := h.assume _

-- Every operation leads from formulas that can come about to such formulas.
theorem Reachable.perform {f : Formula} (h : Reachable f) (files : Files) (op : Operation) :
    Reachable (op.perform files f).receiver :=
  op.perform_preserves files Reachable.preserves (fun _ _ => trivial) h

end SatFrontend.Formula

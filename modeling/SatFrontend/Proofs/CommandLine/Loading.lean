import SatFrontend.Proofs.Dimacs.RoundTrip
import SatFrontend.Proofs.Solver.Enumeration

namespace SatFrontend

open Formula (Plain Reachable)

-- Each of the literals as a clause of its own.
def units (ls : List Lit) : List (List Lit) := ls.map (fun l => [l])

@[simp] theorem flatten_units (ls : List Lit) : (units ls).flatten = ls := by
  simp [units, ← List.flatMap_def]

-- A unit clause says the same as an assumption.
theorem models_units_iff {a : Var → Bool} {cs : List (List Lit)} {ls ms : List Lit} :
    Models a (cs ++ units ls) ms ↔ Models a cs (ls ++ ms) := by
  simp only [Models, units, List.mem_append, List.mem_map]
  constructor
  · rintro ⟨hclauses, hassumptions⟩
    refine ⟨fun c hc => hclauses c (Or.inl hc), fun l hl => ?_⟩
    rcases hl with hl | hl
    · obtain ⟨k, hk, hholds⟩ := hclauses [l] (Or.inr ⟨l, hl, rfl⟩)
      rwa [← List.mem_singleton.mp hk]
    · exact hassumptions l hl
  · rintro ⟨hclauses, hassumptions⟩
    refine ⟨fun c hc => ?_, fun l hl => hassumptions l (Or.inr hl)⟩
    rcases hc with hc | ⟨l, hl, rfl⟩
    · exact hclauses c hc
    · exact ⟨l, List.mem_singleton_self l, hassumptions l (Or.inl hl)⟩

theorem isModel_units_iff {n : Nat} {cs : List (List Lit)} {ls ms m : List Lit} :
    IsModel n (cs ++ units ls) ms m ↔ IsModel n cs (ls ++ ms) m := by
  constructor
  · rintro ⟨hvars, hclauses, hassumptions⟩
    refine ⟨hvars, fun c hc => hclauses c (List.mem_append_left _ hc), fun l hl => ?_⟩
    rcases List.mem_append.mp hl with hl | hl
    · obtain ⟨k, hk, hmem⟩ := hclauses [l]
        (List.mem_append_right _ (List.mem_map.mpr ⟨l, hl, rfl⟩))
      rwa [← List.mem_singleton.mp hk]
    · exact hassumptions l hl
  · rintro ⟨hvars, hclauses, hassumptions⟩
    refine ⟨hvars, fun c hc => ?_, fun l hl => hassumptions l (List.mem_append_right _ hl)⟩
    rcases List.mem_append.mp hc with hc | hc
    · exact hclauses c hc
    · obtain ⟨l, hl, rfl⟩ := List.mem_map.mp hc
      exact ⟨l, List.mem_singleton_self l, hassumptions l (List.mem_append_left _ hl)⟩

-- The variables of a formula and its assumptions, however the assumptions are told.
theorem varCountWith_units {f : Formula} (hf : Reachable f) (ls ms : List Lit) :
    varCountWith 0 ((f.clauses ++ units ls).flatten ++ ms) =
      varCountWith f.varCount (ls ++ ms) := by
  obtain ⟨p, -, rfl⟩ := hf.exists_plain
  rw [Plain.clauses_layout, Plain.varCount_layout, List.flatten_append, flatten_units,
    List.append_assoc, varCountWith_append]

namespace Solver

variable {η : Type} [Engine η] {e : η}

theorem Reached.foldl_clauses {s : Solver η} {p : Plain} (h : Reached e s p)
    (hopen : p.openClause = []) {cs : List (List Lit)} (hne : ∀ c ∈ cs, c ≠ [])
    (hwithin : ∀ l ∈ cs.flatten, l.var.number ≤ Engine.limit e) :
    Reached e (cs.foldl (fun s c => Receiver.endClause (Receiver.pushAll s c)) s)
      { p with clauses := p.clauses ++ cs } := by
  induction cs generalizing s p with
  | nil => simpa using h
  | cons c cs ih =>
    obtain ⟨hc, hcs⟩ := List.forall_mem_cons.mp hne
    rw [List.flatten_cons] at hwithin
    have hfirst := (h.pushAll fun l hl => hwithin l (List.mem_append_left _ hl)).endClause
    have hplain : ({ p with openClause := p.openClause ++ c } : Plain).endClause =
        { p with clauses := p.clauses ++ [c] } := by
      simp [Plain.endClause, hopen, hc]
    rw [hplain] at hfirst
    have hrest := ih hfirst hopen hcs fun l hl => hwithin l (List.mem_append_right _ hl)
    rw [List.append_assoc] at hrest
    exact hrest

-- A written formula is loaded as it is, with the assumptions as clauses.
theorem reached_of_write {f : Formula} (hf : Reachable f) {ls : List Lit}
    (hwithin : ∀ l ∈ f.clauses.flatten ++ ls, l.var.number ≤ Engine.limit e) :
    let reading := Dimacs.readText (.ofBytes (Text.encode (Dimacs.write f ls))) (ofEngine e)
    reading.error = none ∧ Reached e reading.receiver ⟨f.clauses ++ units ls, [], []⟩ := by
  intro reading
  have hall : ∀ l ∈ (f.clauses ++ units ls).flatten, l.var.number ≤ Engine.limit e := by
    rwa [List.flatten_append, flatten_units]
  have hfits : ∀ c ∈ f.clauses ++ units ls, ∀ l ∈ c, l.var.number ≤ Receiver.limit (ofEngine e) :=
    fun c hc l hl => hall l (List.mem_flatten.mpr ⟨c, hc, hl⟩)
  have hne : ∀ c ∈ f.clauses ++ units ls, c ≠ [] := by
    intro c hc
    rcases List.mem_append.mp hc with hc | hc
    · obtain ⟨p, hproper, rfl⟩ := hf.exists_plain
      rw [Plain.clauses_layout] at hc
      exact hproper c hc
    · obtain ⟨l, -, rfl⟩ := List.mem_map.mp hc
      simp
  obtain ⟨herror, hreceiver, -⟩ := Dimacs.readText_write (Dimacs.Header.ofFormula f ls) hfits
  rw [units, ← Dimacs.write_eq] at herror hreceiver
  refine ⟨herror, ?_⟩
  rw [hreceiver]
  exact Reached.start.foldl_clauses rfl hne hall

end Solver

end SatFrontend

import SatFrontend.Formula

namespace SatFrontend.Formula

-- A formula as plain lists. This is what its row of literals and its spans stand for.
structure Plain where
  clauses : List (List Lit) := []
  openClause : List Lit := []
  assumptions : List Lit := []
deriving DecidableEq

namespace Plain

-- Committed clauses have literals.
def Proper (p : Plain) : Prop := ∀ c ∈ p.clauses, c ≠ []

def push (p : Plain) (l : Lit) : Plain := { p with openClause := p.openClause ++ [l] }

def endClause (p : Plain) : Plain :=
  if p.openClause = [] then p
  else { p with clauses := p.clauses ++ [p.openClause], openClause := [] }

def assume (p : Plain) (l : Lit) : Plain := { p with assumptions := p.assumptions ++ [l] }

def forget (p : Plain) : Plain := { p with assumptions := [] }

instance : Receiver Plain where
  limit _ := Var.maxCount
  push := push
  endClause := endClause
  assume := assume

-- The spans of clauses that stand one after the other, the first of them at `start`.
def spansFrom : Nat → List (List Lit) → List Span
  | _, [] => []
  | start, c :: cs => ⟨start, start + c.length⟩ :: spansFrom (start + c.length) cs

-- The formula of plain lists.
def layout (p : Plain) : Formula where
  varCount := varCountWith 0 p.clauses.flatten
  literals := (p.clauses.flatten ++ p.openClause).toArray
  spans := (spansFrom 0 p.clauses).toArray
  assumptions := p.assumptions

theorem spansFrom_append (start : Nat) (cs ds : List (List Lit)) :
    spansFrom start (cs ++ ds) =
      spansFrom start cs ++ spansFrom (start + cs.flatten.length) ds := by
  induction cs generalizing start with
  | nil => simp [spansFrom]
  | cons c cs ih => simp [spansFrom, ih, Nat.add_assoc]

theorem length_spansFrom (start : Nat) (cs : List (List Lit)) :
    (spansFrom start cs).length = cs.length := by
  induction cs generalizing start with
  | nil => rfl
  | cons c cs ih => simp [spansFrom, ih]

-- The spans cut the row of literals into the clauses again.
theorem map_clauseAt_spansFrom (f : Formula) (before after : List Lit) (cs : List (List Lit))
    (h : f.literals.toList = before ++ cs.flatten ++ after) :
    (spansFrom before.length cs).map f.clauseAt = cs := by
  induction cs generalizing before with
  | nil => rfl
  | cons c cs ih =>
    have hrest := ih (before ++ c) (by simpa using h)
    rw [List.length_append] at hrest
    have hhead : f.clauseAt ⟨before.length, before.length + c.length⟩ = c := by
      simp only [clauseAt, Array.toList_extract, h, List.extract_eq_take_drop]
      simp [List.append_assoc]
    simp only [spansFrom, List.map_cons, hhead, hrest]

@[simp] theorem clauses_layout (p : Plain) : p.layout.clauses = p.clauses :=
  map_clauseAt_spansFrom p.layout [] p.openClause p.clauses (by simp [layout])

theorem openStart_layout (p : Plain) : p.layout.openStart = p.clauses.flatten.length := by
  rcases p.clauses.eq_nil_or_concat with h | ⟨cs, c, h⟩
  · simp [openStart, layout, h, spansFrom]
  · simp [openStart, layout, h, spansFrom_append, spansFrom]

@[simp] theorem openClause_layout (p : Plain) : p.layout.openClause = p.openClause := by
  rw [Formula.openClause, openStart_layout]
  simp [layout, List.extract_eq_take_drop]

@[simp] theorem assumptions_layout (p : Plain) : p.layout.assumptions = p.assumptions := rfl

@[simp] theorem size_layout (p : Plain) : p.layout.size = p.clauses.length := by
  simp [size, layout, length_spansFrom]

theorem varCount_layout (p : Plain) : p.layout.varCount = varCountWith 0 p.clauses.flatten := rfl

theorem push_layout (p : Plain) (l : Lit) : p.layout.push l = (p.push l).layout := by
  simp [Formula.push, push, layout]

theorem close_layout (p : Plain) : p.layout.close = p.endClause.layout := by
  have hsize : p.layout.literals.size = p.clauses.flatten.length + p.openClause.length := by
    simp [layout]
  unfold Formula.close endClause
  rw [openStart_layout, openClause_layout, hsize]
  by_cases h : p.openClause = []
  · simp [h]
  · have hne : p.openClause.length ≠ 0 := by simpa using h
    rw [if_neg (by omega), if_neg h]
    simp [layout, spansFrom_append, spansFrom, varCountWith]

theorem assume_layout (p : Plain) (l : Lit) : p.layout.assume l = (p.assume l).layout := rfl

theorem forget_layout (p : Plain) : p.layout.forget = p.forget.layout := rfl

theorem empty_layout : Formula.empty = ({} : Plain).layout := rfl

@[simp] theorem openClause_endClause (p : Plain) : p.endClause.openClause = [] := by
  unfold Plain.endClause
  split
  · assumption
  · rfl

@[simp] theorem assumptions_endClause (p : Plain) : p.endClause.assumptions = p.assumptions := by
  unfold Plain.endClause
  split <;> rfl

theorem Proper.endClause {p : Plain} (h : p.Proper) : p.endClause.Proper := by
  unfold Plain.endClause
  split
  · exact h
  · rename_i hopen
    intro c hc
    rcases List.mem_append.mp hc with hc | hc
    · exact h c hc
    · rwa [List.mem_singleton.mp hc]

-- Every literal of plain lists has a property.
structure All (P : Lit → Prop) (p : Plain) : Prop where
  clauses : ∀ c ∈ p.clauses, ∀ l ∈ c, P l
  openClause : ∀ l ∈ p.openClause, P l
  assumptions : ∀ l ∈ p.assumptions, P l

namespace All

variable {P : Lit → Prop} {p : Plain}

theorem push (h : p.All P) {l : Lit} (hl : P l) : (p.push l).All P :=
  { h with openClause := List.forall_mem_append.mpr ⟨h.openClause, by simpa using hl⟩ }

theorem endClause (h : p.All P) : p.endClause.All P := by
  unfold Plain.endClause
  split
  · exact h
  · refine ⟨List.forall_mem_append.mpr ⟨h.clauses, ?_⟩, by simp, h.assumptions⟩
    simpa using h.openClause

theorem assume (h : p.All P) {l : Lit} (hl : P l) : (p.assume l).All P :=
  { h with assumptions := List.forall_mem_append.mpr ⟨h.assumptions, by simpa using hl⟩ }

theorem forget (h : p.All P) : p.forget.All P :=
  { h with assumptions := by simp [Plain.forget] }

end All

end Plain

-- The formulas that can come about, from the empty one, by what can be done to a formula.
inductive Reachable : Formula → Prop
  | empty : Reachable Formula.empty
  | push {f : Formula} (l : Lit) (h : Reachable f) : Reachable (f.push l)
  | close {f : Formula} (h : Reachable f) : Reachable f.close
  | assume {f : Formula} (l : Lit) (h : Reachable f) : Reachable (f.assume l)
  | forget {f : Formula} (h : Reachable f) : Reachable f.forget

-- Every formula that can come about is the layout of plain lists.
theorem Reachable.exists_plain {f : Formula} (h : Reachable f) :
    ∃ p : Plain, p.Proper ∧ f = p.layout := by
  induction h with
  | empty => exact ⟨{}, by simp [Plain.Proper], rfl⟩
  | push l h ih =>
    obtain ⟨p, hproper, rfl⟩ := ih
    exact ⟨p.push l, hproper, p.push_layout l⟩
  | close h ih =>
    obtain ⟨p, hproper, rfl⟩ := ih
    exact ⟨p.endClause, hproper.endClause, p.close_layout⟩
  | assume l h ih =>
    obtain ⟨p, hproper, rfl⟩ := ih
    exact ⟨p.assume l, hproper, p.assume_layout l⟩
  | forget h ih =>
    obtain ⟨p, hproper, rfl⟩ := ih
    exact ⟨p.forget, hproper, p.forget_layout⟩

-- The plain lists of committed clauses, without the empty ones.
def Plain.ofClauses (cs : List (List Lit)) : Plain where
  clauses := cs.filter (fun c => !c.isEmpty)

theorem filter_of_ne_nil {cs : List (List Lit)} (h : ∀ c ∈ cs, c ≠ []) :
    cs.filter (fun c => !c.isEmpty) = cs := by
  rw [List.filter_eq_self]
  intro c hc
  simpa using h c hc

theorem flatten_filter (cs : List (List Lit)) :
    (cs.filter (fun c => !c.isEmpty)).flatten = cs.flatten := by
  induction cs with
  | nil => rfl
  | cons c cs ih => cases c <;> simp [ih]

theorem Plain.Proper.eq_ofClauses {p : Plain} (h : p.Proper) (hopen : p.openClause = [])
    (hassumed : p.assumptions = []) : p = Plain.ofClauses p.clauses := by
  have hfilter := filter_of_ne_nil h
  obtain ⟨clauses, openClause, assumptions⟩ := p
  subst hopen hassumed
  rw [ofClauses, hfilter]

theorem pushAll_layout (p : Plain) (ls : List Lit) :
    Receiver.pushAll p.layout ls =
      ({ p with openClause := p.openClause ++ ls } : Plain).layout := by
  induction ls generalizing p with
  | nil => simp [Receiver.pushAll]
  | cons l ls ih =>
    have hstep : Receiver.pushAll p.layout (l :: ls) = Receiver.pushAll (p.push l).layout ls := by
      rw [← p.push_layout l]
      rfl
    rw [hstep, ih]
    simp [Plain.push]

-- Pushing the literals of a clause and ending it commits the clause unless it is empty.
theorem endClause_append (ds : List (List Lit)) (c assumptions : List Lit) :
    (⟨ds, [] ++ c, assumptions⟩ : Plain).endClause =
      ⟨ds ++ [c].filter (fun c => !c.isEmpty), [], assumptions⟩ := by
  by_cases hc : c = [] <;> simp [Plain.endClause, hc]

theorem ofClauses_eq_layout (cs : List (List Lit)) : ofClauses cs = (Plain.ofClauses cs).layout := by
  have hrun : ∀ ds : List (List Lit),
      cs.foldl (fun f c => (Receiver.pushAll f c).close) (⟨ds, [], []⟩ : Plain).layout =
        (⟨ds ++ cs.filter (fun c => !c.isEmpty), [], []⟩ : Plain).layout := by
    induction cs with
    | nil => simp
    | cons c cs ih =>
      intro ds
      rw [List.foldl_cons, pushAll_layout, Plain.close_layout, endClause_append, ih,
        List.append_assoc, ← List.filter_append]
      rfl
  exact hrun []

theorem ofClauses_of_ne_nil {cs : List (List Lit)} (h : ∀ c ∈ cs, c ≠ []) :
    ofClauses cs = (⟨cs, [], []⟩ : Plain).layout := by
  rw [ofClauses_eq_layout, Plain.ofClauses, filter_of_ne_nil h]

end SatFrontend.Formula

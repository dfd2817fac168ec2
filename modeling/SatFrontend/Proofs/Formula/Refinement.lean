import Mathlib.Data.List.Chain
import Mathlib.Data.List.Forall2
import SatFrontend.Proofs.Solver.Agreement

namespace SatFrontend

-- The number of the last variable of some literals, 0 without literals.
structure IsVarCount (n : Nat) (ls : List Lit) : Prop where
  bound : ∀ l ∈ ls, l.var.number ≤ n
  attained : n = 0 ∨ ∃ l ∈ ls, l.var.number = n

theorem isVarCount_varCountWith (ls : List Lit) : IsVarCount (varCountWith 0 ls) ls := by
  induction ls with
  | nil => exact ⟨by simp, Or.inl rfl⟩
  | cons l ls ih =>
    have hpos := l.var.number_pos
    have hmax : varCountWith 0 (l :: ls) = max l.var.number (varCountWith 0 ls) := by
      have hstep : varCountWith 0 (l :: ls) = varCountWith (max 0 l.var.number) ls := rfl
      rw [hstep, varCountWith_eq_max, Nat.zero_max]
    rw [hmax]
    constructor
    · intro k hk
      rcases List.mem_cons.mp hk with rfl | hk
      · exact Nat.le_max_left _ _
      · exact Nat.le_trans (ih.bound k hk) (Nat.le_max_right _ _)
    · refine Or.inr ?_
      by_cases hle : varCountWith 0 ls ≤ l.var.number
      · exact ⟨l, List.mem_cons_self, (Nat.max_eq_left hle).symm⟩
      · have hlt : l.var.number ≤ varCountWith 0 ls := by omega
        obtain ⟨k, hk, heq⟩ := ih.attained.resolve_left (by omega)
        exact ⟨k, List.mem_cons_of_mem _ hk, by rw [heq, Nat.max_eq_right hlt]⟩

theorem IsVarCount.unique {m n : Nat} {ls : List Lit} (hm : IsVarCount m ls)
    (hn : IsVarCount n ls) : m = n := by
  have hle : ∀ {a b : Nat}, IsVarCount a ls → IsVarCount b ls → a ≤ b := by
    intro a b ha hb
    rcases ha.attained with rfl | ⟨l, hl, rfl⟩
    · exact Nat.zero_le b
    · exact hb.bound l hl
  exact Nat.le_antisymm (hle hm hn) (hle hn hm)

-- Spans that follow each other from the beginning of a row of literals. None of them is empty,
-- and none reaches beyond the end of the row.
structure Tiles (spans : List Span) (length : Nat) : Prop where
  nonempty : ∀ s ∈ spans, s.start < s.stop
  first : ∀ s ∈ spans.head?, s.start = 0
  adjacent : spans.IsChain (fun s t => s.stop = t.start)
  within : ∀ s ∈ spans, s.stop ≤ length

-- What clauses can be collected in: besides what a receiver is given, it can be closed, it can
-- give away its assumptions, and it can be made of clauses at once.
class Store (σ : Type) [Receiver σ] where
  empty : σ
  close : σ → σ
  takeAssumptions : σ → List Lit × σ
  ofClauses : List (List Lit) → σ

-- One thing that is done to a store. The files may be others each time.
inductive Change where
  | operate (files : Files) (op : Operation)
  | close
  | takeAssumptions
  | ofClauses (cs : List (List Lit))

-- A store, what came of everything that was done to it, and the assumptions that it gave away.
structure Account (σ : Type) extends Track σ where
  taken : List (List Lit) := []

section Run

variable {σ τ : Type} [Receiver σ] [Store σ] [Receiver τ] [Store τ]

def Change.apply (x : Account σ) : Change → Account σ
  | operate files op => { x with toTrack := x.toTrack.operate files op }
  | close => { x with receiver := Store.close x.receiver }
  | takeAssumptions =>
    let (taken, s) := Store.takeAssumptions x.receiver
    { x with receiver := s, taken := x.taken ++ [taken] }
  | ofClauses cs => { x with receiver := Store.ofClauses cs }

-- Do one thing after the other, from an empty store on.
def Store.run (σ : Type) [Receiver σ] [Store σ] (changes : List Change) : Account σ :=
  changes.foldl Change.apply { receiver := Store.empty }

-- Stores that stay related whatever is done to both of them, and give away the same assumptions.
structure Store.Simulation (Related : σ → τ → Prop) : Prop where
  receiver : Receiver.Simulation Related (fun _ => True)
  limit {s : σ} {t : τ} (h : Related s t) : Receiver.limit s = Receiver.limit t
  empty : Related Store.empty Store.empty
  close {s : σ} {t : τ} (h : Related s t) : Related (Store.close s) (Store.close t)
  takeAssumptions {s : σ} {t : τ} (h : Related s t) :
    (Store.takeAssumptions s).1 = (Store.takeAssumptions t).1 ∧
      Related (Store.takeAssumptions s).2 (Store.takeAssumptions t).2
  ofClauses (cs : List (List Lit)) : Related (Store.ofClauses cs) (Store.ofClauses cs)

-- Accounts with related stores that tell the same.
structure Account.Alike (Related : σ → τ → Prop) (x : Account σ) (y : Account τ) : Prop where
  receiver : Related x.receiver y.receiver
  results : x.results = y.results
  taken : x.taken = y.taken

namespace Store.Simulation

variable {Related : σ → τ → Prop}

theorem apply_alike (hsim : Store.Simulation Related) (change : Change) {x : Account σ}
    {y : Account τ} (h : x.Alike Related y) : (change.apply x).Alike Related (change.apply y) := by
  cases change with
  | operate files op =>
    have halike := op.perform_alike files hsim.receiver (fun _ _ h => Or.inl (hsim.limit h))
      (fun _ _ => trivial) h.receiver
    obtain ⟨hreceiver, hresults⟩ := Track.operate_alike files halike h.results
    exact ⟨hreceiver, hresults, h.taken⟩
  | close => exact ⟨hsim.close h.receiver, h.results, h.taken⟩
  | takeAssumptions =>
    obtain ⟨htaken, hreceiver⟩ := hsim.takeAssumptions h.receiver
    refine ⟨hreceiver, h.results, ?_⟩
    simp only [Change.apply, h.taken, htaken]
  | ofClauses cs => exact ⟨hsim.ofClauses cs, h.results, h.taken⟩

theorem run_alike (hsim : Store.Simulation Related) (changes : List Change) :
    (Store.run σ changes).Alike Related (Store.run τ changes) := by
  have hrun : ∀ (x : Account σ) (y : Account τ), x.Alike Related y →
      (changes.foldl Change.apply x).Alike Related (changes.foldl Change.apply y) := by
    induction changes with
    | nil => exact fun x y h => h
    | cons change changes ih => exact fun x y h => ih _ _ (hsim.apply_alike change h)
  exact hrun _ _ ⟨hsim.empty, rfl, rfl⟩

end Store.Simulation

end Run

namespace Formula

instance : Store Formula where
  empty := empty
  close := close
  takeAssumptions := takeAssumptions
  ofClauses := ofClauses

instance : Store Plain where
  empty := {}
  close := Plain.endClause
  takeAssumptions p := (p.assumptions, p.forget)
  ofClauses := Plain.ofClauses

-- The literals that a store accepted in the order in which they came, however they were cut into
-- clauses, and how often a clause with literals was committed.
structure Tally where
  accepted : List Lit := []
  -- those after the last commit
  openCount : Nat := 0
  commits : Nat := 0
  assumptions : List Lit := []

namespace Tally

def push (t : Tally) (l : Lit) : Tally :=
  { t with accepted := t.accepted ++ [l], openCount := t.openCount + 1 }

def endClause (t : Tally) : Tally :=
  if t.openCount = 0 then t else { t with openCount := 0, commits := t.commits + 1 }

def assume (t : Tally) (l : Lit) : Tally := { t with assumptions := t.assumptions ++ [l] }

instance : Receiver Tally where
  limit _ := Var.maxCount
  push := push
  endClause := endClause
  assume := assume

instance : Store Tally where
  empty := {}
  close := endClause
  takeAssumptions t := (t.assumptions, { t with assumptions := [] })
  ofClauses cs := { accepted := cs.flatten, commits := cs.countP (!·.isEmpty) }

end Tally

-- Plain lists hold what a tally counts.
structure Tallied (p : Plain) (t : Tally) : Prop where
  proper : p.Proper
  accepted : t.accepted = p.clauses.flatten ++ p.openClause
  openCount : t.openCount = p.openClause.length
  commits : t.commits = p.clauses.length
  assumptions : t.assumptions = p.assumptions

theorem Tallied.endClause {p : Plain} {t : Tally} (h : Tallied p t) :
    Tallied p.endClause t.endClause := by
  by_cases hopen : p.openClause = []
  · have hzero : t.openCount = 0 := by simp [h.openCount, hopen]
    rw [Plain.endClause, if_pos hopen, Tally.endClause, if_pos hzero]
    exact h
  · have hne : t.openCount ≠ 0 := by simpa [h.openCount] using hopen
    have hproper := h.proper.endClause
    rw [Plain.endClause, if_neg hopen] at hproper ⊢
    rw [Tally.endClause, if_neg hne]
    exact ⟨hproper, by simp [h.accepted], rfl, by simp [h.commits], h.assumptions⟩

theorem simulation_tally : Store.Simulation Tallied where
  receiver :=
    { allowed := fun _ _ => trivial
      push := fun h _ => ⟨h.proper, by simp [Receiver.push, Tally.push, Plain.push, h.accepted],
        by simp [Receiver.push, Tally.push, Plain.push, h.openCount], h.commits, h.assumptions⟩
      endClause := fun h => h.endClause
      assume := fun h _ => ⟨h.proper, h.accepted, h.openCount, h.commits,
        by simp [Receiver.assume, Tally.assume, Plain.assume, h.assumptions]⟩ }
  limit _ := rfl
  empty := ⟨by simp [Plain.Proper, Store.empty], rfl, rfl, rfl, rfl⟩
  close h := h.endClause
  takeAssumptions h := ⟨h.assumptions.symm, h.proper, h.accepted, h.openCount, h.commits, rfl⟩
  ofClauses cs := by
    refine ⟨fun c hc => ?_, ?_, rfl, ?_, rfl⟩
    · simpa using (List.mem_filter.mp hc).2
    · simp [Store.ofClauses, Plain.ofClauses, flatten_filter]
    · exact List.countP_eq_length_filter

theorem simulation_layout :
    Store.Simulation (fun (f : Formula) (p : Plain) => p.Proper ∧ f = p.layout) where
  receiver :=
    { allowed := fun _ _ => trivial
      push := by
        rintro f p l ⟨hproper, rfl⟩ -
        exact ⟨hproper, p.push_layout l⟩
      endClause := by
        rintro f p ⟨hproper, rfl⟩
        exact ⟨hproper.endClause, p.close_layout⟩
      assume := by
        rintro f p l ⟨hproper, rfl⟩ -
        exact ⟨hproper, p.assume_layout l⟩ }
  limit _ := rfl
  empty := ⟨by simp [Plain.Proper, Store.empty], Plain.empty_layout⟩
  close := by
    rintro f p ⟨hproper, rfl⟩
    exact ⟨hproper.endClause, p.close_layout⟩
  takeAssumptions := by
    rintro f p ⟨hproper, rfl⟩
    exact ⟨rfl, hproper, p.forget_layout⟩
  ofClauses cs := by
    refine ⟨fun c hc => ?_, ofClauses_eq_layout cs⟩
    simpa using (List.mem_filter.mp hc).2

-- Clauses that are laid out one after the other, each of them with literals.
theorem tiles_spansFrom {cs : List (List Lit)} (h : ∀ c ∈ cs, c ≠ []) (start : Nat) :
    (∀ s ∈ Plain.spansFrom start cs, s.start < s.stop ∧ s.stop ≤ start + cs.flatten.length) ∧
      (∀ s ∈ (Plain.spansFrom start cs).head?, s.start = start) ∧
      (Plain.spansFrom start cs).IsChain (fun s t => s.stop = t.start) := by
  induction cs generalizing start with
  | nil => simp [Plain.spansFrom]
  | cons c cs ih =>
    obtain ⟨hc, hcs⟩ := List.forall_mem_cons.mp h
    have hlength := List.length_pos_iff.mpr hc
    obtain ⟨hspans, hhead, hchain⟩ := ih hcs (start + c.length)
    refine ⟨?_, by simp [Plain.spansFrom], ?_⟩
    · rw [Plain.spansFrom, List.forall_mem_cons]
      simp only [List.flatten_cons, List.length_append]
      refine ⟨by omega, fun s hs => ?_⟩
      have := hspans s hs
      omega
    · rw [Plain.spansFrom, List.isChain_cons]
      exact ⟨fun s hs => (hhead s hs).symm, hchain⟩

theorem tiles_layout {p : Plain} (hproper : p.Proper) :
    Tiles p.layout.spans.toList p.layout.literals.size := by
  obtain ⟨hspans, hhead, hchain⟩ := tiles_spansFrom hproper 0
  refine ⟨fun s hs => (hspans s hs).1, hhead, hchain, fun s hs => ?_⟩
  have hstop := (hspans s hs).2
  simp only [Plain.layout, List.size_toArray, List.length_append]
  omega

-- Comparing lists in pairs stops at the end of the shorter one, so equal lengths are needed.
theorem all_zip_beq_iff {cs ds : List (List Lit)} (hlength : cs.length = ds.length) :
    (cs.zip ds).all (fun pair => pair.1 == pair.2) = true ↔ cs = ds := by
  rw [← List.forall₂_eq_eq_eq, List.forall₂_iff_zip, List.all_eq_true]
  simp [hlength]

theorem length_clauses (f : Formula) : f.clauses.length = f.size := by
  simp [clauses, size]

-- What the comparison of two formulas tells, whether or not they were built by operations.
theorem beq_iff (f g : Formula) :
    (f == g) = true ↔
      f.varCount = g.varCount ∧ f.clauses = g.clauses ∧ f.openClause = g.openClause ∧
        f.assumptions = g.assumptions := by
  have hunfold : (f == g) =
      (f.varCount == g.varCount && f.size == g.size &&
        (f.clauses.zip g.clauses).all (fun pair => pair.1 == pair.2) &&
        f.openClause == g.openClause && f.assumptions == g.assumptions) := rfl
  have hclauses : f.size = g.size ∧
      (f.clauses.zip g.clauses).all (fun pair => pair.1 == pair.2) = true ↔
        f.clauses = g.clauses := by
    rw [← f.length_clauses, ← g.length_clauses]
    constructor
    · rintro ⟨hlength, hall⟩
      exact (all_zip_beq_iff hlength).mp hall
    · intro heq
      have hlength : f.clauses.length = g.clauses.length := congrArg List.length heq
      exact ⟨hlength, (all_zip_beq_iff hlength).mpr heq⟩
  simp only [hunfold, Bool.and_eq_true, beq_iff_eq, and_assoc, ← hclauses]

-- The number of variables, which is compared as well, is that of the clauses.
theorem beq_layout_iff (p q : Plain) :
    (p.layout == q.layout) = true ↔
      p.clauses = q.clauses ∧ p.openClause = q.openClause ∧ p.assumptions = q.assumptions := by
  rw [beq_iff]
  simp only [Plain.clauses_layout, Plain.openClause_layout, Plain.assumptions_layout,
    Plain.varCount_layout]
  constructor
  · rintro ⟨-, hsame⟩
    exact hsame
  · rintro ⟨hclauses, hrest⟩
    exact ⟨by rw [hclauses], hclauses, hrest⟩

-- Whatever is done to a formula, it refuses, notices and gives away what plain lists do, and shows
-- the same clauses, open clause and assumptions. Its spans cut the row of literals, in which every
-- accepted literal stands once and in order, into clauses with literals and the open clause. Two
-- formulas are equal if they show the same.
theorem run_refines (changes : List Change) :
    let x := Store.run Formula changes
    let plain := Store.run Plain changes
    let tally := (Store.run Tally changes).receiver
    let f := x.receiver
    (x.results = plain.results ∧ x.taken = plain.taken) ∧
    Tiles f.spans.toList f.literals.size ∧
    (f.clauses = plain.receiver.clauses ∧ f.openClause = plain.receiver.openClause ∧
      f.assumptions = plain.receiver.assumptions) ∧
    (f.literals.toList = tally.accepted ∧ f.clauses.flatten ++ f.openClause = tally.accepted ∧
      f.openClause.length = tally.openCount) ∧
    ([] ∉ f.clauses ∧ f.clauses.length = f.size ∧ f.size = tally.commits) ∧
    IsVarCount f.varCount f.clauses.flatten ∧
    ∀ changes' : List Change,
      let g := (Store.run Formula changes').receiver
      (f == g) = true ↔
        f.clauses = g.clauses ∧ f.openClause = g.openClause ∧ f.assumptions = g.assumptions := by
  intro x plain tally f
  obtain ⟨⟨hproper, hlayout⟩, hresults, htaken⟩ := simulation_layout.run_alike changes
  obtain ⟨htally, -, -⟩ := simulation_tally.run_alike changes
  have hf : f = plain.receiver.layout := hlayout
  refine ⟨⟨hresults, htaken⟩, ?_, ?_, ?_, ?_, ?_, fun changes' => ?_⟩
  · rw [hf]
    exact tiles_layout hproper
  · rw [hf]
    exact ⟨Plain.clauses_layout _, Plain.openClause_layout _, Plain.assumptions_layout _⟩
  · rw [hf, Plain.clauses_layout, Plain.openClause_layout]
    exact ⟨htally.accepted.symm, htally.accepted.symm, htally.openCount.symm⟩
  · rw [hf, Plain.clauses_layout, Plain.size_layout]
    exact ⟨fun hempty => hproper [] hempty rfl, rfl, htally.commits.symm⟩
  · rw [hf, Plain.clauses_layout, Plain.varCount_layout]
    exact isVarCount_varCountWith _
  · obtain ⟨⟨-, hg⟩, -, -⟩ := simulation_layout.run_alike changes'
    simp only [hf, hg, Plain.clauses_layout, Plain.openClause_layout, Plain.assumptions_layout]
    exact beq_layout_iff _ _

end Formula

end SatFrontend

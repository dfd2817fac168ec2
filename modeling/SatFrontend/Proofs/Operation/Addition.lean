import SatFrontend.Operation
import SatFrontend.Proofs.Receiver.Adding
import SatFrontend.Solver.Recorder

namespace SatFrontend

open Receiver

-- A procedure on a receiver that is changed in place. What was done before a refusal is not undone.
abbrev InPlace (σ α : Type) := ExceptT EntryError (StateM σ) α

namespace InPlace

variable {σ α β : Type}

-- Look at the receiver and perhaps refuse to go on.
def look (x : σ → Except EntryError α) : InPlace σ α := fun s => (x s, s)

def change (f : σ → σ) : InPlace σ Unit := fun s => (.ok (), f s)

-- What a procedure comes to.
def finish (p : InPlace σ Unit) (s : σ) : Dimacs.Reading σ :=
  match p s with
  | (.ok _, s') => { receiver := s' }
  | (.error e, s') => { receiver := s', error := some (.entry e) }

section Procedures

variable [Receiver σ]

def check (l : Lit) : InPlace σ Lit := look (accept · l)

def checkNumber (n : Int) : InPlace σ Lit := do
  let l ← look fun _ => Lit.ofInt n
  check l

def checkAll : List Lit → InPlace σ Unit
  | [] => pure ()
  | l :: ls => do
    let _ ← check l
    checkAll ls

-- The open clause is committed only after every literal was checked.
def addClause (ls : List Lit) : InPlace σ Unit := do
  checkAll ls
  change endClause
  ls.forM fun l => change (push · l)
  change endClause

def addNumber (n : Int) : InPlace σ Unit :=
  if n = 0 then change endClause
  else do
    let l ← checkNumber n
    change (push · l)

def literals (length position : Nat) : List Int → InPlace σ (List Lit)
  | [] => pure []
  | n :: ns =>
    if n = 0 then throw (.misplacedTerminator position length)
    else do
      let l ← checkNumber n
      let ls ← literals length (position + 1) ns
      pure (l :: ls)

def addNumbers (ns : List Int) : InPlace σ Unit := do
  let ls ← literals ns.length 0 (body ns)
  addClause ls

def addItem : Item → InPlace σ Unit
  | .number n => addNumber n
  | .clause ns => addNumbers ns

def assumeNumber (n : Int) : InPlace σ Unit :=
  if n = 0 then throw .zeroAssumption
  else do
    let l ← checkNumber n
    change (assume · l)

end Procedures

-- What a step gives that leaves the receiver alone when it refuses.
def whole (s : σ) : Except EntryError σ → Except EntryError Unit × σ
  | .ok s' => (.ok (), s')
  | .error e => (.error e, s)

section Laws

variable (s : σ)

@[simp] theorem look_apply (x : σ → Except EntryError α) : look x s = (x s, s) := rfl

@[simp] theorem change_apply (f : σ → σ) : change f s = (.ok (), f s) := rfl

@[simp] theorem bind_apply (p : InPlace σ α) (f : α → InPlace σ β) :
    (p >>= f) s = match p s with
      | (.ok a, s') => f a s'
      | (.error e, s') => (.error e, s') := by
  have hbind : (p >>= f) s = ExceptT.bindCont f (p s).1 (p s).2 := rfl
  rw [hbind]
  rcases p s with ⟨_ | a, s'⟩ <;> rfl

@[simp] theorem forM_change_apply (f : σ → α → σ) (as : List α) :
    (as.forM fun a => change (f · a)) s = (.ok (), as.foldl f s) := by
  induction as generalizing s with
  | nil => rfl
  | cons a as ih =>
    have hcons : ((a :: as).forM fun a => change (f · a)) =
        (change (f · a) >>= fun _ => as.forM fun a => change (f · a)) := rfl
    rw [hcons, bind_apply, change_apply]
    exact ih (f s a)

variable [Receiver σ]

@[simp] theorem checkNumber_apply (n : Int) : checkNumber n s = (acceptNumber s n, s) := by
  rw [checkNumber, bind_apply, look_apply, acceptNumber]
  cases Lit.ofInt n <;> rfl

@[simp] theorem checkAll_apply (ls : List Lit) : checkAll ls s = (acceptAll s ls, s) := by
  induction ls with
  | nil => rfl
  | cons l ls ih =>
    rw [checkAll, bind_apply, check, look_apply, acceptAll]
    cases accept s l with
    | error e => rfl
    | ok k => exact ih

@[simp] theorem literals_apply (length position : Nat) (ns : List Int) :
    literals length position ns s = (acceptBody s length position ns, s) := by
  induction ns generalizing position with
  | nil => rfl
  | cons n ns ih =>
    rw [literals, acceptBody]
    split
    · rfl
    · rw [bind_apply, checkNumber_apply]
      cases acceptNumber s n with
      | error e => rfl
      | ok l =>
        dsimp only
        rw [bind_apply, ih]
        cases acceptBody s length (position + 1) ns <;> rfl

@[simp] theorem addClause_apply (ls : List Lit) :
    addClause ls s = whole s (Receiver.addClause s ls) := by
  rw [addClause, bind_apply, checkAll_apply, Receiver.addClause]
  cases acceptAll s ls with
  | error e => rfl
  | ok _ =>
    simp only [bind_apply, change_apply, forM_change_apply]
    rfl

@[simp] theorem addNumber_apply (n : Int) :
    addNumber n s = whole s (Receiver.addNumber s n) := by
  rw [addNumber, Receiver.addNumber]
  split
  · rfl
  · rw [bind_apply, checkNumber_apply]
    cases acceptNumber s n <;> rfl

@[simp] theorem addNumbers_apply (ns : List Int) :
    addNumbers ns s = whole s (Receiver.addNumbers s ns) := by
  rw [addNumbers, bind_apply, literals_apply, Receiver.addNumbers]
  cases acceptBody s ns.length 0 (body ns) with
  | error e => rfl
  | ok ls => exact addClause_apply s ls

theorem addItem_apply (item : Item) : addItem item s = whole s (Receiver.addItem s item) := by
  cases item with
  | number n => exact addNumber_apply s n
  | clause ns => exact addNumbers_apply s ns

theorem assumeNumber_apply (n : Int) :
    assumeNumber n s = whole s (Receiver.assumeNumber s n) := by
  rw [assumeNumber, Receiver.assumeNumber]
  split
  · rfl
  · rw [bind_apply, checkNumber_apply]
    cases acceptNumber s n <;> rfl

omit [Receiver σ] in
theorem finish_whole {p : InPlace σ Unit} {s : σ} {x : Except EntryError σ} (h : p s = whole s x) :
    p.finish s = Operation.attempt s x := by
  rw [finish, h]
  cases x <;> rfl

omit [Receiver σ] in
-- Steps that are whole or refused, one after the other.
theorem finish_forM {p : α → InPlace σ Unit} {step : σ → α → Except EntryError σ}
    (h : ∀ s a, p a s = whole s (step s a)) (as : List α) :
    finish (as.forM p) s = Operation.partly (runAll step s as) := by
  induction as generalizing s with
  | nil => rfl
  | cons a as ih =>
    have hcons : ((a :: as).forM p) = (p a >>= fun _ => as.forM p) := rfl
    rw [runAll, finish, hcons, bind_apply, h]
    cases step s a with
    | error e => rfl
    | ok s' => exact ih s'

end Laws

end InPlace

namespace Operation

variable {σ : Type} [Receiver σ]

-- What is not reading is done in place.
def procedure? : Operation → Option (InPlace σ Unit)
  | add items => some (items.forM InPlace.addItem)
  | addNumber n => some (InPlace.addNumber n)
  | addNumbers ns => some (InPlace.addNumbers ns)
  | addClause ns => some do
    let ls ← InPlace.look fun _ => Lit.ofInts ns
    InPlace.addClause ls
  | push n => some do
    let l ← InPlace.look fun _ => Lit.ofInt n
    InPlace.change (Receiver.push · l)
  | endClause => some (InPlace.change Receiver.endClause)
  | assume ns => some (ns.forM InPlace.assumeNumber)
  | assumeLit n => some do
    let l ← InPlace.look fun _ => Lit.ofInt n
    InPlace.change (Receiver.assume · l)
  | read _ => none

theorem finish_procedure (files : Files) (s : σ) {op : Operation} {p : InPlace σ Unit}
    (h : op.procedure? = some p) : p.finish s = op.perform files s := by
  cases op with
  | add items =>
    obtain rfl := Option.some.inj h
    exact InPlace.finish_forM s (fun s item => InPlace.addItem_apply s item) items
  | addNumber n =>
    obtain rfl := Option.some.inj h
    exact InPlace.finish_whole (InPlace.addNumber_apply s n)
  | addNumbers ns =>
    obtain rfl := Option.some.inj h
    exact InPlace.finish_whole (InPlace.addNumbers_apply s ns)
  | addClause ns =>
    obtain rfl := Option.some.inj h
    refine InPlace.finish_whole ?_
    rw [InPlace.bind_apply, InPlace.look_apply]
    cases Lit.ofInts ns with
    | error e => rfl
    | ok ls => exact InPlace.addClause_apply s ls
  | push n =>
    obtain rfl := Option.some.inj h
    refine InPlace.finish_whole ?_
    rw [InPlace.bind_apply, InPlace.look_apply]
    cases Lit.ofInt n <;> rfl
  | endClause =>
    obtain rfl := Option.some.inj h
    rfl
  | assume ns =>
    obtain rfl := Option.some.inj h
    exact InPlace.finish_forM s (fun s n => InPlace.assumeNumber_apply s n) ns
  | assumeLit n =>
    obtain rfl := Option.some.inj h
    refine InPlace.finish_whole ?_
    rw [InPlace.bind_apply, InPlace.look_apply]
    cases Lit.ofInt n <;> rfl
  | read source => cases h

-- A clause is added whole, or nothing of it is because of the first number that is no entry.
theorem perform_addNumbers_cases (files : Files) (s : σ) (ns : List Int) :
    ((∀ n ∈ body ns, Entry (limit s) n) ∧ ∃ ls, ls.map Lit.toInt = body ns ∧
      perform files s (.addNumbers ns) =
        { receiver := Receiver.endClause (pushAll (Receiver.endClause s) ls) } ∧
      (Steady σ → perform files s (.add ((0 :: body ns ++ [0]).map .number)) =
        perform files s (.addNumbers ns))) ∨
    ∃ (before : List Int) (n : Int) (after : List Int), body ns = before ++ n :: after ∧
      (∀ m ∈ before, Entry (limit s) m) ∧ ¬Entry (limit s) n ∧
      perform files s (.addNumbers ns) =
        { receiver := s
          error := some (.entry (clauseError (limit s) ns.length before.length n)) } := by
  rcases all_or_first (Entry (limit s)) (body ns) with hall | ⟨before, n, after, hbody, hbefore, hn⟩
  · have hfits : (Item.clause ns).Fits (limit s) := hall
    obtain ⟨ls, hls, hadd⟩ := addNumbers_of_fits hfits
    have hperform : perform files s (.addNumbers ns) = { receiver := commit s ls } := by
      simp only [perform, hadd, attempt]
    refine .inl ⟨hall, ls, hls, hperform, fun hsteady => ?_⟩
    have hrun := addAll_clause hsteady (number_le_of_entries hall hls)
    rw [hls] at hrun
    rw [hperform, perform, hrun]
    rfl
  · have hadd : addItem s (.clause ns) = _ := addItem_of_refused (.clause hbody hbefore hn)
    refine .inr ⟨before, n, after, hbody, hbefore, hn, ?_⟩
    rw [addItem] at hadd
    simp only [perform, hadd, attempt]

theorem perform_addClause_cases (files : Files) (s : σ) (ls : List Lit) :
    ((∀ l ∈ ls, l.var.number ≤ limit s) ∧ perform files s (.addClause (ls.map Lit.toInt)) =
      { receiver := Receiver.endClause (pushAll (Receiver.endClause s) ls) }) ∨
    ∃ (before : List Lit) (l : Lit) (after : List Lit), ls = before ++ l :: after ∧
      (∀ k ∈ before, k.var.number ≤ limit s) ∧ limit s < l.var.number ∧
      perform files s (.addClause (ls.map Lit.toInt)) =
        { receiver := s, error := some (.entry (.literalTooLarge l.toInt (limit s))) } := by
  simp only [perform, Lit.ofInts_toInt, bind, Except.bind]
  rcases all_or_first (fun l : Lit => l.var.number ≤ limit s) ls with
    hall | ⟨before, l, after, rfl, hbefore, hl⟩
  · refine .inl ⟨hall, ?_⟩
    simp only [Receiver.addClause, acceptAll_of_within hall, bind, Except.bind, attempt]
    rfl
  · refine .inr ⟨before, l, after, rfl, hbefore, Nat.lt_of_not_le hl, ?_⟩
    simp only [Receiver.addClause, acceptAll_of_first hbefore hl, bind, Except.bind, attempt]

theorem perform_add_singleton (files : Files) (s : σ) (item : Item) :
    ((perform files s (.add [item])).error = none ↔ item.Fits (limit s)) ∧
      ∀ e, (perform files s (.add [item])).error = some (.entry e) ↔
        item.Refused (limit s) e := by
  simp only [perform, addAll, runAll]
  rcases addItem_cases s item with ⟨hfits, hnone, s', hok⟩ | ⟨e, hfits, hiff, herror⟩
  · simp [hok, partly, hfits, hnone]
  · simp [herror, partly, hfits, hiff]

-- What was added before the first item that does not fit stays added.
theorem perform_add_cases (hsteady : Steady σ) (files : Files) (s : σ) (items : List Item) :
    ((∀ item ∈ items, item.Fits (limit s)) ∧ (perform files s (.add items)).error = none) ∨
    ∃ (before : List Item) (item : Item) (after : List Item) (e : EntryError),
      items = before ++ item :: after ∧ (∀ i ∈ before, i.Fits (limit s)) ∧
      item.Refused (limit s) e ∧ (perform files s (.add before)).error = none ∧
      perform files s (.add items) =
        { perform files s (.add before) with error := some (.entry e) } := by
  classical
  have hstep : ∀ (t : σ) (item : Item), limit t = limit s → item.Fits (limit s) →
      ∃ t', addItem t item = .ok t' ∧ limit t' = limit s := by
    intro t item ht hitem
    rw [← ht] at hitem ⊢
    obtain ⟨t', hok, hlimit⟩ := addItem_of_fits hitem
    exact ⟨t', hok, hlimit hsteady⟩
  simp only [perform, addAll, partly, Option.map_eq_none_iff]
  rcases all_or_first (Item.Fits (limit s)) items with
    hall | ⟨before, item, after, rfl, hbefore, hitem⟩
  · exact .inl ⟨hall, (runAll_of_all hstep rfl hall).1⟩
  · obtain ⟨hnone, hlimit⟩ := runAll_of_all hstep rfl hbefore
    obtain ⟨e, he⟩ := (item.fits_or_refused (limit s)).resolve_left hitem
    have hrun := runAll_of_first hnone (addItem_of_refused (hlimit ▸ he)) after
    exact .inr ⟨before, item, after, e, rfl, hbefore, he, hnone, by rw [hrun]; rfl⟩

theorem perform_assume_cases (hsteady : Steady σ) (files : Files) (s : σ) (ns : List Int) :
    ((∀ n ∈ ns, Entry (limit s) n) ∧ (perform files s (.assume ns)).error = none) ∨
    ∃ (before : List Int) (n : Int) (after : List Int), ns = before ++ n :: after ∧
      (∀ m ∈ before, Entry (limit s) m) ∧ ¬Entry (limit s) n ∧
      (perform files s (.assume before)).error = none ∧
      perform files s (.assume ns) = { perform files s (.assume before) with
        error := some (.entry (assumptionError (limit s) n)) } := by
  have hstep : ∀ (t : σ) (n : Int), limit t = limit s → Entry (limit s) n →
      ∃ t', assumeNumber t n = .ok t' ∧ limit t' = limit s := by
    intro t n ht hn
    rw [← ht] at hn ⊢
    exact assumeNumber_of_entry hsteady hn
  simp only [perform, assumeAll, partly, Option.map_eq_none_iff]
  rcases all_or_first (Entry (limit s)) ns with hall | ⟨before, n, after, rfl, hbefore, hn⟩
  · exact .inl ⟨hall, (runAll_of_all hstep rfl hall).1⟩
  · obtain ⟨hnone, hlimit⟩ := runAll_of_all hstep rfl hbefore
    have herror := assumeNumber_of_not_entry (hlimit ▸ hn)
    rw [hlimit] at herror
    have hrun := runAll_of_first hnone herror after
    exact .inr ⟨before, n, after, rfl, hbefore, hn, hnone, by rw [hrun]; rfl⟩

-- One operation and, unless it failed, another one.
def andThen (files : Files) (s : σ) (first second : Operation) : Dimacs.Reading σ :=
  let reading := perform files s first
  match reading.error with
  | none => perform files reading.receiver second
  | some _ => reading

omit [Receiver σ] in
theorem partly_runAll_append {α : Type} (step : σ → α → Except EntryError σ) (s : σ)
    (as bs : List α) :
    partly (runAll step s (as ++ bs)) =
      match (partly (runAll step s as)).error with
      | none => partly (runAll step (partly (runAll step s as)).receiver bs)
      | some _ => partly (runAll step s as) := by
  rw [runAll_append]
  rcases runAll step s as with ⟨s', _ | e⟩ <;> rfl

end Operation

theorem steady_formula : Steady Formula where
  push _ _ := rfl
  endClause _ := rfl
  assume _ _ := rfl

theorem steady_limitedFormula : Steady LimitedFormula where
  push _ _ := rfl
  endClause _ := rfl
  assume _ _ := rfl

-- An engine whose limit never moves while clauses are given to it.
structure Engine.Steady (η : Type) [Engine η] : Prop where
  push (e : η) (l : Lit) : limit (push e l) = limit e
  endClause (e : η) : limit (endClause e) = limit e

-- Assumptions do not reach the engine before a question.
theorem steady_solver {η : Type} [Engine η] (h : Engine.Steady η) : Steady (Solver η) where
  push s l := h.push s.engine l
  endClause s := by
    have hunfold : Receiver.endClause s = s.endClause := rfl
    rw [hunfold, Solver.endClause]
    split
    · rfl
    · exact h.endClause s.engine
  assume _ _ := rfl

open Operation

-- A clause of numbers is added whole, like its numbers between two zeros, or it is refused for its
-- first number that is no entry, and then nothing is changed. So it is with a clause of literals.
-- Of many items, or of assumptions, those are added that stand before the first one that is
-- refused, so to add some and then others is to add them at once. The order in which procedures on
-- a receiver check and change things makes no difference to that.
theorem addition_spec {σ : Type} [Receiver σ] (files : Files) (s : σ) :
    (∀ ns : List Int,
      ((∀ n ∈ body ns, Entry (limit s) n) ∧ ∃ ls : List Lit, ls.map Lit.toInt = body ns ∧
        perform files s (.addNumbers ns) =
          { receiver := Receiver.endClause (pushAll (Receiver.endClause s) ls) } ∧
        (Steady σ → perform files s (.add ((0 :: body ns ++ [0]).map .number)) =
          perform files s (.addNumbers ns))) ∨
      ∃ (before : List Int) (n : Int) (after : List Int), body ns = before ++ n :: after ∧
        (∀ m ∈ before, Entry (limit s) m) ∧ ¬Entry (limit s) n ∧
        perform files s (.addNumbers ns) =
          { receiver := s
            error := some (.entry (clauseError (limit s) ns.length before.length n)) }) ∧
    (∀ ls : List Lit,
      ((∀ l ∈ ls, l.var.number ≤ limit s) ∧ perform files s (.addClause (ls.map Lit.toInt)) =
        { receiver := Receiver.endClause (pushAll (Receiver.endClause s) ls) }) ∨
      ∃ (before : List Lit) (l : Lit) (after : List Lit), ls = before ++ l :: after ∧
        (∀ k ∈ before, k.var.number ≤ limit s) ∧ limit s < l.var.number ∧
        perform files s (.addClause (ls.map Lit.toInt)) =
          { receiver := s, error := some (.entry (.literalTooLarge l.toInt (limit s))) }) ∧
    (∀ item : Item, ((perform files s (.add [item])).error = none ↔ item.Fits (limit s)) ∧
      ∀ e : EntryError, (perform files s (.add [item])).error = some (.entry e) ↔
        item.Refused (limit s) e) ∧
    (Steady σ → ∀ items : List Item,
      ((∀ item ∈ items, item.Fits (limit s)) ∧ (perform files s (.add items)).error = none) ∨
      ∃ (before : List Item) (item : Item) (after : List Item) (e : EntryError),
        items = before ++ item :: after ∧ (∀ i ∈ before, i.Fits (limit s)) ∧
        item.Refused (limit s) e ∧ (perform files s (.add before)).error = none ∧
        perform files s (.add items) =
          { perform files s (.add before) with error := some (.entry e) }) ∧
    (Steady σ → ∀ ns : List Int,
      ((∀ n ∈ ns, Entry (limit s) n) ∧ (perform files s (.assume ns)).error = none) ∨
      ∃ (before : List Int) (n : Int) (after : List Int), ns = before ++ n :: after ∧
        (∀ m ∈ before, Entry (limit s) m) ∧ ¬Entry (limit s) n ∧
      (perform files s (.assume before)).error = none ∧
        perform files s (.assume ns) = { perform files s (.assume before) with
          error := some (.entry (assumptionError (limit s) n)) }) ∧
    (∀ xs ys : List Item, perform files s (.add (xs ++ ys)) =
      andThen files s (.add xs) (.add ys)) ∧
    (∀ xs ys : List Int, perform files s (.assume (xs ++ ys)) =
      andThen files s (.assume xs) (.assume ys)) ∧
    ∀ (op : Operation) p, op.procedure? = some p → p.finish s = perform files s op :=
  ⟨perform_addNumbers_cases files s, perform_addClause_cases files s,
    perform_add_singleton files s, fun hsteady => perform_add_cases hsteady files s,
    fun hsteady => perform_assume_cases hsteady files s,
    partly_runAll_append addItem s, partly_runAll_append assumeNumber s,
    fun _ _ => finish_procedure files s⟩

-- A clause whose last literal lies above the limit of a formula with an open clause, and one whose
-- literals do not.
theorem addition_spec_limitedFormula :
    let s : LimitedFormula := ⟨Formula.empty.push ⟨.ofNumber 1, true⟩, 9⟩
    let files : Files := ⟨[], [], []⟩
    perform files s (.addNumbers [2, 10, 0]) =
      { receiver := s, error := some (.entry (.literalTooLarge 10 9)) } ∧
    (Item.clause [2, 10, 0]).Refused 9 (.literalTooLarge 10 9) ∧
    perform files s (.add [.number 0, .number 2, .number (-3), .number 0]) =
      perform files s (.addNumbers [2, -3, 0]) := by
  intro s files
  obtain ⟨hnumbers, -, hsingle, -⟩ := addition_spec files s
  refine ⟨?_, ((hsingle (.clause [2, 10, 0])).2 (.literalTooLarge 10 9)).mp rfl, ?_⟩
  · rcases hnumbers [2, 10, 0] with ⟨hall, -⟩ | ⟨before, n, after, hbody, -, hn, hperform⟩
    · exact absurd (hall 10 (by decide)) (by decide)
    · have hbody : [2, 10] = before ++ n :: after := hbody
      rcases before with _ | ⟨b, _ | ⟨c, before⟩⟩
      · obtain ⟨rfl, -⟩ := List.cons.inj hbody
        exact absurd (by decide) hn
      · obtain ⟨-, hrest⟩ := List.cons.inj hbody
        obtain ⟨rfl, -⟩ := List.cons.inj hrest
        exact hperform
      · simp at hbody
  · rcases hnumbers [2, -3, 0] with ⟨-, ls, -, -, hsame⟩ | ⟨before, n, after, hbody, -, hn, -⟩
    · exact hsame steady_limitedFormula
    · have hentry : ∀ n ∈ body [2, -3, 0], Entry (limit s) n := by decide
      exact absurd (hentry n (by rw [hbody]; simp)) hn

end SatFrontend

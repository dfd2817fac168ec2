import SatFrontend.Proofs.Receiver.Simulation

namespace SatFrontend

namespace Receiver

-- A receiver whose limit never moves.
structure Steady (σ : Type) [Receiver σ] : Prop where
  push (s : σ) (l : Lit) : limit (push s l) = limit s
  endClause (s : σ) : limit (endClause s) = limit s
  assume (s : σ) (l : Lit) : limit (assume s l) = limit s

-- A number that is that of a literal within a limit.
def Entry (limit : Nat) (n : Int) : Prop := n ≠ 0 ∧ n.natAbs ≤ limit ∧ n.natAbs ≤ Var.maxCount

instance (limit : Nat) (n : Int) : Decidable (Entry limit n) :=
  inferInstanceAs (Decidable (n ≠ 0 ∧ n.natAbs ≤ limit ∧ n.natAbs ≤ Var.maxCount))

-- A number that no literal has is refused before the limit is looked at.
def tooLarge (limit : Nat) (n : Int) : EntryError :=
  .literalTooLarge n (if n.natAbs ≤ Var.maxCount then limit else Var.maxCount)

-- Why a clause of `length` numbers is refused for the number at `position`.
def clauseError (limit length position : Nat) (n : Int) : EntryError :=
  if n = 0 then .misplacedTerminator position length else tooLarge limit n

-- Why an assumption is refused.
def assumptionError (limit : Nat) (n : Int) : EntryError :=
  if n = 0 then .zeroAssumption else tooLarge limit n

-- An item that can be added under a limit.
def Item.Fits (limit : Nat) : Item → Prop
  | number n => n = 0 ∨ Entry limit n
  | clause ns => ∀ n ∈ body ns, Entry limit n

-- An item that cannot be added under a limit, with the reason: its first number that is no entry.
inductive Item.Refused (limit : Nat) : Item → EntryError → Prop
  | number {n : Int} (hne : n ≠ 0) (h : ¬Entry limit n) :
      Refused limit (.number n) (tooLarge limit n)
  | clause {ns before after : List Int} {n : Int} (hbody : body ns = before ++ n :: after)
      (hbefore : ∀ m ∈ before, Entry limit m) (h : ¬Entry limit n) :
      Refused limit (.clause ns) (clauseError limit ns.length before.length n)

theorem all_or_first {α : Type} (P : α → Prop) [DecidablePred P] (as : List α) :
    (∀ a ∈ as, P a) ∨
      ∃ before a after, as = before ++ a :: after ∧ (∀ b ∈ before, P b) ∧ ¬P a := by
  cases h : as.find? (fun a => ¬P a) with
  | none => exact .inl (by simpa using h)
  | some a =>
    obtain ⟨ha, before, after, has, hbefore⟩ := List.find?_eq_some_iff_append.mp h
    exact .inr ⟨before, a, after, has, by simpa using hbefore, by simpa using ha⟩

theorem Item.fits_or_refused (limit : Nat) (item : Item) :
    item.Fits limit ∨ ∃ e, item.Refused limit e := by
  cases item with
  | number n =>
    by_cases hfits : n = 0 ∨ Entry limit n
    · exact .inl hfits
    · obtain ⟨hne, hentry⟩ := not_or.mp hfits
      exact .inr ⟨_, .number hne hentry⟩
  | clause ns =>
    rcases all_or_first (Entry limit) (body ns) with hall | ⟨before, n, after, hbody, hbefore, hn⟩
    · exact .inl hall
    · exact .inr ⟨_, .clause hbody hbefore hn⟩

section Adding

variable {σ : Type} [Receiver σ] {s : σ}

theorem acceptNumber_of_entry {n : Int} (h : Entry (limit s) n) :
    ∃ l, l.toInt = n ∧ acceptNumber s n = .ok l := by
  obtain ⟨hne, hlimit, hmax⟩ := h
  obtain ⟨l, hl⟩ := Lit.exists_ofInt hne hmax
  have htoInt := Lit.toInt_of_ofInt hl
  have hle : l.var.number ≤ limit s := by rwa [← l.natAbs_toInt, htoInt]
  refine ⟨l, htoInt, ?_⟩
  simp only [acceptNumber, hl, bind, Except.bind, accept, if_pos hle]

theorem acceptNumber_of_not_entry {n : Int} (hne : n ≠ 0) (h : ¬Entry (limit s) n) :
    acceptNumber s n = .error (tooLarge (limit s) n) := by
  rw [acceptNumber, tooLarge]
  by_cases hmax : n.natAbs ≤ Var.maxCount
  · obtain ⟨l, hl⟩ := Lit.exists_ofInt hne hmax
    have htoInt := Lit.toInt_of_ofInt hl
    have hlarge : ¬l.var.number ≤ limit s := by
      rw [← l.natAbs_toInt, htoInt]
      exact fun hle => h ⟨hne, hle, hmax⟩
    simp only [hl, bind, Except.bind, accept, if_neg hlarge, htoInt, if_pos hmax]
  · rw [Lit.ofInt, if_neg hne, if_pos (by omega), if_neg hmax]
    rfl

theorem acceptBody_of_entries {ns : List Int} (h : ∀ n ∈ ns, Entry (limit s) n)
    (length position : Nat) : ∃ ls, acceptBody s length position ns = .ok ls := by
  induction ns generalizing position with
  | nil => exact ⟨[], rfl⟩
  | cons n ns ih =>
    obtain ⟨hn, hns⟩ := List.forall_mem_cons.mp h
    obtain ⟨l, -, hl⟩ := acceptNumber_of_entry hn
    obtain ⟨ls, hls⟩ := ih hns (position + 1)
    refine ⟨l :: ls, ?_⟩
    simp only [acceptBody, if_neg hn.1, hl, hls, bind, Except.bind]

theorem acceptBody_of_first {before after : List Int} {n : Int}
    (hbefore : ∀ m ∈ before, Entry (limit s) m) (hn : ¬Entry (limit s) n) (length position : Nat) :
    acceptBody s length position (before ++ n :: after) =
      .error (clauseError (limit s) length (position + before.length) n) := by
  induction before generalizing position with
  | nil =>
    rw [List.nil_append, acceptBody, clauseError]
    split
    · rfl
    · rename_i hne
      rw [acceptNumber_of_not_entry hne hn]
      rfl
  | cons m before ih =>
    obtain ⟨hm, hrest⟩ := List.forall_mem_cons.mp hbefore
    obtain ⟨l, -, hl⟩ := acceptNumber_of_entry hm
    have hplace : position + 1 + before.length = position + (before.length + 1) := by omega
    simp only [List.cons_append, acceptBody, if_neg hm.1, hl, ih hrest, hplace, bind, Except.bind,
      List.length_cons]

theorem acceptAll_of_first {before after : List Lit} {l : Lit}
    (hbefore : ∀ k ∈ before, k.var.number ≤ limit s) (hl : ¬l.var.number ≤ limit s) :
    acceptAll s (before ++ l :: after) = .error (.literalTooLarge l.toInt (limit s)) := by
  induction before with
  | nil => simp only [List.nil_append, acceptAll, accept, if_neg hl, bind, Except.bind]
  | cons k before ih =>
    obtain ⟨hk, hrest⟩ := List.forall_mem_cons.mp hbefore
    simp only [List.cons_append, acceptAll, accept, if_pos hk, ih hrest, bind, Except.bind]

theorem number_le_of_entries {ns : List Int} {ls : List Lit} (h : ∀ n ∈ ns, Entry (limit s) n)
    (hls : ls.map Lit.toInt = ns) : ∀ l ∈ ls, l.var.number ≤ limit s := by
  intro l hl
  rw [← l.natAbs_toInt]
  exact (h l.toInt (hls ▸ List.mem_map_of_mem hl)).2.1

-- A clause of entries is committed whole.
theorem addNumbers_of_fits {ns : List Int} (h : (Item.clause ns).Fits (limit s)) :
    ∃ ls, ls.map Lit.toInt = body ns ∧ addNumbers s ns = .ok (commit s ls) := by
  obtain ⟨ls, hls⟩ := acceptBody_of_entries h ns.length 0
  have hmap := map_toInt_of_acceptBody hls
  have hall := acceptAll_of_within (number_le_of_entries h hmap)
  refine ⟨ls, hmap, ?_⟩
  simp only [addNumbers, hls, addClause, hall, bind, Except.bind]

theorem addItem_of_refused {item : Item} {e : EntryError} (h : item.Refused (limit s) e) :
    addItem s item = .error e := by
  cases h with
  | number hne hn =>
    rw [addItem, addNumber, if_neg hne, acceptNumber_of_not_entry hne hn]
    rfl
  | clause hbody hbefore hn =>
    rw [addItem, addNumbers, hbody, acceptBody_of_first hbefore hn, Nat.zero_add]
    rfl

theorem limit_pushAll (hsteady : Steady σ) (s : σ) (ls : List Lit) :
    limit (pushAll s ls) = limit s := by
  induction ls generalizing s with
  | nil => rfl
  | cons l ls ih => exact (ih (push s l)).trans (hsteady.push s l)

theorem limit_commit (hsteady : Steady σ) (s : σ) (ls : List Lit) :
    limit (commit s ls) = limit s := by
  rw [commit, hsteady.endClause, limit_pushAll hsteady, hsteady.endClause]

theorem addItem_of_fits {item : Item} (h : item.Fits (limit s)) :
    ∃ s', addItem s item = .ok s' ∧ (Steady σ → limit s' = limit s) := by
  cases item with
  | number n =>
    rcases h with rfl | hn
    · exact ⟨_, rfl, fun hsteady => hsteady.endClause s⟩
    · obtain ⟨l, -, hl⟩ := acceptNumber_of_entry hn
      refine ⟨push s l, ?_, fun hsteady => hsteady.push s l⟩
      simp only [addItem, addNumber, if_neg hn.1, hl, bind, Except.bind]
  | clause ns =>
    obtain ⟨ls, -, hls⟩ := addNumbers_of_fits h
    exact ⟨_, hls, fun hsteady => limit_commit hsteady s ls⟩

-- Alone, an item is added exactly if it fits.
theorem addItem_cases (s : σ) (item : Item) :
    (item.Fits (limit s) ∧ (∀ e, ¬item.Refused (limit s) e) ∧ ∃ s', addItem s item = .ok s') ∨
    ∃ e, ¬item.Fits (limit s) ∧ (∀ e', item.Refused (limit s) e' ↔ e = e') ∧
      addItem s item = .error e := by
  rcases item.fits_or_refused (limit s) with hfits | ⟨e, he⟩
  · obtain ⟨s', hok, -⟩ := addItem_of_fits hfits
    refine .inl ⟨hfits, fun e he => ?_, s', hok⟩
    rw [addItem_of_refused he] at hok
    cases hok
  · have herror := addItem_of_refused he
    refine .inr ⟨e, fun hfits => ?_, fun e' => ⟨fun he' => ?_, fun h => h ▸ he⟩, herror⟩
    · obtain ⟨s', hok, -⟩ := addItem_of_fits hfits
      rw [herror] at hok
      cases hok
    · rw [addItem_of_refused he'] at herror
      exact (Except.error.inj herror).symm

theorem assumeNumber_of_entry (hsteady : Steady σ) {n : Int} (h : Entry (limit s) n) :
    ∃ s', assumeNumber s n = .ok s' ∧ limit s' = limit s := by
  obtain ⟨l, -, hl⟩ := acceptNumber_of_entry h
  refine ⟨assume s l, ?_, hsteady.assume s l⟩
  simp only [assumeNumber, if_neg h.1, hl, bind, Except.bind]

theorem assumeNumber_of_not_entry {n : Int} (h : ¬Entry (limit s) n) :
    assumeNumber s n = .error (assumptionError (limit s) n) := by
  rw [assumeNumber, assumptionError]
  split
  · rfl
  · rename_i hne
    rw [acceptNumber_of_not_entry hne h]
    rfl

-- The numbers of literals, one by one, continue the open clause.
theorem addAll_literals (hsteady : Steady σ) {ls : List Lit}
    (h : ∀ l ∈ ls, l.var.number ≤ limit s) :
    addAll s (ls.map fun l => .number l.toInt) = (pushAll s ls, none) := by
  induction ls generalizing s with
  | nil => rfl
  | cons l ls ih =>
    obtain ⟨hl, hls⟩ := List.forall_mem_cons.mp h
    have hadd : addItem s (.number l.toInt) = .ok (push s l) := by
      simp only [addItem, addNumber, if_neg l.toInt_ne_zero, acceptNumber, l.ofInt_toInt, accept,
        if_pos hl, bind, Except.bind]
    rw [← hsteady.push s l] at hls
    simp only [addAll, List.map_cons, runAll, hadd]
    exact ih hls

-- The numbers of a clause between two zeros are the whole clause.
theorem addAll_clause (hsteady : Steady σ) {ls : List Lit} (h : ∀ l ∈ ls, l.var.number ≤ limit s) :
    addAll s ((0 :: ls.map Lit.toInt ++ [0]).map .number) = (commit s ls, none) := by
  rw [← hsteady.endClause s] at h
  have hrun := addAll_literals hsteady h
  have hitems : (0 :: ls.map Lit.toInt ++ [0] : List Int).map Item.number =
      Item.number 0 :: (ls.map (fun l => Item.number l.toInt) ++ [Item.number 0]) := by
    simp
  have hzero : ∀ s : σ, addItem s (.number 0) = .ok (endClause s) := fun s => rfl
  rw [addAll] at hrun
  rw [hitems, addAll, runAll, hzero]
  simp only [runAll_append, hrun, runAll, hzero]
  rfl

end Adding

section Run

variable {α ε σ : Type} {step : σ → α → Except ε σ} {as : List α} {s : σ}

-- Nothing is refused if each step allows for the next one.
theorem runAll_of_all {P : α → Prop} {I : σ → Prop}
    (hstep : ∀ s a, I s → P a → ∃ s', step s a = .ok s' ∧ I s') (hs : I s) (has : ∀ a ∈ as, P a) :
    (runAll step s as).2 = none ∧ I (runAll step s as).1 := by
  induction as generalizing s with
  | nil => exact ⟨rfl, hs⟩
  | cons a as ih =>
    obtain ⟨ha, hrest⟩ := List.forall_mem_cons.mp has
    obtain ⟨s', hok, hs'⟩ := hstep s a hs ha
    simp only [runAll, hok]
    exact ih hs' hrest

-- The first refusal ends it, and nothing after it counts.
theorem runAll_of_first {a : α} {e : ε} (hbefore : (runAll step s as).2 = none)
    (ha : step (runAll step s as).1 a = .error e) (after : List α) :
    runAll step s (as ++ a :: after) = ((runAll step s as).1, some e) := by
  rw [runAll_append]
  generalize runAll step s as = run at hbefore ha
  obtain ⟨s', e'⟩ := run
  obtain rfl : e' = none := hbefore
  simp only [runAll, ha]

end Run

end Receiver

end SatFrontend

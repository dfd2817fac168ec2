namespace SatFrontend

-- Literals as numbers: twice the index of a variable for the variable itself, and one more
-- for its negation.
namespace Code

def negate (l : Nat) : Nat := if l % 2 = 0 then l + 1 else l - 1

def variableOf (l : Nat) : Nat := l / 2

def isNegative (l : Nat) : Bool := l % 2 == 1

-- Whether a literal is true when the variables have given values.
def holds (a : Nat → Bool) (l : Nat) : Bool := a (variableOf l) != isNegative l

theorem holds_negate (a : Nat → Bool) (l : Nat) : holds a (negate l) = !holds a l := by
  unfold holds negate variableOf isNegative
  have h := Nat.mod_two_eq_zero_or_one l
  rcases h with h | h
  · have h₁ : (l + 1) / 2 = l / 2 := by omega
    have h₂ : (l + 1) % 2 = 1 := by omega
    rw [if_pos h, h₁, h₂, h]
    cases a (l / 2) <;> rfl
  · have h₁ : (l - 1) / 2 = l / 2 := by omega
    have h₂ : (l - 1) % 2 = 0 := by omega
    rw [if_neg (by omega), h₁, h₂, h]
    cases a (l / 2) <;> rfl

-- Whether one of some literals is true.
def holdsAny (a : Nat → Bool) (c : Array Nat) : Bool := c.any (holds a)

-- Whether all clauses have a true literal.
def holdsAll (a : Nat → Bool) (cs : Array (Array Nat)) : Bool := cs.all (holdsAny a)

theorem holdsAny_of_mem {a : Nat → Bool} {c : Array Nat} {cs : Array (Array Nat)}
    (ha : holdsAll a cs = true) (hc : c ∈ cs) : holdsAny a c = true := by
  rw [holdsAll, Array.all_eq_true_iff_forall_mem] at ha
  exact ha c hc

end Code

open Code

-- A clause that follows from others.
structure Fact (cs : Array (Array Nat)) where
  literals : Array Nat
  sound : ∀ a, holdsAll a cs = true → holdsAny a literals = true

namespace Fact

variable {cs : Array (Array Nat)}

-- A clause that is always true.
def trivial : Fact cs where
  literals := #[0, 1]
  sound a _ := by
    simp [holdsAny, holds, variableOf, isNegative]

instance : Inhabited (Fact cs) := ⟨trivial⟩

-- All clauses follow from themselves.
def ofClauses (cs : Array (Array Nat)) : Array (Fact cs) :=
  cs.attach.map fun c => ⟨c.val, fun _ ha => holdsAny_of_mem ha c.property⟩

-- A literal or its negation is always true.
def excludedMiddle (l : Nat) : Fact cs where
  literals := #[l, negate l]
  sound a _ := by
    simp [holdsAny, holds_negate]

-- What follows from clauses also follows from more of them.
def weaken {ds : Array (Array Nat)} (h : ∀ a, holdsAll a ds = true → holdsAll a cs = true)
    (f : Fact cs) : Fact ds where
  literals := f.literals
  sound a ha := f.sound a (h a ha)

-- What is left of a clause without the literals that are false.
inductive Rest where
  | nothing
  | only (l : Nat)
  | several
deriving DecidableEq

namespace Rest

def add (falsified : Array Bool) (r : Rest) (l : Nat) : Rest :=
  if falsified.getD l false then r
  else match r with
    | nothing => only l
    | only m => if m = l then r else several
    | several => several

def ofClause (falsified : Array Bool) (c : Array Nat) : Rest := c.foldl (add falsified) nothing

-- All literals marked false are false.
def Respects (a : Nat → Bool) (falsified : Array Bool) : Prop :=
  ∀ l, falsified.getD l false = true → holds a l = false

-- A true literal of a clause is left of it.
def keeps (r : Rest) (l : Nat) : Prop :=
  match r with
  | nothing => False
  | only m => m = l
  | several => True

theorem keeps_foldl {a : Nat → Bool} {falsified : Array Bool} (h : Respects a falsified)
    {l : Nat} (hl : holds a l = true) (c : List Nat) (r : Rest)
    (hr : r.keeps l ∨ l ∈ c) : (c.foldl (add falsified) r).keeps l := by
  induction c generalizing r with
  | nil => simpa using hr
  | cons m c ih =>
    apply ih
    have hlive : ∀ k, holds a k = true → falsified.getD k false = false := by
      intro k hk
      cases hf : falsified.getD k false with
      | false => rfl
      | true => simp [h k hf] at hk
    rcases hr with hr | hr
    · left
      unfold add
      split
      · exact hr
      · cases r with
        | nothing => exact hr.elim
        | only k =>
          have hk : k = l := hr
          by_cases hkm : k = m
          · simp [hkm, keeps, ← hk]
          · simp [hkm, keeps]
        | several => simp [keeps]
    · rcases List.mem_cons.mp hr with hm | hm
      · left
        subst hm
        unfold add
        simp only [hlive l hl, Bool.false_eq_true, if_false]
        cases r with
        | nothing => simp [keeps]
        | only k => by_cases hk : k = l <;> simp [hk, keeps]
        | several => simp [keeps]
      · exact Or.inr hm

theorem keeps_ofClause {a : Nat → Bool} {falsified : Array Bool} (h : Respects a falsified)
    {ls : Array Nat} (hc : holdsAny a ls = true) :
    ∃ l, holds a l = true ∧ (ofClause falsified ls).keeps l := by
  rw [holdsAny, Array.any_eq_true] at hc
  obtain ⟨i, hi, hl⟩ := hc
  have hmem : ls[i] ∈ ls := Array.getElem_mem hi
  refine ⟨ls[i], hl, ?_⟩
  rw [ofClause, ← Array.foldl_toList]
  exact keeps_foldl h hl ls.toList nothing (Or.inr (Array.mem_toList_iff.mpr hmem))

end Rest

open Rest

-- Whether facts lead to a contradiction once some literals are false. Each fact in turn has
-- to be left with a single literal, which is then true, and one at last with none.
def contradicts (facts : Array (Fact cs)) : List Nat → Array Bool → Bool
  | [], _ => false
  | i :: hints, falsified =>
    match Rest.ofClause falsified (facts.getD i trivial).literals with
    | .nothing => true
    | .only l => contradicts facts hints (falsified.setIfInBounds (negate l) true)
    | .several => false

theorem getD_setIfInBounds {falsified : Array Bool} {l m : Nat}
    (h : (falsified.setIfInBounds l true).getD m false = true) :
    m = l ∨ falsified.getD m false = true := by
  by_cases hm : m = l
  · exact Or.inl hm
  · right
    simpa [Array.getD_eq_getD_getElem?, Array.getElem?_setIfInBounds, Ne.symm hm] using h

-- No values of the variables satisfy the clauses and respect literals that lead to a
-- contradiction.
theorem not_contradicts {facts : Array (Fact cs)} {a : Nat → Bool} (ha : holdsAll a cs = true)
    (hints : List Nat) (falsified : Array Bool) (h : Respects a falsified) :
    contradicts facts hints falsified = false := by
  induction hints generalizing falsified with
  | nil => rfl
  | cons i hints ih =>
    obtain ⟨l, hl, hk⟩ := keeps_ofClause h ((facts.getD i trivial).sound a ha)
    unfold contradicts
    cases hr : Rest.ofClause falsified (facts.getD i trivial).literals with
    | nothing =>
      rw [hr] at hk
      exact hk.elim
    | several => rfl
    | only m =>
      rw [hr] at hk
      have hm : m = l := hk
      apply ih
      intro k hk
      rcases getD_setIfInBounds hk with hk | hk
      · rw [hk, holds_negate, hm, hl]
        rfl
      · exact h k hk

-- Marks for literals that are to be false, where there are so many literals in all.
def marks (size : Nat) (c : Array Nat) : Array Bool :=
  c.foldl (fun falsified l => falsified.setIfInBounds l true) (Array.replicate size false)

theorem mem_of_marks {size : Nat} {c : Array Nat} {l : Nat}
    (h : (marks size c).getD l false = true) : l ∈ c := by
  have key : ∀ (ls : List Nat) (falsified : Array Bool),
      (ls.foldl (fun falsified l => falsified.setIfInBounds l true) falsified).getD l false = true →
        l ∈ ls ∨ falsified.getD l false = true := by
    intro ls
    induction ls with
    | nil => intro falsified h; exact Or.inr h
    | cons m ls ih =>
      intro falsified h
      rcases ih _ h with h | h
      · exact Or.inl (List.mem_cons_of_mem _ h)
      · rcases getD_setIfInBounds h with h | h
        · exact Or.inl (by simp [h])
        · exact Or.inr h
  rw [marks, ← Array.foldl_toList] at h
  rcases key c.toList _ h with h | h
  · simpa using h
  · simp only [Array.getD_eq_getD_getElem?, Array.getElem?_replicate] at h
    split at h <;> simp at h

-- A clause that follows because facts contradict its negation. The hints are the numbers of
-- these facts.
def learn? (facts : Array (Fact cs)) (size : Nat) (c : Array Nat) (hints : List Nat) :
    Option (Fact cs) :=
  if h : contradicts facts hints (marks size c) = true then
    some ⟨c, by
      intro a ha
      cases hc : holdsAny a c with
      | true => rfl
      | false =>
        have hrespects : Respects a (marks size c) := by
          intro l hl
          rw [holdsAny, Array.any_eq_false] at hc
          obtain ⟨i, hi, rfl⟩ := Array.mem_iff_getElem.mp (mem_of_marks hl)
          simpa using hc i hi
        rw [not_contradicts ha hints _ hrespects] at h
        exact absurd h (by simp)⟩
  else none

-- A clause whose literals are all false cannot be satisfied, and neither can clauses that it
-- follows from.
theorem refutes (f : Fact cs) {a : Nat → Bool} (h : ∀ l ∈ f.literals, holds a l = false) :
    holdsAll a cs = false := by
  cases ha : holdsAll a cs with
  | false => rfl
  | true =>
    have := f.sound a ha
    rw [holdsAny, Array.any_eq_true] at this
    obtain ⟨i, hi, hl⟩ := this
    simp [h f.literals[i] (Array.getElem_mem hi)] at hl

end Fact

end SatFrontend

namespace SatFrontend

-- The number of variables a literal can name.
def Var.maxCount : Nat := 2147483647

-- A propositional variable. Its number counts from 1, its index from 0.
structure Var where
  index : Fin Var.maxCount
deriving DecidableEq

namespace Var

def number (v : Var) : Nat := v.index.val + 1

-- The variable of the given number. A number outside of the range gives the nearest
-- variable, callers keep to the range.
def ofNumber (n : Nat) : Var :=
  ⟨⟨min (n - 1) (maxCount - 1), Nat.lt_of_le_of_lt (Nat.min_le_right _ _) (by decide)⟩⟩

def ofIndex (i : Nat) : Var := ofNumber (i + 1)

-- The last variable.
def last : Var := ofNumber maxCount

theorem number_pos (v : Var) : 0 < v.number := Nat.succ_pos _

theorem number_le (v : Var) : v.number ≤ maxCount := v.index.isLt

theorem number_ofNumber {n : Nat} (hpos : 0 < n) (hle : n ≤ maxCount) :
    (ofNumber n).number = n := by
  simp only [ofNumber, number]
  omega

theorem ofNumber_number (v : Var) : ofNumber v.number = v := by
  cases v with
  | mk i =>
    have := i.isLt
    simp only [ofNumber, number, Var.mk.injEq]
    apply Fin.ext
    simp only [Nat.add_sub_cancel]
    omega

theorem number_inj {v w : Var} (h : v.number = w.number) : v = w := by
  rw [← ofNumber_number v, ← ofNumber_number w, h]

end Var

-- A variable or its negation.
structure Lit where
  var : Var
  negative : Bool
deriving DecidableEq

-- Why a number or a clause given by the caller is refused.
inductive EntryError where
  | zeroLiteral
  | zeroAssumption
  | literalTooLarge (number : Int) (max : Nat)
  | misplacedTerminator (position length : Nat)
deriving DecidableEq, Repr

def EntryError.message : EntryError → String
  | zeroLiteral => "0 is a clause terminator and cannot be used as a literal"
  | zeroAssumption => "0 is not a valid assumption"
  | literalTooLarge number max =>
    s!"Literal {number} exceeds the largest supported variable {max}"
  | misplacedTerminator position length =>
    s!"Clause contains a terminator at position {position} of {length}"

namespace Lit

-- The literal as a signed number, negative for a negated variable.
def toInt (l : Lit) : Int :=
  if l.negative then -(l.var.number : Int) else l.var.number

-- The literal of a signed number.
def ofInt (n : Int) : Except EntryError Lit :=
  if n = 0 then .error .zeroLiteral
  else if n.natAbs > Var.maxCount then .error (.literalTooLarge n Var.maxCount)
  else .ok ⟨Var.ofNumber n.natAbs, n < 0⟩

def not (l : Lit) : Lit := { l with negative := !l.negative }

-- Negate the literal or leave it, as `flip` says.
def xor (l : Lit) (flip : Bool) : Lit := if flip then l.not else l

def text (l : Lit) : String := toString l.toInt

instance : Ord Lit where
  compare a b := compare a.toInt b.toInt

theorem not_not (l : Lit) : l.not.not = l := by
  cases l with
  | mk v n => simp [Lit.not]

theorem not_ne (l : Lit) : l.not ≠ l := by
  cases l with
  | mk v n => cases n <;> simp [Lit.not]

@[simp] theorem var_not (l : Lit) : l.not.var = l.var := rfl

theorem toInt_ne_zero (l : Lit) : l.toInt ≠ 0 := by
  have := l.var.number_pos
  unfold toInt
  split <;> omega

theorem natAbs_toInt (l : Lit) : l.toInt.natAbs = l.var.number := by
  unfold toInt
  split <;> omega

-- Reading back the number of a literal gives the literal.
theorem ofInt_toInt (l : Lit) : ofInt l.toInt = .ok l := by
  have hne := l.toInt_ne_zero
  have habs := l.natAbs_toInt
  have hle := l.var.number_le
  have hneg : decide (l.toInt < 0) = l.negative := by
    have := l.var.number_pos
    unfold toInt
    cases l.negative with
    | true => simp; omega
    | false => simp
  unfold ofInt
  rw [if_neg hne, habs, if_neg (by omega), Var.ofNumber_number, hneg]

-- The literal read from a number has that number.
theorem toInt_of_ofInt {n : Int} {l : Lit} (h : ofInt n = .ok l) : l.toInt = n := by
  unfold ofInt at h
  split at h
  · simp at h
  · split at h
    · simp at h
    · rename_i hzero hmax
      obtain rfl := Except.ok.inj h
      have : (Var.ofNumber n.natAbs).number = n.natAbs :=
        Var.number_ofNumber (by omega) (by omega)
      simp only [toInt, this, decide_eq_true_eq]
      split <;> omega

theorem toInt_inj {k l : Lit} (h : k.toInt = l.toInt) : k = l := by
  have hk := k.ofInt_toInt
  rw [h, l.ofInt_toInt] at hk
  exact (Except.ok.inj hk).symm

-- Every number in the range is the number of a literal.
theorem exists_ofInt {n : Int} (hne : n ≠ 0) (hle : n.natAbs ≤ Var.maxCount) :
    ∃ l, ofInt n = .ok l := by
  rw [ofInt, if_neg hne, if_neg (by omega)]
  exact ⟨_, rfl⟩

theorem exists_map_toInt {ns : List Int} (h : ∀ n ∈ ns, n ≠ 0 ∧ n.natAbs ≤ Var.maxCount) :
    ∃ ls : List Lit, ls.map toInt = ns := by
  induction ns with
  | nil => exact ⟨[], rfl⟩
  | cons n ns ih =>
    obtain ⟨⟨hne, hle⟩, hns⟩ := List.forall_mem_cons.mp h
    obtain ⟨l, hl⟩ := exists_ofInt hne hle
    obtain ⟨ls, hls⟩ := ih hns
    exact ⟨l :: ls, by rw [List.map_cons, toInt_of_ofInt hl, hls]⟩

end Lit

-- The literals of the numbers in order, or the first refusal.
def Lit.ofInts : List Int → Except EntryError (List Lit)
  | [] => .ok []
  | n :: ns => do
    let l ← Lit.ofInt n
    let ls ← Lit.ofInts ns
    .ok (l :: ls)

theorem Lit.ofInts_toInt (ls : List Lit) : Lit.ofInts (ls.map Lit.toInt) = .ok ls := by
  induction ls with
  | nil => rfl
  | cons l ls ih =>
    rw [List.map_cons, Lit.ofInts, ih, l.ofInt_toInt]
    rfl

-- The largest number of a variable in the literals, at least `count`.
def varCountWith (count : Nat) (ls : List Lit) : Nat :=
  ls.foldl (fun n l => max n l.var.number) count

end SatFrontend

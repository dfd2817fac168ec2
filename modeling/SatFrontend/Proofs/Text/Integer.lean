import Mathlib.Algebra.Group.Int.Defs
import SatFrontend.Proofs.Text.Decimal

namespace SatFrontend.Text

-- A row of decimal digits, and the number that it stands for.
structure IsRow (digits : List Char) (n : Nat) : Prop where
  nonempty : digits ≠ []
  digit : ∀ c ∈ digits, c.isDigit = true
  value : n = Nat.ofDigitChars 10 digits 0

-- A row of digits that may have a sign before it.
inductive IsSigned : List Char → Int → Prop
  | plain {digits : List Char} {n : Nat} (h : IsRow digits n) : IsSigned digits n
  | plus {digits : List Char} {n : Nat} (h : IsRow digits n) : IsSigned ('+' :: digits) n
  | minus {digits : List Char} {n : Nat} (h : IsRow digits n) : IsSigned ('-' :: digits) (-n)

-- The text of an integer of 64 bits.
structure IsInteger (w : List Char) (n : Int) : Prop where
  signed : IsSigned w n
  lower : -2 ^ 63 ≤ n
  upper : n < 2 ^ 63

theorem digits?_eq_some_iff {cs : List Char} {n : Nat} : digits? cs = some n ↔ IsRow cs n := by
  have hvalue : cs.foldl (fun n c => n * 10 + (c.toNat - '0'.toNat)) 0 =
      Nat.ofDigitChars 10 cs 0 := by
    rw [Nat.ofDigitChars_eq_foldl]
    simp only [Nat.mul_comm 10]
  rw [digits?, hvalue]
  split
  · rename_i hbad
    refine iff_of_false (by simp) fun hrow => ?_
    have hall := List.all_eq_true.mpr hrow.digit
    simp [hrow.nonempty, hall] at hbad
  · rename_i hgood
    obtain ⟨hne, hall⟩ : cs ≠ [] ∧ ∀ c ∈ cs, c.isDigit = true := by simpa using hgood
    exact ⟨fun h => ⟨hne, hall, (Option.some.inj h).symm⟩, fun hrow => by rw [hrow.value]⟩

theorem IsRow.head_ne_sign {c : Char} {cs : List Char} {n : Nat} (h : IsRow (c :: cs) n) :
    c ≠ '+' ∧ c ≠ '-' := by
  have hdigit := h.digit c List.mem_cons_self
  constructor <;> rintro rfl <;> exact absurd hdigit (by decide)

-- The number of a text of any length.
def signed? (cs : List Char) : Option Int :=
  match cs with
  | '+' :: r => (digits? r).map Int.ofNat
  | '-' :: r => (digits? r).map (fun n => -(Int.ofNat n))
  | _ => (digits? cs).map Int.ofNat

theorem signed?_eq_some_iff {cs : List Char} {n : Int} : signed? cs = some n ↔ IsSigned cs n := by
  unfold signed?
  split
  · rename_i r
    simp only [Option.map_eq_some_iff, digits?_eq_some_iff]
    constructor
    · rintro ⟨k, hrow, rfl⟩
      exact .plus hrow
    · intro h
      cases h with
      | plain hrow => exact absurd rfl hrow.head_ne_sign.1
      | plus hrow => exact ⟨_, hrow, rfl⟩
  · rename_i r
    simp only [Option.map_eq_some_iff, digits?_eq_some_iff]
    constructor
    · rintro ⟨k, hrow, rfl⟩
      exact .minus hrow
    · intro h
      cases h with
      | plain hrow => exact absurd rfl hrow.head_ne_sign.2
      | minus hrow => exact ⟨_, hrow, rfl⟩
  · rename_i hplus hminus
    simp only [Option.map_eq_some_iff, digits?_eq_some_iff]
    constructor
    · rintro ⟨k, hrow, rfl⟩
      exact .plain hrow
    · intro h
      cases h with
      | plain hrow => exact ⟨_, hrow, rfl⟩
      | plus hrow => exact absurd rfl (hplus _)
      | minus hrow => exact absurd rfl (hminus _)

theorem integer?_eq_some_iff {w : List Char} {n : Int} : integer? w = some n ↔ IsInteger w n := by
  have hfilter : integer? w =
      (signed? w).filter fun n => -9223372036854775808 ≤ n && n ≤ 9223372036854775807 := rfl
  rw [hfilter, Option.filter_eq_some_iff, signed?_eq_some_iff]
  simp only [Bool.and_eq_true, decide_eq_true_eq]
  constructor
  · rintro ⟨hsigned, hlower, hupper⟩
    exact ⟨hsigned, by omega, by omega⟩
  · rintro ⟨hsigned, hlower, hupper⟩
    exact ⟨hsigned, by omega, by omega⟩

end SatFrontend.Text

import Mathlib.Algebra.Group.Nat.Defs
import SatFrontend.Text.Bytes
import SatFrontend.Text.Numeral

namespace SatFrontend.Text

-- Characters below 128 are written as one byte each.
def IsAscii (cs : List Char) : Prop := ∀ c ∈ cs, c.toNat < 128

theorem IsAscii.append {cs ds : List Char} (hc : IsAscii cs) (hd : IsAscii ds) :
    IsAscii (cs ++ ds) := fun c h => (List.mem_append.mp h).elim (hc c) (hd c)

theorem utf8EncodeChar_of_lt {c : Char} (h : c.toNat < 128) :
    String.utf8EncodeChar c = [UInt8.ofNat c.toNat] := by
  have hsize : c.utf8Size = 1 := by
    have : c.val.toNat < 128 := h
    simp only [Char.utf8Size, UInt32.le_iff_toNat_le]
    rw [if_pos (by simp; omega)]
  rw [String.utf8EncodeChar_eq_singleton hsize]
  rfl

theorem utf8Encode_of_isAscii {cs : List Char} (h : IsAscii cs) :
    cs.utf8Encode.data.toList = narrow cs := by
  induction cs with
  | nil => rfl
  | cons c cs ih =>
    have hc := utf8EncodeChar_of_lt (h c (by simp))
    have hrest := ih fun d hd => h d (by simp [hd])
    rw [List.utf8Encode_cons, List.utf8Encode_singleton, hc]
    simp [hrest, narrow]

theorem encode_of_isAscii {s : String} (h : IsAscii s.toList) : encode s = narrow s.toList := by
  rw [← utf8Encode_of_isAscii h]
  simp [encode, String.toUTF8]

theorem toNat_ofNat_of_lt {c : Char} (h : c.toNat < 128) : (UInt8.ofNat c.toNat).toNat = c.toNat := by
  simp only [UInt8.toNat_ofNat']
  omega

theorem decodeLossy_cons_of_lt {b : UInt8} (h : b < 128) (bytes : List UInt8) :
    decodeLossy (b :: bytes) = Char.ofNat b.toNat :: decodeLossy bytes := by
  rw [decodeLossy, decode.eq_def]
  simp [h, scalar, decodeLossy]

theorem decodeLossy_nil : decodeLossy [] = [] := by
  simp [decodeLossy, decode]

theorem decodeLossy_narrow {cs : List Char} (h : IsAscii cs) : decodeLossy (narrow cs) = cs := by
  induction cs with
  | nil => exact decodeLossy_nil
  | cons c cs ih =>
    have hc := h c (by simp)
    have hnat := toNat_ofNat_of_lt hc
    have hlt : UInt8.ofNat c.toNat < 128 := by
      rw [UInt8.lt_iff_toNat_lt, hnat]
      exact hc
    have hrest := ih (fun d hd => h d (by simp [hd]))
    rw [narrow, List.map_cons, decodeLossy_cons_of_lt hlt, hnat, Char.ofNat_toNat]
    exact congrArg (c :: ·) hrest

section Digits

variable (n : Nat)

theorem isDigit_of_mem_toDigits {c : Char} (h : c ∈ Nat.toDigits 10 n) : c.isDigit = true :=
  Nat.isDigit_of_mem_toDigits (by decide) (by decide) h

theorem toNat_of_isDigit {c : Char} (h : c.isDigit = true) : 48 ≤ c.toNat ∧ c.toNat ≤ 57 := by
  simp only [Char.isDigit, Bool.and_eq_true, decide_eq_true_eq, ge_iff_le,
    UInt32.le_iff_toNat_le] at h
  exact h

theorem isAscii_toDigits : IsAscii (Nat.toDigits 10 n) := by
  intro c hc
  have := toNat_of_isDigit (isDigit_of_mem_toDigits n hc)
  omega

theorem foldl_toDigits :
    (Nat.toDigits 10 n).foldl (fun m c => m * 10 + (c.toNat - '0'.toNat)) 0 = n := by
  have h := Nat.ofDigitChars_ten_toDigits (n := n)
  rw [Nat.ofDigitChars_eq_foldl] at h
  simpa only [Nat.mul_comm 10] using h

theorem digits?_toDigits : digits? (Nat.toDigits 10 n) = some n := by
  have hall : (Nat.toDigits 10 n).all Char.isDigit = true := by
    rw [List.all_eq_true]
    exact fun c hc => isDigit_of_mem_toDigits n hc
  have hne : (Nat.toDigits 10 n).isEmpty = false := by
    simp [Nat.toDigits_ne_nil]
  simp only [digits?, hall, hne, foldl_toDigits]
  rfl

theorem ne_sign_of_mem_toDigits {c : Char} (h : c ∈ Nat.toDigits 10 n) : c ≠ '+' ∧ c ≠ '-' := by
  have hdigit := isDigit_of_mem_toDigits n h
  constructor <;> rintro rfl <;> exact absurd hdigit (by decide)

-- Numbers of 64 bits are read back from their decimal digits.
theorem natural?_toDigits {n : Nat} (h : n < 2 ^ 64) : natural? (Nat.toDigits 10 n) = some n := by
  have hdigits := digits?_toDigits n
  have hmax : (n ≤ 18446744073709551615) := by omega
  unfold natural?
  dsimp only
  split
  · rename_i r heq
    exact absurd rfl (ne_sign_of_mem_toDigits n (c := '+') (by simp [heq])).1
  · rw [hdigits]
    simp [hmax]

theorem integer?_toDigits {n : Nat} (h : n < 2 ^ 63) :
    integer? (Nat.toDigits 10 n) = some (n : Int) ∧
      integer? ('-' :: Nat.toDigits 10 n) = some (-(n : Int)) := by
  have hdigits := digits?_toDigits n
  have hrange : -9223372036854775808 ≤ (n : Int) ∧ (n : Int) ≤ 9223372036854775807 := by omega
  have hrange' : -9223372036854775808 ≤ -(n : Int) ∧ -(n : Int) ≤ 9223372036854775807 := by omega
  constructor
  · unfold integer?
    dsimp only
    split
    · rename_i r heq
      exact absurd rfl (ne_sign_of_mem_toDigits n (c := '+') (by simp [heq])).1
    · rename_i r heq
      exact absurd rfl (ne_sign_of_mem_toDigits n (c := '-') (by simp [heq])).2
    · simp [hdigits, hrange]
  · simp [integer?, hdigits, hrange']

end Digits

end SatFrontend.Text

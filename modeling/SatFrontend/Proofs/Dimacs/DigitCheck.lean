import Mathlib.Algebra.Group.Nat.Defs
import SatFrontend.Proofs.Dimacs.Chunks
import SatFrontend.Proofs.Dimacs.Limits
import SatFrontend.Proofs.Receiver.Adding

namespace SatFrontend.Dimacs

open Receiver

section Words

variable {limit value digit : UInt64}

end Words

section Reached

variable {limit : Nat} {r : Reader}

-- A reader that has failed, or has not read a number above the limit.
def Mode.Bounded (limit : Nat) (mode : Mode) : Prop := mode = .failed ∨ mode.Within limit

theorem Mode.Bounded.le {mode : Mode} (h : mode.Bounded limit) {value : Nat}
    (hvalue : mode.value? = some value) : value ≤ limit := by
  rcases h with rfl | hwithin
  · simp [value?] at hvalue
  · cases mode with
    | digits negative n =>
      obtain rfl : n = value := by simpa [value?] using hvalue
      exact hwithin
    | blank fresh | sign =>
      obtain rfl : 0 = value := by simpa [value?] using hvalue
      exact Nat.zero_le _
    | comment | problem text | failed => simp [value?] at hvalue

end Reached

section Token

variable {r : Reader} {b : UInt8} {u w t : List UInt8}

-- A reader that stands before a token, or inside of one after the part `u` of it.
inductive Begun : Mode → List UInt8 → Prop
  | before (fresh : Bool) : Begun (.blank fresh) []
  | sign : Begun .sign [45]
  | digits {u : List UInt8} (hnumeral : Token.IsNumeral u) :
      Begun (.digits (Token.negative u) (Token.magnitude u)) u

theorem Begun.append_digit {mode : Mode} (h : Begun mode u) (hb : isDigit b = true) :
    Token.IsNumeral (u ++ [b]) ∧
      Token.magnitude (u ++ [b]) = Token.magnitude u * 10 + (b.toNat - 48) := by
  cases h with
  | before fresh => exact ⟨isNumeral_singleton hb, magnitude_singleton hb⟩
  | sign =>
    obtain ⟨hnumeral, -, hmagnitude⟩ := isNumeral_append_digit (u := [45]) (by simp)
      (by simp [Token.digits, Token.negative]) hb
    exact ⟨hnumeral, hmagnitude⟩
  | digits hbegun =>
    obtain ⟨hnumeral, -, hmagnitude⟩ := isNumeral_append_digit hbegun.ne_nil hbegun.2 hb
    exact ⟨hnumeral, hmagnitude⟩

end Token

section Intake

variable {σ : Type} [Receiver σ]
  (hsteady : ∀ (s : σ) (e : Event), limit (e.forward s) = limit s) {s : σ} {r : Reader}
  {fresh : Bool} {t rest : List UInt8} {chunks : List (List UInt8)}

include hsteady

end Intake

end SatFrontend.Dimacs

import SatFrontend.Proofs.Dimacs.Acceptance
import SatFrontend.Proofs.Receiver.Simulation

namespace SatFrontend

theorem Var.number_ofNumber_le {n : Nat} (h : n ≠ 0) : (Var.ofNumber n).number ≤ n := by
  simp only [ofNumber, number]
  omega

namespace Dimacs

open Grammar

-- The number that the digits at the beginning of a token write, after its sign. A reader gets
-- no further number out of the token, whatever comes after them.
def Token.leading (t : List UInt8) : Nat := number ((digits t).takeWhile isDigit)

theorem Token.magnitude_le_leading {u : List UInt8} (h : IsNumeral u) (w : List UInt8) :
    magnitude u ≤ leading (u ++ w) := by
  unfold magnitude leading
  rw [digits_append h.ne_nil, List.takeWhile_append_of_pos h.2]
  exact number_le_number_append _ _

-- The number that a digit is put at the end of.
def Mode.value? : Mode → Option Nat
  | .blank _ | .sign => some 0
  | .digits _ value => some value
  | .comment | .problem _ | .failed => none

theorem Partial.append_digit {mode : Mode} {u : List UInt8} (h : Partial mode u) {value : Nat}
    (hvalue : mode.value? = some value) {b : UInt8} (hb : isDigit b = true) :
    Token.IsNumeral (u ++ [b]) ∧ Token.magnitude (u ++ [b]) = value * 10 + (b.toNat - 48) := by
  cases h with
  | none =>
    obtain rfl := Option.some.inj hvalue
    exact ⟨isNumeral_singleton hb, magnitude_singleton hb⟩
  | sign =>
    obtain rfl := Option.some.inj hvalue
    obtain ⟨hnumeral, -, hmagnitude⟩ := isNumeral_append_digit (u := [45]) (by simp)
      (by simp [Token.digits, Token.negative]) hb
    exact ⟨hnumeral, hmagnitude⟩
  | digits _ hnumeral =>
    obtain rfl := Option.some.inj hvalue
    obtain ⟨hnumeral', -, hmagnitude⟩ := isNumeral_append_digit hnumeral.ne_nil hnumeral.2 hb
    exact ⟨hnumeral', hmagnitude⟩

theorem Expects.ne_failed {mode : Mode} {bytes : List UInt8} {ts ps : List (List UInt8)}
    (h : Expects mode bytes ts ps) : mode ≠ .failed := by
  rintro rfl
  cases h with
  | middle hpartial => cases hpartial

-- Whatever number a reader builds is a beginning of a token that the text holds.
theorem Expects.exists_le_leading {mode : Mode} {b : UInt8} {bytes : List UInt8}
    {ts ps : List (List UInt8)} (h : Expects mode (b :: bytes) ts ps) {value : Nat}
    (hvalue : mode.value? = some value) (hb : isDigit b = true) :
    ∃ t ∈ ts, value * 10 + (b.toNat - 48) ≤ Token.leading t := by
  obtain ⟨hspace, hend⟩ := isDigit_not_blank hb
  have hbegun : ∀ u : List UInt8, (∀ a ∈ u, isSpace a = false) → Token.IsNumeral (u ++ [b]) →
      Token.magnitude (u ++ [b]) = value * 10 + (b.toNat - 48) →
      ∃ t ∈ middleTokens (u ++ [b]) bytes, value * 10 + (b.toNat - 48) ≤ Token.leading t := by
    intro u hu hnumeral hmagnitude
    have hall : ∀ a ∈ u ++ [b], isSpace a = false := by
      intro a ha
      rcases List.mem_append.mp ha with ha | ha
      · exact hu a ha
      · rwa [List.mem_singleton.mp ha]
    obtain ⟨w, rest, hw⟩ := exists_middleTokens_eq_cons hnumeral.ne_nil hall bytes
    refine ⟨_, by rw [hw]; exact List.mem_cons_self, ?_⟩
    rw [← hmagnitude]
    exact Token.magnitude_le_leading hnumeral w
  generalize hall : b :: bytes = all at h
  cases h with
  | fresh =>
    subst hall
    obtain rfl := Option.some.inj hvalue
    have hne : b ≠ 99 ∧ b ≠ 112 := by
      constructor <;> rintro rfl <;> exact absurd hb (by decide)
    rw [tokens_cons hspace hend hne.1 hne.2]
    exact hbegun [] (by simp) (isNumeral_singleton hb) (magnitude_singleton hb)
  | middle hpartial =>
    subst hall
    obtain ⟨hnumeral, hmagnitude⟩ := hpartial.append_digit hvalue hb
    rw [middleTokens_cons hend]
    exact hbegun _ hpartial.not_space hnumeral hmagnitude
  | comment => simp [Mode.value?] at hvalue
  | problem htext => simp [Mode.value?] at hvalue

section Step

variable {limit limit' : Nat} {r : Reader} {b : UInt8}

theorem step_of_digit {value : Nat} (hvalue : r.mode.value? = some value)
    (hb : isDigit b = true) :
    ∃ negative, ∀ limit, r.step limit b =
      ((r.countLine b).digit limit negative value b).map (·, none) := by
  cases hmode : r.mode with
  | blank fresh =>
    rw [hmode] at hvalue
    obtain rfl := Option.some.inj hvalue
    exact ⟨false, fun limit => by simp [Reader.step, countLine_mode, hmode, hb]⟩
  | sign =>
    rw [hmode] at hvalue
    obtain rfl := Option.some.inj hvalue
    exact ⟨true, fun limit => by simp [Reader.step, countLine_mode, hmode, hb]⟩
  | digits negative value' =>
    rw [hmode] at hvalue
    obtain rfl := Option.some.inj hvalue
    exact ⟨negative, fun limit => by simp [Reader.step, countLine_mode, hmode, hb]⟩
  | comment => simp [hmode, Mode.value?] at hvalue
  | problem text => simp [hmode, Mode.value?] at hvalue
  | failed => simp [hmode, Mode.value?] at hvalue

-- Only digits are held against the limit.
theorem step_eq_of_not_digit (h : r.mode.value? = none ∨ isDigit b = false) :
    r.step limit b = r.step limit' b := by
  unfold Reader.step
  simp only [countLine_mode]
  cases hmode : r.mode with
  | blank fresh =>
    have hb : isDigit b = false := by simpa [hmode, Mode.value?] using h
    simp only [hb, Bool.false_eq_true, if_false]
  | sign =>
    have hb : isDigit b = false := by simpa [hmode, Mode.value?] using h
    simp only [hb, Bool.false_eq_true, if_false]
  | digits negative value =>
    have hb : isDigit b = false := by simpa [hmode, Mode.value?] using h
    simp only [hb, Bool.false_eq_true, if_false]
  | comment => dsimp only
  | problem text => dsimp only
  | failed => dsimp only

-- Two limits that are not met make no difference.
theorem step_eq_of_le
    (h : ∀ value, r.mode.value? = some value → isDigit b = true →
      value * 10 + (b.toNat - 48) ≤ limit ∧ value * 10 + (b.toNat - 48) ≤ limit') :
    r.step limit b = r.step limit' b := by
  by_cases hb : isDigit b = true
  · cases hvalue : r.mode.value? with
    | none => exact step_eq_of_not_digit (Or.inl hvalue)
    | some value =>
      obtain ⟨hle, hle'⟩ := h value hvalue hb
      obtain ⟨negative, hstep⟩ := step_of_digit hvalue hb
      rw [hstep limit, hstep limit', (Reader.digit_eq_ok_iff hb).mpr ⟨hle, rfl⟩,
        (Reader.digit_eq_ok_iff hb).mpr ⟨hle', rfl⟩]
  · exact step_eq_of_not_digit (Or.inr (by simpa using hb))

theorem of_step_digit {out : Reader × Option Event} (h : r.step limit b = .ok out) {value : Nat}
    (hvalue : r.mode.value? = some value) (hb : isDigit b = true) :
    value * 10 + (b.toNat - 48) ≤ limit ∧
      ∃ negative, out.1.mode = .digits negative (value * 10 + (b.toNat - 48)) ∧ out.2 = none := by
  obtain ⟨negative, hstep⟩ := step_of_digit hvalue hb
  rw [hstep limit] at h
  cases hdigit : (r.countLine b).digit limit negative value b with
  | error e => simp [hdigit, Except.map] at h
  | ok r' =>
    obtain ⟨hle, rfl⟩ := (Reader.digit_eq_ok_iff hb).mp hdigit
    rw [hdigit] at h
    obtain rfl := Except.ok.inj h
    exact ⟨hle, negative, rfl, rfl⟩

-- A reader that moves on expects a later part of the same tokens, whatever the limit is.
theorem Expects.step {bytes : List UInt8} {ts ps : List (List UInt8)}
    (h : Expects r.mode (b :: bytes) ts ps) {out : Reader × Option Event}
    (hok : r.step limit b = .ok out) :
    ∃ ts' ps', Expects out.1.mode bytes ts' ps' ∧ ts' ⊆ ts := by
  -- a limit that lies above what was read so far
  obtain ⟨high, hle, hwithin⟩ : ∃ high, limit ≤ high ∧ r.mode.Within high := by
    cases hmode : r.mode with
    | digits negative value => exact ⟨max limit value, Nat.le_max_left .., Nat.le_max_right ..⟩
    | failed => exact absurd hmode h.ne_failed
    | _ => exact ⟨limit, Nat.le_refl limit, trivial⟩
  have hhigh : r.step high b = .ok out := by
    rw [← hok]
    refine step_eq_of_le fun value hvalue hb => ?_
    have := (of_step_digit hok hvalue hb).1
    omega
  rcases advances h hwithin with ⟨e, herr, -⟩ | ⟨r', event, ts₁, ts₂, ps₁, ps₂, hok', -, hexpects, rfl,
      -⟩
  · rw [herr] at hhigh
    simp at hhigh
  · rw [hok'] at hhigh
    obtain rfl := Except.ok.inj hhigh
    exact ⟨ts₂, ps₂, hexpects, List.subset_append_right ts₁ ts₂⟩

end Step

-- Two limits that no token reaches give the same scan.
theorem foldl_step_eq_of_le {limit limit' : Nat} {s : Scan} (hs : s.error = none)
    {bytes rest : List UInt8} {ts ps : List (List UInt8)}
    (h : Expects s.reader.mode (bytes ++ rest) ts ps)
    (hle : ∀ t ∈ ts, Token.leading t ≤ limit ∧ Token.leading t ≤ limit') :
    bytes.foldl (Scan.step limit) s = bytes.foldl (Scan.step limit') s := by
  induction bytes generalizing s ts ps with
  | nil => simp only [List.foldl_nil]
  | cons b bytes ih =>
    have hstep : s.reader.step limit b = s.reader.step limit' b := by
      refine step_eq_of_le fun value hvalue hb => ?_
      obtain ⟨t, ht, hbound⟩ := h.exists_le_leading hvalue hb
      have := hle t ht
      omega
    simp only [List.foldl_cons]
    rw [Scan.step_eq_after limit hs, Scan.step_eq_after limit' hs, ← hstep]
    cases hout : s.reader.step limit b with
    | error e => rw [Scan.foldl_step_after_error, Scan.foldl_step_after_error]
    | ok out =>
      obtain ⟨herror, hreader, -⟩ := Scan.after_ok hs out
      obtain ⟨ts', ps', hexpects, hsub⟩ := h.step hout
      rw [← hreader] at hexpects
      exact ih herror hexpects fun t ht => hle t (hsub ht)

theorem Expects.foldl_step {limit : Nat} {s : Scan} (hs : s.error = none)
    {bytes rest : List UInt8} {ts ps : List (List UInt8)}
    (h : Expects s.reader.mode (bytes ++ rest) ts ps)
    (hok : (bytes.foldl (Scan.step limit) s).error = none) :
    ∃ ts' ps', Expects (bytes.foldl (Scan.step limit) s).reader.mode rest ts' ps' ∧ ts' ⊆ ts := by
  induction bytes generalizing s ts ps with
  | nil => exact ⟨ts, ps, h, List.Subset.refl ts⟩
  | cons b bytes ih =>
    simp only [List.foldl_cons] at hok ⊢
    rw [Scan.step_eq_after limit hs] at hok ⊢
    cases hout : s.reader.step limit b with
    | error e =>
      rw [hout, Scan.foldl_step_after_error] at hok
      simp [Scan.after] at hok
    | ok out =>
      rw [hout] at hok
      obtain ⟨herror, hreader, -⟩ := Scan.after_ok hs out
      obtain ⟨ts₁, ps₁, hexpects₁, hsub₁⟩ := h.step hout
      rw [← hreader] at hexpects₁
      obtain ⟨ts₂, ps₂, hexpects₂, hsub₂⟩ := ih herror hexpects₁ hok
      exact ⟨ts₂, ps₂, hexpects₂, List.Subset.trans hsub₂ hsub₁⟩

end Dimacs

end SatFrontend

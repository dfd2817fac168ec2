import SatFrontend.Proofs.Text.Decimal

namespace SatFrontend.Text

section Byte

variable {m n k j : Nat}

theorem toNat_ofNat (h : n < 256) : (UInt8.ofNat n).toNat = n := by
  simp only [UInt8.toNat_ofNat']
  omega

theorem ofNat_le_iff (h : n < 256) (b : UInt8) : UInt8.ofNat n ≤ b ↔ n ≤ b.toNat := by
  rw [UInt8.le_iff_toNat_le, toNat_ofNat h]

theorem le_ofNat_iff (h : n < 256) (b : UInt8) : b ≤ UInt8.ofNat n ↔ b.toNat ≤ n := by
  rw [UInt8.le_iff_toNat_le, toNat_ofNat h]

theorem ofNat_eq_iff (h : n < 256) (b : UInt8) : UInt8.ofNat n = b ↔ n = b.toNat := by
  rw [← UInt8.toNat_inj, toNat_ofNat h]

theorem isContinuation_ofNat (hlow : 128 ≤ n) (hhigh : n < 192) :
    isContinuation (UInt8.ofNat n) = true := by
  have hn : n < 256 := by omega
  simp only [isContinuation, Bool.and_eq_true, decide_eq_true_eq, le_ofNat_iff hn, ofNat_le_iff hn,
    UInt8.reduceToNat]
  omega

-- The second bytes that keep a character from being overlong, a surrogate or too large.
theorem isSecond_ofNat (hm : m < 256) (hlow : 128 ≤ n) (hhigh : n < 192) (h₁ : m = 224 → 160 ≤ n)
    (h₂ : m = 237 → n < 160) (h₃ : m = 240 → 144 ≤ n) (h₄ : m = 244 → n < 144) :
    isSecond (UInt8.ofNat m) (UInt8.ofNat n) = true := by
  have hn : n < 256 := by omega
  simp only [isSecond, isContinuation, ofNat_eq_iff hm, UInt8.reduceToNat]
  repeat' split
  all_goals
    simp only [Bool.and_eq_true, decide_eq_true_eq, le_ofNat_iff hn, ofNat_le_iff hn,
      UInt8.reduceToNat]
    omega

variable (bytes : List UInt8)

theorem decode_one (h : n < 128) :
    decode (UInt8.ofNat n :: bytes) = some (Char.ofNat n) :: decode bytes := by
  have hn : n < 256 := by omega
  have hlt : UInt8.ofNat n < 0x80 := by
    rw [UInt8.lt_iff_toNat_lt, toNat_ofNat hn]
    exact h
  rw [decode.eq_def]
  simp [hlt, scalar, toNat_ofNat hn]

theorem decode_two (hm : 194 ≤ m) (hm' : m < 224) (hn : 128 ≤ n) (hn' : n < 192) :
    decode (UInt8.ofNat m :: UInt8.ofNat n :: bytes) =
      some (Char.ofNat (m % 32 * 64 + n % 64)) :: decode bytes := by
  have hlt : m < 256 := by omega
  rw [decode.eq_def]
  simp only [UInt8.lt_iff_toNat_lt, le_ofNat_iff hlt, ofNat_le_iff hlt, toNat_ofNat hlt,
    UInt8.reduceToNat, isContinuation_ofNat hn hn', scalar, List.foldl_cons, List.foldl_nil,
    toNat_ofNat (show n < 256 by omega), if_true]
  rw [if_neg (by omega), if_pos (by simp; omega)]

theorem decode_three (hm : 224 ≤ m) (hm' : m < 240) (hn : 128 ≤ n) (hn' : n < 192) (hk : 128 ≤ k)
    (hk' : k < 192) (h₁ : m = 224 → 160 ≤ n) (h₂ : m = 237 → n < 160) :
    decode (UInt8.ofNat m :: UInt8.ofNat n :: UInt8.ofNat k :: bytes) =
      some (Char.ofNat ((m % 16 * 64 + n % 64) * 64 + k % 64)) :: decode bytes := by
  have hlt : m < 256 := by omega
  have hsecond : isSecond (UInt8.ofNat m) (UInt8.ofNat n) = true :=
    isSecond_ofNat hlt hn hn' h₁ h₂ (by omega) (by omega)
  rw [decode.eq_def]
  simp only [UInt8.lt_iff_toNat_lt, le_ofNat_iff hlt, ofNat_le_iff hlt, toNat_ofNat hlt,
    UInt8.reduceToNat, hsecond, isContinuation_ofNat hk hk', scalar, List.foldl_cons,
    List.foldl_nil, toNat_ofNat (show n < 256 by omega), toNat_ofNat (show k < 256 by omega),
    Bool.not_true, Bool.false_eq_true, if_false]
  rw [if_neg (by omega), if_neg (by simp; omega), if_pos (by simp; omega)]

theorem decode_four (hm : 240 ≤ m) (hm' : m < 245) (hn : 128 ≤ n) (hn' : n < 192) (hk : 128 ≤ k)
    (hk' : k < 192) (hj : 128 ≤ j) (hj' : j < 192) (h₁ : m = 240 → 144 ≤ n)
    (h₂ : m = 244 → n < 144) :
    decode (UInt8.ofNat m :: UInt8.ofNat n :: UInt8.ofNat k :: UInt8.ofNat j :: bytes) =
      some (Char.ofNat (((m % 8 * 64 + n % 64) * 64 + k % 64) * 64 + j % 64)) :: decode bytes := by
  have hlt : m < 256 := by omega
  have hsecond : isSecond (UInt8.ofNat m) (UInt8.ofNat n) = true :=
    isSecond_ofNat hlt hn hn' (by omega) (by omega) h₁ h₂
  rw [decode.eq_def]
  simp only [UInt8.lt_iff_toNat_lt, le_ofNat_iff hlt, ofNat_le_iff hlt, toNat_ofNat hlt,
    UInt8.reduceToNat, hsecond, isContinuation_ofNat hk hk', isContinuation_ofNat hj hj', scalar,
    List.foldl_cons, List.foldl_nil, toNat_ofNat (show n < 256 by omega),
    toNat_ofNat (show k < 256 by omega), toNat_ofNat (show j < 256 by omega), Bool.not_true,
    Bool.false_eq_true, if_false]
  rw [if_neg (by omega), if_neg (by simp; omega), if_neg (by simp; omega), if_pos (by simp; omega)]

end Byte

-- One case for each number of bytes that a character takes.
theorem decode_utf8EncodeChar (c : Char) (bytes : List UInt8) :
    decode (String.utf8EncodeChar c ++ bytes) = some c :: decode bytes := by
  have hvalid : c.toNat < 0xD800 ∨ 0xDFFF < c.toNat ∧ c.toNat < 0x110000 := c.valid
  have hval : c.val.toNat = c.toNat := rfl
  have hchar : ∀ n, n = c.toNat → Char.ofNat n = c := by
    rintro n rfl
    exact Char.ofNat_toNat c
  rw [String.utf8EncodeChar.eq_def]
  simp only [hval]
  by_cases hone : c.toNat ≤ 127
  · rw [if_pos hone, List.singleton_append, decode_one bytes (by omega), hchar _ rfl]
  by_cases htwo : c.toNat ≤ 2047
  · rw [if_neg hone, if_pos htwo, List.cons_append, List.cons_append, List.nil_append,
      decode_two bytes (by omega) (by omega) (by omega) (by omega), hchar _ (by omega)]
  by_cases hthree : c.toNat ≤ 65535
  · rw [if_neg hone, if_neg htwo, if_pos hthree]
    simp only [List.cons_append, List.nil_append]
    rw [decode_three bytes (by omega) (by omega) (by omega) (by omega) (by omega) (by omega)
      (by omega) (by omega), hchar _ (by omega)]
  · rw [if_neg hone, if_neg htwo, if_neg hthree]
    simp only [List.cons_append, List.nil_append]
    rw [decode_four bytes (by omega) (by omega) (by omega) (by omega) (by omega) (by omega)
      (by omega) (by omega) (by omega) (by omega), hchar _ (by omega)]

theorem encode_eq (s : String) : encode s = s.toList.flatMap String.utf8EncodeChar := by
  have hchars : ∀ cs : List Char, cs.utf8Encode.data.toList = cs.flatMap String.utf8EncodeChar := by
    intro cs
    induction cs with
    | nil => rfl
    | cons c cs ih =>
      rw [List.utf8Encode_cons, List.utf8Encode_singleton]
      simp [ih]
  rw [← hchars]
  simp [encode, String.toUTF8]

-- A text is read back from its bytes, also before other bytes.
theorem decode_encode_append (s : String) (bytes : List UInt8) :
    decode (encode s ++ bytes) = s.toList.map some ++ decode bytes := by
  rw [encode_eq]
  generalize s.toList = cs
  induction cs with
  | nil => rfl
  | cons c cs ih =>
    rw [List.flatMap_cons, List.append_assoc, decode_utf8EncodeChar, ih]
    rfl

theorem decode_encode (s : String) : decode (encode s) = s.toList.map some := by
  have h := decode_encode_append s []
  rwa [List.append_nil, decode, List.append_nil] at h

theorem decodeLossy_encode (s : String) : decodeLossy (encode s) = s.toList := by
  rw [decodeLossy, decode_encode, List.map_map]
  simp [Function.comp_def]

theorem decode?_encode (s : String) : decode? (encode s) = some s.toList := by
  rw [decode?, decode_encode]
  generalize s.toList = cs
  induction cs with
  | nil => rfl
  | cons c cs ih =>
    rw [List.map_cons, List.mapM_cons, ih]
    rfl

-- Only a line feed is written with the byte of one.
theorem lineFeed_not_mem_utf8EncodeChar {c : Char} (h : c ≠ '\n') :
    10 ∉ String.utf8EncodeChar c := by
  have hval : c.val.toNat = c.toNat := rfl
  have hne : c.toNat ≠ 10 := fun heq => h (Char.ext (UInt32.toNat_inj.mp heq))
  have hlt : c.toNat < 0x110000 := by
    have hvalid : c.toNat < 0xD800 ∨ 0xDFFF < c.toNat ∧ c.toNat < 0x110000 := c.valid
    omega
  rw [String.utf8EncodeChar.eq_def]
  simp only [hval]
  repeat' split
  all_goals
    simp only [List.mem_cons, List.not_mem_nil, or_false, not_or, ← UInt8.toNat_inj,
      UInt8.toNat_ofNat', UInt8.reduceToNat]
    omega

theorem lineFeed_not_mem_encode {s : String} (h : '\n' ∉ s.toList) : 10 ∉ encode s := by
  rw [encode_eq]
  intro hmem
  obtain ⟨c, hc, hbyte⟩ := List.mem_flatMap.mp hmem
  exact lineFeed_not_mem_utf8EncodeChar (fun heq => h (heq ▸ hc)) hbyte

theorem lineFeed_ne_ofNat {n : Nat} (h : n ≠ 10) : '\n' ≠ Char.ofNat n := by
  intro heq
  have hnat : 10 = (Char.ofNat n).toNat := congrArg Char.toNat heq
  by_cases hvalid : n.isValidChar
  · have hsame : (Char.ofNat n).toNat = n := by
      rw [Char.ofNat, dif_pos hvalid]
      rfl
    exact h (hnat.trans hsame).symm
  · rw [Char.ofNat, dif_neg hvalid] at hnat
    contradiction

-- The second byte keeps the number above those of ASCII.
theorem isSecond_bounds {a b : UInt8} (h : isSecond a b = true) :
    (a.toNat = 224 → 160 ≤ b.toNat) ∧ (a.toNat = 240 → 144 ≤ b.toNat) ∧ b.toNat < 192 := by
  simp only [isSecond, isContinuation, ← UInt8.toNat_inj, UInt8.reduceToNat] at h
  repeat' split at h
  all_goals
    simp only [Bool.and_eq_true, decide_eq_true_eq, UInt8.le_iff_toNat_le, UInt8.reduceToNat] at h
    omega

-- One case for each way to go on. Only a byte that is a line feed is read as one.
theorem lineFeed_not_mem_decode {bytes : List UInt8} (h : 10 ∉ bytes) :
    some '\n' ∉ decode bytes := by
  fun_induction decode bytes
  case case2 a r hlt ih =>
    simp only [List.mem_cons, not_or, Option.some.injEq] at h ⊢
    exact ⟨lineFeed_ne_ofNat fun heq => h.1 (UInt8.toNat_inj.mp heq.symm), ih h.2⟩
  case case3 a hlt hlead b r hcont ih =>
    simp only [List.mem_cons, not_or, Option.some.injEq] at h ⊢
    simp only [Bool.and_eq_true, decide_eq_true_eq, UInt8.le_iff_toNat_le, UInt8.reduceToNat]
      at hlead
    refine ⟨lineFeed_ne_ofNat ?_, ih h.2.2⟩
    simp only [List.foldl_cons, List.foldl_nil]
    omega
  case case8 a hlt htwo hlead b c r hsecond hcont ih =>
    simp only [List.mem_cons, not_or, Option.some.injEq] at h ⊢
    simp only [Bool.and_eq_true, decide_eq_true_eq, UInt8.le_iff_toNat_le, UInt8.reduceToNat]
      at hlead
    have hbounds := isSecond_bounds (by simpa using hsecond)
    refine ⟨lineFeed_ne_ofNat ?_, ih h.2.2.2⟩
    simp only [List.foldl_cons, List.foldl_nil]
    omega
  case case15 a hlt htwo hthree hlead b c d r hsecond hcont hcont' ih =>
    simp only [List.mem_cons, not_or, Option.some.injEq] at h ⊢
    simp only [Bool.and_eq_true, decide_eq_true_eq, UInt8.le_iff_toNat_le, UInt8.reduceToNat]
      at hlead
    have hbounds := isSecond_bounds (by simpa using hsecond)
    refine ⟨lineFeed_ne_ofNat ?_, ih h.2.2.2.2⟩
    simp only [List.foldl_cons, List.foldl_nil]
    omega
  all_goals simp_all

theorem lineFeed_not_mem_decodeLossy {bytes : List UInt8} (h : 10 ∉ bytes) :
    '\n' ∉ decodeLossy bytes := by
  intro hmem
  obtain ⟨o, ho, heq⟩ := List.mem_map.mp hmem
  cases o with
  | none => exact absurd heq (by decide)
  | some c =>
    obtain rfl : c = '\n' := heq
    exact lineFeed_not_mem_decode h ho

end SatFrontend.Text

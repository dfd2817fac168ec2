import SatFrontend.Backend.ModelStream
import SatFrontend.Backend.Witness
import SatFrontend.CommandLine.Session
import SatFrontend.Proofs.Dimacs.RoundTrip
import SatFrontend.Proofs.Text.Lines

namespace SatFrontend

open Text Dimacs CommandLine

-- What the text of a literal or of a 0 consists of.
def Sign (c : Char) : Prop := c = '-' ∨ c.isDigit = true

theorem Sign.not_blank {c : Char} (h : Sign c) : isBlank c = false := by
  rcases h with rfl | h
  · decide
  · exact not_blank_of_isDigit h

theorem Sign.ne {c d : Char} (h : Sign c) (hd : ¬Sign d) : c ≠ d := by
  rintro rfl
  exact hd h

theorem Lit.toList_text (l : Lit) :
    l.text.toList = (if l.negative then ['-'] else []) ++ Nat.toDigits 10 l.var.number := by
  have hpos := l.var.number_pos
  unfold Lit.text Lit.toInt
  rw [Int.toString_eq_repr, Int.repr_eq_if]
  cases l.negative with
  | true =>
    simp only [if_true, Int.neg_neg, Int.toNat_natCast]
    rw [if_neg (by omega), String.toList_append, Nat.toList_repr]
    rfl
  | false =>
    simp only [Bool.false_eq_true, if_false, Int.toNat_natCast]
    rw [if_pos (by omega), Nat.toList_repr, List.nil_append]

theorem Lit.sign_of_mem_text {l : Lit} {c : Char} (h : c ∈ l.text.toList) : Sign c := by
  rw [Lit.toList_text, List.mem_append] at h
  rcases h with h | h
  · split at h
    · exact Or.inl (List.mem_singleton.mp h)
    · simp at h
  · exact Or.inr (isDigit_of_mem_toDigits _ h)

theorem Lit.toList_text_ne_nil (l : Lit) : l.text.toList ≠ [] := by
  simp [Lit.toList_text, Nat.toDigits_ne_nil]

-- A literal is read back from its text.
theorem Lit.integer?_text (l : Lit) : integer? l.text.toList = some l.toInt := by
  have hle := l.var.number_le
  have hmax : Var.maxCount = 2147483647 := rfl
  obtain ⟨hplain, hminus⟩ := integer?_toDigits (n := l.var.number) (by omega)
  rw [Lit.toList_text, Lit.toInt]
  cases l.negative with
  | true => exact hminus
  | false => exact hplain

-- The words that a model is printed as.
def modelWords (m : List Lit) : List (List Char) := m.map (·.text.toList) ++ [['0']]

theorem sign_of_mem_modelWords {m : List Lit} {w : List Char} (h : w ∈ modelWords m) :
    w ≠ [] ∧ ∀ c ∈ w, Sign c := by
  rcases List.mem_append.mp h with h | h
  · obtain ⟨l, -, rfl⟩ := List.mem_map.mp h
    exact ⟨l.toList_text_ne_nil, fun c hc => Lit.sign_of_mem_text hc⟩
  · rw [List.mem_singleton.mp h]
    exact ⟨by simp, by simp [Sign]⟩

theorem toList_modelLine (m : List Lit) :
    (modelLine [] m).toList = [' '].intercalate (modelWords m) := by
  simp [modelLine, modelWords, Function.comp_def, String.toList_intercalate]

theorem toList_modelLine_v (m : List Lit) :
    (modelLine ["v"] m).toList = 'v' :: ' ' :: (modelLine [] m).toList := by
  have hne : modelWords m ≠ [] := by simp [modelWords]
  have hwords : (["v"] ++ m.map Lit.text ++ ["0"]).map String.toList = ['v'] :: modelWords m := by
    simp [modelWords, Function.comp_def]
  rw [modelLine, String.toList_intercalate, hwords, List.intercalate_cons_of_ne_nil hne,
    toList_modelLine]
  rfl

theorem words_modelLine (m : List Lit) : words (modelLine [] m).toList = modelWords m := by
  rw [toList_modelLine]
  refine words_intercalate fun w hw => ?_
  obtain ⟨hne, hsign⟩ := sign_of_mem_modelWords hw
  exact ⟨hne, fun c hc => (hsign c hc).not_blank⟩

-- No blank stands at the ends of the line of a model.
theorem ends_modelLine (m : List Lit) :
    (∃ c cs, (modelLine [] m).toList = c :: cs ∧ Sign c) ∧
      ∃ cs, (modelLine [] m).toList = cs ++ ['0'] := by
  rw [toList_modelLine]
  unfold modelWords
  induction m with
  | nil => exact ⟨⟨_, [], rfl, Or.inr (by decide)⟩, [], rfl⟩
  | cons l m ih =>
    obtain ⟨-, cs, hcs⟩ := ih
    have hne : m.map (·.text.toList) ++ [['0']] ≠ [] := by simp
    rw [List.map_cons, List.cons_append, List.intercalate_cons_of_ne_nil hne, hcs]
    obtain ⟨c, rest, hrest⟩ := List.exists_cons_of_ne_nil l.toList_text_ne_nil
    refine ⟨⟨c, rest ++ [' '] ++ (cs ++ ['0']), by simp [hrest], ?_⟩, l.text.toList ++ [' '] ++ cs,
      by simp⟩
    exact Lit.sign_of_mem_text (l := l) (by simp [hrest])

theorem oneLine_modelLine (m : List Lit) : OneLine (modelLine [] m) := by
  rw [OneLine, toList_modelLine]
  intro hmem
  have hchars : ∀ ws : List (List Char), (∀ w ∈ ws, ∀ c ∈ w, Sign c) →
      ∀ c ∈ [' '].intercalate ws, Sign c ∨ c = ' ' := by
    intro ws
    induction ws with
    | nil => simp
    | cons w ws ih =>
      intro h c hc
      obtain ⟨hw, hws⟩ := List.forall_mem_cons.mp h
      cases ws with
      | nil => exact Or.inl (hw c (by simpa using hc))
      | cons v ws =>
        rw [List.intercalate_cons_cons, List.mem_append, List.mem_append] at hc
        rcases hc with (hc | hc) | hc
        · exact Or.inl (hw c hc)
        · exact Or.inr (List.mem_singleton.mp hc)
        · exact ih hws c hc
  rcases hchars _ (fun w hw => (sign_of_mem_modelWords hw).2) _ hmem with hsign | hblank
  · exact absurd hsign (by simp [Sign])
  · exact absurd hblank (by decide)

theorem oneLine_modelLine_v (m : List Lit) : OneLine (modelLine ["v"] m) := by
  rw [OneLine, toList_modelLine_v, List.mem_cons, List.mem_cons, not_or, not_or]
  exact ⟨by decide, by decide, oneLine_modelLine m⟩

namespace Backend

-- Both readers take the words of a model for the model.
theorem Witness.literals_modelWords (program : String) (m : List Lit) :
    Witness.literals program (modelWords m) = .ok m := by
  induction m with
  | nil => rfl
  | cons l m ih =>
    have hcons : modelWords (l :: m) = l.text.toList :: modelWords m := rfl
    rw [hcons, Witness.literals, l.integer?_text]
    simp only [l.toInt_ne_zero, if_false, l.ofInt_toInt, ih]
    rfl

theorem ModelStream.literals_modelWords (program : String) (line : List Char) (m : List Lit) :
    ModelStream.literals program line (modelWords m) = .ok m := by
  induction m with
  | nil => rfl
  | cons l m ih =>
    have hcons : modelWords (l :: m) = l.text.toList :: modelWords m := rfl
    rw [hcons, ModelStream.literals, l.integer?_text]
    simp only [l.toInt_ne_zero, if_false, l.ofInt_toInt, ih]
    rfl

end Backend

end SatFrontend

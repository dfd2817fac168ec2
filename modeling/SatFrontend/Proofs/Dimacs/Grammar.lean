import SatFrontend.Dimacs.Reader

namespace SatFrontend.Dimacs

-- A token is a run of bytes between blanks. In a well-formed text every token is a numeral:
-- an optional minus sign and then decimal digits.
namespace Token

def negative (t : List UInt8) : Bool := t.head? == some 45

-- What follows the sign.
def digits (t : List UInt8) : List UInt8 := if negative t then t.tail else t

-- The number that decimal digits write.
def number (ds : List UInt8) : Nat := ds.foldl (fun n b => n * 10 + (b.toNat - 48)) 0

def magnitude (t : List UInt8) : Nat := number (digits t)

-- The signed number that a numeral writes.
def value (t : List UInt8) : Int :=
  if negative t then -(magnitude t : Int) else magnitude t

def IsNumeral (t : List UInt8) : Prop := digits t ≠ [] ∧ ∀ b ∈ digits t, isDigit b = true

-- Numerals whose variable does not lie above a limit.
def Fits (limit : Nat) (t : List UInt8) : Prop := IsNumeral t ∧ magnitude t ≤ limit

instance (t : List UInt8) : Decidable (IsNumeral t) :=
  decidable_of_iff (digits t ≠ [] ∧ (digits t).all isDigit = true) (by simp [IsNumeral])

instance (limit : Nat) (t : List UInt8) : Decidable (Fits limit t) :=
  inferInstanceAs (Decidable (_ ∧ _))

-- The literal that a numeral other than 0 names.
def literal (t : List UInt8) : Lit := ⟨Var.ofNumber (magnitude t), negative t⟩

theorem value_eq_zero_iff (t : List UInt8) : value t = 0 ↔ magnitude t = 0 := by
  unfold value
  split <;> omega

theorem toInt_literal {t : List UInt8} (hzero : value t ≠ 0)
    (hmax : magnitude t ≤ Var.maxCount) : (literal t).toInt = value t := by
  have hpos : 0 < magnitude t := by
    have := mt (value_eq_zero_iff t).mpr hzero
    omega
  simp only [literal, Lit.toInt, value, Var.number_ofNumber hpos hmax]

-- More digits never make a number smaller.
theorem foldl_number_ge (ds : List UInt8) (n : Nat) :
    n ≤ ds.foldl (fun n b => n * 10 + (b.toNat - 48)) n := by
  induction ds generalizing n with
  | nil => exact Nat.le_refl n
  | cons b ds ih =>
    have := ih (n * 10 + (b.toNat - 48))
    simp only [List.foldl_cons]
    omega

theorem number_append (ds es : List UInt8) :
    number (ds ++ es) = es.foldl (fun n b => n * 10 + (b.toNat - 48)) (number ds) := by
  simp [number, List.foldl_append]

theorem number_le_number_append (ds es : List UInt8) : number ds ≤ number (ds ++ es) := by
  rw [number_append]
  exact foldl_number_ge es _

-- The sign is read off the first byte, so what comes later does not change it.
theorem negative_append {u : List UInt8} (h : u ≠ []) (w : List UInt8) :
    negative (u ++ w) = negative u := by
  cases u with
  | nil => exact absurd rfl h
  | cons a u => rfl

theorem digits_append {u : List UInt8} (h : u ≠ []) (w : List UInt8) :
    digits (u ++ w) = digits u ++ w := by
  unfold digits
  rw [negative_append h]
  cases u with
  | nil => exact absurd rfl h
  | cons a u => split <;> simp

theorem IsNumeral.ne_nil {t : List UInt8} (h : IsNumeral t) : t ≠ [] := by
  rintro rfl
  exact h.1 rfl

theorem magnitude_le_append {u : List UInt8} (h : u ≠ []) (w : List UInt8) :
    magnitude u ≤ magnitude (u ++ w) := by
  unfold magnitude
  rw [digits_append h]
  exact number_le_number_append _ w

-- A token that fits has no beginning whose digits lie above the limit.
theorem Fits.magnitude_le {limit : Nat} {u w : List UInt8} (hu : u ≠ [])
    (h : Fits limit (u ++ w)) : magnitude u ≤ limit :=
  Nat.le_trans (magnitude_le_append hu w) h.2

-- Every byte of a numeral after its first one is a digit.
theorem IsNumeral.isDigit_of_append {u w : List UInt8} {b : UInt8} (hu : u ≠ [])
    (h : IsNumeral (u ++ b :: w)) : isDigit b = true := by
  refine h.2 b ?_
  rw [digits_append hu]
  simp

-- The first byte of a numeral is a minus sign or a digit.
theorem IsNumeral.head {b : UInt8} {w : List UInt8} (h : IsNumeral (b :: w)) :
    b = 45 ∨ isDigit b = true := by
  by_cases hb : b = 45
  · exact Or.inl hb
  · refine Or.inr (h.2 b ?_)
    simp [digits, negative, hb]

end Token

-- What a text says, read line by line and token by token.
namespace Grammar

open Text

-- Every line feed and every carriage return ends a line.
def lines (bytes : List UInt8) : List (List UInt8) := splitWhere isLineEnd bytes

-- The longest runs of a line that are free of blanks.
def words (line : List UInt8) : List (List UInt8) :=
  (splitWhere isSpace line).filter (fun w => !w.isEmpty)

-- What follows the `p` of a problem line.
def problem? (line : List UInt8) : Option (List UInt8) :=
  match line.dropWhile isSpace with
  | b :: rest => if b = 112 then some rest else none
  | [] => none

def isComment (line : List UInt8) : Bool := (line.dropWhile isSpace).head? == some 99

-- The tokens of a line, none if it is a comment or a problem line.
def lineTokens (line : List UInt8) : List (List UInt8) :=
  if isComment line || (problem? line).isSome then [] else words line

def tokens (bytes : List UInt8) : List (List UInt8) := (lines bytes).flatMap lineTokens

def problems (bytes : List UInt8) : List (List UInt8) := (lines bytes).filterMap problem?

-- The text of a problem line announces a header if it consists of the word `cnf` and two
-- numbers of 64 bits.
def Announces (text : List UInt8) (h : Header) : Prop :=
  ∃ vars clauses, Text.words (decodeLossy text) = [['c', 'n', 'f'], vars, clauses] ∧
    natural? vars = some h.varCount ∧ natural? clauses = some h.clauseCount

def announced? (text : List UInt8) : Option Header := Header.ofText? (decodeLossy text)

theorem announced?_eq_some_iff {text : List UInt8} {h : Header} :
    announced? text = some h ↔ Announces text h := by
  unfold announced? Header.ofText? Announces
  constructor
  · intro heq
    split at heq
    · rename_i vars clauses hwords
      simp only [Option.bind_eq_bind, Option.bind_eq_some_iff, Option.some.injEq] at heq
      obtain ⟨m, hm, n, hn, rfl⟩ := heq
      exact ⟨vars, clauses, hwords, hm, hn⟩
    · simp at heq
  · rintro ⟨vars, clauses, hwords, hm, hn⟩
    simp [hwords, hm, hn]

-- The last of the problem lines that announce something counts.
theorem getLast?_announced_eq_some_iff {ps : List (List UInt8)} {h : Header} :
    (ps.filterMap announced?).getLast? = some h ↔
      ∃ before text after, ps = before ++ text :: after ∧ Announces text h ∧
        ∀ other ∈ after, ∀ h', ¬Announces other h' := by
  rw [List.getLast?_filterMap, List.findSome?_eq_some_iff]
  simp only [announced?_eq_some_iff, Option.eq_none_iff_forall_ne_some, ne_eq,
    List.reverse_eq_iff]
  constructor
  · rintro ⟨after, text, before, heq, htext, hafter⟩
    refine ⟨before.reverse, text, after.reverse, by simpa using heq, htext, ?_⟩
    simpa using hafter
  · rintro ⟨before, text, after, heq, htext, hafter⟩
    refine ⟨after.reverse, text, before.reverse, by simpa using heq, htext, ?_⟩
    simpa using hafter

theorem getLast?_announced_eq_none_iff {ps : List (List UInt8)} :
    (ps.filterMap announced?).getLast? = none ↔ ∀ text ∈ ps, ∀ h, ¬Announces text h := by
  rw [List.getLast?_eq_none_iff, List.filterMap_eq_nil_iff]
  simp only [Option.eq_none_iff_forall_ne_some, ne_eq, announced?_eq_some_iff]

-- A blank separates the words before it from those after it.
theorem words_append_cons {b : UInt8} (h : isSpace b = true) (u line : List UInt8) :
    words (u ++ b :: line) = words u ++ words line := by
  simp [words, splitWhere_append_cons h]

theorem words_of_not_space {u : List UInt8} (hne : u ≠ []) (h : ∀ b ∈ u, isSpace b = false) :
    words u = [u] := by
  simp [words, splitWhere_eq_singleton h, hne]

-- A word that is begun goes on with what follows it, up to the next blank.
theorem exists_words_eq_cons {u : List UInt8} (hne : u ≠ []) (h : ∀ b ∈ u, isSpace b = false)
    (line : List UInt8) : ∃ w rest, words (u ++ line) = (u ++ w) :: rest := by
  induction line generalizing u with
  | nil => exact ⟨[], [], by simp [words_of_not_space hne h]⟩
  | cons b line ih =>
    by_cases hb : isSpace b = true
    · exact ⟨[], words line, by simp [words_append_cons hb, words_of_not_space hne h]⟩
    · have hu : ∀ a ∈ u ++ [b], isSpace a = false := by
        intro a ha
        rcases List.mem_append.mp ha with ha | ha
        · exact h a ha
        · simpa [List.mem_singleton.mp ha] using hb
      obtain ⟨w, rest, hw⟩ := ih (by simp) hu
      exact ⟨b :: w, rest, by simpa using hw⟩

-- What is left of the line in which a text begins, and the lines after it.
def firstLine (bytes : List UInt8) : List UInt8 := (lines bytes).headD []

def laterLines (bytes : List UInt8) : List (List UInt8) := (lines bytes).tail

def laterTokens (bytes : List UInt8) : List (List UInt8) := (laterLines bytes).flatMap lineTokens

def laterProblems (bytes : List UInt8) : List (List UInt8) :=
  (laterLines bytes).filterMap problem?

-- The tokens of a text that begins inside a line, right after the part `u` of a token.
def middleTokens (u bytes : List UInt8) : List (List UInt8) :=
  words (u ++ firstLine bytes) ++ laterTokens bytes

section Lines

variable {b : UInt8}

theorem lines_eq (bytes : List UInt8) : lines bytes = firstLine bytes :: laterLines bytes := by
  unfold firstLine laterLines
  cases h : lines bytes with
  | nil => exact absurd h (splitWhere_ne_nil _ _)
  | cons line rest => rfl

theorem tokens_eq (bytes : List UInt8) :
    tokens bytes = lineTokens (firstLine bytes) ++ laterTokens bytes := by
  rw [tokens, lines_eq]
  rfl

theorem problems_eq (bytes : List UInt8) :
    problems bytes = (problem? (firstLine bytes)).toList ++ laterProblems bytes := by
  rw [problems, lines_eq, List.filterMap_cons, laterProblems]
  cases problem? (firstLine bytes) <;> rfl

theorem firstLine_cons_of_end (h : isLineEnd b = true) (bytes : List UInt8) :
    firstLine (b :: bytes) = [] := by
  simp [firstLine, lines, splitWhere_cons_of_pos h]

theorem laterLines_cons_of_end (h : isLineEnd b = true) (bytes : List UInt8) :
    laterLines (b :: bytes) = lines bytes := by
  simp [laterLines, lines, splitWhere_cons_of_pos h]

theorem firstLine_cons (h : isLineEnd b = false) (bytes : List UInt8) :
    firstLine (b :: bytes) = b :: firstLine bytes := by
  simp [firstLine, lines, splitWhere_cons_of_neg h]

theorem laterLines_cons (h : isLineEnd b = false) (bytes : List UInt8) :
    laterLines (b :: bytes) = laterLines bytes := by
  simp [laterLines, lines, splitWhere_cons_of_neg h]

theorem laterTokens_cons_of_end (h : isLineEnd b = true) (bytes : List UInt8) :
    laterTokens (b :: bytes) = tokens bytes := by
  rw [laterTokens, laterLines_cons_of_end h, tokens]

theorem laterTokens_cons (h : isLineEnd b = false) (bytes : List UInt8) :
    laterTokens (b :: bytes) = laterTokens bytes := by
  rw [laterTokens, laterLines_cons h, laterTokens]

theorem laterProblems_cons_of_end (h : isLineEnd b = true) (bytes : List UInt8) :
    laterProblems (b :: bytes) = problems bytes := by
  rw [laterProblems, laterLines_cons_of_end h, problems]

theorem laterProblems_cons (h : isLineEnd b = false) (bytes : List UInt8) :
    laterProblems (b :: bytes) = laterProblems bytes := by
  rw [laterProblems, laterLines_cons h, laterProblems]

-- An empty line says nothing.
theorem tokens_cons_of_end (h : isLineEnd b = true) (bytes : List UInt8) :
    tokens (b :: bytes) = tokens bytes := by
  rw [tokens_eq, firstLine_cons_of_end h, laterTokens_cons_of_end h]
  rfl

theorem problems_cons_of_end (h : isLineEnd b = true) (bytes : List UInt8) :
    problems (b :: bytes) = problems bytes := by
  rw [problems_eq, firstLine_cons_of_end h, laterProblems_cons_of_end h]
  rfl

-- Blanks at the beginning of a line do not matter, not even for a comment.
theorem tokens_cons_of_space (h : isSpace b = true) (hend : isLineEnd b = false)
    (bytes : List UInt8) : tokens (b :: bytes) = tokens bytes := by
  have hline : lineTokens (b :: firstLine bytes) = lineTokens (firstLine bytes) := by
    have hwords : words (b :: firstLine bytes) = words (firstLine bytes) :=
      words_append_cons h [] (firstLine bytes)
    simp [lineTokens, isComment, problem?, h, hwords]
  rw [tokens_eq, firstLine_cons hend, laterTokens_cons hend, hline, ← tokens_eq]

theorem problems_cons_of_space (h : isSpace b = true) (hend : isLineEnd b = false)
    (bytes : List UInt8) : problems (b :: bytes) = problems bytes := by
  have hline : problem? (b :: firstLine bytes) = problem? (firstLine bytes) := by
    simp [problem?, h]
  rw [problems_eq, firstLine_cons hend, laterProblems_cons hend, hline, ← problems_eq]

-- The first byte that is not blank decides what a line is.
theorem tokens_cons_comment (bytes : List UInt8) : tokens (99 :: bytes) = laterTokens bytes := by
  rw [tokens_eq, firstLine_cons (by decide), laterTokens_cons (by decide)]
  rfl

theorem problems_cons_comment (bytes : List UInt8) :
    problems (99 :: bytes) = laterProblems bytes := by
  rw [problems_eq, firstLine_cons (by decide), laterProblems_cons (by decide)]
  rfl

theorem tokens_cons_problem (bytes : List UInt8) : tokens (112 :: bytes) = laterTokens bytes := by
  rw [tokens_eq, firstLine_cons (by decide), laterTokens_cons (by decide)]
  rfl

theorem problems_cons_problem (bytes : List UInt8) :
    problems (112 :: bytes) = firstLine bytes :: laterProblems bytes := by
  rw [problems_eq, firstLine_cons (by decide), laterProblems_cons (by decide)]
  rfl

theorem tokens_cons (hspace : isSpace b = false) (hend : isLineEnd b = false) (hc : b ≠ 99)
    (hp : b ≠ 112) (bytes : List UInt8) : tokens (b :: bytes) = middleTokens [b] bytes := by
  rw [tokens_eq, firstLine_cons hend, laterTokens_cons hend, middleTokens]
  simp [lineTokens, isComment, problem?, hspace, hc, hp]

theorem problems_cons (hspace : isSpace b = false) (hend : isLineEnd b = false) (hp : b ≠ 112)
    (bytes : List UInt8) : problems (b :: bytes) = laterProblems bytes := by
  rw [problems_eq, firstLine_cons hend, laterProblems_cons hend]
  simp [problem?, hspace, hp]

-- A token that is begun ends at the next blank or line end and takes in any other byte.
theorem middleTokens_cons_of_end (h : isLineEnd b = true) (u bytes : List UInt8) :
    middleTokens u (b :: bytes) = words u ++ tokens bytes := by
  rw [middleTokens, firstLine_cons_of_end h, laterTokens_cons_of_end h, List.append_nil]

theorem middleTokens_nil (u : List UInt8) : middleTokens u [] = words u := by
  simp [middleTokens, firstLine, lines, splitWhere, laterTokens, laterLines]

theorem middleTokens_cons_of_space (h : isSpace b = true) (hend : isLineEnd b = false)
    (u bytes : List UInt8) : middleTokens u (b :: bytes) = words u ++ middleTokens [] bytes := by
  rw [middleTokens, firstLine_cons hend, laterTokens_cons hend, words_append_cons h,
    List.append_assoc]
  rfl

theorem middleTokens_cons (hend : isLineEnd b = false) (u bytes : List UInt8) :
    middleTokens u (b :: bytes) = middleTokens (u ++ [b]) bytes := by
  rw [middleTokens, firstLine_cons hend, laterTokens_cons hend, middleTokens, List.append_assoc]
  rfl

theorem exists_middleTokens_eq_cons {u : List UInt8} (hne : u ≠ [])
    (h : ∀ b ∈ u, isSpace b = false) (bytes : List UInt8) :
    ∃ w rest, middleTokens u bytes = (u ++ w) :: rest := by
  obtain ⟨w, rest, hw⟩ := exists_words_eq_cons hne h (firstLine bytes)
  exact ⟨w, rest ++ laterTokens bytes, by rw [middleTokens, hw, List.cons_append]⟩

end Lines

end Grammar

end SatFrontend.Dimacs

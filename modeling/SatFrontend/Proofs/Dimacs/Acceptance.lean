import SatFrontend.Proofs.Dimacs.Grammar
import SatFrontend.Proofs.Dimacs.Progress

namespace SatFrontend.Dimacs

open Grammar

theorem ne_sign_of_isDigit {b : UInt8} (h : isDigit b = true) : b ≠ 45 := by
  rintro rfl
  exact absurd h (by decide)

theorem isDigit_not_blank {b : UInt8} (h : isDigit b = true) :
    isSpace b = false ∧ isLineEnd b = false := by
  simp only [isDigit, Bool.and_eq_true, decide_eq_true_eq, UInt8.le_iff_toNat_le] at h
  have h48 : (48 : UInt8).toNat = 48 := rfl
  constructor
  · simp only [isSpace, Bool.or_eq_false_iff, beq_eq_false_iff_ne]
    constructor <;> rintro rfl <;> simp at h
  · simp only [isLineEnd, Bool.or_eq_false_iff, beq_eq_false_iff_ne]
    constructor <;> rintro rfl <;> simp at h

-- No byte is both a blank and a line end.
theorem not_lineEnd_of_space {b : UInt8} (h : isSpace b = true) : isLineEnd b = false := by
  simp only [isSpace, Bool.or_eq_true, beq_iff_eq] at h
  rcases h with rfl | rfl <;> rfl

-- The bytes that end a token neither are digits nor signs.
theorem not_digit_of_blank {b : UInt8} (h : (isSpace b || isLineEnd b) = true) :
    isDigit b = false ∧ b ≠ 45 := by
  simp only [isSpace, isLineEnd, Bool.or_eq_true, beq_iff_eq] at h
  rcases h with (rfl | rfl) | (rfl | rfl) <;> decide

-- The part of a token that a reader has taken in, by the mode it is in then.
inductive Partial : Mode → List UInt8 → Prop
  | none : Partial (.blank false) []
  | sign : Partial .sign [45]
  | digits (u : List UInt8) (hnumeral : Token.IsNumeral u) :
      Partial (.digits (Token.negative u) (Token.magnitude u)) u

theorem Token.IsNumeral.not_blank {t : List UInt8} (h : Token.IsNumeral t) :
    ∀ b ∈ t, isSpace b = false ∧ isLineEnd b = false := by
  cases t with
  | nil => simp
  | cons a t =>
    intro b hb
    rcases List.mem_cons.mp hb with rfl | hb
    · rcases h.head with rfl | hdigit
      · decide
      · exact isDigit_not_blank hdigit
    · obtain ⟨u, w, rfl⟩ := List.append_of_mem hb
      have happend : Token.IsNumeral ((a :: u) ++ b :: w) := h
      exact isDigit_not_blank (happend.isDigit_of_append (by simp))

theorem Partial.not_space {mode : Mode} {u : List UInt8} (h : Partial mode u) :
    ∀ b ∈ u, isSpace b = false := by
  cases h with
  | none => simp
  | sign => simp [isSpace]
  | digits u hnumeral => exact fun b hb => (hnumeral.not_blank b hb).1

-- The tokens and the problem lines that the rest of a text holds, for a reader in a mode.
inductive Expects : Mode → List UInt8 → List (List UInt8) → List (List UInt8) → Prop
  | fresh (bytes : List UInt8) : Expects (.blank true) bytes (tokens bytes) (problems bytes)
  | middle {mode : Mode} {u : List UInt8} (hpartial : Partial mode u) (bytes : List UInt8) :
      Expects mode bytes (middleTokens u bytes) (laterProblems bytes)
  | comment (bytes : List UInt8) :
      Expects .comment bytes (laterTokens bytes) (laterProblems bytes)
  | problem {text rest : List UInt8} (htext : text.reverse = 112 :: rest)
      (bytes : List UInt8) :
      Expects (.problem text) bytes (laterTokens bytes)
        ((rest ++ firstLine bytes) :: laterProblems bytes)

-- What a token makes a receiver do.
def Token.event (t : List UInt8) : Event :=
  if Token.magnitude t = 0 then .clauseEnd else .literal (Token.literal t)

-- Whether an event reaches a receiver.
def Event.isCall : Event → Bool
  | .malformedHeader .. => false
  | _ => true

-- The number of literals after the last clause end, counted on by one more token.
def Token.countOpen (n : Nat) (t : List UInt8) : Nat :=
  if Token.magnitude t = 0 then 0 else n + 1

-- A reader that moves on takes in tokens and problem lines.
structure Takes (limit : Nat) (r r' : Reader) (events : List Event)
    (ts ps : List (List UInt8)) : Prop where
  fits : ∀ t ∈ ts, Token.Fits limit t
  calls : events.filter Event.isCall = ts.map Token.event
  clauseCount : r'.clauseCount = r.clauseCount + ts.countP (Token.magnitude · = 0)
  openCount : r'.openCount = ts.foldl Token.countOpen r.openCount
  header : r'.header = ((ps.filterMap announced?).getLast?).or r.header

namespace Takes

variable {limit : Nat} {r r' r'' : Reader} {events events' : List Event}
  {ts ts' ps ps' : List (List UInt8)}

theorem of_eq (hclause : r'.clauseCount = r.clauseCount) (hopen : r'.openCount = r.openCount)
    (hheader : r'.header = r.header) : Takes limit r r' [] [] [] where
  fits := by simp
  calls := rfl
  clauseCount := hclause
  openCount := hopen
  header := by simpa using hheader

theorem trans (h : Takes limit r r' events ts ps) (h' : Takes limit r' r'' events' ts' ps') :
    Takes limit r r'' (events ++ events') (ts ++ ts') (ps ++ ps') where
  fits := by
    intro t ht
    exact (List.mem_append.mp ht).elim (h.fits t) (h'.fits t)
  calls := by rw [List.filter_append, h.calls, h'.calls, List.map_append]
  clauseCount := by rw [h'.clauseCount, h.clauseCount, List.countP_append, Nat.add_assoc]
  openCount := by rw [h'.openCount, h.openCount, List.foldl_append]
  header := by
    rw [h'.header, h.header, List.filterMap_append, List.getLast?_append, Option.or_assoc]

end Takes

-- A finished literal is taken in as its token.
theorem takes_finishLiteral {limit : Nat} {u : List UInt8} (h : Token.Fits limit u)
    (r : Reader) (mode : Mode) :
    let done := { r with mode := mode }.finishLiteral (Token.negative u) (Token.magnitude u)
    Takes limit r done.1 [done.2] [u] [] ∧ done.1.mode = mode := by
  unfold Reader.finishLiteral
  by_cases hzero : Token.magnitude u = 0
  · rw [if_pos hzero]
    refine ⟨?_, rfl⟩
    constructor <;> simp [hzero, h, Token.event, Token.countOpen, Event.isCall]
  · rw [if_neg hzero]
    refine ⟨?_, rfl⟩
    constructor <;>
      simp [hzero, h, Token.event, Token.countOpen, Event.isCall, Token.literal]

-- A lossily decoded problem line still begins with its `p`.
theorem decodeLossy_cons_problem (text : List UInt8) :
    Text.decodeLossy (112 :: text) = 'p' :: Text.decodeLossy text := by
  rw [Text.decodeLossy, Text.decode.eq_def]
  rfl

theorem takes_finishProblem (limit : Nat) {text rest : List UInt8}
    (htext : text.reverse = 112 :: rest) (r : Reader) (mode : Mode) :
    let done := { r with mode := mode }.finishProblem text
    Takes limit r done.1 done.2.toList [] [rest] ∧ done.1.mode = mode := by
  unfold Reader.finishProblem
  rw [htext, decodeLossy_cons_problem]
  have hannounced : announced? rest = Header.ofText? (Text.decodeLossy rest) := rfl
  simp only [List.tail_cons, ← hannounced]
  cases h : announced? rest with
  | some header =>
    refine ⟨?_, rfl⟩
    constructor <;> simp [h]
  | none =>
    refine ⟨?_, rfl⟩
    constructor <;> simp [h, Event.isCall]

-- Counting a line touches nothing else.
theorem countLine_mode (r : Reader) (b : UInt8) : (r.countLine b).mode = r.mode := by
  unfold Reader.countLine
  split <;> rfl

theorem takes_countLine {limit : Nat} {r r' : Reader} {b : UInt8} {events : List Event}
    {ts ps : List (List UInt8)} (h : Takes limit (r.countLine b) r' events ts ps) :
    Takes limit r r' events ts ps := by
  have hcount : Takes limit r (r.countLine b) [] [] [] := by
    unfold Reader.countLine
    split <;> exact .of_eq rfl rfl rfl
  exact hcount.trans h

-- A byte either shows that the first token of the rest does not fit, or takes the reader on to
-- what the text holds after it.
def Advances (limit : Nat) (r : Reader) (b : UInt8) (bytes : List UInt8)
    (ts ps : List (List UInt8)) : Prop :=
  (∃ e, r.step limit b = .error e ∧ ∃ t rest, ts = t :: rest ∧ ¬Token.Fits limit t) ∨
  ∃ r' event ts₁ ts₂ ps₁ ps₂, r.step limit b = .ok (r', event) ∧
    Takes limit r r' event.toList ts₁ ps₁ ∧ Expects r'.mode bytes ts₂ ps₂ ∧
    ts = ts₁ ++ ts₂ ∧ ps = ps₁ ++ ps₂

section Step

variable {limit : Nat} {r : Reader} {b : UInt8} {bytes : List UInt8}

theorem digit_cases (r : Reader) {u : List UInt8} {negative : Bool} {value : Nat}
    (hb : isDigit b = true) (hnegative : Token.negative u = negative)
    (hvalue : Token.magnitude u = value * 10 + (b.toNat - 48)) :
    (∃ e, r.digit limit negative value b = .error e ∧ limit < Token.magnitude u) ∨
    (r.digit limit negative value b =
        .ok { r with mode := .digits (Token.negative u) (Token.magnitude u) } ∧
      Token.magnitude u ≤ limit) := by
  have hiff : exceeds limit value (b.toNat - 48) = true ↔ limit < value * 10 + (b.toNat - 48) :=
    exceeds_iff (toNat_sub_le_nine hb)
  unfold Reader.digit
  by_cases hexceeds : exceeds limit value (b.toNat - 48) = true
  · refine Or.inl ⟨_, if_pos hexceeds, ?_⟩
    rw [hvalue]
    exact hiff.mp hexceeds
  · refine Or.inr ⟨?_, ?_⟩
    · simp only [hexceeds, hnegative, hvalue]
      rfl
    · have := mt hiff.mpr hexceeds
      omega

-- A digit continues the token that is being read.
theorem advances_of_digit {u : List UInt8} {negative : Bool} {value : Nat}
    (hstep : r.step limit b = ((r.countLine b).digit limit negative value b).map (·, none))
    (hb : isDigit b = true) (hu : ∀ a ∈ u, isSpace a = false)
    (hnumeral : Token.IsNumeral (u ++ [b])) (hnegative : Token.negative (u ++ [b]) = negative)
    (hvalue : Token.magnitude (u ++ [b]) = value * 10 + (b.toNat - 48))
    (ps : List (List UInt8)) (hps : ps = laterProblems bytes) :
    Advances limit r b bytes (middleTokens (u ++ [b]) bytes) ps := by
  have hspace : ∀ a ∈ u ++ [b], isSpace a = false := by
    intro a ha
    rcases List.mem_append.mp ha with ha | ha
    · exact hu a ha
    · rw [List.mem_singleton.mp ha]
      exact (isDigit_not_blank hb).1
  rcases digit_cases (r.countLine b) hb hnegative hvalue with ⟨e, herr, hlt⟩ | ⟨hok, hle⟩
  · refine Or.inl ⟨e, by rw [hstep, herr]; rfl, ?_⟩
    obtain ⟨w, rest, hw⟩ := exists_middleTokens_eq_cons (by simp) hspace bytes
    refine ⟨_, rest, hw, fun hfits => ?_⟩
    exact absurd (Token.Fits.magnitude_le (by simp) hfits) (by omega)
  · refine Or.inr ⟨_, none, [], _, [], _, by rw [hstep, hok]; rfl, ?_, ?_, rfl, rfl⟩
    · exact takes_countLine (.of_eq rfl rfl rfl)
    · rw [hps]
      exact .middle (.digits _ hnumeral) bytes

-- A byte that cannot follow what was read of a token makes the token no numeral.
theorem advances_of_error {u : List UInt8} {e : SyntaxError}
    (hstep : r.step limit b = .error e) (hu : ∀ a ∈ u, isSpace a = false) (hne : u ≠ [])
    (hbad : ∀ w, ¬Token.IsNumeral (u ++ w)) (ps : List (List UInt8)) :
    Advances limit r b bytes (middleTokens u bytes) ps := by
  obtain ⟨w, rest, hw⟩ := exists_middleTokens_eq_cons hne hu bytes
  exact Or.inl ⟨e, hstep, _, rest, hw, fun hfits => hbad w hfits.1⟩

theorem isNumeral_singleton (hb : isDigit b = true) : Token.IsNumeral [b] := by
  simp [Token.IsNumeral, Token.digits, Token.negative, ne_sign_of_isDigit hb, hb]

theorem magnitude_singleton (hb : isDigit b = true) :
    Token.magnitude [b] = 0 * 10 + (b.toNat - 48) := by
  simp [Token.magnitude, Token.number, Token.digits, Token.negative, ne_sign_of_isDigit hb]

theorem negative_singleton (hb : isDigit b = true) : Token.negative [b] = false := by
  simp [Token.negative, ne_sign_of_isDigit hb]

-- A token begins with a byte that is not blank, unless the byte makes the line a comment or a
-- problem line.
theorem advances_begin {fresh : Bool} (hmode : r.mode = .blank fresh)
    (hspace : isSpace b = false) (hend : isLineEnd b = false)
    (hline : fresh = true → b ≠ 99 ∧ b ≠ 112) :
    Advances limit r b bytes (middleTokens [b] bytes) (laterProblems bytes) := by
  have hcomment : (b = 99 && fresh) = false := by
    cases fresh with
    | false => simp
    | true => simp [(hline rfl).1]
  have hproblem : (b = 112 && fresh) = false := by
    cases fresh with
    | false => simp
    | true => simp [(hline rfl).2]
  by_cases hdigit : isDigit b = true
  · refine advances_of_digit (u := []) ?_ hdigit (by simp) (isNumeral_singleton hdigit)
      (negative_singleton hdigit) (magnitude_singleton hdigit) _ rfl
    simp [Reader.step, countLine_mode, hmode, hdigit]
  · by_cases hsign : b = 45
    · subst hsign
      refine Or.inr ⟨{ r.countLine 45 with mode := .sign }, none, [], _, [], _, ?_,
        takes_countLine (.of_eq rfl rfl rfl), .middle .sign bytes, rfl, rfl⟩
      simp [Reader.step, countLine_mode, hmode, hdigit]
    · refine advances_of_error (u := [b]) (e := .unexpected (r.countLine b).line b) ?_ (by simpa)
        (by simp) ?_ _
      · simp only [Reader.step, countLine_mode, hmode, hdigit, hsign, hspace, hend, hcomment,
          hproblem]
        rfl
      · intro w hnumeral
        rcases hnumeral.head with h | h
        · exact hsign h
        · exact hdigit h

theorem isNumeral_append_digit {u : List UInt8} (hne : u ≠ [])
    (hu : ∀ a ∈ Token.digits u, isDigit a = true) (hb : isDigit b = true) :
    Token.IsNumeral (u ++ [b]) ∧ Token.negative (u ++ [b]) = Token.negative u ∧
      Token.magnitude (u ++ [b]) = Token.magnitude u * 10 + (b.toNat - 48) := by
  refine ⟨⟨?_, ?_⟩, Token.negative_append hne _, ?_⟩
  · simp [Token.digits_append hne]
  · rw [Token.digits_append hne]
    intro a ha
    rcases List.mem_append.mp ha with ha | ha
    · exact hu a ha
    · rwa [List.mem_singleton.mp ha]
  · rw [Token.magnitude, Token.digits_append hne, Token.number_append]
    rfl

theorem not_isNumeral_append_cons {u : List UInt8} (hne : u ≠ []) (hb : ¬isDigit b = true)
    (w : List UInt8) : ¬Token.IsNumeral (u ++ [b] ++ w) := by
  intro hnumeral
  rw [List.append_assoc] at hnumeral
  exact hb (hnumeral.isDigit_of_append hne)

-- Before the first byte of a line that is not blank.
theorem advances_fresh (hmode : r.mode = .blank true) :
    Advances limit r b bytes (tokens (b :: bytes)) (problems (b :: bytes)) := by
  by_cases hspace : isSpace b = true
  · have hend := not_lineEnd_of_space hspace
    obtain ⟨hdigit, hsign⟩ := not_digit_of_blank (b := b) (by simp [hspace])
    rw [tokens_cons_of_space hspace hend, problems_cons_of_space hspace hend]
    refine Or.inr ⟨r.countLine b, none, [], _, [], _, ?_, takes_countLine (.of_eq rfl rfl rfl), ?_,
      rfl, rfl⟩
    · simp [Reader.step, countLine_mode, hmode, hdigit, hsign, hspace]
    · rw [countLine_mode, hmode]
      exact .fresh bytes
  by_cases hend : isLineEnd b = true
  · obtain ⟨hdigit, hsign⟩ := not_digit_of_blank (b := b) (by simp [hend])
    rw [tokens_cons_of_end hend, problems_cons_of_end hend]
    refine Or.inr ⟨{ r.countLine b with mode := .blank true }, none, [], _, [], _, ?_,
      takes_countLine (.of_eq rfl rfl rfl), .fresh bytes, rfl, rfl⟩
    simp [Reader.step, countLine_mode, hmode, hdigit, hsign, hspace, hend]
  by_cases hcomment : b = 99
  · subst hcomment
    rw [tokens_cons_comment, problems_cons_comment]
    exact Or.inr ⟨{ r.countLine 99 with mode := .comment }, none, [], _, [], _,
      by simp [Reader.step, countLine_mode, hmode, isDigit, isSpace, isLineEnd],
      takes_countLine (.of_eq rfl rfl rfl), .comment bytes, rfl, rfl⟩
  by_cases hproblem : b = 112
  · subst hproblem
    rw [tokens_cons_problem, problems_cons_problem]
    exact Or.inr ⟨{ r.countLine 112 with mode := .problem [112] }, none, [], _, [], _,
      by simp [Reader.step, countLine_mode, hmode, isDigit, isSpace, isLineEnd],
      takes_countLine (.of_eq rfl rfl rfl), .problem rfl bytes, rfl, rfl⟩
  have hspace' : isSpace b = false := by simpa using hspace
  have hend' : isLineEnd b = false := by simpa using hend
  rw [tokens_cons hspace' hend' hcomment hproblem, problems_cons hspace' hend' hproblem]
  exact advances_begin hmode hspace' hend' fun _ => ⟨hcomment, hproblem⟩

-- Between two tokens of a line.
theorem advances_between (hmode : r.mode = .blank false) :
    Advances limit r b bytes (middleTokens [] (b :: bytes)) (laterProblems (b :: bytes)) := by
  by_cases hend : isLineEnd b = true
  · obtain ⟨hdigit, hsign⟩ := not_digit_of_blank (b := b) (by simp [hend])
    rw [middleTokens_cons_of_end hend, laterProblems_cons_of_end hend]
    refine Or.inr ⟨{ r.countLine b with mode := .blank true }, none, [], _, [], _, ?_,
      takes_countLine (.of_eq rfl rfl rfl), .fresh bytes, rfl, rfl⟩
    have hspace : isSpace b = false := by
      cases h : isSpace b with
      | false => rfl
      | true => rw [not_lineEnd_of_space h] at hend; exact absurd hend (by simp)
    simp [Reader.step, countLine_mode, hmode, hdigit, hsign, hspace, hend]
  have hend' : isLineEnd b = false := by simpa using hend
  rw [laterProblems_cons hend']
  by_cases hspace : isSpace b = true
  · obtain ⟨hdigit, hsign⟩ := not_digit_of_blank (b := b) (by simp [hspace])
    rw [middleTokens_cons_of_space hspace hend']
    refine Or.inr ⟨r.countLine b, none, [], _, [], _, ?_, takes_countLine (.of_eq rfl rfl rfl), ?_,
      rfl, rfl⟩
    · simp [Reader.step, countLine_mode, hmode, hdigit, hsign, hspace]
    · rw [countLine_mode, hmode]
      exact .middle .none bytes
  rw [middleTokens_cons hend']
  exact advances_begin hmode (by simpa using hspace) hend' (by simp)

-- After a minus sign, where a digit has to come.
theorem advances_sign (hmode : r.mode = .sign) :
    Advances limit r b bytes (middleTokens [45] (b :: bytes)) (laterProblems (b :: bytes)) := by
  by_cases hdigit : isDigit b = true
  · have hend := (isDigit_not_blank hdigit).2
    obtain ⟨hnumeral, hnegative, hvalue⟩ :=
      isNumeral_append_digit (u := [45]) (by simp) (by simp [Token.digits, Token.negative]) hdigit
    rw [middleTokens_cons hend, laterProblems_cons hend]
    have hstep : r.step limit b =
        ((r.countLine b).digit limit true 0 b).map (·, none) := by
      simp [Reader.step, countLine_mode, hmode, hdigit]
    exact advances_of_digit hstep hdigit (by simp [isSpace]) hnumeral hnegative hvalue _ rfl
  have hstep : r.step limit b = .error (.unexpected (r.countLine b).line b) := by
    simp [Reader.step, countLine_mode, hmode, hdigit]
  refine Or.inl ⟨_, hstep, ?_⟩
  have hlone : ¬Token.Fits limit [45] := fun h => absurd h.1 (by decide)
  have hword : words [45] = [[45]] := by decide
  by_cases hend : isLineEnd b = true
  · rw [middleTokens_cons_of_end hend, hword]
    exact ⟨[45], _, rfl, hlone⟩
  have hend' : isLineEnd b = false := by simpa using hend
  by_cases hspace : isSpace b = true
  · rw [middleTokens_cons_of_space hspace hend', hword]
    exact ⟨[45], _, rfl, hlone⟩
  rw [middleTokens_cons hend']
  obtain ⟨w, rest, hw⟩ := exists_middleTokens_eq_cons (u := [45] ++ [b]) (by simp)
    (by simpa [show isSpace 45 = false from rfl] using hspace) bytes
  exact ⟨_, rest, hw, fun hfits => not_isNumeral_append_cons (by simp) hdigit w hfits.1⟩

-- Inside the digits of a token, which a blank ends.
theorem advances_digits {u : List UInt8} (hnumeral : Token.IsNumeral u)
    (hmax : Token.magnitude u ≤ limit)
    (hmode : r.mode = .digits (Token.negative u) (Token.magnitude u)) :
    Advances limit r b bytes (middleTokens u (b :: bytes)) (laterProblems (b :: bytes)) := by
  have hspaces : ∀ a ∈ u, isSpace a = false := fun a ha => (hnumeral.not_blank a ha).1
  by_cases hdigit : isDigit b = true
  · have hend := (isDigit_not_blank hdigit).2
    obtain ⟨hnumeral', hnegative, hvalue⟩ :=
      isNumeral_append_digit hnumeral.ne_nil hnumeral.2 hdigit
    rw [middleTokens_cons hend, laterProblems_cons hend]
    exact advances_of_digit (by simp [Reader.step, countLine_mode, hmode, hdigit]) hdigit
      hspaces hnumeral' hnegative hvalue _ rfl
  by_cases hblank : (isSpace b || isLineEnd b) = true
  · have hstep : r.step limit b = .ok
        (({ r.countLine b with mode := .blank (isLineEnd b) }.finishLiteral
            (Token.negative u) (Token.magnitude u)).1,
          some ({ r.countLine b with mode := .blank (isLineEnd b) }.finishLiteral
            (Token.negative u) (Token.magnitude u)).2) := by
      simp [Reader.step, countLine_mode, hmode, hdigit, hblank]
    obtain ⟨htakes, hmode'⟩ :=
      takes_finishLiteral ⟨hnumeral, hmax⟩ (r.countLine b) (.blank (isLineEnd b))
    have hwords := words_of_not_space hnumeral.ne_nil hspaces
    refine Or.inr ⟨_, _, [u], if isLineEnd b then tokens bytes else middleTokens [] bytes, [],
      laterProblems (b :: bytes), hstep, takes_countLine htakes, ?_, ?_, rfl⟩
    · rw [hmode']
      cases hend : isLineEnd b with
      | true =>
        rw [laterProblems_cons_of_end hend]
        exact .fresh bytes
      | false =>
        rw [laterProblems_cons hend]
        exact .middle .none bytes
    · cases hend : isLineEnd b with
      | true => rw [middleTokens_cons_of_end hend, hwords]; rfl
      | false =>
        have hspace : isSpace b = true := by simpa [hend] using hblank
        rw [middleTokens_cons_of_space hspace hend, hwords]; rfl
  -- any other byte would become a part of the token
  have hspace : isSpace b = false := by
    cases h : isSpace b with
    | false => rfl
    | true => exact absurd (by simp [h]) hblank
  have hend : isLineEnd b = false := by simpa [hspace] using hblank
  rw [middleTokens_cons hend]
  refine advances_of_error (e := .unexpected (r.countLine b).line b) ?_ ?_ (by simp)
    (not_isNumeral_append_cons hnumeral.ne_nil hdigit) _
  · simp [Reader.step, countLine_mode, hmode, hdigit, hspace, hend]
  · intro a ha
    rcases List.mem_append.mp ha with ha | ha
    · exact hspaces a ha
    · rwa [List.mem_singleton.mp ha]

theorem advances_comment (hmode : r.mode = .comment) :
    Advances limit r b bytes (laterTokens (b :: bytes)) (laterProblems (b :: bytes)) := by
  have hstep : r.step limit b =
      .ok ({ r.countLine b with mode := if isLineEnd b then .blank true else .comment }, none) := by
    simp only [Reader.step, countLine_mode, hmode]
  cases hend : isLineEnd b with
  | true =>
    rw [laterTokens_cons_of_end hend, laterProblems_cons_of_end hend]
    refine Or.inr ⟨_, none, [], _, [], _, hstep, takes_countLine (.of_eq rfl rfl rfl), ?_,
      rfl, rfl⟩
    · rw [hend]
      exact .fresh bytes
  | false =>
    rw [laterTokens_cons hend, laterProblems_cons hend]
    refine Or.inr ⟨_, none, [], _, [], _, hstep, takes_countLine (.of_eq rfl rfl rfl), ?_,
      rfl, rfl⟩
    · rw [hend]
      exact .comment bytes

-- A problem line is evaluated at its end.
theorem advances_problem {text rest : List UInt8} (htext : text.reverse = 112 :: rest)
    (hmode : r.mode = .problem text) :
    Advances limit r b bytes (laterTokens (b :: bytes))
      ((rest ++ firstLine (b :: bytes)) :: laterProblems (b :: bytes)) := by
  cases hend : isLineEnd b with
  | true =>
    obtain ⟨htakes, hmode'⟩ :=
      takes_finishProblem limit htext (r.countLine b) (.blank true)
    rw [laterTokens_cons_of_end hend, laterProblems_cons_of_end hend, firstLine_cons_of_end hend,
      List.append_nil]
    refine Or.inr ⟨_, _, [], _, [rest], _, ?_, takes_countLine htakes, ?_, rfl, rfl⟩
    · simp only [Reader.step, countLine_mode, hmode, hend]
      rfl
    · rw [hmode']
      exact .fresh bytes
  | false =>
    rw [laterTokens_cons hend, laterProblems_cons hend, firstLine_cons hend]
    refine Or.inr ⟨{ r.countLine b with mode := .problem (b :: text) }, none, [], _, [], _, ?_,
      takes_countLine (.of_eq rfl rfl rfl), ?_, rfl, rfl⟩
    · simp [Reader.step, countLine_mode, hmode, hend]
    · rw [show rest ++ b :: firstLine bytes = (rest ++ [b]) ++ firstLine bytes by simp]
      exact .problem (by simp [htext]) bytes

theorem advances {ts ps : List (List UInt8)} (h : Expects r.mode (b :: bytes) ts ps)
    (hwithin : r.mode.Within limit) : Advances limit r b bytes ts ps := by
  generalize hmode : r.mode = mode at h
  generalize hall : b :: bytes = all at h
  cases h with
  | fresh => subst hall; exact advances_fresh hmode
  | middle hpartial =>
    subst hall
    cases hpartial with
    | none => exact advances_between hmode
    | sign => exact advances_sign hmode
    | digits _ hnumeral =>
      rw [hmode] at hwithin
      exact advances_digits hnumeral hwithin hmode
  | comment => subst hall; exact advances_comment hmode
  | problem htext => subst hall; exact advances_problem htext hmode

-- At the end of a text, what is still expected is taken in, or its first token does not fit.
theorem finish_cases {ts ps : List (List UInt8)} (h : Expects r.mode [] ts ps)
    (hwithin : r.mode.Within limit) :
    (∃ e, r.finish = .error e ∧ ∃ t rest, ts = t :: rest ∧ ¬Token.Fits limit t) ∨
    ∃ r' event, r.finish = .ok (r', event) ∧ Takes limit r r' event.toList ts ps := by
  generalize hmode : r.mode = mode at h
  generalize hall : ([] : List UInt8) = all at h
  cases h with
  | fresh =>
    subst hall
    exact Or.inr ⟨r, none, by simp [Reader.finish, hmode], .of_eq rfl rfl rfl⟩
  | middle hpartial =>
    subst hall
    cases hpartial with
    | none => exact Or.inr ⟨r, none, by simp [Reader.finish, hmode], .of_eq rfl rfl rfl⟩
    | sign =>
      refine Or.inl ⟨_, by simp [Reader.finish, hmode]; rfl, [45], [], by decide, ?_⟩
      exact fun h => absurd h.1 (by decide)
    | digits _ hnumeral =>
      rw [hmode] at hwithin
      obtain ⟨htakes, -⟩ := takes_finishLiteral ⟨hnumeral, hwithin⟩ r (.blank false)
      have hwords := words_of_not_space hnumeral.ne_nil fun a ha => (hnumeral.not_blank a ha).1
      rw [middleTokens_nil, hwords]
      exact Or.inr ⟨_, _, by simp only [Reader.finish, hmode]; rfl, htakes⟩
  | comment =>
    subst hall
    exact Or.inr ⟨r, none, by simp [Reader.finish, hmode], .of_eq rfl rfl rfl⟩
  | problem htext =>
    subst hall
    obtain ⟨htakes, -⟩ := takes_finishProblem limit htext r .comment
    simp only [firstLine, lines, Text.splitWhere, List.headD_cons, List.append_nil]
    exact Or.inr ⟨_, _, by simp only [Reader.finish, hmode], htakes⟩

end Step

-- One step per byte: an induction on the bytes that are left, along which the tokens that are
-- expected become tokens that were taken in.
theorem foldl_step_spec (limit : Nat) {s : Scan} (hs : s.error = none) {bytes : List UInt8}
    {ts ps : List (List UInt8)} (h : Expects s.reader.mode bytes ts ps)
    (hwithin : s.reader.mode.Within limit) :
    let scan := bytes.foldl (Scan.step limit) s
    let last := scan.reader.feedEnd
    ((scan.error = none ∧ last.error = none) ↔ ∀ t ∈ ts, Token.Fits limit t) ∧
    (scan.error = none → last.error = none →
      ∃ events, scan.events.toList ++ last.events.toList = s.events.toList ++ events ∧
        Takes limit s.reader last.reader events ts ps) := by
  induction bytes generalizing s ts ps with
  | nil =>
    rcases finish_cases h hwithin with ⟨e, herr, t, rest, rfl, hbad⟩ | ⟨r', event, hok, htakes⟩
    · have hlast : s.reader.feedEnd.error = some e := by
        simp [Reader.feedEnd, herr, Scan.after]
      refine ⟨⟨fun hnone => ?_, fun hall => absurd (hall t List.mem_cons_self) hbad⟩,
        fun _ hnone => ?_⟩
      · rw [List.foldl_nil, hlast] at hnone
        simp at hnone
      · rw [List.foldl_nil, hlast] at hnone
        simp at hnone
    · obtain ⟨herror, hreader, hevents⟩ :=
        Scan.after_ok (s := { reader := s.reader }) rfl (r', event)
      rw [← hok] at herror hreader hevents
      refine ⟨⟨fun _ => htakes.fits, fun _ => ⟨hs, herror⟩⟩, fun _ _ => ⟨event.toList, ?_, ?_⟩⟩
      · rw [List.foldl_nil, Reader.feedEnd, hevents]
        rfl
      · rw [List.foldl_nil, Reader.feedEnd, hreader]
        exact htakes
  | cons b bytes ih =>
    simp only [List.foldl_cons]
    have hstep := Scan.step_eq_after limit hs b
    rcases advances h hwithin with ⟨e, herr, t, rest, rfl, hbad⟩ | ⟨r', event, ts₁, ts₂, ps₁, ps₂,
        hok, htakes, hexpects, rfl, rfl⟩
    -- the error stays, and so does the token that caused it
    · have herror : (Scan.step limit s b).error = some e := by
        rw [hstep, herr]
        rfl
      rw [Scan.foldl_step_of_error (by simp [herror])]
      refine ⟨⟨fun hnone => ?_, fun hall => absurd (hall t List.mem_cons_self) hbad⟩,
        fun hnone _ => ?_⟩
      · rw [herror] at hnone
        simp at hnone
      · rw [herror] at hnone
        simp at hnone
    · obtain ⟨herror, hreader, hevents⟩ := Scan.after_ok hs (r', event)
      rw [← hok, ← hstep] at herror hreader hevents
      obtain ⟨hiff, htaken⟩ := ih (s := Scan.step limit s b) herror (by rw [hreader]; exact hexpects)
        (by rw [hreader]; exact (Reader.step_outcome hok).mode_within)
      refine ⟨hiff.trans ?_, fun hscan hlast => ?_⟩
      · simp only [List.mem_append]
        exact ⟨fun hall t ht => ht.elim (htakes.fits t) (hall t), fun hall t ht => hall t (.inr ht)⟩
      · obtain ⟨events, heq, htakes'⟩ := htaken hscan hlast
        refine ⟨event.toList ++ events, ?_, ?_⟩
        · rw [heq, hevents, List.append_assoc]
        · rw [hreader] at htakes'
          exact htakes.trans htakes'

section Sink

variable {σ : Type} [Receiver σ]

-- Hand a token on to a receiver: 0 ends the clause, any other numeral is a literal.
def Token.send (s : σ) (t : List UInt8) : σ :=
  if Token.value t = 0 then Receiver.endClause s else Receiver.push s (Token.literal t)

-- What is only noticed does not reach a receiver.
theorem foldl_forward_filter (s : σ) (events : List Event) :
    (events.filter Event.isCall).foldl Event.forward s = events.foldl Event.forward s := by
  induction events generalizing s with
  | nil => rfl
  | cons event events ih =>
    cases event with
    | literal l => exact ih _
    | clauseEnd => exact ih _
    | malformedHeader line text => exact ih s

theorem forward_event (s : σ) (t : List UInt8) : Event.forward s (Token.event t) = Token.send s t := by
  unfold Token.event Token.send
  simp only [Token.value_eq_zero_iff]
  split <;> rfl

theorem forward_of_takes {limit : Nat} {r r' : Reader} {events : List Event}
    {ts ps : List (List UInt8)} (h : Takes limit r r' events ts ps) (s : σ) :
    events.foldl Event.forward s = ts.foldl Token.send s := by
  rw [← foldl_forward_filter, h.calls, List.foldl_map]
  simp only [forward_event]

-- What two scans in a row hand on, as one row of events.
theorem forward_forward (s : σ) (scan last : Scan) :
    last.forward (scan.forward s) =
      (scan.events.toList ++ last.events.toList).foldl Event.forward s := by
  simp [Scan.forward]

end Sink

-- Literals are counted from the last clause end on.
theorem foldl_countOpen_pos_iff (ts : List (List UInt8)) :
    0 < ts.foldl Token.countOpen 0 ↔
      ∃ before t after, ts = before ++ t :: after ∧ Token.value t ≠ 0 ∧
        ∀ u ∈ after, Token.value u ≠ 0 := by
  rcases ts.eq_nil_or_concat with rfl | ⟨start, t, rfl⟩
  · simp
  have hlast : 0 < (start ++ [t]).foldl Token.countOpen 0 ↔ Token.value t ≠ 0 := by
    simp only [List.foldl_append, List.foldl_cons, List.foldl_nil, Token.countOpen, ne_eq,
      Token.value_eq_zero_iff]
    split <;> simp_all
  rw [List.concat_eq_append, hlast]
  constructor
  · intro ht
    exact ⟨start, t, [], rfl, ht, by simp⟩
  · rintro ⟨before, u, after, heq, hu, hafter⟩
    rcases after.eq_nil_or_concat with rfl | ⟨middle, w, rfl⟩
    · have ht : [t] = [u] := (List.append_inj' heq rfl).2
      rwa [List.singleton_inj.mp ht]
    · have hw : [t] = [w] := by
        have : start ++ [t] = (before ++ u :: middle) ++ [w] := by simpa using heq
        exact (List.append_inj' this rfl).2
      rw [List.singleton_inj.mp hw]
      exact hafter w (by simp)

-- A text is accepted exactly if every token is a numeral within the limit of the receiver.
-- Then the receiver was handed exactly the tokens, and the reader has counted them.
theorem feed_feedEnd_spec {σ : Type} [Receiver σ] (s : σ) (bytes : List UInt8)
    (hlimit : Receiver.limit s ≤ Var.maxCount) :
    let scan := ({} : Reader).feed (Receiver.limit s) bytes
    let last := scan.reader.feedEnd
    ((scan.error = none ∧ last.error = none) ↔
      ∀ t ∈ tokens bytes, Token.Fits (Receiver.limit s) t) ∧
    (scan.error = none → last.error = none →
      last.forward (scan.forward s) = (tokens bytes).foldl Token.send s ∧
      (∀ t ∈ tokens bytes, Token.value t ≠ 0 → (Token.literal t).toInt = Token.value t) ∧
      last.reader.clauseCount = (tokens bytes).countP (Token.value · = 0) ∧
      (last.reader.isClauseOpen = true ↔
        ∃ before t after, tokens bytes = before ++ t :: after ∧ Token.value t ≠ 0 ∧
          ∀ u ∈ after, Token.value u ≠ 0) ∧
      last.reader.line = 1 + bytes.count 10 ∧
      (∀ h, last.reader.header = some h ↔
        ∃ before text after, problems bytes = before ++ text :: after ∧ Announces text h ∧
          ∀ other ∈ after, ∀ h', ¬Announces other h') ∧
      (last.reader.header = none ↔ ∀ text ∈ problems bytes, ∀ h, ¬Announces text h)) := by
  have hfeed : ({} : Reader).feed (Receiver.limit s) bytes =
      bytes.foldl (Scan.step (Receiver.limit s)) { reader := {} } := rfl
  obtain ⟨hiff, htaken⟩ := foldl_step_spec (Receiver.limit s) (s := { reader := {} }) rfl
    (.fresh bytes) trivial
  rw [hfeed]
  refine ⟨hiff, fun hscan hlast => ?_⟩
  obtain ⟨events, hevents, htakes⟩ := htaken hscan hlast
  refine ⟨?_, ?_, ?_, ?_, ?_, ?_, ?_⟩
  · rw [forward_forward, hevents]
    exact forward_of_takes htakes s
  · intro t ht hzero
    exact Token.toInt_literal hzero (Nat.le_trans (htakes.fits t ht).2 hlimit)
  · simpa only [Token.value_eq_zero_iff, Nat.zero_add] using htakes.clauseCount
  · simp only [Reader.isClauseOpen, decide_eq_true_eq, htakes.openCount]
    exact foldl_countOpen_pos_iff _
  · rw [Reader.line_feedEnd hlast, Scan.line_foldl_step rfl hscan]
  · intro h
    rw [htakes.header]
    simpa using getLast?_announced_eq_some_iff
  · rw [htakes.header]
    simpa using getLast?_announced_eq_none_iff

-- A comment, an indented problem line, a clause over two lines and an open clause.
def sampleText : List UInt8 :=
  [99, 32, 120, 10, 32, 112, 32, 99, 110, 102, 32, 51, 32, 49, 13, 49, 32, 45, 50, 10, 45, 48, 32,
    9, 51]

theorem feed_feedEnd_sampleText :
    Receiver.limit Formula.empty ≤ Var.maxCount ∧
    (let scan := ({} : Reader).feed (Receiver.limit Formula.empty) sampleText
    let last := scan.reader.feedEnd
    scan.error = none ∧ last.error = none ∧ last.reader.clauseCount = 1 ∧
      last.reader.isClauseOpen = true ∧ last.reader.line = 3) := by
  obtain ⟨hiff, hspec⟩ := feed_feedEnd_spec Formula.empty sampleText (Nat.le_refl _)
  have hfits : ∀ t ∈ tokens sampleText, Token.Fits (Receiver.limit Formula.empty) t := by decide
  obtain ⟨hscan, hlast⟩ := hiff.mpr hfits
  obtain ⟨-, -, hcount, hopen, hline, -⟩ := hspec hscan hlast
  refine ⟨Nat.le_refl _, hscan, hlast, hcount.trans (by decide), hopen.mpr ?_, hline.trans (by decide)⟩
  exact ⟨[[49], [45, 50], [45, 48]], [51], [], by decide⟩

end SatFrontend.Dimacs

import SatFrontend.Dimacs.Writer
import SatFrontend.Proofs.Dimacs.Acceptance
import SatFrontend.Proofs.Formula.Layout
import SatFrontend.Proofs.Text.Decimal

namespace SatFrontend.Dimacs

open Text Grammar

-- The decimal digits of a number, as bytes.
def digitBytes (n : Nat) : List UInt8 := narrow (Nat.toDigits 10 n)

theorem isDigit_of_mem_digitBytes {n : Nat} {b : UInt8} (h : b ∈ digitBytes n) :
    isDigit b = true := by
  obtain ⟨c, hc, rfl⟩ := List.mem_map.mp h
  have hascii := isAscii_toDigits n c hc
  have hbounds := toNat_of_isDigit (isDigit_of_mem_toDigits n hc)
  simp only [isDigit, Bool.and_eq_true, decide_eq_true_eq, UInt8.le_iff_toNat_le,
    toNat_ofNat_of_lt hascii]
  exact hbounds

theorem digitBytes_ne_nil (n : Nat) : digitBytes n ≠ [] := by
  simp [digitBytes, narrow, Nat.toDigits_ne_nil]

theorem foldl_narrow {cs : List Char} (h : IsAscii cs) (n : Nat) :
    (narrow cs).foldl (fun n b => n * 10 + (b.toNat - 48)) n =
      cs.foldl (fun m c => m * 10 + (c.toNat - '0'.toNat)) n := by
  induction cs generalizing n with
  | nil => rfl
  | cons c cs ih =>
    have hc := toNat_ofNat_of_lt (h c (by simp))
    rw [narrow, List.map_cons, List.foldl_cons, List.foldl_cons, hc]
    exact ih (fun d hd => h d (by simp [hd])) _

theorem number_digitBytes (n : Nat) : Token.number (digitBytes n) = n := by
  rw [Token.number, digitBytes, foldl_narrow (isAscii_toDigits n), foldl_toDigits]

-- The bytes of a literal are the token that names it.
def litBytes (l : Lit) : List UInt8 :=
  if l.negative then 45 :: digitBytes l.var.number else digitBytes l.var.number

theorem encode_repr (n : Nat) : encode n.repr = digitBytes n := by
  rw [encode_of_isAscii (by rw [Nat.toList_repr]; exact isAscii_toDigits n), Nat.toList_repr]
  rfl

theorem encode_text (l : Lit) : encode l.text = litBytes l := by
  have hpos := l.var.number_pos
  unfold Lit.text Lit.toInt litBytes
  rw [Int.toString_eq_repr, Int.repr_eq_if]
  cases l.negative with
  | true =>
    simp only [if_true, Int.neg_neg, Int.toNat_natCast]
    rw [if_neg (by omega), encode_append, encode_repr]
    rfl
  | false =>
    simp only [Bool.false_eq_true, if_false, Int.toNat_natCast]
    rw [if_pos (by omega), encode_repr]

theorem negative_digitBytes (n : Nat) : Token.negative (digitBytes n) = false := by
  cases h : digitBytes n with
  | nil => rfl
  | cons b bytes =>
    have hdigit : isDigit b = true := isDigit_of_mem_digitBytes (n := n) (by simp [h])
    simp [Token.negative, ne_sign_of_isDigit hdigit]

theorem negative_litBytes (l : Lit) : Token.negative (litBytes l) = l.negative := by
  unfold litBytes
  cases l.negative with
  | true => rfl
  | false => exact negative_digitBytes _

theorem digits_litBytes (l : Lit) : Token.digits (litBytes l) = digitBytes l.var.number := by
  rw [Token.digits, negative_litBytes, litBytes]
  cases l.negative <;> rfl

theorem isNumeral_litBytes (l : Lit) : Token.IsNumeral (litBytes l) := by
  rw [Token.IsNumeral, digits_litBytes]
  exact ⟨digitBytes_ne_nil _, fun b hb => isDigit_of_mem_digitBytes hb⟩

theorem magnitude_litBytes (l : Lit) : Token.magnitude (litBytes l) = l.var.number := by
  rw [Token.magnitude, digits_litBytes, number_digitBytes]

theorem literal_litBytes (l : Lit) : Token.literal (litBytes l) = l := by
  rw [Token.literal, magnitude_litBytes, negative_litBytes, Var.ofNumber_number]

-- The bytes of the line of a clause.
def clauseBytes (c : List Lit) : List UInt8 := c.flatMap (fun l => litBytes l ++ [32]) ++ [48]

theorem encode_writeClause (c : List Lit) : encode (writeClause c) = clauseBytes c ++ [10] := by
  induction c with
  | nil => rfl
  | cons l c ih =>
    have hcons : writeClause (l :: c) = l.text ++ " " ++ writeClause c := rfl
    rw [hcons, encode_append, encode_append, encode_text, ih]
    simp [clauseBytes, show encode " " = [32] from rfl]

theorem encode_writeClauses_cons (c : List Lit) (cs : List (List Lit)) :
    encode (writeClauses (c :: cs)) = clauseBytes c ++ 10 :: encode (writeClauses cs) := by
  have hcons : writeClauses (c :: cs) = writeClause c ++ writeClauses cs := rfl
  rw [hcons, encode_append, encode_writeClause]
  simp

theorem words_clauseBytes (c : List Lit) : words (clauseBytes c) = c.map litBytes ++ [[48]] := by
  induction c with
  | nil => rfl
  | cons l c ih =>
    have hcons : clauseBytes (l :: c) = litBytes l ++ 32 :: clauseBytes c := by
      simp [clauseBytes]
    have hnumeral := isNumeral_litBytes l
    rw [hcons, words_append_cons rfl, ih,
      words_of_not_space hnumeral.ne_nil fun b hb => (hnumeral.not_blank b hb).1]
    rfl

theorem not_lineEnd_of_mem_clauseBytes {c : List Lit} {b : UInt8} (h : b ∈ clauseBytes c) :
    isLineEnd b = false := by
  simp only [clauseBytes, List.mem_append, List.mem_flatMap, List.mem_singleton] at h
  rcases h with ⟨l, -, hb | rfl⟩ | rfl
  · exact ((isNumeral_litBytes l).not_blank b hb).2
  · rfl
  · rfl

-- A clause begins with a digit or a minus sign.
theorem exists_cons_eq_clauseBytes (c : List Lit) :
    ∃ b rest, clauseBytes c = b :: rest ∧ isSpace b = false ∧ b ≠ 99 ∧ b ≠ 112 := by
  cases c with
  | nil => exact ⟨48, [], rfl, by decide⟩
  | cons l c =>
    have hnumeral := isNumeral_litBytes l
    obtain ⟨b, rest, hb⟩ := List.exists_cons_of_ne_nil hnumeral.ne_nil
    refine ⟨b, rest ++ 32 :: clauseBytes c, by simp [clauseBytes, hb], ?_⟩
    refine ⟨(hnumeral.not_blank b (by simp [hb])).1, ?_⟩
    rw [hb] at hnumeral
    constructor <;> rintro rfl <;> exact absurd hnumeral.head (by decide)

theorem line_clauseBytes (c : List Lit) :
    lineTokens (clauseBytes c) = c.map litBytes ++ [[48]] ∧ problem? (clauseBytes c) = none := by
  obtain ⟨b, rest, hb, hspace, hcomment, hproblem⟩ := exists_cons_eq_clauseBytes c
  have hnone : problem? (clauseBytes c) = none := by
    simp [problem?, hb, hspace, hproblem]
  have hnot : isComment (clauseBytes c) = false := by
    simp [isComment, hb, hspace, hcomment]
  refine ⟨?_, hnone⟩
  rw [lineTokens, hnone, hnot, words_clauseBytes]
  rfl

-- A line that ends with a line feed comes first.
theorem lines_append {line : List UInt8} (h : ∀ b ∈ line, isLineEnd b = false)
    (bytes : List UInt8) :
    Grammar.lines (line ++ 10 :: bytes) = line :: Grammar.lines bytes := by
  rw [Grammar.lines, splitWhere_append_cons rfl, splitWhere_eq_singleton h]
  rfl

theorem tokens_append {line : List UInt8} (h : ∀ b ∈ line, isLineEnd b = false)
    (bytes : List UInt8) : tokens (line ++ 10 :: bytes) = lineTokens line ++ tokens bytes := by
  rw [tokens, lines_append h]
  rfl

theorem problems_append {line : List UInt8} (h : ∀ b ∈ line, isLineEnd b = false)
    (bytes : List UInt8) :
    problems (line ++ 10 :: bytes) = (problem? line).toList ++ problems bytes := by
  rw [problems, lines_append h, List.filterMap_cons]
  cases problem? line <;> rfl

-- The tokens that a clause is written with.
def clauseTokens (c : List Lit) : List (List UInt8) := c.map litBytes ++ [[48]]

theorem tokens_writeClauses (cs : List (List Lit)) :
    tokens (encode (writeClauses cs)) = cs.flatMap clauseTokens ∧
      problems (encode (writeClauses cs)) = [] := by
  induction cs with
  | nil => exact ⟨rfl, rfl⟩
  | cons c cs ih =>
    have hends : ∀ b ∈ clauseBytes c, isLineEnd b = false :=
      fun b hb => not_lineEnd_of_mem_clauseBytes hb
    obtain ⟨htokens, hproblem⟩ := line_clauseBytes c
    rw [encode_writeClauses_cons, tokens_append hends, problems_append hends, htokens, hproblem,
      ih.1, ih.2]
    exact ⟨rfl, rfl⟩

-- The characters of a problem line after its `p`.
def headerChars (h : Header) : List Char :=
  [' ', 'c', 'n', 'f', ' '] ++ Nat.toDigits 10 h.varCount ++ ' ' :: Nat.toDigits 10 h.clauseCount

theorem isAscii_headerChars (h : Header) : IsAscii (headerChars h) := by
  refine ((IsAscii.append ?_ (isAscii_toDigits _))).append ?_
  · simp [IsAscii]
  · have hspace : IsAscii [' '] := by simp [IsAscii]
    exact hspace.append (isAscii_toDigits _)

theorem toList_writeHeader (h : Header) :
    (writeHeader h).toList = 'p' :: headerChars h ++ ['\n'] := by
  simp [writeHeader, Header.line, headerChars]
  rfl

theorem encode_writeHeader (h : Header) :
    encode (writeHeader h) = 112 :: narrow (headerChars h) ++ [10] := by
  have hascii : IsAscii (writeHeader h).toList := by
    have hends : IsAscii ['p'] ∧ IsAscii ['\n'] := by simp [IsAscii]
    rw [toList_writeHeader]
    exact (hends.1.append (isAscii_headerChars h)).append hends.2
  rw [encode_of_isAscii hascii, toList_writeHeader]
  simp [narrow]

theorem not_blank_of_isDigit {c : Char} (h : c.isDigit = true) : Text.isBlank c = false := by
  have hbounds := toNat_of_isDigit h
  have hval : c.val.toNat = c.toNat := rfl
  cases hblank : Text.isBlank c with
  | false => rfl
  | true =>
    simp only [Text.isBlank, Bool.or_eq_true, Bool.and_eq_true, decide_eq_true_eq, beq_iff_eq,
      UInt32.le_iff_toNat_le, ← UInt32.toNat_inj, hval, UInt32.reduceToNat] at hblank
    omega

theorem splitWhere_toDigits (n : Nat) :
    splitWhere Text.isBlank (Nat.toDigits 10 n) = [Nat.toDigits 10 n] :=
  splitWhere_eq_singleton fun _ hc => not_blank_of_isDigit (isDigit_of_mem_toDigits n hc)

theorem words_headerChars (h : Header) :
    Text.words (headerChars h) =
      [['c', 'n', 'f'], Nat.toDigits 10 h.varCount, Nat.toDigits 10 h.clauseCount] := by
  have hblank : Text.isBlank ' ' = true := rfl
  have hfront : splitWhere Text.isBlank ([' ', 'c', 'n', 'f', ' '] ++ Nat.toDigits 10 h.varCount) =
      [[], ['c', 'n', 'f'], Nat.toDigits 10 h.varCount] := by
    have := splitWhere_append_cons hblank [' ', 'c', 'n', 'f'] (Nat.toDigits 10 h.varCount)
    rw [splitWhere_toDigits] at this
    exact this
  rw [Text.words, headerChars, splitWhere_append_cons hblank, hfront, splitWhere_toDigits]
  simp [Nat.toDigits_ne_nil]

-- A written header is announced again if its numbers have 64 bits.
theorem announced?_headerChars {h : Header} (hvars : h.varCount < 2 ^ 64)
    (hclauses : h.clauseCount < 2 ^ 64) : announced? (narrow (headerChars h)) = some h := by
  rw [announced?_eq_some_iff, Announces, decodeLossy_narrow (isAscii_headerChars h),
    words_headerChars]
  exact ⟨_, _, rfl, natural?_toDigits hvars, natural?_toDigits hclauses⟩

theorem not_lineEnd_of_mem_headerChars {h : Header} {b : UInt8}
    (hb : b ∈ narrow (headerChars h)) : isLineEnd b = false := by
  have hfront : ∀ b ∈ narrow [' ', 'c', 'n', 'f', ' '], isLineEnd b = false := by
    simp [narrow, isLineEnd]
  have hdigits : ∀ n, b ∈ digitBytes n → isLineEnd b = false := fun n hn =>
    (isDigit_not_blank (isDigit_of_mem_digitBytes hn)).2
  have hsplit : narrow (headerChars h) = narrow [' ', 'c', 'n', 'f', ' '] ++
      digitBytes h.varCount ++ 32 :: digitBytes h.clauseCount := by
    simp [narrow, headerChars, digitBytes]
  rw [hsplit, List.mem_append, List.mem_append, List.mem_cons] at hb
  rcases hb with (hb | hb) | rfl | hb
  · exact hfront b hb
  · exact hdigits _ hb
  · rfl
  · exact hdigits _ hb

-- What the text of a header and clauses says.
theorem grammar_write (h : Header) (cs : List (List Lit)) :
    tokens (encode (writeHeader h ++ writeClauses cs)) = cs.flatMap clauseTokens ∧
      problems (encode (writeHeader h ++ writeClauses cs)) = [narrow (headerChars h)] := by
  obtain ⟨htokens, hproblems⟩ := tokens_writeClauses cs
  have htext : encode (writeHeader h ++ writeClauses cs) =
      (112 :: narrow (headerChars h)) ++ 10 :: encode (writeClauses cs) := by
    rw [encode_append, encode_writeHeader]
    simp
  have hends : ∀ b ∈ 112 :: narrow (headerChars h), isLineEnd b = false := by
    intro b hb
    rcases List.mem_cons.mp hb with rfl | hb
    · rfl
    · exact not_lineEnd_of_mem_headerChars hb
  rw [htext, tokens_append hends, problems_append hends, htokens, hproblems]
  exact ⟨rfl, rfl⟩

section Send

variable {σ : Type} [Receiver σ]

theorem foldl_send_litBytes (s : σ) (ls : List Lit) :
    (ls.map litBytes).foldl Token.send s = Receiver.pushAll s ls := by
  have hlit : ∀ (s : σ) (l : Lit), Token.send s (litBytes l) = Receiver.push s l := by
    intro s l
    have hpos := l.var.number_pos
    have hzero : Token.value (litBytes l) ≠ 0 := by
      rw [ne_eq, Token.value_eq_zero_iff, magnitude_litBytes]
      omega
    rw [Token.send, if_neg hzero, literal_litBytes]
  rw [List.foldl_map]
  simp only [hlit]
  rfl

theorem foldl_send_clauseTokens (s : σ) (c : List Lit) :
    (clauseTokens c).foldl Token.send s = Receiver.endClause (Receiver.pushAll s c) := by
  rw [clauseTokens, List.foldl_append, foldl_send_litBytes]
  rfl

theorem foldl_send_flatMap (s : σ) (cs : List (List Lit)) :
    (cs.flatMap clauseTokens).foldl Token.send s =
      cs.foldl (fun s c => Receiver.endClause (Receiver.pushAll s c)) s := by
  induction cs generalizing s with
  | nil => rfl
  | cons c cs ih =>
    rw [List.flatMap_cons, List.foldl_append, foldl_send_clauseTokens, ih]
    rfl

theorem fits_of_mem_clauseTokens {limit : Nat} {c : List Lit} {t : List UInt8}
    (hc : ∀ l ∈ c, l.var.number ≤ limit) (ht : t ∈ clauseTokens c) : Token.Fits limit t := by
  rcases List.mem_append.mp ht with ht | ht
  · obtain ⟨l, hl, rfl⟩ := List.mem_map.mp ht
    exact ⟨isNumeral_litBytes l, by rw [magnitude_litBytes]; exact hc l hl⟩
  · rw [List.mem_singleton.mp ht]
    exact ⟨isNumeral_singleton rfl, by simp [show Token.magnitude [48] = 0 from rfl]⟩

theorem countP_clauseTokens (cs : List (List Lit)) :
    (cs.flatMap clauseTokens).countP (Token.magnitude · = 0) = cs.length := by
  have hclause : ∀ c, (clauseTokens c).countP (Token.magnitude · = 0) = 1 := by
    intro c
    have hlits : (c.map litBytes).countP (Token.magnitude · = 0) = 0 := by
      rw [List.countP_eq_zero]
      intro t ht
      obtain ⟨l, -, rfl⟩ := List.mem_map.mp ht
      have := l.var.number_pos
      simp only [magnitude_litBytes, decide_eq_true_eq]
      omega
    rw [clauseTokens, List.countP_append, hlits]
    rfl
  induction cs with
  | nil => rfl
  | cons c cs ih =>
    rw [List.flatMap_cons, List.countP_append, hclause, ih, List.length_cons]
    omega

-- A written text is read by every receiver whose limit admits its literals.
theorem readText_write {s : σ} {cs : List (List Lit)} (h : Header)
    (hfits : ∀ c ∈ cs, ∀ l ∈ c, l.var.number ≤ Receiver.limit s) :
    let reading := readText (.ofBytes (encode (writeHeader h ++ writeClauses cs))) s
    reading.error = none ∧
      reading.receiver = cs.foldl (fun s c => Receiver.endClause (Receiver.pushAll s c)) s ∧
      reading.reader.clauseCount = cs.length ∧
      (h.varCount < 2 ^ 64 → h.clauseCount < 2 ^ 64 → reading.reader.header = some h) := by
  obtain ⟨htokens, hproblems⟩ := grammar_write h cs
  generalize encode (writeHeader h ++ writeClauses cs) = bytes at htokens hproblems ⊢
  obtain ⟨hiff, htaken⟩ := foldl_step_spec (Receiver.limit s) (s := { reader := {} }) rfl
    (.fresh bytes) trivial
  have hall : ∀ t ∈ tokens bytes, Token.Fits (Receiver.limit s) t := by
    intro t ht
    rw [htokens] at ht
    obtain ⟨c, hc, ht⟩ := List.mem_flatMap.mp ht
    exact fits_of_mem_clauseTokens (hfits c hc) ht
  obtain ⟨hscan, hlast⟩ := hiff.mpr hall
  obtain ⟨events, hevents, htakes⟩ := htaken hscan hlast
  obtain ⟨herror, hreceiver, hreader⟩ := readText_ofBytes_of_ok s bytes hscan hlast
  refine ⟨herror, ?_, ?_, fun hvars hclauses => ?_⟩
  · rw [hreceiver, forward_forward]
    refine (congrArg (List.foldl Event.forward s) hevents).trans ?_
    exact (forward_of_takes htakes s).trans (by rw [htokens, foldl_send_flatMap])
  · rw [hreader]
    refine htakes.clauseCount.trans ?_
    rw [htokens, countP_clauseTokens]
    exact Nat.zero_add _
  · rw [hreader]
    refine htakes.header.trans ?_
    rw [hproblems]
    simp [announced?_headerChars hvars hclauses]

end Send

section Parse

open Formula (Plain Reachable)

theorem limit_forward_formula (f : Formula) (e : Event) :
    Receiver.limit (e.forward f) = Receiver.limit f := rfl

theorem error_parse (supply : Supply) :
    (parse supply).error = (readText supply Formula.empty).error := by
  unfold parse
  cases h : (readText supply Formula.empty).error <;> simp [h]

theorem parse_of_ok {supply : Supply} (h : (readText supply Formula.empty).error = none) :
    (parse supply).receiver = (readText supply Formula.empty).receiver.close ∧
      (parse supply).reader = (readText supply Formula.empty).reader := by
  simp [parse, h]

theorem close_ofClauses (cs : List (List Lit)) :
    (Formula.ofClauses cs).close = Formula.ofClauses cs := by
  rw [Formula.ofClauses_eq_layout, Plain.close_layout]
  rfl

-- Reading never assumes anything, and it leaves a formula that can come about.
theorem exists_plain_foldl_forward (p : Plain) (hproper : p.Proper) (events : List Event) :
    ∃ q : Plain, q.Proper ∧ q.assumptions = p.assumptions ∧
      events.foldl Event.forward p.layout = q.layout := by
  induction events generalizing p with
  | nil => exact ⟨p, hproper, rfl, rfl⟩
  | cons event events ih =>
    cases event with
    | literal l =>
      obtain ⟨q, hq, hassumed, heq⟩ := ih (p.push l) hproper
      refine ⟨q, hq, hassumed, ?_⟩
      rw [← heq, ← p.push_layout l]
      rfl
    | clauseEnd =>
      obtain ⟨q, hq, hassumed, heq⟩ := ih p.endClause hproper.endClause
      refine ⟨q, hq, hassumed.trans p.assumptions_endClause, ?_⟩
      rw [← heq, ← p.close_layout]
      rfl
    | malformedHeader line text => exact ih p hproper

-- A formula that was parsed is the formula of its clauses.
theorem receiver_parse_eq_ofClauses {supply : Supply} (h : (parse supply).error = none) :
    ∃ cs : List (List Lit), (∀ c ∈ cs, c ≠ []) ∧ (parse supply).receiver = Formula.ofClauses cs := by
  obtain ⟨events, hevents⟩ :=
    exists_events_readPieces supply.failure {} Formula.empty [] supply.pieces
  obtain ⟨q, hproper, hassumed, heq⟩ :=
    exists_plain_foldl_forward {} (by simp [Plain.Proper]) events
  rw [← Plain.empty_layout] at heq
  have hclauses := hproper.endClause.eq_ofClauses q.openClause_endClause
    (q.assumptions_endClause.trans hassumed)
  refine ⟨q.endClause.clauses, hproper.endClause, ?_⟩
  rw [error_parse] at h
  rw [(parse_of_ok h).1, readText, hevents, heq, Plain.close_layout, Formula.ofClauses_eq_layout,
    ← hclauses]

-- Parsing a written text gives the formula of its clauses, however it is cut into pieces.
theorem parse_write_clauses {h : Header} {cs : List (List Lit)} {supply : Supply}
    (hsupply : supply.Delivers (encode (writeHeader h ++ writeClauses cs))) :
    (parse supply).error = none ∧ (parse supply).receiver = Formula.ofClauses cs := by
  have hfits : ∀ c ∈ cs, ∀ l ∈ c, l.var.number ≤ Receiver.limit Formula.empty :=
    fun _ _ l _ => l.var.number_le
  obtain ⟨herror, hreceiver, -⟩ := readText_write h hfits
  rw [← readText_of_delivers limit_forward_formula hsupply] at herror hreceiver
  refine ⟨(error_parse supply).trans herror, ?_⟩
  rw [(parse_of_ok herror).1, hreceiver]
  exact close_ofClauses cs

-- What is written of a formula under assumptions is what is written of the clauses of both.
theorem write_eq (f : Formula) (assumptions : List Lit) :
    write f assumptions =
      writeHeader (Header.ofFormula f assumptions) ++
        writeClauses (f.clauses ++ assumptions.map (fun l => [l])) := by
  have happend : ∀ cs ds : List (List Lit),
      writeClauses (cs ++ ds) = writeClauses cs ++ writeClauses ds := by
    intro cs ds
    induction cs with
    | nil => simp [writeClauses]
    | cons c cs ih =>
      simp only [writeClauses, List.cons_append, List.foldr_cons] at ih ⊢
      rw [ih, String.append_assoc]
  rw [write, happend, String.append_assoc]

-- A formula and its assumptions, put together as one closed formula.
theorem ofClauses_units {p : Plain} (hproper : p.Proper) (assumptions : List Lit) :
    let g := Formula.ofClauses (p.clauses ++ assumptions.map (fun l => [l]))
    g.clauses = p.clauses ++ assumptions.map (fun l => [l]) ∧ g.openClause = [] ∧
      g.assumptions = [] ∧
      (⟨g.varCount, g.size⟩ : Header) = Header.ofFormula p.layout assumptions := by
  have hfilter : (p.clauses ++ assumptions.map (fun l => [l])).filter (fun c => !c.isEmpty) =
      p.clauses ++ assumptions.map (fun l => [l]) := by
    refine Formula.filter_of_ne_nil fun c hc => ?_
    rcases List.mem_append.mp hc with hc | hc
    · exact hproper c hc
    · obtain ⟨l, -, rfl⟩ := List.mem_map.mp hc
      simp
  have hflatten : (assumptions.map (fun l => [l])).flatten = assumptions := by
    simp [← List.flatMap_def]
  simp only [Formula.ofClauses_eq_layout, Plain.clauses_layout, Plain.openClause_layout,
    Plain.assumptions_layout, Plain.size_layout, Plain.varCount_layout, Plain.ofClauses, hfilter,
    Header.ofFormula, varCountWith, List.flatten_append, hflatten, List.foldl_append,
    List.length_append, List.length_map, and_self]

-- Parsing undoes writing, over headers and clauses, over formulas under assumptions, and over
-- texts that were parsed before.
theorem parse_write :
    (∀ (h : Header) (cs : List (List Lit)) (supply : Supply),
      supply.Delivers (encode (writeHeader h ++ writeClauses cs)) →
        (parse supply).error = none ∧ (parse supply).receiver = Formula.ofClauses cs ∧
        ∀ f : Formula, (readText supply f).error = none ∧
          (readText supply f).reader.clauseCount = cs.length ∧
          (h.varCount < 2 ^ 64 → h.clauseCount < 2 ^ 64 →
            (readText supply f).reader.header = some h)) ∧
    (∀ (f : Formula) (assumptions : List Lit) (supply : Supply), Reachable f →
      supply.Delivers (encode (write f assumptions)) →
        let g := (parse supply).receiver
        (parse supply).error = none ∧
          g.clauses = f.clauses ++ assumptions.map (fun l => [l]) ∧ g.openClause = [] ∧
          g.assumptions = [] ∧
          write f assumptions = writeHeader ⟨g.varCount, g.size⟩ ++ writeClauses g.clauses ∧
          write g [] = write f assumptions) ∧
    (∀ supply supply' : Supply, (parse supply).error = none →
      supply'.Delivers (encode (write (parse supply).receiver [])) →
        (parse supply').error = none ∧ (parse supply').receiver = (parse supply).receiver) := by
  refine ⟨fun h cs supply hsupply => ?_, fun f assumptions supply hreachable hsupply => ?_,
    fun supply supply' hparsed hsupply => ?_⟩
  · obtain ⟨herror, hreceiver⟩ := parse_write_clauses hsupply
    refine ⟨herror, hreceiver, fun f => ?_⟩
    have hfits : ∀ c ∈ cs, ∀ l ∈ c, l.var.number ≤ Receiver.limit f :=
      fun _ _ l _ => l.var.number_le
    obtain ⟨hread, -, hcount, hheader⟩ := readText_write h hfits
    rw [readText_of_delivers limit_forward_formula hsupply]
    exact ⟨hread, hcount, hheader⟩
  · obtain ⟨p, hproper, rfl⟩ := hreachable.exists_plain
    have htext := write_eq p.layout assumptions
    rw [htext] at hsupply
    obtain ⟨herror, hreceiver⟩ := parse_write_clauses hsupply
    obtain ⟨hclauses, hopen, hassumed, hheader⟩ := ofClauses_units hproper assumptions
    rw [Plain.clauses_layout] at hreceiver htext ⊢
    simp only [hreceiver]
    refine ⟨herror, hclauses, hopen, hassumed, ?_, ?_⟩
    · rw [htext, hheader, hclauses]
    · have hsame : Header.ofFormula (Formula.ofClauses (p.clauses ++ assumptions.map (fun l => [l])))
          [] = Header.ofFormula p.layout assumptions := hheader
      rw [write_eq, hsame, hclauses, htext, List.map_nil, List.append_nil]
  · obtain ⟨cs, hne, hcs⟩ := receiver_parse_eq_ofClauses hparsed
    have hclauses : (Formula.ofClauses cs).clauses = cs := by
      have hproper : (⟨cs, [], []⟩ : Plain).Proper := hne
      rw [Formula.ofClauses_eq_layout, ← hproper.eq_ofClauses rfl rfl, Plain.clauses_layout]
    rw [hcs, write_eq, hclauses, List.map_nil, List.append_nil] at hsupply
    rw [hcs]
    exact parse_write_clauses hsupply

-- A clause and an empty clause, then a formula under an assumption, then the first text again.
theorem parse_write_sample :
    let l : Lit := ⟨Var.ofNumber 12, true⟩
    let h : Header := ⟨7, 2 ^ 64 - 1⟩
    let first := Supply.ofBytes (encode (writeHeader h ++ writeClauses [[l, l.not], []]))
    let f := (Formula.empty.push l).close
    let second := Supply.ofBytes (encode (write f [l.not]))
    (h.varCount < 2 ^ 64 ∧ h.clauseCount < 2 ^ 64 ∧ Reachable f ∧ (parse first).error = none) ∧
      (parse first).receiver = Formula.ofClauses [[l, l.not], []] ∧
      (readText first f).reader.header = some h ∧
      (parse second).receiver.clauses = [[l], [l.not]] ∧
      (parse (.ofBytes (encode (write (parse first).receiver [])))).receiver =
        (parse first).receiver := by
  intro l h first f second
  have hne : ∀ (h : Header) (text : String), encode (writeHeader h ++ text) ≠ [] := by
    intro h text
    rw [encode_append, encode_writeHeader]
    simp
  have hreachable : Reachable f := (Reachable.push l .empty).close
  obtain ⟨hfirst, hsecond, hthird⟩ := parse_write
  obtain ⟨herror, hreceiver, hinto⟩ := hfirst h [[l, l.not], []] first
    (Supply.delivers_ofBytes (hne _ _))
  obtain ⟨-, hclauses, -⟩ := hsecond f [l.not] second hreachable
    (Supply.delivers_ofBytes (by rw [write, String.append_assoc]; exact hne _ _))
  obtain ⟨-, hagain⟩ := hthird first _ herror
    (Supply.delivers_ofBytes (by rw [write, String.append_assoc]; exact hne _ _))
  refine ⟨⟨by decide, by decide, hreachable, herror⟩, hreceiver,
    (hinto f).2.2 (by decide) (by decide), hclauses.trans ?_, hagain⟩
  rfl

end Parse

end SatFrontend.Dimacs

import SatFrontend.Proofs.Dimacs.Chunks

namespace SatFrontend.Dimacs

open Grammar

-- A line of a text with its number, its bytes and the byte that ends it.
structure NumberedLine where
  number : Nat
  content : List UInt8
  ending : Option UInt8

-- The lines of a text that begins in the line `number` after the bytes `part` of it. A carriage
-- return ends a line as well, but only line feeds count.
def numberedFrom (number : Nat) (part : List UInt8) : List UInt8 → List NumberedLine
  | [] => [⟨number, part, none⟩]
  | b :: bytes =>
    if isLineEnd b then
      ⟨number, part, some b⟩ :: numberedFrom (number + if b = 10 then 1 else 0) [] bytes
    else numberedFrom number (part ++ [b]) bytes

def numberedLines (bytes : List UInt8) : List NumberedLine := numberedFrom 1 [] bytes

theorem content_numberedFrom (number : Nat) (part bytes : List UInt8) :
    (numberedFrom number part bytes).map (·.content) =
      (part ++ firstLine bytes) :: laterLines bytes := by
  induction bytes generalizing number part with
  | nil => rw [numberedFrom, show firstLine [] = [] from rfl, List.append_nil]; rfl
  | cons b bytes ih =>
    rw [numberedFrom]
    cases hend : isLineEnd b with
    | true =>
      rw [if_pos rfl, List.map_cons, ih, firstLine_cons_of_end hend, laterLines_cons_of_end hend,
        List.append_nil, List.nil_append, ← lines_eq]
    | false =>
      rw [if_neg (by simp), ih, firstLine_cons hend, laterLines_cons hend]
      simp

theorem content_numberedLines (bytes : List UInt8) :
    (numberedLines bytes).map (·.content) = lines bytes :=
  (content_numberedFrom 1 [] bytes).trans (lines_eq bytes).symm

-- The number of a line counts the line feeds before it.
theorem number_of_mem_numberedFrom {number : Nat} {part bytes : List UInt8} {line : NumberedLine}
    (hpart : 10 ∉ part) (h : line ∈ numberedFrom number part bytes) :
    ∃ before after, part ++ bytes = before ++ line.content ++ line.ending.toList ++ after ∧
      10 ∉ line.content ∧ line.number = number + before.count 10 := by
  induction bytes generalizing number part with
  | nil =>
    obtain rfl := List.mem_singleton.mp h
    exact ⟨[], [], by simp, hpart, by simp⟩
  | cons b bytes ih =>
    rw [numberedFrom] at h
    split at h
    · rcases List.mem_cons.mp h with rfl | h
      · exact ⟨[], bytes, by simp, hpart, by simp⟩
      · obtain ⟨before, after, hsplit, hcontent, hnumber⟩ := ih List.not_mem_nil h
        refine ⟨part ++ b :: before, after, ?_, hcontent, ?_⟩
        · rw [List.nil_append] at hsplit
          simp [hsplit]
        · rw [hnumber, List.count_append, List.count_eq_zero.mpr hpart, List.count_cons]
          simp only [beq_iff_eq]
          omega
    · rename_i hend
      have hfeed : b ≠ 10 := by
        rintro rfl
        exact hend rfl
      have hpart' : 10 ∉ part ++ [b] := by simp [hpart, Ne.symm hfeed]
      obtain ⟨before, after, hsplit, hnumber⟩ := ih hpart' h
      exact ⟨before, after, by simpa using hsplit, hnumber⟩

theorem number_of_mem_numberedLines {bytes : List UInt8} {line : NumberedLine}
    (h : line ∈ numberedLines bytes) :
    ∃ before after, bytes = before ++ line.content ++ line.ending.toList ++ after ∧
      10 ∉ line.content ∧ line.number = 1 + before.count 10 :=
  number_of_mem_numberedFrom List.not_mem_nil h

-- What is noticed of a line: that it is a problem line that announces nothing. The number that is
-- told is that of the line in which the end of it was found, so a line feed has been counted.
def NumberedLine.notice? (line : NumberedLine) : Option Notice :=
  match problem? line.content with
  | none => none
  | some text =>
    if (announced? text).isSome then none
    else some (.malformedHeader (line.number + if line.ending = some 10 then 1 else 0)
      (String.ofList ('p' :: Text.decodeLossy text)))

section Parts

variable {part : List UInt8}

theorem problem?_cons (b : UInt8) (more : List UInt8) :
    problem? (b :: more) =
      if isSpace b = true then problem? more else if b = 112 then some more else none := by
  cases hb : isSpace b <;> simp [problem?, hb]

theorem problem?_append {rest : List UInt8} (h : problem? part = some rest) (more : List UInt8) :
    problem? (part ++ more) = some (rest ++ more) := by
  rw [problem?] at h
  rw [problem?, List.dropWhile_append]
  cases hdrop : part.dropWhile isSpace with
  | nil => simp [hdrop] at h
  | cons b bytes =>
    simp only [hdrop] at h
    split at h
    · obtain rfl := Option.some.inj h
      simp [*]
    · cases h

-- The beginning of a line that cannot become a problem line.
def NoProblem (part : List UInt8) : Prop := ∀ more, problem? (part ++ more) = none

theorem NoProblem.append (h : NoProblem part) (more : List UInt8) : NoProblem (part ++ more) := by
  intro rest
  rw [List.append_assoc]
  exact h _

theorem notice?_of_problem?_eq_none {number : Nat} {ending : Option UInt8}
    (h : problem? part = none) : NumberedLine.notice? ⟨number, part, ending⟩ = none := by
  simp only [NumberedLine.notice?, h]

theorem NoProblem.notice? (h : NoProblem part) (number : Nat) (ending : Option UInt8) :
    NumberedLine.notice? ⟨number, part, ending⟩ = none :=
  notice?_of_problem?_eq_none (by simpa using h [])

-- The beginning of a line between two tokens. If it is fresh, what comes next decides whether the
-- line is a problem line.
def Undecided (fresh : Bool) (part : List UInt8) : Prop :=
  ∀ more, problem? (part ++ more) = if fresh = true then problem? more else none

theorem Undecided.problem?_eq_none {fresh : Bool} (h : Undecided fresh part) :
    problem? part = none := by
  have hnil := h []
  have hnone : problem? [] = none := rfl
  rw [List.append_nil, hnone] at hnil
  rw [hnil]
  split <;> rfl

theorem Undecided.noProblem {fresh : Bool} {b : UInt8} (h : Undecided fresh part)
    (hspace : isSpace b = false) (hb : b ≠ 112) : NoProblem (part ++ [b]) := by
  intro more
  rw [List.append_assoc, h, List.singleton_append, problem?_cons, hspace]
  simp [hb]

-- The part of the current line that a reader has taken in, by the mode it is in then.
inductive Seen : Mode → List UInt8 → Prop
  | blank {fresh : Bool} {part : List UInt8} (h : Undecided fresh part) : Seen (.blank fresh) part
  | sign {part : List UInt8} (h : NoProblem part) (hlast : part.getLast? = some 45) :
      Seen .sign part
  | digits {negative : Bool} {value : Nat} {part : List UInt8} (h : NoProblem part) :
      Seen (.digits negative value) part
  | comment {part : List UInt8} (h : NoProblem part) : Seen .comment part
  | problem {text rest part : List UInt8} (h : problem? part = some rest)
      (htext : text.reverse = 112 :: rest) : Seen (.problem text) part

theorem seen_nil : Seen (.blank true) [] := .blank fun _ => rfl

end Parts

-- A reader goes on to the next line, and what is noticed of the line is handed on, or it goes on
-- in the line and nothing is noticed.
inductive GoesOn (r : Reader) (part : List UInt8) (b : UInt8) (out : Reader × Option Event) : Prop
  | next (hend : isLineEnd b = true) (hseen : Seen out.1.mode [])
      (hnotice : out.2.bind Event.notice? = NumberedLine.notice? ⟨r.line, part, some b⟩)
  | stay (hend : isLineEnd b = false) (hseen : Seen out.1.mode (part ++ [b]))
      (hnotice : out.2.bind Event.notice? = none)

section Steps

variable {limit : Nat} {r : Reader} {part : List UInt8} {b : UInt8}

theorem goesOn_digit {negative : Bool} {value : Nat} {out : Reader × Option Event}
    (hb : isDigit b = true) (h : NoProblem (part ++ [b])) (r₀ : Reader)
    (hok : (r₀.digit limit negative value b).map (·, none) = .ok out) : GoesOn r part b out := by
  cases hdigit : r₀.digit limit negative value b with
  | error e => simp [hdigit, Except.map] at hok
  | ok r' =>
    obtain ⟨-, rfl⟩ := (Reader.digit_eq_ok_iff hb).mp hdigit
    rw [hdigit] at hok
    obtain rfl := Except.ok.inj hok
    exact .stay (isDigit_not_blank hb).2 (.digits h) rfl

theorem notice?_finishProblem {text rest : List UInt8} (htext : text.reverse = 112 :: rest)
    (r : Reader) :
    (r.finishProblem text).2.bind Event.notice? =
      if (announced? rest).isSome then none
      else some (.malformedHeader r.line (String.ofList ('p' :: Text.decodeLossy rest))) := by
  have hannounced : announced? rest = Header.ofText? (Text.decodeLossy rest) := rfl
  unfold Reader.finishProblem
  rw [htext, decodeLossy_cons_problem]
  simp only [List.tail_cons, ← hannounced]
  cases announced? rest <;> rfl

theorem notice?_finishLiteral (r : Reader) (negative : Bool) (value : Nat) :
    (r.finishLiteral negative value).2.notice? = none := by
  unfold Reader.finishLiteral
  split <;> rfl

theorem mode_finishLiteral (r : Reader) (negative : Bool) (value : Nat) :
    (r.finishLiteral negative value).1.mode = r.mode := by
  unfold Reader.finishLiteral
  split <;> rfl

theorem goesOn_blank {fresh : Bool} {out : Reader × Option Event} (hmode : r.mode = .blank fresh)
    (h : Undecided fresh part) (hok : r.step limit b = .ok out) : GoesOn r part b out := by
  have hcount : (r.countLine b).mode = .blank fresh := (countLine_mode r b).trans hmode
  simp only [Reader.step, hcount] at hok
  split at hok
  · rename_i hdigit
    have hne : b ≠ 112 := by
      rintro rfl
      exact absurd hdigit (by decide)
    exact goesOn_digit hdigit (h.noProblem (isDigit_not_blank hdigit).1 hne) _ hok
  split at hok
  · rename_i hsign
    subst hsign
    obtain rfl := Except.ok.inj hok
    exact .stay rfl (.sign (h.noProblem rfl (by decide)) (by simp)) rfl
  split at hok
  · rename_i hspace
    obtain rfl := Except.ok.inj hok
    refine .stay (not_lineEnd_of_space hspace) ?_ rfl
    rw [hcount]
    refine .blank fun more => ?_
    rw [List.append_assoc, h, List.singleton_append, problem?_cons, if_pos hspace]
  split at hok
  · rename_i hend
    obtain rfl := Except.ok.inj hok
    exact .next hend seen_nil (notice?_of_problem?_eq_none h.problem?_eq_none).symm
  split at hok
  · rename_i hcomment
    obtain ⟨rfl, -⟩ : b = 99 ∧ fresh = true := by simpa using hcomment
    obtain rfl := Except.ok.inj hok
    exact .stay rfl (.comment (h.noProblem rfl (by decide))) rfl
  split at hok
  · rename_i hproblem
    obtain ⟨rfl, rfl⟩ : b = 112 ∧ fresh = true := by simpa using hproblem
    obtain rfl := Except.ok.inj hok
    have hpart : problem? (part ++ [112]) = some [] := h [112]
    exact .stay rfl (.problem hpart rfl) rfl
  · cases hok

theorem goesOn_step {out : Reader × Option Event} (h : Seen r.mode part)
    (hok : r.step limit b = .ok out) : GoesOn r part b out := by
  have hcount := countLine_mode r b
  generalize hmode : r.mode = mode at h hcount
  cases h with
  | blank h => exact goesOn_blank hmode h hok
  | sign h hlast =>
    simp only [Reader.step, hcount] at hok
    split at hok
    · exact goesOn_digit ‹_› (h.append _) _ hok
    · cases hok
  | digits h =>
    simp only [Reader.step, hcount] at hok
    split at hok
    · exact goesOn_digit ‹_› (h.append _) _ hok
    split at hok
    · rename_i hblank
      obtain rfl := Except.ok.inj hok
      have hnotice := notice?_finishLiteral
      cases hend : isLineEnd b with
      | true =>
        refine .next hend ?_ ((notice?_finishLiteral _ _ _).trans (h.notice? _ _).symm)
        rw [mode_finishLiteral]
        exact seen_nil
      | false =>
        refine .stay hend ?_ (notice?_finishLiteral _ _ _)
        rw [mode_finishLiteral]
        exact .blank (h.append _)
    · cases hok
  | comment h =>
    simp only [Reader.step, hcount] at hok
    obtain rfl := Except.ok.inj hok
    cases hend : isLineEnd b with
    | true => exact .next hend seen_nil (h.notice? _ _).symm
    | false => exact .stay hend (.comment (h.append _)) rfl
  | @problem text rest part h htext =>
    simp only [Reader.step, hcount] at hok
    split at hok
    · rename_i hend
      obtain rfl := Except.ok.inj hok
      refine .next hend ?_ ?_
      · rw [(takes_finishProblem 0 htext _ _).2]
        exact seen_nil
      · rw [notice?_finishProblem htext]
        simp only [NumberedLine.notice?, h, Reader.line_countLine, Option.some.injEq]
    · rename_i hend
      obtain rfl := Except.ok.inj hok
      refine .stay (by simpa using hend) (.problem (problem?_append h [b]) ?_) rfl
      simp [htext]

-- Where a reader stops: outside of problem lines, and the line is that of the byte. A line feed has
-- already been counted.
inductive Refuses (r : Reader) (b : UInt8) : SyntaxError → Prop
  | unexpected : Refuses r b (.unexpected (r.line + if b = 10 then 1 else 0) b)
  | literalTooLarge (index : Nat) (hb : isDigit b = true) :
      Refuses r b (.literalTooLarge r.line index (b.toNat - 48))

theorem refuses_digit {negative : Bool} {value : Nat} {e : SyntaxError} (hb : isDigit b = true)
    (herror : ((r.countLine b).digit limit negative value b).map (·, none) =
      (.error e : Except SyntaxError (Reader × Option Event))) : Refuses r b e := by
  have hfeed : b ≠ 10 := by
    rintro rfl
    exact absurd hb (by decide)
  have hline : (r.countLine b).line = r.line := by simp [Reader.line_countLine, hfeed]
  unfold Reader.digit at herror
  dsimp only at herror
  split at herror
  · obtain rfl := Except.error.inj herror
    rw [hline]
    exact .literalTooLarge value hb
  · cases herror

-- A line feed is refused only right after a sign.
theorem refuses_step {e : SyntaxError} (h : Seen r.mode part) (herror : r.step limit b = .error e) :
    problem? part = none ∧ Refuses r b e ∧ (b = 10 → part.getLast? = some 45) := by
  have hcount := countLine_mode r b
  have hunexpected : Refuses r b (.unexpected (r.countLine b).line b) := by
    rw [Reader.line_countLine]
    exact .unexpected
  generalize hmode : r.mode = mode at h hcount
  cases h with
  | @blank fresh part h =>
    simp only [Reader.step, hcount] at herror
    refine ⟨h.problem?_eq_none, ?_, ?_⟩
    · split at herror
      · exact refuses_digit ‹_› herror
      iterate 5
        split at herror
        · cases herror
      exact Except.error.inj herror ▸ hunexpected
    · rintro rfl
      cases herror
  | sign h hlast =>
    refine ⟨by simpa using h [], ?_, fun _ => hlast⟩
    simp only [Reader.step, hcount] at herror
    split at herror
    · exact refuses_digit ‹_› herror
    · exact Except.error.inj herror ▸ hunexpected
  | digits h =>
    simp only [Reader.step, hcount] at herror
    refine ⟨by simpa using h [], ?_, ?_⟩
    · split at herror
      · exact refuses_digit ‹_› herror
      split at herror
      · cases herror
      · exact Except.error.inj herror ▸ hunexpected
    · rintro rfl
      cases herror
  | comment h =>
    simp only [Reader.step, hcount] at herror
    cases herror
  | problem h htext =>
    simp only [Reader.step, hcount] at herror
    split at herror <;> cases herror

-- At the end of the text the last line is noticed, if it is not an error.
theorem finish_of_seen (h : Seen r.mode part) :
    (∃ out, r.finish = .ok out ∧
      out.2.bind Event.notice? = NumberedLine.notice? ⟨r.line, part, none⟩) ∨
    r.finish = .error (.unexpected r.line 45) ∧ problem? part = none ∧
      part.getLast? = some 45 := by
  unfold Reader.finish
  generalize hmode : r.mode = mode at h
  cases h with
  | blank h => exact .inl ⟨_, rfl, (notice?_of_problem?_eq_none h.problem?_eq_none).symm⟩
  | sign h hlast => exact .inr ⟨rfl, by simpa using h [], hlast⟩
  | digits h => exact .inl ⟨_, rfl, (notice?_finishLiteral _ _ _).trans (h.notice? _ _).symm⟩
  | comment h => exact .inl ⟨_, rfl, (h.notice? _ _).symm⟩
  | @problem text rest part h htext =>
    refine .inl ⟨_, rfl, ?_⟩
    rw [notice?_finishProblem htext]
    simp [NumberedLine.notice?, h]

end Steps

section Runs

variable {limit : Nat}

theorem notices_after_ok {s : Scan} (hs : s.error = none) (out : Reader × Option Event) :
    (s.after (.ok out)).notices = s.notices ++ (out.2.bind Event.notice?).toList := by
  obtain ⟨-, -, hevents⟩ := Scan.after_ok hs out
  rw [Scan.notices, hevents, List.filterMap_append, Scan.notices]
  cases out.2 with
  | none => rfl
  | some event => cases h : event.notice? <;> simp [h]

-- After bytes without an error the reader stands in the last line, and all lines before it have
-- been noticed.
theorem foldl_step_of_seen {s : Scan} {part bytes : List UInt8} (hs : s.error = none)
    (h : Seen s.reader.mode part) (hok : (bytes.foldl (Scan.step limit) s).error = none) :
    let scan := bytes.foldl (Scan.step limit) s
    ∃ last, last <:+ part ++ bytes ∧ Seen scan.reader.mode last ∧
      s.notices ++ (numberedFrom s.reader.line part bytes).filterMap NumberedLine.notice? =
        scan.notices ++ (NumberedLine.notice? ⟨scan.reader.line, last, none⟩).toList := by
  induction bytes generalizing s part with
  | nil =>
    refine ⟨part, by simp, h, ?_⟩
    rw [numberedFrom, List.foldl_nil, List.filterMap_cons]
    cases NumberedLine.notice? ⟨s.reader.line, part, none⟩ <;> rfl
  | cons b bytes ih =>
    rw [List.foldl_cons, Scan.step_eq_after limit hs] at hok ⊢
    cases hout : s.reader.step limit b with
    | error e =>
      rw [hout, Scan.foldl_step_after_error] at hok
      cases hok
    | ok out =>
      obtain ⟨herror, hreader, -⟩ := Scan.after_ok hs out
      have hline := (Reader.step_outcome hout).line_eq
      rw [Reader.line_countLine] at hline
      have hnotices := notices_after_ok hs out
      rw [hout] at hok
      cases goesOn_step h hout with
      | next hend hseen hnotice =>
        obtain ⟨last, hsuffix, hlast, hrest⟩ := ih herror (hreader ▸ hseen) hok
        refine ⟨last, hsuffix.trans ⟨part ++ [b], by simp⟩, hlast, ?_⟩
        rw [← hrest, hnotices, hnotice, hreader, hline, numberedFrom, if_pos hend,
          List.filterMap_cons, List.append_assoc]
        cases NumberedLine.notice? ⟨s.reader.line, part, some b⟩ <;> rfl
      | stay hend hseen hnotice =>
        obtain ⟨last, hsuffix, hlast, hrest⟩ := ih herror (hreader ▸ hseen) hok
        have hfeed : b ≠ 10 := by
          rintro rfl
          cases hend
        refine ⟨last, by simpa using hsuffix, hlast, ?_⟩
        rw [← hrest, hnotices, hnotice, hreader, hline, if_neg hfeed, numberedFrom,
          if_neg (by simp [hend])]
        simp

-- The first error splits the bytes.
theorem foldl_step_cases (limit : Nat) {s : Scan} (hs : s.error = none) (bytes : List UInt8) :
    (bytes.foldl (Scan.step limit) s).error = none ∨
    ∃ taken b after e, bytes = taken ++ b :: after ∧
      (taken.foldl (Scan.step limit) s).error = none ∧
      (taken.foldl (Scan.step limit) s).reader.step limit b = .error e ∧
      bytes.foldl (Scan.step limit) s = (taken.foldl (Scan.step limit) s).after (.error e) := by
  induction bytes generalizing s with
  | nil => exact .inl hs
  | cons b bytes ih =>
    have hstep := Scan.step_eq_after limit hs b
    cases hout : s.reader.step limit b with
    | error e =>
      refine .inr ⟨[], b, bytes, e, rfl, hs, hout, ?_⟩
      rw [List.foldl_cons, hstep, hout, Scan.foldl_step_after_error]
      rfl
    | ok out =>
      have herror := (Scan.after_ok hs out).1
      rw [hout] at hstep
      rw [List.foldl_cons, hstep]
      rcases ih herror with hok | ⟨taken, c, after, e, rfl, htaken, hrefused, hscan⟩
      · exact .inl hok
      · refine .inr ⟨b :: taken, c, after, e, rfl, ?_⟩
        rw [List.foldl_cons, hstep]
        exact ⟨htaken, hrefused, hscan⟩

-- A line feed does not fit only right after a sign.
theorem lineFeed_after_sign {bytes : List UInt8} {line : Nat}
    (h : (bytes.foldl (Scan.step limit) { reader := {} }).error = some (.unexpected line 10)) :
    ∃ before after, bytes = before ++ 45 :: 10 :: after := by
  rcases foldl_step_cases limit (s := { reader := {} }) rfl bytes with
    hok | ⟨taken, b, after, e, hsplit, hok, hrefused, hscan⟩
  · rw [hok] at h
    cases h
  · obtain ⟨last, ⟨front, hfront⟩, hseen, -⟩ :=
      foldl_step_of_seen (s := { reader := {} }) rfl seen_nil hok
    obtain ⟨-, hplace, hsign⟩ := refuses_step hseen hrefused
    rw [hscan] at h
    obtain rfl : e = .unexpected line 10 := Option.some.inj h
    obtain rfl : b = 10 := by cases hplace; rfl
    obtain ⟨before, rfl⟩ := List.getLast?_eq_some_iff.mp (hsign rfl)
    have htaken : taken = front ++ (before ++ [45]) := hfront.symm
    exact ⟨front ++ before, after, by simp [hsplit, htaken]⟩

-- At the end of the text only a sign can be wrong.
theorem feedEnd_error_ne (r : Reader) (line : Nat) :
    r.feedEnd.error ≠ some (.unexpected line 10) := by
  unfold Reader.feedEnd
  cases hout : r.finish with
  | ok out =>
    rw [(Scan.after_ok rfl out).1]
    nofun
  | error e =>
    rintro herror
    obtain rfl : e = .unexpected line 10 := Option.some.inj herror
    unfold Reader.finish at hout
    split at hout <;> cases hout

end Runs

-- The line of an error, after the bytes that were taken in. It is the line of the byte that does
-- not fit, except for a line feed, which counts as a byte of the line that it begins. A sign
-- without digits at the end of the text is found in its own line.
inductive Located (taken rest : List UInt8) : Option SyntaxError → Prop
  | nowhere (hrest : rest = []) : Located taken rest none
  | byte {b : UInt8} {after : List UInt8} (hrest : rest = b :: after) :
      Located taken rest
        (some (.unexpected (1 + taken.count 10 + if b = 10 then 1 else 0) b))
  | digit {b : UInt8} {after : List UInt8} (hrest : rest = b :: after) (hb : isDigit b = true)
      (index : Nat) :
      Located taken rest (some (.literalTooLarge (1 + taken.count 10) index (b.toNat - 48)))
  | dash {before : List UInt8} (hrest : rest = []) (htaken : taken = before ++ [45]) :
      Located taken rest (some (.unexpected (1 + before.count 10) 45))

section Intake

variable {σ : Type} [Receiver σ] {s : σ} {bytes taken after : List UInt8} {b : UInt8}

theorem readText_lineFeed_after_sign {line : Nat}
    (h : (readText (.ofBytes bytes) s).error = some (.malformed (.unexpected line 10))) :
    ∃ before after, bytes = before ++ 45 :: 10 :: after := by
  have hend : ∀ (r : Reader) (t : σ) (notices : List Notice),
      (readEnd r t notices).error ≠ some (.malformed (.unexpected line 10)) := by
    intro r t notices
    have hquiet := feedEnd_error_ne r line
    cases herror : r.feedEnd.error with
    | none => simp [readEnd, herror]
    | some e => simpa [readEnd, herror] using hquiet
  cases bytes with
  | nil => exact absurd h (hend _ _ _)
  | cons b bytes =>
    simp only [readText, Supply.ofBytes, readPieces] at h
    split at h
    · rename_i e herror
      obtain rfl : e = .unexpected line 10 := by simpa using h
      exact lineFeed_after_sign herror
    · exact absurd h (hend _ _ _)

-- A text of which every byte is taken in can only be wrong at its end.
theorem located_of_ok (hok : (({} : Reader).feed (Receiver.limit s) bytes).error = none) :
    Located bytes [] (intake {} s [bytes]).error ∧
      (intake {} s [bytes]).events.filterMap Event.notice? =
        (numberedLines bytes).filterMap NumberedLine.notice? := by
  have hfeed : ({} : Reader).feed (Receiver.limit s) bytes =
      bytes.foldl (Scan.step (Receiver.limit s)) { reader := {} } := Reader.feed_eq (by simp) bytes
  rw [hfeed] at hok
  have hline := Scan.line_foldl_step (s := { reader := {} }) rfl hok
  obtain ⟨last, hsuffix, hseen, hnotices⟩ :=
    foldl_step_of_seen (s := { reader := {} }) rfl seen_nil hok
  generalize hscan : bytes.foldl (Scan.step (Receiver.limit s)) { reader := {} } = scan at *
  have hfound : intake {} s [bytes] =
      (Intake.ofScan (scan.forward s) scan.reader.feedEnd).after scan.events := by
    simp only [intake, hfeed, hok]
  have hnotices : (numberedLines bytes).filterMap NumberedLine.notice? =
      scan.notices ++ (NumberedLine.notice? ⟨scan.reader.line, last, none⟩).toList := hnotices
  have hevents : (intake {} s [bytes]).events.filterMap Event.notice? =
      scan.notices ++ scan.reader.feedEnd.notices := by
    rw [hfound]
    exact List.filterMap_append
  rw [hevents, hnotices, hfound]
  rcases finish_of_seen hseen with ⟨out, hfinish, hnotice⟩ | ⟨hfinish, hproblem, hdash⟩
  · have hend : scan.reader.feedEnd = Scan.after { reader := scan.reader } (.ok out) := by
      rw [Reader.feedEnd, hfinish]
    have hquiet : (Scan.after { reader := scan.reader } (.ok out)).error = none :=
      (Scan.after_ok rfl out).1
    rw [hend, notices_after_ok rfl, hnotice]
    refine ⟨?_, rfl⟩
    change Located bytes [] (Scan.after { reader := scan.reader } (.ok out)).error
    rw [hquiet]
    exact .nowhere rfl
  · have hend : scan.reader.feedEnd = Scan.after { reader := scan.reader }
        (.error (.unexpected scan.reader.line 45)) := by
      rw [Reader.feedEnd, hfinish]
    obtain ⟨front, rfl⟩ := List.getLast?_eq_some_iff.mp hdash
    obtain ⟨before, hbefore⟩ := hsuffix
    rw [hend, notice?_of_problem?_eq_none hproblem]
    refine ⟨?_, rfl⟩
    have htaken : bytes = (before ++ front) ++ [45] := by simpa using hbefore.symm
    have hcount : scan.reader.line = 1 + (before ++ front).count 10 := by
      rw [hline, htaken]
      simp
    rw [hcount]
    exact .dash rfl htaken

-- A text of which a byte is refused is wrong there.
theorem located_of_refused {e : SyntaxError}
    (hok : (taken.foldl (Scan.step (Receiver.limit s)) { reader := {} }).error = none)
    (hrefused : (taken.foldl (Scan.step (Receiver.limit s)) { reader := {} }).reader.step
      (Receiver.limit s) b = .error e) :
    Located taken (b :: after) (some e) ∧
      (taken.foldl (Scan.step (Receiver.limit s)) { reader := {} }).notices =
        (numberedLines taken).filterMap NumberedLine.notice? := by
  have hline := Scan.line_foldl_step (s := { reader := {} }) rfl hok
  obtain ⟨last, -, hseen, hnotices⟩ :=
    foldl_step_of_seen (s := { reader := {} }) rfl seen_nil hok
  generalize taken.foldl (Scan.step (Receiver.limit s)) { reader := {} } = scan at *
  obtain ⟨hproblem, hplace, -⟩ := refuses_step hseen hrefused
  rw [notice?_of_problem?_eq_none hproblem, Option.toList_none, List.append_nil] at hnotices
  refine ⟨?_, hnotices.symm⟩
  cases hplace with
  | unexpected =>
    rw [hline]
    exact .byte rfl
  | literalTooLarge index hb =>
    rw [hline]
    exact .digit rfl hb index

-- Every error is told with the line of the byte that does not fit, and every problem line that
-- announces nothing with the number of its line, however the text is cut into chunks, with one
-- exception: a line feed has already been counted when it turns out not to fit, or to end a problem
-- line. Then the number is one too large.
theorem diagnostics_located
    (hsteady : ∀ (s : σ) (e : Event), Receiver.limit (e.forward s) = Receiver.limit s) (s : σ)
    (chunks : List (List UInt8)) :
    let found := intake {} s chunks
    let fed := ({} : Reader).feed (Receiver.limit s)
    ∃ taken rest, chunks.flatten = taken ++ rest ∧ (fed taken).error = none ∧
      (∀ b ∈ rest.head?, (fed (taken ++ [b])).error = found.error) ∧
      Located taken rest found.error ∧
      found.events.filterMap Event.notice? =
        (numberedLines taken).filterMap NumberedLine.notice? ∧
      (numberedLines taken).map (·.content) = lines taken ∧
      ∀ line ∈ numberedLines taken, ∃ before after,
        taken = before ++ line.content ++ line.ending.toList ++ after ∧
          10 ∉ line.content ∧ line.number = 1 + before.count 10 := by
  intro found fed
  have hflat : found = intake {} s [chunks.flatten] := intake_eq_flatten hsteady (by simp) s chunks
  have hfed : ∀ bytes, fed bytes = bytes.foldl (Scan.step (Receiver.limit s)) { reader := {} } :=
    Reader.feed_eq (by simp)
  rcases foldl_step_cases (Receiver.limit s) (s := { reader := {} }) rfl chunks.flatten with
    hok | ⟨taken, b, after, e, hsplit, hok, hrefused, hscan⟩
  · rw [← hfed] at hok
    obtain ⟨hlocated, hnotices⟩ := located_of_ok hok
    refine ⟨chunks.flatten, [], by simp, hok, by simp, ?_, ?_, content_numberedLines _,
      fun line => number_of_mem_numberedLines⟩
    · rw [hflat]
      exact hlocated
    · rw [hflat]
      exact hnotices
  · obtain ⟨hlocated, hnotices⟩ : Located taken (b :: after) (some e) ∧ _ :=
      located_of_refused hok hrefused
    have hfound : found = Intake.ofScan s
        ((taken.foldl (Scan.step (Receiver.limit s)) { reader := {} }).after (.error e)) := by
      have hfeed : ({} : Reader).feed (Receiver.limit s) chunks.flatten = _ :=
        (hfed chunks.flatten).trans hscan
      rw [hflat, intake, hfeed]
      rfl
    refine ⟨taken, b :: after, hsplit, by rwa [hfed], ?_, ?_, ?_, content_numberedLines _,
      fun line => number_of_mem_numberedLines⟩
    · rintro c ⟨rfl⟩
      rw [hfed, List.foldl_append, List.foldl_cons, List.foldl_nil, Scan.step_eq_after _ hok,
        hrefused, hfound]
      rfl
    · rw [hfound]
      exact hlocated
    · rw [hfound]
      exact hnotices

end Intake

-- A line that announces nothing and ends in a carriage return, and then a sign before a line feed.
theorem diagnostics_located_limitedFormula :
    let s : LimitedFormula := { limit := 9 }
    let chunks : List (List UInt8) := [[10, 112, 32], [120, 13, 45], [10]]
    (∀ (s : LimitedFormula) (e : Event), Receiver.limit (e.forward s) = Receiver.limit s) ∧
    ∃ taken rest, chunks.flatten = taken ++ rest ∧ Located taken rest (intake {} s chunks).error ∧
      (intake {} s chunks).events.filterMap Event.notice? =
        (numberedLines taken).filterMap NumberedLine.notice? := by
  intro s chunks
  obtain ⟨taken, rest, hsplit, -, -, hlocated, hnotices, -⟩ :=
    diagnostics_located limit_forward_limited s chunks
  exact ⟨limit_forward_limited, taken, rest, hsplit, hlocated, hnotices⟩

-- No line feed comes before the one that does not fit, and none before the `p` of a problem line
-- that ends in one. A carriage return and the end of the text are counted as they should be.
theorem lineFeed_miscounted :
    let s : LimitedFormula := { limit := 9 }
    (intake {} s [[45, 10]]).error = some (.unexpected 2 10) ∧
    (intake {} s [[112, 32, 120, 10]]).events = [.malformedHeader 2 "p x"] ∧
    (intake {} s [[112, 32, 120, 13]]).events = [.malformedHeader 1 "p x"] ∧
    (intake {} s [[112, 32, 120]]).events = [.malformedHeader 1 "p x"] := by
  refine ⟨by decide +kernel, by decide +kernel, by decide +kernel, by decide +kernel⟩

end SatFrontend.Dimacs

import SatFrontend.Proofs.Dimacs.Chunks

namespace SatFrontend.Dimacs

open Receiver

-- A reader whose place in the text is kept in single registers, which can be set to anything.
structure Registers where
  header : Option Header := none
  line : Nat := 1
  clauseCount : Nat := 0
  openLits : Nat := 0
  -- the number of the digits so far, and whether a minus sign was read for it
  partialLit : Nat := 0
  negate : Bool := false
  inLit : Bool := false
  -- inside a comment or a problem line
  inComment : Bool := false
  inHeader : Bool := false
  startOfLine : Bool := true
  error : Bool := false
  headerLine : List UInt8 := []
deriving DecidableEq

-- What is done besides setting registers.
inductive Effect where
  | push (l : Lit)
  | endClause
  -- a problem line is evaluated; `line` is where its end was noticed
  | evaluate (line : Nat) (text : List UInt8)
deriving DecidableEq

-- What is seen of an effect: a problem line only if it announces nothing.
def Effect.event? : Effect → Option Event
  | push l => some (.literal l)
  | endClause => some .clauseEnd
  | evaluate line text =>
    let cs := Text.decodeLossy text
    if (Header.ofText? cs.tail).isSome then none
    else some (.malformedHeader line (String.ofList cs))

-- What a byte or the end of the text comes to.
structure Yield where
  registers : Registers
  effects : List Effect := []
  error : Option SyntaxError := none

namespace Registers

def isClauseOpen (x : Registers) : Bool := 0 < x.openLits

def evaluate (x : Registers) : Registers × List Effect :=
  let header := Header.ofText? (Text.decodeLossy x.headerLine).tail
  ({ x with header := header.or x.header }, [.evaluate x.line x.headerLine])

def finishLiteral (x : Registers) : Registers × List Effect :=
  if x.inLit then
    if x.partialLit = 0 then
      ({ x with clauseCount := x.clauseCount + 1, openLits := 0 }, [.endClause])
    else
      ({ x with openLits := x.openLits + 1 }, [.push ⟨Var.ofNumber x.partialLit, x.negate⟩])
  else (x, [])

def refuse (x : Registers) (e : SyntaxError) : Yield := ⟨{ x with error := true }, [], some e⟩

def countLine (x : Registers) (b : UInt8) : Registers :=
  if b = 10 then { x with line := x.line + 1 } else x

def step (limit : Nat) (x : Registers) (b : UInt8) : Yield :=
  let x := x.countLine b
  if isLineEnd b && x.inComment then
    let (x, effects) := if x.inHeader then { x with inHeader := false }.evaluate else (x, [])
    ⟨{ x with inComment := false, startOfLine := true }, effects, none⟩
  else if x.inComment then
    ⟨if x.inHeader then { x with headerLine := x.headerLine ++ [b] } else x, [], none⟩
  else if isDigit b then
    let x := { x with inLit := true }
    let digit := b.toNat - 48
    if exceeds limit x.partialLit digit then
      x.refuse (.literalTooLarge x.line x.partialLit digit)
    else ⟨{ x with partialLit := x.partialLit * 10 + digit, startOfLine := false }, [], none⟩
  else if b == 45 && !x.negate && !x.inLit then
    ⟨{ x with negate := true, startOfLine := false }, [], none⟩
  else if (isSpace b || isLineEnd b) && (!x.negate || x.inLit) then
    let blankSoFar := x.startOfLine && !x.inLit
    let (x, effects) := x.finishLiteral
    ⟨{ x with
        negate := false, inLit := false, partialLit := 0
        startOfLine := blankSoFar || isLineEnd b }, effects, none⟩
  else if b == 99 && x.startOfLine then ⟨{ x with inComment := true }, [], none⟩
  else if b == 112 && x.startOfLine then
    ⟨{ x with inComment := true, inHeader := true, headerLine := [112] }, [], none⟩
  else x.refuse (.unexpected x.line b)

-- Take in the end of the text after a problem line, which has had the given effects.
def finishToken (x : Registers) (evaluated : List Effect) : Yield :=
  if x.negate && !x.inLit then
    ⟨{ x with error := true }, evaluated, some (.unexpected x.line 45)⟩
  else
    let (x, effects) := x.finishLiteral
    ⟨{ x with inLit := false, negate := false, partialLit := 0 }, evaluated ++ effects, none⟩

-- The end of the text ends a problem line, but it does not end a comment.
def finish (x : Registers) : Yield :=
  if x.inHeader then
    let (x, evaluated) := { x with inHeader := false }.evaluate
    x.finishToken evaluated
  else x.finishToken []

-- Everything that registers can do with a byte when its line is counted, with the conditions that
-- it is done under.
inductive Moves (limit : Nat) (x : Registers) (b : UInt8) : Yield → Prop
  | evaluate (hend : isLineEnd b = true) (hcomment : x.inComment = true)
      (hheader : x.inHeader = true) :
      Moves limit x b ⟨{ { x with inHeader := false }.evaluate.1 with
        inComment := false, startOfLine := true }, [.evaluate x.line x.headerLine], none⟩
  | uncomment (hend : isLineEnd b = true) (hcomment : x.inComment = true)
      (hheader : x.inHeader = false) :
      Moves limit x b ⟨{ x with inComment := false, startOfLine := true }, [], none⟩
  | extend (hend : isLineEnd b = false) (hcomment : x.inComment = true)
      (hheader : x.inHeader = true) :
      Moves limit x b ⟨{ x with headerLine := x.headerLine ++ [b] }, [], none⟩
  | skip (hend : isLineEnd b = false) (hcomment : x.inComment = true)
      (hheader : x.inHeader = false) : Moves limit x b ⟨x, [], none⟩
  | digit (hcomment : x.inComment = false) (hdigit : isDigit b = true)
      (hlimit : exceeds limit x.partialLit (b.toNat - 48) = false) :
      Moves limit x b ⟨{ x with
        inLit := true, partialLit := x.partialLit * 10 + (b.toNat - 48), startOfLine := false },
        [], none⟩
  | overflow (hcomment : x.inComment = false) (hdigit : isDigit b = true)
      (hlimit : exceeds limit x.partialLit (b.toNat - 48) = true) :
      Moves limit x b ({ x with inLit := true }.refuse
        (.literalTooLarge x.line x.partialLit (b.toNat - 48)))
  | sign (hcomment : x.inComment = false) (hsign : b = 45) (hnegate : x.negate = false)
      (hlit : x.inLit = false) :
      Moves limit x b ⟨{ x with negate := true, startOfLine := false }, [], none⟩
  | literal (hcomment : x.inComment = false) (hblank : (isSpace b || isLineEnd b) = true)
      (hlit : x.inLit = true) :
      Moves limit x b ⟨{ x.finishLiteral.1 with
        negate := false, inLit := false, partialLit := 0, startOfLine := isLineEnd b },
        x.finishLiteral.2, none⟩
  | blank (hcomment : x.inComment = false) (hblank : (isSpace b || isLineEnd b) = true)
      (hlit : x.inLit = false) (hnegate : x.negate = false) :
      Moves limit x b ⟨{ x with
        negate := false, inLit := false, partialLit := 0
        startOfLine := x.startOfLine || isLineEnd b }, [], none⟩
  | comment (hcomment : x.inComment = false) (hb : b = 99) (hfresh : x.startOfLine = true) :
      Moves limit x b ⟨{ x with inComment := true }, [], none⟩
  | problem (hcomment : x.inComment = false) (hb : b = 112) (hfresh : x.startOfLine = true) :
      Moves limit x b ⟨{ x with inComment := true, inHeader := true, headerLine := [112] },
        [], none⟩
  | refuse (hcomment : x.inComment = false) (hdigit : isDigit b = false)
      (hsign : b = 45 → x.negate = false → x.inLit = true)
      (hblank : (isSpace b || isLineEnd b) = true → x.negate = true ∧ x.inLit = false)
      (hfresh : x.startOfLine = true → b ≠ 99 ∧ b ≠ 112) :
      Moves limit x b (x.refuse (.unexpected x.line b))

theorem step_moves (limit : Nat) (x : Registers) (b : UInt8) :
    Moves limit (x.countLine b) b (x.step limit b) := by
  unfold step
  generalize x.countLine b = x
  dsimp only
  split
  · rename_i hend
    obtain ⟨hend, hcomment⟩ := Bool.and_eq_true_iff.mp hend
    cases hheader : x.inHeader with
    | true => exact .evaluate hend hcomment hheader
    | false => exact .uncomment hend hcomment hheader
  rename_i hnoEnd
  split
  · rename_i hcomment
    have hend : isLineEnd b = false := by simpa [hcomment] using hnoEnd
    split
    · exact .extend hend hcomment ‹_›
    · exact .skip hend hcomment (Bool.eq_false_iff.mpr ‹_›)
  rename_i hcomment
  have hcomment : x.inComment = false := by simpa using hcomment
  split
  · rename_i hdigit
    split
    · exact .overflow hcomment hdigit ‹_›
    · exact .digit hcomment hdigit (Bool.eq_false_iff.mpr ‹_›)
  rename_i hdigit
  split
  · rename_i hsign
    simp only [Bool.and_eq_true, beq_iff_eq, Bool.not_eq_true'] at hsign
    exact .sign hcomment hsign.1.1 hsign.1.2 hsign.2
  rename_i hsign
  split
  · rename_i hblank
    obtain ⟨hblank, hready⟩ := Bool.and_eq_true_iff.mp hblank
    cases hlit : x.inLit with
    | true =>
      simp only [Bool.not_true, Bool.and_false, Bool.false_or]
      exact .literal hcomment hblank hlit
    | false =>
      have hnegate : x.negate = false := by simpa [hlit] using hready
      have hnone : x.finishLiteral = (x, []) := by rw [finishLiteral, hlit]; rfl
      simp only [hnone, Bool.not_false, Bool.and_true]
      exact .blank hcomment hblank hlit hnegate
  rename_i hblank
  split
  · rename_i hb
    simp only [Bool.and_eq_true, beq_iff_eq] at hb
    exact .comment hcomment hb.1 hb.2
  rename_i hnoComment
  split
  · rename_i hb
    simp only [Bool.and_eq_true, beq_iff_eq] at hb
    exact .problem hcomment hb.1 hb.2
  rename_i hnoProblem
  refine .refuse hcomment (by simpa using hdigit) ?_ ?_ ?_
  · simpa using hsign
  · intro hb
    simpa [hb] using hblank
  · exact fun hfresh => ⟨by simpa [hfresh] using hnoComment, by simpa [hfresh] using hnoProblem⟩

-- What is held of a problem line: its bytes from the `p` on, and no end of a line.
def IsProblem (text : List UInt8) : Prop :=
  ∃ rest, text = 112 :: rest ∧ ∀ b ∈ rest, isLineEnd b = false

-- A number is only held inside of a literal, and a literal is neither at the start of its line nor
-- in a comment.
structure Orderly (x : Registers) : Prop where
  number : x.partialLit ≠ 0 → x.inLit = true
  literal : x.inLit = true ∨ x.negate = true → x.startOfLine = false ∧ x.inComment = false

structure Consistent (x : Registers) : Prop where
  problem : x.inHeader = true → x.inComment = true ∧ IsProblem x.headerLine
  orderly : x.error = false → x.Orderly

-- The mode that registers stand for.
def mode (x : Registers) : Mode :=
  if x.error then .failed
  else if x.inHeader then .problem x.headerLine.reverse
  else if x.inComment then .comment
  else if x.inLit then .digits x.negate x.partialLit
  else if x.negate then .sign
  else .blank x.startOfLine

def reader (x : Registers) : Reader :=
  ⟨x.header, x.line, x.clauseCount, x.openLits, x.mode⟩

section Step

variable {limit : Nat} {x : Registers} {b : UInt8} {y : Yield}

theorem Orderly.of_comment (h : x.Orderly) (hcomment : x.inComment = true) :
    x.inLit = false ∧ x.negate = false := by
  have hnot : ¬(x.inLit = true ∨ x.negate = true) := fun hlit => by
    simp [(h.literal hlit).2] at hcomment
  simpa using hnot

theorem Orderly.of_startOfLine (h : x.Orderly) (hfresh : x.startOfLine = true) :
    x.inLit = false ∧ x.negate = false := by
  have hnot : ¬(x.inLit = true ∨ x.negate = true) := fun hlit => by
    simp [(h.literal hlit).1] at hfresh
  simpa using hnot

theorem Orderly.partialLit_eq_zero (h : x.Orderly) (hlit : x.inLit = false) :
    x.partialLit = 0 := by
  refine Decidable.byContradiction fun hne => ?_
  simp [h.number hne] at hlit

-- Only the two counts change with a literal.
theorem exists_finishLiteral (x : Registers) :
    ∃ c n, x.finishLiteral.1 = { x with clauseCount := c, openLits := n } := by
  unfold finishLiteral
  split
  · split
    · exact ⟨_, _, rfl⟩
    · exact ⟨_, _, rfl⟩
  · exact ⟨_, _, rfl⟩

theorem Moves.consistent (hmoves : Moves limit x b y) (h : x.Consistent)
    (herror : x.error = false) :
    y.registers.Consistent ∧ y.registers.error = y.error.isSome := by
  have horderly := h.orderly herror
  cases hmoves with
  | evaluate hend hcomment hheader =>
    obtain ⟨hlit, hnegate⟩ := horderly.of_comment hcomment
    refine ⟨⟨by simp [Registers.evaluate], fun _ => ⟨horderly.number, ?_⟩⟩, herror⟩
    simp [Registers.evaluate, hlit, hnegate]
  | uncomment hend hcomment hheader =>
    obtain ⟨hlit, hnegate⟩ := horderly.of_comment hcomment
    refine ⟨⟨by simp [hheader], fun _ => ⟨horderly.number, ?_⟩⟩, herror⟩
    simp [hlit, hnegate]
  | extend hend hcomment hheader =>
    obtain ⟨-, rest, htext, hrest⟩ := h.problem hheader
    have hmore : ∀ b' ∈ rest ++ [b], isLineEnd b' = false :=
      List.forall_mem_append.mpr ⟨hrest, by simpa using hend⟩
    exact ⟨⟨fun _ => ⟨hcomment, rest ++ [b], by simp [htext], hmore⟩,
      fun _ => ⟨horderly.number, horderly.literal⟩⟩, herror⟩
  | skip hend hcomment hheader => exact ⟨h, herror⟩
  | digit hcomment hdigit hlimit =>
    exact ⟨⟨h.problem, fun _ => ⟨fun _ => rfl, fun _ => ⟨rfl, hcomment⟩⟩⟩, herror⟩
  | overflow hcomment hdigit hlimit => exact ⟨⟨h.problem, nofun⟩, rfl⟩
  | sign hcomment hsign hnegate hlit =>
    exact ⟨⟨h.problem, fun _ => ⟨horderly.number, fun _ => ⟨rfl, hcomment⟩⟩⟩, herror⟩
  | literal hcomment hblank hlit =>
    obtain ⟨c, n, hlast⟩ := x.exists_finishLiteral
    rw [hlast]
    exact ⟨⟨h.problem, fun _ => ⟨nofun, nofun⟩⟩, herror⟩
  | blank hcomment hblank hlit hnegate =>
    exact ⟨⟨h.problem, fun _ => ⟨nofun, nofun⟩⟩, herror⟩
  | comment hcomment hb hfresh =>
    obtain ⟨hlit, hnegate⟩ := horderly.of_startOfLine hfresh
    refine ⟨⟨fun hheader => ⟨rfl, (h.problem hheader).2⟩, fun _ => ⟨horderly.number, ?_⟩⟩, herror⟩
    simp [hlit, hnegate]
  | problem hcomment hb hfresh =>
    obtain ⟨hlit, hnegate⟩ := horderly.of_startOfLine hfresh
    refine ⟨⟨fun _ => ⟨rfl, [], rfl, by simp⟩, fun _ => ⟨horderly.number, ?_⟩⟩, herror⟩
    simp [hlit, hnegate]
  | refuse hcomment hdigit hsign hblank hfresh => exact ⟨⟨h.problem, nofun⟩, rfl⟩

-- Everything that registers do at the end of the text, if they are consistent.
inductive Ends (x : Registers) : Yield → Prop
  | evaluate (hheader : x.inHeader = true) :
      Ends x ⟨{ { x with inHeader := false }.evaluate.1 with
        inLit := false, negate := false, partialLit := 0 },
        [.evaluate x.line x.headerLine], none⟩
  | refuse (hheader : x.inHeader = false) (hlit : x.inLit = false) (hnegate : x.negate = true) :
      Ends x (x.refuse (.unexpected x.line 45))
  | literal (hheader : x.inHeader = false) (hlit : x.inLit = true) :
      Ends x ⟨{ x.finishLiteral.1 with inLit := false, negate := false, partialLit := 0 },
        x.finishLiteral.2, none⟩
  | nothing (hheader : x.inHeader = false) (hlit : x.inLit = false) (hnegate : x.negate = false) :
      Ends x ⟨{ x with inLit := false, negate := false, partialLit := 0 }, [], none⟩

theorem finishToken_of_no_token (x : Registers) (hlit : x.inLit = false)
    (hnegate : x.negate = false) (evaluated : List Effect) :
    x.finishToken evaluated =
      ⟨{ x with inLit := false, negate := false, partialLit := 0 }, evaluated, none⟩ := by
  have hnone : x.finishLiteral = (x, []) := by
    rw [finishLiteral, hlit]
    rfl
  rw [finishToken, if_neg (by simp [hnegate]), hnone]
  simp only [List.append_nil]

theorem finish_ends (h : x.Consistent) (herror : x.error = false) : Ends x x.finish := by
  unfold finish
  by_cases hheader : x.inHeader = true
  · obtain ⟨hlit, hnegate⟩ := (h.orderly herror).of_comment (h.problem hheader).1
    have hlast := finishToken_of_no_token { x with inHeader := false }.evaluate.1 hlit hnegate
      [.evaluate x.line x.headerLine]
    rw [if_pos hheader]
    change Ends x ({ x with inHeader := false }.evaluate.1.finishToken _)
    rw [hlast]
    exact .evaluate hheader
  rw [if_neg hheader]
  have hheader := Bool.eq_false_iff.mpr hheader
  by_cases hlit : x.inLit = true
  · rw [finishToken, if_neg (by simp [hlit])]
    exact .literal hheader hlit
  have hlit := Bool.eq_false_iff.mpr hlit
  by_cases hnegate : x.negate = true
  · rw [finishToken, if_pos (by simp [hlit, hnegate])]
    exact .refuse hheader hlit hnegate
  have hnegate := Bool.eq_false_iff.mpr hnegate
  rw [finishToken_of_no_token x hlit hnegate]
  exact .nothing hheader hlit hnegate

theorem Ends.consistent (hends : Ends x y) (h : x.Consistent) (herror : x.error = false) :
    y.registers.Consistent ∧ y.registers.error = y.error.isSome := by
  have horderly := h.orderly herror
  cases hends with
  | evaluate hheader => exact ⟨⟨nofun, fun _ => ⟨nofun, nofun⟩⟩, herror⟩
  | refuse hheader hlit hnegate => exact ⟨⟨h.problem, nofun⟩, rfl⟩
  | literal hheader hlit =>
    obtain ⟨c, n, hlast⟩ := x.exists_finishLiteral
    rw [hlast]
    exact ⟨⟨h.problem, fun _ => ⟨nofun, nofun⟩⟩, herror⟩
  | nothing hheader hlit hnegate => exact ⟨⟨h.problem, fun _ => ⟨nofun, nofun⟩⟩, herror⟩

-- Registers and a reader come to the same.
inductive Alike (r : Reader) : Yield → Except SyntaxError (Reader × Option Event) → Prop
  | ok {x' : Registers} {effects : List Effect} {r' : Reader} {event : Option Event}
      (hreader : r' = x'.reader) (hevents : effects.filterMap Effect.event? = event.toList) :
      Alike r ⟨x', effects, none⟩ (.ok (r', event))
  | error {x' : Registers} {e : SyntaxError} (herror : x'.error = true)
      (hsame : { r with line := x'.line, mode := .failed } = x'.reader) :
      Alike r ⟨x', [], some e⟩ (.error e)

theorem reader_countLine (x : Registers) (b : UInt8) :
    x.reader.countLine b = (x.countLine b).reader := by
  unfold countLine Reader.countLine
  split <;> rfl

theorem filterMap_event?_singleton (e : Effect) :
    [e].filterMap Effect.event? = e.event?.toList := by
  cases h : e.event? <;> simp [h]

theorem finishProblem_reader (x : Registers) (mode : Mode) :
    ({ x.reader with mode := mode } : Reader).finishProblem x.headerLine.reverse =
      ({ x.evaluate.1.reader with mode := mode },
        (Effect.evaluate x.line x.headerLine).event?) := by
  unfold Reader.finishProblem Registers.evaluate Effect.event?
  rw [List.reverse_reverse]
  dsimp only
  cases Header.ofText? (Text.decodeLossy x.headerLine).tail <;> rfl

theorem finishLiteral_reader (x : Registers) (mode : Mode) (hlit : x.inLit = true) :
    ({ x.reader with mode := mode } : Reader).finishLiteral x.negate x.partialLit =
        ({ x.finishLiteral.1.reader with mode := mode },
          if x.partialLit = 0 then .clauseEnd
          else .literal ⟨Var.ofNumber x.partialLit, x.negate⟩) ∧
      x.finishLiteral.2.filterMap Effect.event? =
        [if x.partialLit = 0 then .clauseEnd
          else .literal ⟨Var.ofNumber x.partialLit, x.negate⟩] := by
  unfold Reader.finishLiteral finishLiteral
  rw [if_pos hlit]
  split <;> exact ⟨rfl, rfl⟩

theorem Consistent.inHeader_eq_false (h : x.Consistent) (hcomment : x.inComment = false) :
    x.inHeader = false := by
  refine Bool.eq_false_iff.mpr fun hheader => ?_
  simp [(h.problem hheader).1] at hcomment

-- The modes that registers without an error can stand for.
section Modes

variable (h : x.Consistent) (herror : x.error = false)

include herror

theorem mode_ne_failed : x.reader.mode ≠ .failed := by
  rw [reader, mode, if_neg (by simp [herror])]
  repeat' split
  all_goals simp

theorem mode_of_header (hheader : x.inHeader = true) :
    x.reader.mode = .problem x.headerLine.reverse := by
  simp [reader, mode, herror, hheader]

theorem mode_of_comment (hheader : x.inHeader = false) (hcomment : x.inComment = true) :
    x.reader.mode = .comment := by
  simp [reader, mode, herror, hheader, hcomment]

include h

theorem mode_of_digits (hcomment : x.inComment = false) (hlit : x.inLit = true) :
    x.reader.mode = .digits x.negate x.partialLit := by
  simp [reader, mode, herror, h.inHeader_eq_false hcomment, hcomment, hlit]

theorem mode_of_sign (hcomment : x.inComment = false) (hlit : x.inLit = false)
    (hnegate : x.negate = true) : x.reader.mode = .sign := by
  simp [reader, mode, herror, h.inHeader_eq_false hcomment, hcomment, hlit, hnegate]

theorem mode_of_blank (hcomment : x.inComment = false) (hlit : x.inLit = false)
    (hnegate : x.negate = false) : x.reader.mode = .blank x.startOfLine := by
  simp [reader, mode, herror, h.inHeader_eq_false hcomment, hcomment, hlit, hnegate]

theorem mode_of_startOfLine (hcomment : x.inComment = false) (hfresh : x.startOfLine = true) :
    x.reader.mode = .blank true := by
  obtain ⟨hlit, hnegate⟩ := (h.orderly herror).of_startOfLine hfresh
  rw [mode_of_blank h herror hcomment hlit hnegate, hfresh]

end Modes

section Counted

variable {r : Reader} (hcount : r.countLine b = x.reader) (h : x.Consistent)
  (herror : x.error = false)

include hcount h herror

theorem step_of_digit (hcomment : x.inComment = false) (hdigit : isDigit b = true) :
    r.step limit b = (x.reader.digit limit x.negate x.partialLit b).map (·, none) := by
  simp only [Reader.step, hcount]
  by_cases hlit : x.inLit = true
  · have hmode := mode_of_digits h herror hcomment hlit
    simp only [hmode, hdigit, if_true]
  · have hlit := Bool.eq_false_iff.mpr hlit
    have hzero := (h.orderly herror).partialLit_eq_zero hlit
    cases hnegate : x.negate with
    | true =>
      have hmode := mode_of_sign h herror hcomment hlit hnegate
      simp only [hmode, hdigit, if_true, hzero]
    | false =>
      have hmode := mode_of_blank h herror hcomment hlit hnegate
      simp only [hmode, hdigit, if_true, hzero]

theorem step_of_literal (hcomment : x.inComment = false)
    (hblank : (isSpace b || isLineEnd b) = true) (hlit : x.inLit = true) :
    r.step limit b =
      .ok ({ x.finishLiteral.1.reader with mode := .blank (isLineEnd b) },
        some (if x.partialLit = 0 then .clauseEnd
          else .literal ⟨Var.ofNumber x.partialLit, x.negate⟩)) := by
  have hmode := mode_of_digits h herror hcomment hlit
  obtain ⟨hdigit, -⟩ := not_digit_of_blank hblank
  obtain ⟨hfinish, -⟩ := x.finishLiteral_reader (.blank (isLineEnd b)) hlit
  simp only [Reader.step, hcount, hmode, hdigit, Bool.false_eq_true, if_false, hblank, if_true,
    hfinish]

-- A space keeps the place in the line, and the end of a line starts the next one.
theorem step_of_blank (hcomment : x.inComment = false)
    (hblank : (isSpace b || isLineEnd b) = true) (hlit : x.inLit = false)
    (hnegate : x.negate = false) :
    r.step limit b =
      .ok ({ x.reader with mode := .blank (x.startOfLine || isLineEnd b) }, none) := by
  have hmode := mode_of_blank h herror hcomment hlit hnegate
  obtain ⟨hdigit, hsign⟩ := not_digit_of_blank hblank
  simp only [Reader.step, hcount, hmode, hdigit, Bool.false_eq_true, if_false, hsign]
  by_cases hspace : isSpace b = true
  · rw [if_pos hspace, not_lineEnd_of_space hspace, Bool.or_false, ← hmode]
  · have hend : isLineEnd b = true := by simpa [hspace] using hblank
    rw [if_neg hspace, if_pos hend, hend, Bool.or_true]

-- What the registers refuse, the reader refuses in each of the three modes that it can be in.
theorem step_of_refused (hcomment : x.inComment = false) (hdigit : isDigit b = false)
    (hsign : b = 45 → x.negate = false → x.inLit = true)
    (hblank : (isSpace b || isLineEnd b) = true → x.negate = true ∧ x.inLit = false)
    (hfresh : x.startOfLine = true → b ≠ 99 ∧ b ≠ 112) :
    r.step limit b = .error (.unexpected x.reader.line b) := by
  by_cases hlit : x.inLit = true
  · have hmode := mode_of_digits h herror hcomment hlit
    have hnoBlank : ¬(isSpace b || isLineEnd b) = true := fun hb =>
      Bool.eq_false_iff.mp (hblank hb).2 hlit
    simp only [Reader.step, hcount, hmode, hdigit, Bool.false_eq_true, if_false, if_neg hnoBlank]
  have hlit := Bool.eq_false_iff.mpr hlit
  cases hnegate : x.negate with
  | true =>
    have hmode := mode_of_sign h herror hcomment hlit hnegate
    simp only [Reader.step, hcount, hmode, hdigit, Bool.false_eq_true, if_false]
  | false =>
    have hmode := mode_of_blank h herror hcomment hlit hnegate
    have hnoSign : b ≠ 45 := fun hb => Bool.eq_false_iff.mp hlit (hsign hb hnegate)
    have hnoBlank : ¬(isSpace b || isLineEnd b) = true := fun hb =>
      Bool.eq_false_iff.mp hnegate (hblank hb).1
    simp only [Bool.or_eq_true, not_or] at hnoBlank
    have hnoComment : ¬(b = 99 ∧ x.startOfLine = true) := fun hb => (hfresh hb.2).1 hb.1
    have hnoProblem : ¬(b = 112 ∧ x.startOfLine = true) := fun hb => (hfresh hb.2).2 hb.1
    simp [Reader.step, hcount, hmode, hdigit, hnoSign, hnoBlank.1, hnoBlank.2, hnoComment,
      hnoProblem]

theorem Moves.alike (hmoves : Moves limit x b y) : Alike x.reader y (r.step limit b) := by
  have horderly := h.orderly herror
  cases hmoves with
  | evaluate hend hcomment hheader =>
    have hmode := mode_of_header herror hheader
    obtain ⟨hlit, hnegate⟩ := horderly.of_comment hcomment
    simp only [Reader.step, hcount, hmode, hend, if_true, finishProblem_reader]
    refine .ok ?_ ?_
    · simp [reader, mode, Registers.evaluate, herror, hlit, hnegate]
    · exact filterMap_event?_singleton _
  | uncomment hend hcomment hheader =>
    have hmode := mode_of_comment herror hheader hcomment
    obtain ⟨hlit, hnegate⟩ := horderly.of_comment hcomment
    simp only [Reader.step, hcount, hmode, hend, if_true]
    refine .ok ?_ rfl
    simp [reader, mode, herror, hheader, hlit, hnegate]
  | extend hend hcomment hheader =>
    have hmode := mode_of_header herror hheader
    simp only [Reader.step, hcount, hmode, hend, Bool.false_eq_true, if_false]
    refine .ok ?_ rfl
    simp [reader, mode, herror, hheader]
  | skip hend hcomment hheader =>
    have hmode := mode_of_comment herror hheader hcomment
    simp only [Reader.step, hcount, hmode, hend, Bool.false_eq_true, if_false]
    refine .ok ?_ rfl
    simp [reader, mode, herror, hheader, hcomment]
  | digit hcomment hdigit hlimit =>
    have hheader := h.inHeader_eq_false hcomment
    rw [step_of_digit hcount h herror hcomment hdigit, Reader.digit, if_neg (by simp [hlimit])]
    refine .ok ?_ rfl
    simp [reader, mode, herror, hheader, hcomment]
  | overflow hcomment hdigit hlimit =>
    rw [step_of_digit hcount h herror hcomment hdigit, Reader.digit, if_pos hlimit]
    exact .error rfl rfl
  | sign hcomment hsign hnegate hlit =>
    have hheader := h.inHeader_eq_false hcomment
    have hmode := mode_of_blank h herror hcomment hlit hnegate
    subst hsign
    simp only [Reader.step, hcount, hmode]
    refine .ok ?_ rfl
    simp [reader, mode, herror, hheader, hcomment, hlit]
  | literal hcomment hblank hlit =>
    have hheader := h.inHeader_eq_false hcomment
    obtain ⟨-, hevents⟩ := x.finishLiteral_reader (.blank (isLineEnd b)) hlit
    rw [step_of_literal hcount h herror hcomment hblank hlit]
    refine .ok ?_ hevents
    obtain ⟨c, n, hlast⟩ := x.exists_finishLiteral
    simp [hlast, reader, mode, herror, hheader, hcomment]
  | blank hcomment hblank hlit hnegate =>
    have hheader := h.inHeader_eq_false hcomment
    rw [step_of_blank hcount h herror hcomment hblank hlit hnegate]
    refine .ok ?_ rfl
    simp [reader, mode, herror, hheader, hcomment]
  | comment hcomment hb hfresh =>
    have hheader := h.inHeader_eq_false hcomment
    have hmode := mode_of_startOfLine h herror hcomment hfresh
    subst hb
    simp only [Reader.step, hcount, hmode]
    refine .ok ?_ rfl
    simp [reader, mode, herror, hheader]
  | problem hcomment hb hfresh =>
    have hmode := mode_of_startOfLine h herror hcomment hfresh
    subst hb
    simp only [Reader.step, hcount, hmode]
    refine .ok ?_ rfl
    simp [reader, mode, herror]
  | refuse hcomment hdigit hsign hblank hfresh =>
    rw [step_of_refused hcount h herror hcomment hdigit hsign hblank hfresh]
    exact .error rfl rfl

omit hcount in
theorem Ends.alike (hends : Ends x y) : Alike x.reader y x.reader.finish := by
  have horderly := h.orderly herror
  cases hends with
  | evaluate hheader =>
    have hcomment := (h.problem hheader).1
    have hmode := mode_of_header herror hheader
    simp only [Reader.finish, hmode, finishProblem_reader]
    refine .ok ?_ ?_
    · simp [reader, mode, Registers.evaluate, herror, hcomment]
    · exact filterMap_event?_singleton _
  | refuse hheader hlit hnegate =>
    obtain ⟨-, hcomment⟩ := horderly.literal (.inr hnegate)
    have hmode := mode_of_sign h herror hcomment hlit hnegate
    simp only [Reader.finish, hmode]
    exact .error rfl rfl
  | literal hheader hlit =>
    obtain ⟨hfresh, hcomment⟩ := horderly.literal (.inl hlit)
    have hmode := mode_of_digits h herror hcomment hlit
    obtain ⟨hfinish, hevents⟩ := x.finishLiteral_reader (.blank false) hlit
    simp only [Reader.finish, hmode, hfinish]
    refine .ok ?_ hevents
    obtain ⟨c, n, hlast⟩ := x.exists_finishLiteral
    simp [hlast, reader, mode, herror, hheader, hcomment, hfresh]
  | nothing hheader hlit hnegate =>
    by_cases hcomment : x.inComment = true
    · have hmode := mode_of_comment herror hheader hcomment
      simp only [Reader.finish, hmode]
      refine .ok ?_ rfl
      simp [reader, mode, herror, hheader, hcomment]
    · have hcomment := Bool.eq_false_iff.mpr hcomment
      have hmode := mode_of_blank h herror hcomment hlit hnegate
      simp only [Reader.finish, hmode]
      refine .ok ?_ rfl
      simp [reader, mode, herror, hheader, hcomment, hlit, hnegate]

end Counted

end Step

end Registers

end SatFrontend.Dimacs

import SatFrontend.Proofs.CommandLine.Witness
import SatFrontend.Proofs.Dimacs.LineNumbers

namespace SatFrontend

open Text

section Messages

theorem Text.oneLine_int (n : Int) : OneLine (toString n) := by
  rw [Int.toString_eq_repr, Int.repr_eq_if]
  have hminus : OneLine "-" := oneLine_literal rfl (by decide)
  split
  · exact oneLine_repr _
  · exact hminus.append (oneLine_repr _)

theorem EntryError.oneLine_message (e : EntryError) : OneLine e.message := by
  cases e with
  | zeroLiteral | zeroAssumption => exact oneLine_literal rfl (by decide)
  | literalTooLarge number max =>
    have hfront : OneLine "Literal " := oneLine_literal rfl (by decide)
    have hmiddle : OneLine " exceeds the largest supported variable " :=
      oneLine_literal rfl (by decide)
    exact ((hfront.append (oneLine_int number)).append hmiddle).append (oneLine_repr max)
  | misplacedTerminator position length =>
    have hfront : OneLine "Clause contains a terminator at position " :=
      oneLine_literal rfl (by decide)
    have hmiddle : OneLine " of " := oneLine_literal rfl (by decide)
    exact ((hfront.append (oneLine_repr position)).append hmiddle).append (oneLine_repr length)

theorem IoError.oneLine_message (e : IoError) : OneLine e.message := by
  have hreason : OneLine e.reason := by
    cases e <;> exact oneLine_literal rfl (by decide)
  have hfront : OneLine " (os error " := oneLine_literal rfl (by decide)
  have hback : OneLine ")" := oneLine_literal rfl (by decide)
  unfold message
  split
  · exact ((hreason.append hfront).append (oneLine_repr _)).append hback
  · exact hreason

-- The byte that does not fit is shown as it is. This breaks the message if it is a line feed.
theorem Dimacs.SyntaxError.oneLine_message {e : Dimacs.SyntaxError}
    (h : ∀ line, e ≠ .unexpected line 10) : OneLine e.message := by
  have hline : OneLine "line " := oneLine_literal rfl (by decide)
  cases e with
  | unexpected line b =>
    have hmiddle : OneLine ": Unexpected character in DIMACS CNF input: '" :=
      oneLine_literal rfl (by decide)
    have hback : OneLine "'" := oneLine_literal rfl (by decide)
    have hb : b ≠ 10 := fun hb => h line (by rw [hb])
    have hchar : OneLine (String.singleton (Char.ofNat b.toNat)) := by
      rw [OneLine, String.toList_singleton, List.mem_singleton]
      exact lineFeed_ne_ofNat fun hnat => hb (UInt8.toNat_inj.mp hnat)
    exact (((hline.append (oneLine_repr line)).append hmiddle).append hchar).append hback
  | literalTooLarge line index digit =>
    have hmiddle : OneLine ": Literal index is too large: " := oneLine_literal rfl (by decide)
    have hback : OneLine "..." := oneLine_literal rfl (by decide)
    exact ((((hline.append (oneLine_repr line)).append hmiddle).append
      (oneLine_repr index)).append (oneLine_repr digit)).append hback
  | afterError => exact oneLine_literal rfl (by decide)

theorem Dimacs.ReadError.oneLine_message {e : Dimacs.ReadError}
    (h : ∀ line, e ≠ .malformed (.unexpected line 10)) : OneLine e.message := by
  cases e with
  | io e =>
    have hfront : OneLine "Error reading input: " := oneLine_literal rfl (by decide)
    exact hfront.append e.oneLine_message
  | malformed e => exact SyntaxError.oneLine_message fun line he => h line (by rw [he])
  | entry e => exact e.oneLine_message

theorem Decimal.oneLine_positional (digits : Nat) (k : Int) :
    OneLine (positional digits k) := by
  have hdigits : '\n' ∉ Nat.toDigits 10 digits := fun h =>
    absurd (isDigit_of_mem_toDigits digits h) (by decide)
  unfold positional
  dsimp only
  split
  · simp [OneLine, hdigits]
  split
  · simp only [OneLine, String.toList_ofList, List.mem_append, List.mem_cons, not_or]
    exact ⟨fun h => hdigits (List.mem_of_mem_take h), by decide,
      fun h => hdigits (List.mem_of_mem_drop h)⟩
  · simp [OneLine, hdigits]

theorem Decimal.Binary64.oneLine_text (x : Binary64) : OneLine x.text := by
  cases x with
  | nan => exact oneLine_literal rfl (by decide)
  | infinite negative => cases negative <;> exact oneLine_literal rfl (by decide)
  | finite negative m e =>
    have hsign : OneLine (if negative = true then "-" else "") := by
      cases negative <;> exact oneLine_literal rfl (by decide)
    refine hsign.append ?_
    split
    · exact oneLine_literal rfl (by decide)
    · exact oneLine_positional _ _

end Messages

namespace CommandLine

open Backend Session

-- What stands between the line feeds of a text. After the last one there is no empty line.
def cutLines (s : String) : List String :=
  let parts := splitWhere (· == '\n') s.toList
  (if parts.getLast? = some [] then parts.dropLast else parts).map String.ofList

theorem cutLines_unlines {ts : List String} (h : ∀ t ∈ ts, OneLine t) :
    cutLines (unlines ts) = ts := by
  simp [cutLines, splitWhere_unlines h, Function.comp_def]

-- A line that is a result of the task.
def IsResult (t : String) : Task → Prop
  | .witness =>
    t = "s SATISFIABLE" ∨ t = "s UNSATISFIABLE" ∨ t = "s UNKNOWN" ∨ ∃ m, t = modelLine ["v"] m
  | .count _ => (∃ n : Nat, t = s!"s mc {n}") ∨ t = "s UNKNOWN"
  | .enumerate => ∃ m, t = modelLine [] m

theorem IsResult.oneLine {t : String} {task : Task} (h : IsResult t task) : OneLine t := by
  have hunknown : OneLine "s UNKNOWN" := oneLine_literal rfl (by decide)
  cases task with
  | witness =>
    rcases h with rfl | rfl | rfl | ⟨m, rfl⟩
    · exact oneLine_literal rfl (by decide)
    · exact oneLine_literal rfl (by decide)
    · exact hunknown
    · exact oneLine_modelLine_v m
  | count delta =>
    have hfront : OneLine "s mc " := oneLine_literal rfl (by decide)
    rcases h with ⟨n, rfl⟩ | rfl
    · exact hfront.append (oneLine_repr n)
    · exact hunknown
  | enumerate =>
    obtain ⟨m, rfl⟩ := h
    exact oneLine_modelLine m

theorem IsResult.first {t : String} {task : Task} (h : IsResult t task) :
    ∃ c cs, t.toList = c :: cs ∧ (c = 's' ∨ c = 'v' ∨ Sign c) := by
  cases task with
  | witness =>
    rcases h with rfl | rfl | rfl | ⟨m, rfl⟩
    · exact ⟨'s', _, rfl, .inl rfl⟩
    · exact ⟨'s', _, rfl, .inl rfl⟩
    · exact ⟨'s', _, rfl, .inl rfl⟩
    · exact ⟨'v', _, toList_modelLine_v m, .inr (.inl rfl)⟩
  | count delta =>
    rcases h with ⟨n, rfl⟩ | rfl
    · exact ⟨'s', _, String.toList_append, .inl rfl⟩
    · exact ⟨'s', _, rfl, .inl rfl⟩
  | enumerate =>
    obtain ⟨m, rfl⟩ := h
    obtain ⟨⟨c, cs, hcs, hsign⟩, -⟩ := ends_modelLine m
    exact ⟨c, cs, hcs, .inr (.inr hsign)⟩

-- A part of a session that prints only what it should, and the message it may end with is a single
-- line.
structure Tells {α : Type} (P : String → Prop) (m : Session α) : Prop where
  printed : ∀ x ∈ m.printed, P x.text
  failure : ∀ e, m.outcome = .error e → OneLine e

section Tells

variable {α β : Type} {P : String → Prop}

theorem Tells.bind {m : Session α} {f : α → Session β} (h : Tells P m)
    (hf : ∀ a, Tells P (f a)) : Tells P (m >>= f) := by
  obtain ⟨printed, outcome⟩ := m
  cases outcome with
  | error e =>
    refine ⟨h.printed, fun e' he => ?_⟩
    obtain rfl : e = e' := Except.error.inj he
    exact h.failure e rfl
  | ok a =>
    refine ⟨fun x hx => ?_, (hf a).failure⟩
    exact (List.mem_append.mp hx).elim (h.printed x) ((hf a).printed x)

theorem tells_pure (a : α) : Tells P (pure a : Session α) := ⟨by simp [pure], nofun⟩

theorem tells_inform {ns : List Notice} (h : ∀ n ∈ ns, P (Message.notice n).text) :
    Tells P (inform ns) := ⟨by simpa [inform] using h, nofun⟩

theorem tells_print {ts : List String} (h : ∀ t ∈ ts, P t) : Tells P (Session.print ts) :=
  ⟨by simpa [Session.print, Message.text] using h, nofun⟩

theorem tells_fail {e : String} (h : OneLine e) : Tells P (fail e : Session α) := by
  refine ⟨by simp [fail], fun e' he => ?_⟩
  cases he
  exact h

theorem tells_orFail {ε : Type} {message : ε → String} {x : Except ε α}
    (h : ∀ e, x = .error e → OneLine (message e)) : Tells P (orFail message x) := by
  cases x with
  | ok a => exact tells_pure a
  | error e => exact tells_fail (h e rfl)

end Tells

section Task

variable {η : Type} [Engine η]

-- What may be printed after the formula was read.
def Printable (task : Task) (t : String) : Prop := IsComment t ∨ IsResult t task

theorem tells_notice {task : Task} {n : Notice} (h : OneLine n.text) :
    Tells (Printable task) (inform [n]) :=
  tells_inform (List.forall_mem_singleton.mpr (.inl (Message.isComment_notice h)))

theorem tells_result {task : Task} {ts : List String} (h : ∀ t ∈ ts, IsResult t task) :
    Tells (Printable task) (Session.print ts) :=
  tells_print fun t ht => .inr (h t ht)

theorem tells_line {task : Task} {t : String} (h : IsResult t task) :
    Tells (Printable task) (Session.print [t]) :=
  tells_result (List.forall_mem_singleton.mpr h)

theorem tells_assumeAll {P : String → Prop} (s : Solver η) (assumptions : List Int) :
    Tells P (assumeAll s assumptions) := by
  unfold assumeAll
  split
  · exact tells_pure _
  · exact tells_fail (EntryError.oneLine_message _)

theorem tells_solveWitness (s : Solver η) (assumptions : List Int) :
    Tells (Printable .witness) (solveWitness s assumptions) := by
  have hsat : IsResult Witness.satMarker .witness := .inl rfl
  have hunsat : IsResult Witness.unsatMarker .witness := .inr (.inl rfl)
  have hunknown : IsResult "s UNKNOWN" .witness := .inr (.inr (.inl rfl))
  have hmodel : ∀ m, IsResult (modelLine ["v"] m) .witness := fun m => .inr (.inr (.inr ⟨m, rfl⟩))
  refine (tells_assumeAll s assumptions).bind fun s => ?_
  split
  · refine (tells_result ?_).bind fun _ => tells_pure _
    exact List.forall_mem_cons.mpr ⟨hsat, List.forall_mem_singleton.mpr (hmodel _)⟩
  · exact (tells_line hunsat).bind fun _ => tells_pure _
  · exact (tells_line hunknown).bind fun _ => tells_pure _

-- How the search for all models ended is told after the models.
theorem tells_ending {P : String → Prop} {a b : Session Unit} (ha : Tells P a) (hb : Tells P b)
    (ending : Solver.Ending) :
    Tells P (match ending with
      | .complete => do
        a
        return 0
      | .stopped => do
        b
        return 0
      | .refused e => do
        (fail e.message : Session Unit)
        return 0 : Session Nat) := by
  cases ending with
  | complete => exact ha.bind fun _ => tells_pure _
  | stopped => exact hb.bind fun _ => tells_pure _
  | refused e => exact (tells_fail e.oneLine_message).bind fun _ => tells_pure _

-- A risk is shown in the message that refuses it.
theorem tells_risk {P : String → Prop} {text : String} (h : OneLine text) :
    Tells P (readRisk "--delta" text) := by
  have hfront : OneLine "Invalid risk '" := oneLine_literal rfl (by decide)
  have hmiddle : OneLine "' given to " := oneLine_literal rfl (by decide)
  have hback : OneLine "--delta" := oneLine_literal rfl (by decide)
  unfold readRisk
  split
  · exact tells_pure _
  · exact tells_fail (((hfront.append h).append hmiddle).append hback)

theorem oneLine_ofValue {x : Decimal.Binary64} {e : Failure} (he : Risk.ofValue x = .error e) :
    OneLine e.message := by
  have hfront : OneLine "Invalid argument: " := oneLine_literal rfl (by decide)
  have hback : OneLine "risk must be strictly between 0 and 1, got " :=
    oneLine_literal rfl (by decide)
  unfold Risk.ofValue at he
  split at he
  · cases he
  · obtain rfl := Except.error.inj he
    exact hfront.append (hback.append x.oneLine_text)

theorem tells_solveCount (s : Solver η) (assumptions : List Int) {delta : Option String}
    (hdelta : ∀ text ∈ delta, OneLine text) :
    Tells (Printable (.count delta)) (solveCount s assumptions delta) := by
  have hexact : OneLine Notice.countingExactly.text := oneLine_literal rfl (by decide)
  have hcount : ∀ n : Nat, IsResult s!"s mc {n}" (.count delta) := fun n => .inl ⟨n, rfl⟩
  have hunknown : IsResult "s UNKNOWN" (.count delta) := .inr rfl
  have hending := tells_ending (tells_line (hcount (s.enumerate assumptions).models.length))
    (tells_line hunknown) (s.enumerate assumptions).ending
  unfold solveCount
  cases delta with
  | none => exact hending
  | some text =>
    exact (tells_risk (hdelta text rfl)).bind fun x =>
      (tells_orFail fun e he => oneLine_ofValue he).bind fun _ =>
        (tells_notice hexact).bind fun _ => hending

theorem tells_solveEnumerate (s : Solver η) (assumptions : List Int) :
    Tells (Printable .enumerate) (solveEnumerate s assumptions) := by
  have hmodels : ∀ t ∈ (s.enumerate assumptions).models.map (modelLine []),
      IsResult t .enumerate := by
    intro t ht
    obtain ⟨m, -, rfl⟩ := List.mem_map.mp ht
    exact ⟨m, rfl⟩
  exact (tells_result hmodels).bind fun _ =>
    tells_ending (tells_notice (oneLine_foundAll _)) (tells_notice (oneLine_stoppedAfter _)) _

theorem tells_solveTask (s : Solver η) (assumptions : List Int) {task : Task}
    (hdelta : ∀ text, task = .count (some text) → OneLine text) :
    Tells (Printable task) (solveTask s assumptions task) := by
  cases task with
  | witness => exact tells_solveWitness s assumptions
  | count delta => exact tells_solveCount s assumptions fun text ht => hdelta text (by rw [ht])
  | enumerate => exact tells_solveEnumerate s assumptions

end Task

section Program

variable {η : Type} [Engine η] {engine : η} {w : World} {texts : List String}
  {assumptions : List Int} {task : Task} {reading : Dimacs.TextReading (Solver η)}

-- After a text that was not understood comes nothing else.
theorem solve_of_error {e : Dimacs.ReadError} (htexts : readAssumptions texts = pure assumptions)
    (hreading : Dimacs.readText (.ofBytes w.input) (Solver.ofEngine engine) = reading)
    (herror : reading.error = some e) :
    solve w engine ⟨none, texts, task⟩ =
      { printed := (.readingInput :: reading.notices).map .notice
        outcome := .error e.message } := by
  simp [solve, htexts, readFormula, Dimacs.read, hreading, herror, bind, pure, Session.inform,
    Session.fail]

theorem lines_of_tells {P : String → Prop} {m : Session Nat} (h : Tells P m)
    (hcomment : ∀ t, IsComment t → P t) (build : Build) : ∀ t ∈ m.report.lines build, P t := by
  have hreport : ∀ x ∈ m.report.printed, P x.text := by
    obtain ⟨printed, outcome⟩ := m
    cases outcome with
    | ok code => exact h.printed
    | error e =>
      intro x hx
      rcases List.mem_append.mp hx with hx | hx
      · exact h.printed x hx
      · rw [List.mem_singleton.mp hx]
        exact hcomment _ (Message.isComment_failure (h.failure e rfl))
  intro t ht
  rcases List.mem_append.mp ht with ht | ht
  · exact hcomment t (build.isComment_banner t ht)
  · obtain ⟨x, hx, rfl⟩ := List.mem_map.mp ht
    exact hreport x hx

theorem cutLines_output {r : Report} {build : Build} (h : ∀ t ∈ r.lines build, OneLine t) :
    cutLines (r.output build) = r.lines build :=
  cutLines_unlines h

-- What is noticed of a text is printed as comments, and the reason why it is not understood comes
-- last.
theorem exists_log_of_rejected {e : Dimacs.ReadError}
    (htexts : readAssumptions texts = pure assumptions)
    (hrejected : (Dimacs.readText (.ofBytes w.input) (Solver.ofEngine engine)).error = some e)
    (task : Task) (build : Build) :
    ∃ log : List String, (∀ t ∈ log, IsComment t) ∧
      (solve w engine ⟨none, texts, task⟩).report.lines build =
        log ++ [(Message.failure e.message).text] := by
  let notices := Notice.readingInput ::
    (Dimacs.readText (.ofBytes w.input) (Solver.ofEngine engine)).notices
  have hnotices : ∀ n ∈ notices, OneLine n.text := by
    intro n hn
    rcases List.mem_cons.mp hn with rfl | hn
    · exact oneLine_literal rfl (by decide)
    · exact Dimacs.notices_readText _ _ n hn
  refine ⟨build.banner ++ notices.map fun n => (Message.notice n).text, fun t ht => ?_, ?_⟩
  · rcases List.mem_append.mp ht with ht | ht
    · exact build.isComment_banner t ht
    · obtain ⟨n, hn, rfl⟩ := List.mem_map.mp ht
      exact Message.isComment_notice (hnotices n hn)
  · rw [solve_of_error htexts rfl hrejected]
    simp [Report.lines, Session.report, Message.text, notices, Function.comp_def]

theorem lines_of_rejected {e : Dimacs.ReadError}
    (htexts : readAssumptions texts = pure assumptions)
    (hrejected : (Dimacs.readText (.ofBytes w.input) (Solver.ofEngine engine)).error = some e)
    (hfeed : ∀ line, e ≠ .malformed (.unexpected line 10)) (task : Task) (build : Build) :
    ∀ t ∈ (solve w engine ⟨none, texts, task⟩).report.lines build, IsComment t := by
  obtain ⟨log, hlog, hlines⟩ := exists_log_of_rejected htexts hrejected task build
  rw [hlines]
  exact List.forall_mem_append.mpr
    ⟨hlog, List.forall_mem_singleton.mpr (Message.isComment_failure (e.oneLine_message hfeed))⟩

theorem lines_of_accepted (htexts : readAssumptions texts = pure assumptions)
    (haccepted : (Dimacs.readText (.ofBytes w.input) (Solver.ofEngine engine)).error = none)
    (hdelta : ∀ text, task = .count (some text) → OneLine text) (build : Build) :
    ∀ t ∈ (solve w engine ⟨none, texts, task⟩).report.lines build, Printable task t := by
  have htask := tells_solveTask
    (Dimacs.readText (.ofBytes w.input) (Solver.ofEngine engine)).receiver assumptions hdelta
  rw [solve_of_ok htexts rfl haccepted]
  refine lines_of_tells (P := Printable task) ?_ (fun t ht => .inl ht) build
  refine ⟨fun x hx => ?_, htask.failure⟩
  rcases List.mem_append.mp hx with hx | hx
  · obtain ⟨n, hn, rfl⟩ := List.mem_map.mp hx
    exact .inl (Message.isComment_notice (oneLine_loadingNotices _ _ n hn))
  · exact htask.printed x hx

theorem cutLines_lineFeed {front : List String} (hfront : ∀ t ∈ front, OneLine t) {s t : String}
    (hs : OneLine s) (ht : OneLine t) :
    cutLines (unlines (front ++ [s ++ "\n" ++ t])) = front ++ [s, t] := by
  have hsplit : unlines (front ++ [s ++ "\n" ++ t]) = unlines (front ++ [s, t]) := by
    rw [← String.toList_inj]
    simp [toList_unlines]
  rw [hsplit]
  refine cutLines_unlines fun r hr => ?_
  rcases List.mem_append.mp hr with hr | hr
  · exact hfront r hr
  · simp only [List.mem_cons, List.not_mem_nil, or_false] at hr
    rcases hr with rfl | rfl
    · exact hs
    · exact ht

-- A line feed that does not fit is shown as it is, between two quotes. The second of them stands in
-- a line of its own.
theorem cutLines_of_lineFeed {line : Nat} (htexts : readAssumptions texts = pure assumptions)
    (hrejected : (Dimacs.readText (.ofBytes w.input) (Solver.ofEngine engine)).error =
      some (.malformed (.unexpected line 10))) (task : Task) (build : Build) :
    ∃ front, cutLines ((solve w engine ⟨none, texts, task⟩).report.output build) = front ++ ["'"] ∧
      ∀ t ∈ front, IsComment t := by
  let front := "line " ++ line.repr ++ ": Unexpected character in DIMACS CNF input: '"
  have hline : OneLine "line " := oneLine_literal rfl (by decide)
  have hmiddle : OneLine ": Unexpected character in DIMACS CNF input: '" :=
    oneLine_literal rfl (by decide)
  have hquote : OneLine "'" := oneLine_literal rfl (by decide)
  have hfront : IsComment (Message.failure front).text :=
    Message.isComment_failure ((hline.append (oneLine_repr line)).append hmiddle)
  obtain ⟨log, hlog, hlines⟩ := exists_log_of_rejected htexts hrejected task build
  have hmessage : Dimacs.ReadError.message (.malformed (.unexpected line 10)) =
      front ++ "\n" ++ "'" := rfl
  have houtput : (solve w engine ⟨none, texts, task⟩).report.output build =
      unlines (log ++ [(Message.failure front).text ++ "\n" ++ "'"]) := by
    rw [Report.output, hlines, hmessage]
    simp only [Message.text, String.append_assoc]
    rfl
  rw [houtput, cutLines_lineFeed (fun t ht => (hlog t ht).oneLine) hfront.oneLine hquote]
  refine ⟨log ++ [_], (List.append_assoc log [_] ["'"]).symm, ?_⟩
  exact List.forall_mem_append.mpr ⟨hlog, List.forall_mem_singleton.mpr hfront⟩

end Program

-- Each line that is printed is a comment or a result of the task, and all of them are comments if
-- the text is not understood, with one exception: if a sign is followed by a line feed, the last
-- line is a quote alone.
theorem output_comments_or_results {η : Type} [Engine η] {engine : η} {args : List String}
    {w : World} {texts : List String} {task : Task} {assumptions : List Int}
    (hargs : Invocation.ofArguments args = .ok (.solve ⟨none, texts, task⟩))
    (htexts : readAssumptions texts = pure assumptions) (build : Build) :
    let printed := cutLines ((programOn engine args w).output build)
    let rejected := (Dimacs.readText (.ofBytes w.input) (Solver.ofEngine engine)).error
    ((∀ line, rejected ≠ some (.malformed (.unexpected line 10))) →
      (∀ text, task = .count (some text) → OneLine text) →
      ∀ t ∈ printed, IsComment t ∨ IsResult t task) ∧
    (∀ e, rejected = some e → (∀ line, e ≠ .malformed (.unexpected line 10)) →
      ∀ t ∈ printed, IsComment t) ∧
    ∀ line, rejected = some (.malformed (.unexpected line 10)) →
      (∃ before after, w.input = before ++ 45 :: 10 :: after) ∧
      ∃ front, printed = front ++ ["'"] ∧ ∀ t ∈ front, IsComment t := by
  intro printed rejected
  have hprogram : programOn engine args w = (solve w engine ⟨none, texts, task⟩).report := by
    rw [programOn, hargs]
    rfl
  have hcut : ∀ {P : String → Prop}, (∀ t, P t → OneLine t) →
      (∀ t ∈ (solve w engine ⟨none, texts, task⟩).report.lines build, P t) → ∀ t ∈ printed, P t := by
    intro P hone hlines
    have hprinted : printed = (solve w engine ⟨none, texts, task⟩).report.lines build := by
      rw [← cutLines_output fun t ht => hone t (hlines t ht), ← hprogram]
    rwa [hprinted]
  have hprintable : ∀ t, Printable task t → OneLine t := by
    rintro t (hcomment | hresult)
    · exact hcomment.oneLine
    · exact hresult.oneLine
  refine ⟨fun hfeed hdelta => ?_, fun e he hfeed => ?_, fun line he => ⟨?_, ?_⟩⟩
  · cases hrejected : rejected with
    | none => exact hcut hprintable (lines_of_accepted htexts hrejected hdelta build)
    | some e =>
      have hlines := lines_of_rejected htexts hrejected
        (fun line he => hfeed line (by rw [hrejected, he])) task build
      exact fun t ht => .inl (hcut (fun t ht => ht.oneLine) hlines t ht)
  · exact hcut (fun t ht => ht.oneLine) (lines_of_rejected htexts he hfeed task build)
  · exact Dimacs.readText_lineFeed_after_sign he
  · have hfound := cutLines_of_lineFeed htexts he task build
    rwa [← hprogram] at hfound

-- A problem line that announces nothing, a clause, and a sign at the end of the text.
theorem output_comments_or_results_sampleInput :
    let w : World :=
      { host := ⟨.standard, fun _ _ => .error .notFound⟩
        input := [112, 32, 120, 10, 49, 32, 48, 10, 45] }
    Invocation.ofArguments [] = .ok (.solve ⟨none, [], .witness⟩) ∧ readAssumptions [] = pure [] ∧
      ∀ t ∈ cutLines ((programOn ({} : SearchEngine) [] w).output sampleBuild), IsComment t := by
  intro w
  have hargs : Invocation.ofArguments [] = .ok (.solve ⟨none, [], .witness⟩) := rfl
  have htexts : readAssumptions [] = pure [] := rfl
  have hrejected : (Dimacs.readText (.ofBytes w.input) (Solver.ofEngine ({} : SearchEngine))).error =
      some (.malformed (.unexpected 3 45)) := by decide +kernel
  exact ⟨hargs, htexts,
    (output_comments_or_results hargs htexts sampleBuild).2.1 _ hrejected nofun⟩

-- A sign before a line feed is all it takes. The line that is printed after it is neither a comment
-- nor a result.
theorem lineFeed_printed :
    let w : World := { host := ⟨.standard, fun _ _ => .error .notFound⟩, input := [45, 10] }
    "'" ∈ cutLines ((programOn ({} : SearchEngine) [] w).output sampleBuild) ∧ ¬IsComment "'" ∧
      ∀ task, ¬IsResult "'" task := by
  intro w
  have hrejected : (Dimacs.readText (.ofBytes w.input) (Solver.ofEngine ({} : SearchEngine))).error =
      some (.malformed (.unexpected 2 10)) := by decide +kernel
  have htexts : readAssumptions [] = pure [] := rfl
  refine ⟨?_, fun hcomment => absurd hcomment.lead (by decide), fun task hresult => ?_⟩
  · obtain ⟨front, hlines, -⟩ := cutLines_of_lineFeed htexts hrejected .witness sampleBuild
    have hprogram : programOn ({} : SearchEngine) [] w =
        (solve w ({} : SearchEngine) ⟨none, [], .witness⟩).report := rfl
    rw [hprogram, hlines]
    exact List.mem_append_right front (List.mem_singleton_self _)
  · have hquote : "'".toList = [Char.ofNat 39] := rfl
    obtain ⟨c, cs, hcs, hfirst⟩ := hresult.first
    obtain ⟨rfl, -⟩ := List.cons.inj (hquote ▸ hcs)
    exact absurd hfirst (by simp [Sign])

end CommandLine

end SatFrontend

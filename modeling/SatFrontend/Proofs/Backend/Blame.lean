import SatFrontend.Proofs.Backend.Deliveries
import SatFrontend.Proofs.Backend.Verdict

namespace SatFrontend

-- A failure that names the program that is to blame for it.
inductive Failure.Blames (program : String) : Failure → Prop
  | exit (code : Option Nat) (output : String) : Blames program (.exit program code output)
  | output (complaint : Complaint) : Blames program (.output program complaint)

namespace Backend

open Text

section Elements

variable {α : Type} {Passed Hit : α → Prop}

-- Some element is hit, and all elements before it are passed.
def After (Passed Hit : α → Prop) (as : List α) : Prop :=
  ∃ before a after, as = before ++ a :: after ∧ (∀ b ∈ before, Passed b) ∧ Hit a

theorem not_after_nil : ¬After Passed Hit [] := by
  rintro ⟨before, a, after, hsplit, -⟩
  cases before <;> cases hsplit

theorem after_cons_iff {a : α} {as : List α} :
    After Passed Hit (a :: as) ↔ Hit a ∨ Passed a ∧ After Passed Hit as := by
  constructor
  · rintro ⟨_ | ⟨b, before⟩, c, after, hsplit, hbefore, hhit⟩
    · obtain ⟨rfl, -⟩ := List.cons.inj hsplit
      exact .inl hhit
    · rw [List.cons_append, List.cons.injEq] at hsplit
      obtain ⟨rfl, hsplit⟩ := hsplit
      obtain ⟨hpassed, hbefore⟩ := List.forall_mem_cons.mp hbefore
      exact .inr ⟨hpassed, before, c, after, hsplit, hbefore, hhit⟩
  · rintro (hhit | ⟨hpassed, before, c, after, rfl, hbefore, hhit⟩)
    · exact ⟨[], a, as, rfl, by simp, hhit⟩
    · exact ⟨a :: before, c, after, rfl, List.forall_mem_cons.mpr ⟨hpassed, hbefore⟩, hhit⟩

end Elements

-- What is told of a number that is too large for a literal. It does not say who gave the number.
def overflow (k : Int) : Failure := .entry (.literalTooLarge k Var.maxCount)

theorem not_blames_overflow (program : String) (k : Int) : ¬(overflow k).Blames program :=
  nofun

-- A word that is such a number.
def Beyond (k : Int) (w : List Char) : Prop := integer? w = some k ∧ Var.maxCount < k.natAbs

-- A word that is the number of a literal.
def IsLiteral (w : List Char) : Prop := ∃ n ∈ integer? w, n ≠ 0 ∧ n.natAbs ≤ Var.maxCount

-- What a word can be taken for.
inductive Reading (w : List Char) : Prop
  | noInteger (h : integer? w = none)
  | zero (h : integer? w = some 0)
  | literal {n : Int} {l : Lit} (h : integer? w = some n) (hne : n ≠ 0)
      (hle : n.natAbs ≤ Var.maxCount) (hl : Lit.ofInt n = .ok l)
  | beyond {n : Int} (h : integer? w = some n) (hne : n ≠ 0) (hlt : Var.maxCount < n.natAbs)
      (hl : Lit.ofInt n = .error (.literalTooLarge n Var.maxCount))

theorem reading (w : List Char) : Reading w := by
  cases h : integer? w with
  | none => exact .noInteger h
  | some n =>
    by_cases hzero : n = 0
    · exact .zero (hzero ▸ h)
    by_cases hle : n.natAbs ≤ Var.maxCount
    · obtain ⟨l, hl⟩ := Lit.exists_ofInt hzero hle
      exact .literal h hzero hle hl
    · have hlt : Var.maxCount < n.natAbs := Nat.lt_of_not_le hle
      exact .beyond h hzero hlt (by rw [Lit.ofInt, if_neg hzero, if_pos hlt])

section Words

variable {program : String} {k n : Int} {w line : List Char} {ws : List (List Char)}

theorem beyond_iff (h : integer? w = some n) : Beyond k w ↔ n = k ∧ Var.maxCount < n.natAbs := by
  rw [Beyond, h, Option.some.injEq]
  exact and_congr_right fun hk => by rw [hk]

theorem isEntry_iff (h : integer? w = some n) :
    Witness.IsEntry w ↔ n.natAbs ≤ Var.maxCount := by
  simp [Witness.IsEntry, h]

theorem isLiteral_iff (h : integer? w = some n) :
    IsLiteral w ↔ n ≠ 0 ∧ n.natAbs ≤ Var.maxCount := by
  simp [IsLiteral, h]

theorem map_eq_error_iff {α β : Type} {f : α → β} {x : Except Failure α} {e : Failure} :
    x.map f = .error e ↔ x = .error e := by
  cases x <;> simp [Except.map]

theorem overflow_iff :
    (.error (.entry (.literalTooLarge n Var.maxCount)) : Except Failure (List Lit)) =
      .error (overflow k) ↔ n = k := by
  simp [overflow]

-- In value lines the first number that no literal has is told without the program, unless a word
-- before it is no integer.
theorem Witness.literals_eq_overflow_iff :
    Witness.literals program ws = .error (overflow k) ↔
      After Witness.IsEntry (Beyond k) ws := by
  induction ws with
  | nil => exact iff_of_false nofun not_after_nil
  | cons w ws ih =>
    rw [after_cons_iff, Witness.literals]
    cases reading w with
    | noInteger h => simp [h, overflow, Beyond, Witness.IsEntry]
    | zero h => simp [h, beyond_iff h, isEntry_iff h, ih]
    | literal h hne hle hl =>
      simp only [h, if_neg hne, hl, map_eq_error_iff, ih, beyond_iff h, isEntry_iff h, hle,
        Nat.not_lt.mpr hle, and_false, false_or, true_and]
    | beyond h hne hlt hl =>
      simp only [h, if_neg hne, hl, overflow_iff, beyond_iff h, isEntry_iff h, hlt,
        Nat.not_le.mpr hlt, and_true, false_and, or_false]

-- In a model line a 0 is an end, or a failure that is told with the program.
theorem ModelStream.literals_eq_overflow_iff :
    ModelStream.literals program line ws = .error (overflow k) ↔
      After IsLiteral (Beyond k) ws := by
  induction ws with
  | nil => exact iff_of_false nofun not_after_nil
  | cons w ws ih =>
    rw [after_cons_iff, ModelStream.literals]
    cases reading w with
    | noInteger h => simp [h, overflow, Beyond, IsLiteral]
    | zero h =>
      refine iff_of_false ?_ (by simp [beyond_iff h, isLiteral_iff h])
      simp only [h, if_true]
      split <;> simp [overflow]
    | literal h hne hle hl =>
      have hw : IsLiteral w := (isLiteral_iff h).mpr ⟨hne, hle⟩
      simp only [h, if_neg hne, hl, map_eq_error_iff, ih, beyond_iff h, hw,
        Nat.not_lt.mpr hle, and_false, false_or, true_and]
    | beyond h hne hlt hl =>
      simp only [h, if_neg hne, hl, overflow_iff, beyond_iff h, isLiteral_iff h, hlt,
        Nat.not_le.mpr hlt, and_true, and_false, false_and, or_false]

-- Nothing else goes wrong without the program being blamed.
theorem Witness.blames_or_overflow_of_literals {e : Failure}
    (he : Witness.literals program ws = .error e) : e.Blames program ∨ ∃ k, e = overflow k := by
  induction ws with
  | nil => cases he
  | cons w ws ih =>
    rw [Witness.literals] at he
    cases reading w with
    | noInteger h =>
      simp only [h, Except.error.injEq] at he
      exact .inl (he ▸ .output _)
    | zero h =>
      simp only [h, if_true] at he
      exact ih he
    | literal h hne hle hl =>
      simp only [h, if_neg hne, hl] at he
      exact ih (map_eq_error_iff.mp he)
    | @beyond n h hne hlt hl =>
      simp only [h, if_neg hne, hl, Except.error.injEq] at he
      exact .inr ⟨n, he.symm⟩

theorem ModelStream.blames_or_overflow_of_literals {e : Failure}
    (he : ModelStream.literals program line ws = .error e) :
    e.Blames program ∨ ∃ k, e = overflow k := by
  induction ws with
  | nil => cases he
  | cons w ws ih =>
    rw [ModelStream.literals] at he
    cases reading w with
    | noInteger h =>
      simp only [h, Except.error.injEq] at he
      exact .inl (he ▸ .output _)
    | zero h =>
      simp only [h, if_true] at he
      split at he
      · cases he
      · exact .inl (Except.error.inj he ▸ .output _)
    | literal h hne hle hl =>
      simp only [h, if_neg hne, hl] at he
      exact ih (map_eq_error_iff.mp he)
    | @beyond n h hne hlt hl =>
      simp only [h, if_neg hne, hl, Except.error.injEq] at he
      exact .inr ⟨n, he.symm⟩

end Words

section Extraction

variable {program : String} {n : Nat} {out : Finished}

theorem Witness.blames_of_checkModel {m : List Lit} {e : Failure}
    (he : Witness.checkModel program n m = .error e) : e.Blames program := by
  rw [Witness.checkModel] at he
  split at he
  · exact Except.error.inj he ▸ .output _
  · split at he
    · exact Except.error.inj he ▸ .output _
    · cases he

-- Once its words are read, all that can be wrong with an output is the program's fault.
theorem Witness.extract_cases (program : String) (n : Nat) (out : Finished) :
    (∃ e, extract program n out = .error e ∧ e.Blames program ∧
      ¬(out.exit = .code 10 ∨ out.exit = .code 20)) ∨
    (out.exit = .code 10 ∨ out.exit = .code 20) ∧
      ((∃ e, literals program (valuesOf out) = .error e ∧ extract program n out = .error e) ∨
        ∃ m, literals program (valuesOf out) = .ok m ∧
          ∀ e, extract program n out = .error e → e.Blames program) := by
  by_cases hknown : out.exit = .code 10 ∨ out.exit = .code 20
  · obtain ⟨code, hexit, hcode⟩ : ∃ code, out.exit = .code code ∧ (code = 10 ∨ code = 20) := by
      rcases hknown with h | h
      · exact ⟨10, h, .inl rfl⟩
      · exact ⟨20, h, .inr rfl⟩
    refine .inr ⟨hknown, ?_⟩
    rw [extract_of_code program n hexit hcode]
    cases hwords : literals program (valuesOf out) with
    | error e => exact .inl ⟨e, rfl, rfl⟩
    | ok m =>
      refine .inr ⟨m, rfl, fun e he => ?_⟩
      dsimp only [Except.bind] at he
      split at he
      · exact Except.error.inj he ▸ .output _
      · split at he
        · exact blames_of_checkModel (map_eq_error_iff.mp he)
        · exact Except.error.inj he ▸ .output _
      · split at he
        · cases he
        · exact Except.error.inj he ▸ .output _
  · exact .inl ⟨_, extract_of_unexpected program n (not_or.mp hknown), .exit _ _, hknown⟩

theorem Witness.blames_or_overflow_of_extract {e : Failure}
    (he : extract program n out = .error e) : e.Blames program ∨ ∃ k, e = overflow k := by
  obtain ⟨e', he', hblames, -⟩ | ⟨-, ⟨e', hwords, he'⟩ | ⟨m, -, hblames⟩⟩ :=
    extract_cases program n out
  · exact .inl (Except.error.inj (he'.symm.trans he) ▸ hblames)
  · exact Except.error.inj (he'.symm.trans he) ▸ blames_or_overflow_of_literals hwords
  · exact .inl (hblames e he)

theorem Witness.extract_eq_overflow_iff {k : Int} :
    extract program n out = .error (overflow k) ↔
      (out.exit = .code 10 ∨ out.exit = .code 20) ∧ After IsEntry (Beyond k) (valuesOf out) := by
  have hoverflow : literals program (valuesOf out) = .error (overflow k) ↔
      After IsEntry (Beyond k) (valuesOf out) := literals_eq_overflow_iff
  rw [← hoverflow]
  obtain ⟨e, he, hblames, hexit⟩ | ⟨hexit, ⟨e, hwords, he⟩ | ⟨m, hwords, hblames⟩⟩ :=
    extract_cases program n out
  · refine iff_of_false (fun h => ?_) fun h => hexit h.1
    exact not_blames_overflow program k (Except.error.inj (he.symm.trans h) ▸ hblames)
  · rw [he, hwords]
    simp [hexit]
  · refine iff_of_false (fun h => not_blames_overflow program k (hblames _ h)) fun h => ?_
    rw [hwords] at h
    cases h.2

end Extraction

-- What a line of output says, without the blanks around it.
def Says (P : List Char → Prop) (line : List UInt8) : Prop :=
  ∃ cs, decode? line = some cs ∧ P (trim cs)

-- A line that is taken for a model, where the first word that is no literal is too large a number.
def Overflowing (k : Int) (line : List Char) : Prop :=
  ModelStream.isSkipped line = false ∧ After IsLiteral (Beyond k) (words line)

-- A line that is left out, or gives a model.
def Delivered (program : String) (line : List Char) : Prop :=
  ModelStream.isSkipped line = true ∨ ∃ m, ModelStream.model program line = .ok m

theorem says_iff {P : List Char → Prop} {line : List UInt8} {cs : List Char}
    (h : decode? line = some cs) : Says P line ↔ P (trim cs) := by
  simp [Says, h]

theorem not_says_of_no_text {P : List Char → Prop} {line : List UInt8} (h : decode? line = none) :
    ¬Says P line := by
  simp [Says, h]

section Deliveries

variable {program : String} {exit : Exit} {k : Int} {lines : List (List UInt8)}

theorem report_ne_overflow : report program exit ≠ .error (overflow k) := by
  unfold report
  split <;> nofun

-- A failure of an enumeration: the program is blamed, or reading failed, or a number was too large.
inductive Told (program : String) : Failure → Prop
  | blames {e : Failure} (h : e.Blames program) : Told program e
  | io (e : IoError) : Told program (.io e)
  | overflow (k : Int) : Told program (overflow k)

theorem told_of_report {e : Failure} (he : report program exit = .error e) : Told program e := by
  unfold report at he
  split at he
  · cases he
  · exact Except.error.inj he ▸ .blames (.exit _ _)

theorem told_of_model {line : List Char} {e : Failure}
    (he : ModelStream.model program line = .error e) : Told program e := by
  rcases ModelStream.blames_or_overflow_of_literals he with hblames | ⟨k, rfl⟩
  · exact .blames hblames
  · exact .overflow k

theorem model_eq_overflow_iff (program : String) (line : List Char) :
    ModelStream.model program line = .error (overflow k) ↔
      After IsLiteral (Beyond k) (words line) :=
  ModelStream.literals_eq_overflow_iff

-- Looking for the next model passes over the lines that are left out.
theorem Queue.next_eq_overflow_iff :
    (next ⟨.running, deliveries program exit lines⟩).1 = .error (overflow k) ↔
      After (Says (ModelStream.isSkipped · = true)) (Says (Overflowing k)) lines := by
  induction lines with
  | nil => exact iff_of_false report_ne_overflow not_after_nil
  | cons line lines ih =>
    rw [after_cons_iff]
    cases hdecode : decode? line with
    | none =>
      rw [deliveries_of_no_text hdecode]
      refine iff_of_false (fun h => ?_) (by simp [not_says_of_no_text hdecode])
      cases h
    | some cs =>
      rw [says_iff hdecode, says_iff hdecode, Overflowing]
      by_cases hskipped : ModelStream.isSkipped (trim cs) = true
      · rw [deliveries_of_skipped hdecode hskipped, ih]
        simp [hskipped]
      · have hnext : (next ⟨.running, deliveries program exit (line :: lines)⟩).1 =
            (ModelStream.model program (trim cs)).map some := by
          rw [deliveries_of_model hdecode hskipped]
          rfl
        rw [hnext, map_eq_error_iff, model_eq_overflow_iff]
        simp [hskipped]

-- Collecting all models passes over the models as well.
theorem Queue.takeAll_eq_overflow_iff :
    (takeAll .running (deliveries program exit lines)).1 = .error (overflow k) ↔
      After (Says (Delivered program)) (Says (Overflowing k)) lines := by
  induction lines with
  | nil =>
    refine iff_of_false (fun h => ?_) not_after_nil
    rw [deliveries, takeAll_report, map_eq_error_iff] at h
    exact report_ne_overflow h
  | cons line lines ih =>
    rw [after_cons_iff]
    cases hdecode : decode? line with
    | none =>
      rw [deliveries_of_no_text hdecode]
      refine iff_of_false (fun h => ?_) (by simp [not_says_of_no_text hdecode])
      cases h
    | some cs =>
      rw [says_iff hdecode, says_iff hdecode, Overflowing, Delivered]
      by_cases hskipped : ModelStream.isSkipped (trim cs) = true
      · rw [deliveries_of_skipped hdecode hskipped, ih]
        simp [hskipped]
      · have hmodel := model_eq_overflow_iff (k := k) program (trim cs)
        rw [deliveries_of_model hdecode hskipped, ← hmodel]
        rw [takeAll_line]
        cases ModelStream.model program (trim cs) with
        | ok m =>
          dsimp only
          rw [map_eq_error_iff, ih]
          simp
        | error e => simp [hskipped]

theorem Queue.told_of_next {e : Failure}
    (he : (next ⟨.running, deliveries program exit lines⟩).1 = .error e) : Told program e := by
  revert he
  refine deliveries_induction (P := fun ds => (next ⟨.running, ds⟩).1 = .error e → Told program e)
    told_of_report (fun he => Except.error.inj he ▸ .io _) (fun line lines _ he => ?_) lines
  exact told_of_model (map_eq_error_iff.mp he)

theorem Queue.told_of_takeAll {e : Failure}
    (he : (takeAll .running (deliveries program exit lines)).1 = .error e) : Told program e := by
  revert he
  refine deliveries_induction (P := fun ds => (takeAll .running ds).1 = .error e → Told program e)
    (fun he => ?_) (fun he => Except.error.inj he ▸ .io _) (fun line lines ih he => ?_) lines
  · rw [takeAll_report] at he
    exact told_of_report (map_eq_error_iff.mp he)
  · rw [takeAll_line] at he
    cases hmodel : ModelStream.model program line with
    | ok m =>
      simp only [hmodel] at he
      exact ih (map_eq_error_iff.mp he)
    | error e' =>
      obtain rfl : e' = e := by simpa [hmodel] using he
      exact told_of_model hmodel

end Deliveries

namespace ModelStream

variable {s : ModelStream}

-- The deliveries that a stream still has to hand out.
def queue (s : ModelStream) : Queue :=
  ⟨s.state,
    if s.state = .running then deliveries s.program s.behavior.exit (outputLines s.remaining)
    else []⟩

theorem delivers_queue (s : ModelStream) : s.Delivers s.queue := ⟨rfl, rfl⟩

theorem queue_of_running (h : s.state = .running) :
    s.queue = ⟨.running, deliveries s.program s.behavior.exit (outputLines s.remaining)⟩ := by
  rw [queue, h, if_pos rfl]

theorem next_eq (s : ModelStream) : s.next.1 = s.queue.next.1 := (delivers_queue s).next.1

theorem list_eq_takeAll (s : ModelStream) :
    s.list.1 = (Queue.takeAll s.queue.state s.queue.waiting).1 :=
  (simulation_queue.list (delivers_queue s)).1

-- A stream that came to its end has no failures to tell.
theorem quiet_of_ended (h : s.state ≠ .running) : s.next.1 = .ok none ∧ s.list.1 = .ok [] := by
  rw [next_eq, list_eq_takeAll, queue, if_neg h]
  exact ⟨rfl, rfl⟩

theorem next_eq_overflow_iff {k : Int} :
    s.next.1 = .error (overflow k) ↔ s.state = .running ∧
      After (Says (isSkipped · = true)) (Says (Overflowing k)) (outputLines s.remaining) := by
  by_cases h : s.state = .running
  · rw [next_eq, queue_of_running h, Queue.next_eq_overflow_iff, and_iff_right h]
  · exact iff_of_false (by rw [(quiet_of_ended h).1]; nofun) fun hrunning => h hrunning.1

theorem list_eq_overflow_iff {k : Int} :
    s.list.1 = .error (overflow k) ↔ s.state = .running ∧
      After (Says (Delivered s.program)) (Says (Overflowing k)) (outputLines s.remaining) := by
  by_cases h : s.state = .running
  · rw [list_eq_takeAll, queue_of_running h, Queue.takeAll_eq_overflow_iff, and_iff_right h]
  · exact iff_of_false (by rw [(quiet_of_ended h).2]; nofun) fun hrunning => h hrunning.1

theorem told_of_next {e : Failure} (he : s.next.1 = .error e) : Told s.program e := by
  by_cases h : s.state = .running
  · rw [next_eq, queue_of_running h] at he
    exact Queue.told_of_next he
  · rw [(quiet_of_ended h).1] at he
    cases he

theorem told_of_list {e : Failure} (he : s.list.1 = .error e) : Told s.program e := by
  by_cases h : s.state = .running
  · rw [list_eq_takeAll, queue_of_running h] at he
    exact Queue.told_of_takeAll he
  · rw [(quiet_of_ended h).2] at he
    cases he

end ModelStream

-- A failure about the output of a program names the program, with one exception: an integer that is
-- too large for a literal is told as if it had been given to the front end. This happens exactly
-- for the first word that is no entry, in the value lines of a program that ended as it should, or
-- in the next line that is taken for a model. To list the models, lines that give one are passed
-- over.
theorem blamed_unless_overflow (program : String) (n : Nat) (out : Finished) (s : ModelStream) :
    ((∀ e, Witness.extract program n out = .error e →
        e.Blames program ∨ ∃ k, e = .entry (.literalTooLarge k Var.maxCount)) ∧
      ∀ k, Witness.extract program n out = .error (.entry (.literalTooLarge k Var.maxCount)) ↔
        (out.exit = .code 10 ∨ out.exit = .code 20) ∧
          After Witness.IsEntry (Beyond k) (Witness.valuesOf out)) ∧
    (∀ e, s.next.1 = .error e ∨ s.list.1 = .error e → e.Blames s.program ∨ (∃ io, e = .io io) ∨
      ∃ k, e = .entry (.literalTooLarge k Var.maxCount)) ∧
    (∀ k, s.next.1 = .error (.entry (.literalTooLarge k Var.maxCount)) ↔ s.state = .running ∧
      After (Says (ModelStream.isSkipped · = true)) (Says (Overflowing k))
        (outputLines s.remaining)) ∧
    ∀ k, s.list.1 = .error (.entry (.literalTooLarge k Var.maxCount)) ↔ s.state = .running ∧
      After (Says (Delivered s.program)) (Says (Overflowing k)) (outputLines s.remaining) := by
  refine ⟨⟨fun e he => Witness.blames_or_overflow_of_extract he,
    fun k => Witness.extract_eq_overflow_iff⟩, fun e he => ?_,
    fun k => ModelStream.next_eq_overflow_iff, fun k => ModelStream.list_eq_overflow_iff⟩
  have htold : Told s.program e := he.elim ModelStream.told_of_next ModelStream.told_of_list
  cases htold with
  | blames hblames => exact .inl hblames
  | io io => exact .inr (.inl ⟨io, rfl⟩)
  | overflow k => exact .inr (.inr ⟨k, rfl⟩)

theorem blamed_unless_overflow_sampleOutput :
    let out : Finished := ⟨.code 10, "s SATISFIABLE\nv 1 2147483648 0\n", ""⟩
    let s : ModelStream :=
      ⟨"solver", .running, [], .prints (encode "c\n1 2147483648 0\n") fun _ => .exits (.code 0)⟩
    let e : Failure := .entry (.literalTooLarge 2147483648 Var.maxCount)
    Witness.extract "solver" 2 out = .error e ∧ s.next.1 = .error e ∧ s.list.1 = .error e ∧
      (∃ k, e = .entry (.literalTooLarge k Var.maxCount)) := by
  intro out s e
  obtain ⟨⟨hfails, hiff⟩, -, hnext, hlist⟩ := blamed_unless_overflow "solver" 2 out s
  have hbeyond : Beyond 2147483648 "2147483648".toList := ⟨by decide +kernel, by decide⟩
  have hone : IsLiteral ['1'] := ⟨1, by decide, by decide, by decide⟩
  have hentry : Witness.IsEntry ['1'] := by decide
  have hvalues : Witness.valuesOf out = [['1'], "2147483648".toList, ['0']] := by decide +kernel
  have hlines : outputLines s.remaining = [encode "c\n", encode "1 2147483648 0\n"] := by
    decide +kernel
  have hcomment {P : List Char → Prop} (h : P ['c']) : Says P (encode "c\n") :=
    ⟨['c', '\n'], by decide +kernel, h⟩
  have hmodel : Says (Overflowing 2147483648) (encode "1 2147483648 0\n") :=
    ⟨"1 2147483648 0\n".toList, by decide +kernel, by decide +kernel, [['1']], _, [['0']],
      by decide +kernel, List.forall_mem_singleton.mpr hone, hbeyond⟩
  have he : Witness.extract "solver" 2 out = .error e :=
    (hiff _).mpr ⟨.inl rfl, [['1']], _, [['0']], hvalues, List.forall_mem_singleton.mpr hentry,
      hbeyond⟩
  refine ⟨he, ?_, ?_, (hfails e he).resolve_left (not_blames_overflow _ _)⟩
  · exact (hnext _).mpr
      ⟨rfl, [_], _, [], hlines, List.forall_mem_singleton.mpr (hcomment rfl), hmodel⟩
  · exact (hlist _).mpr
      ⟨rfl, [_], _, [], hlines, List.forall_mem_singleton.mpr (hcomment (.inl rfl)), hmodel⟩

-- A number that needs more than 64 bits is blamed on the program that printed it, and a smaller one
-- that is still too large for a literal is not.
theorem overflow_not_blamed :
    let out : Finished := ⟨.code 10, "s SATISFIABLE\nv 2147483648 0\n", ""⟩
    let s : ModelStream :=
      ⟨"solver", .running, [], .prints (encode "2147483648 0\n") fun _ => .exits (.code 0)⟩
    let e : Failure := .entry (.literalTooLarge 2147483648 Var.maxCount)
    Witness.extract "solver" 1 out = .error e ∧ s.next.1 = .error e ∧ ¬e.Blames "solver" ∧
    Witness.extract "solver" 1 { out with stdout := "s SATISFIABLE\nv 9223372036854775808 0\n" } =
      .error (.output "solver" (.invalidLiteral "9223372036854775808")) := by
  intro out s e
  refine ⟨by decide +kernel, ?_, not_blames_overflow _ _, by decide +kernel⟩
  rw [ModelStream.next_eq, ModelStream.queue_of_running rfl]
  decide +kernel

end Backend

end SatFrontend

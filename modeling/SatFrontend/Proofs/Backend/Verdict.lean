import Mathlib.Data.List.Induction
import SatFrontend.Proofs.Backend.Witness

namespace SatFrontend

namespace Text

-- Only blanks that stand at the end are dropped.
theorem trimEnd_cons_eq (c : Char) (cs : List Char) :
    trimEnd (c :: cs) = if isBlank c = true ∧ trimEnd cs = [] then [] else c :: trimEnd cs := by
  unfold trimEnd
  rw [List.reverse_cons, List.dropWhile_append]
  cases hrest : cs.reverse.dropWhile isBlank with
  | nil => cases hc : isBlank c <;> simp [hc]
  | cons d ds => simp

theorem words_cons_blank {c : Char} (hc : isBlank c = true) (cs : List Char) :
    words (c :: cs) = words cs := by
  rw [words, splitWhere_cons_of_pos hc]
  rfl

-- The words of a text do not change when the blanks at its end are dropped.
theorem words_trimEnd (cs : List Char) : words (trimEnd cs) = words cs := by
  induction cs using List.reverseRecOn with
  | nil => rfl
  | append_singleton cs c ih =>
    by_cases hc : isBlank c = true
    · rw [trimEnd_append_blank hc, ih, words, words, splitWhere_append_cons hc]
      simp [splitWhere]
    · rw [trimEnd_append_singleton (by simpa using hc)]

-- Texts after a line feed have lines of their own.
theorem lines_append {as : List Char} (h : as = [] ∨ as.getLast? = some '\n') (bs : List Char) :
    lines (as ++ bs) = lines as ++ lines bs := by
  rcases List.eq_nil_or_concat as with rfl | ⟨as, c, rfl⟩
  · rfl
  · have hc : c = '\n' := by simpa using h
    have hcut : ∀ cs, splitWhere (· == '\n') (as ++ '\n' :: cs) =
        splitWhere (· == '\n') as ++ splitWhere (· == '\n') cs :=
      splitWhere_append_cons (by decide) as
    have hbs := splitWhere_ne_nil (· == '\n') bs
    have hnil : splitWhere (· == '\n') ([] : List Char) = [[]] := rfl
    subst hc
    simp only [lines, List.concat_eq_append, List.append_assoc, List.singleton_append, hcut, hnil,
      List.getLast?_append]
    cases hlast : (splitWhere (· == '\n') bs).getLast? with
    | none => exact absurd (List.getLast?_eq_none_iff.mp hlast) hbs
    | some part =>
      by_cases hpart : part = []
      · simp [hpart, List.dropLast_append_of_ne_nil hbs]
      · simp [hpart]

end Text

namespace Backend.Witness

open Text

-- The verdict that a line gives if it is a result line. Blanks at its end do not matter.
def verdict? (line : List Char) : Option Bool :=
  if trimEnd line = "s SATISFIABLE".toList then some true
  else if trimEnd line = "s UNSATISFIABLE".toList then some false
  else none

-- The words of a line that is a `v`, or begins with a `v` and a blank.
def values? : List Char → Option (List (List Char))
  | ['v'] => some []
  | 'v' :: c :: rest => if isBlank c then some (words rest) else none
  | _ => none

-- The lines that say something about the result.
def Telling (line : List Char) : Prop := (verdict? line).isSome ∨ (values? line).isSome

instance (line : List Char) : Decidable (Telling line) :=
  inferInstanceAs (Decidable ((verdict? line).isSome ∨ (values? line).isSome))

-- A word that is a 0 or the number of a literal.
def IsEntry (w : List Char) : Prop := ∃ n ∈ integer? w, n.natAbs ≤ Var.maxCount

instance (w : List Char) : Decidable (IsEntry w) :=
  decidable_of_iff ((integer? w).any (·.natAbs ≤ Var.maxCount) = true)
    (by simp [IsEntry, Option.any_eq_true])

section Output

variable (out : Finished)

-- The last result line counts.
def verdictOf : Option Bool := ((lines out.stdout.toList).filterMap verdict?).getLast?

-- All value lines count, one after the other.
def valuesOf : List (List Char) := ((lines out.stdout.toList).filterMap values?).flatten

def tellingOf : List (List Char) := (lines out.stdout.toList).filter (Telling ·)

end Output

-- A line that begins with a `v` gives no verdict.
theorem verdict?_v (rest : List Char) : verdict? ('v' :: rest) = none := by
  have hsat : "s SATISFIABLE".toList = 's' :: " SATISFIABLE".toList := by decide
  have hunsat : "s UNSATISFIABLE".toList = 's' :: " UNSATISFIABLE".toList := by decide
  rw [verdict?, trimEnd_cons (by decide), hsat, hunsat]
  simp

theorem ofText_v {line cs : List Char} :
    trimEnd line = 'v' :: cs → Line.ofText line = match cs with
      | [] => .values []
      | c :: rest => if isBlank c then .values (c :: rest) else .other := by
  intro h
  have hsat : satMarker.toList = 's' :: " SATISFIABLE".toList := by decide
  have hunsat : unsatMarker.toList = 's' :: " UNSATISFIABLE".toList := by decide
  rw [Line.ofText, h, hsat, hunsat]
  cases cs with
  | nil => simp
  | cons c rest => simp

-- The blank after the `v` is itself dropped if nothing but blanks follows.
theorem ofText_v_blank {c : Char} (hc : isBlank c = true) (rest : List Char) :
    ∃ vs, Line.ofText ('v' :: c :: rest) = .values vs ∧ words vs = words rest := by
  have hv : trimEnd ('v' :: c :: rest) = 'v' :: trimEnd (c :: rest) := trimEnd_cons (by decide) _
  rw [trimEnd_cons_eq c] at hv
  by_cases hempty : trimEnd rest = []
  · rw [if_pos ⟨hc, hempty⟩] at hv
    refine ⟨[], ofText_v hv, ?_⟩
    rw [← words_trimEnd rest, hempty]
  · rw [if_neg (by simp [hempty])] at hv
    refine ⟨c :: trimEnd rest, ?_, ?_⟩
    · rw [ofText_v hv]
      simp [hc]
    · rw [words_cons_blank hc, words_trimEnd]

theorem ofText_v_other {c : Char} (hc : isBlank c = false) (rest : List Char) :
    Line.ofText ('v' :: c :: rest) = .other := by
  have hv : trimEnd ('v' :: c :: rest) = 'v' :: c :: trimEnd rest := by
    rw [trimEnd_cons (by decide), trimEnd_cons hc]
  rw [ofText_v hv]
  simp [hc]

-- A line that does not begin with a `v` is a result line, or says nothing.
theorem ofText_of_head {line : List Char} (h : line.head? ≠ some 'v') :
    Line.ofText line = (verdict? line).elim .other .marker := by
  have hv : ∀ rest, trimEnd line ≠ 'v' :: rest := by
    intro rest
    cases line with
    | nil => simp [trimEnd]
    | cons c cs =>
      have hc : c ≠ 'v' := by simpa using h
      rw [trimEnd_cons_eq]
      split <;> simp [hc]
  have hsat : satMarker.toList = "s SATISFIABLE".toList := rfl
  have hunsat : unsatMarker.toList = "s UNSATISFIABLE".toList := rfl
  rw [Line.ofText, verdict?, hsat, hunsat]
  split
  · rfl
  split
  · rfl
  split
  · rename_i heq
    exact absurd heq (hv _)
  · rename_i heq
    exact absurd heq (hv _)
  · rfl

-- What a line says can be read off before the blanks at its end are dropped.
theorem ofText_cases (line : List Char) :
    (∃ b, verdict? line = some b ∧ values? line = none ∧ Line.ofText line = .marker b) ∨
    (∃ vs, verdict? line = none ∧ values? line = some (words vs) ∧ Line.ofText line = .values vs) ∨
    (verdict? line = none ∧ values? line = none ∧ Line.ofText line = .other) := by
  by_cases hhead : line.head? = some 'v'
  · obtain ⟨rest, rfl⟩ := List.head?_eq_some_iff.mp hhead
    refine .inr ?_
    cases rest with
    | nil => exact .inl ⟨[], verdict?_v _, rfl, by decide⟩
    | cons c rest =>
      cases hc : isBlank c with
      | true =>
        obtain ⟨vs, hline, hwords⟩ := ofText_v_blank hc rest
        exact .inl ⟨vs, verdict?_v _, by simp [values?, hc, hwords], hline⟩
      | false => exact .inr ⟨verdict?_v _, by simp [values?, hc], ofText_v_other hc rest⟩
  · have hvalues : values? line = none := by
      unfold values?
      split <;> simp_all
    have hline := ofText_of_head hhead
    cases hverdict : verdict? line with
    | some b => exact .inl ⟨b, rfl, hvalues, by rw [hline, hverdict]; rfl⟩
    | none => exact .inr (.inr ⟨rfl, hvalues, by rw [hline, hverdict]; rfl⟩)

section Literals

variable (program : String)

theorem literals_append (vs ws : List (List Char)) :
    literals program (vs ++ ws) =
      (literals program vs).bind fun ls => (literals program ws).map (ls ++ ·) := by
  induction vs with
  | nil =>
    rw [List.nil_append, literals]
    cases literals program ws <;> rfl
  | cons v vs ih =>
    simp only [List.cons_append, literals]
    split
    · rfl
    split
    · exact ih
    split
    · rfl
    rw [ih]
    cases literals program vs with
    | error e => rfl
    | ok ls => cases literals program ws <;> rfl

-- All words have to be entries, and those that are not 0 are kept.
theorem literals_eq_ok_iff {ws : List (List Char)} {m : List Lit} :
    literals program ws = .ok m ↔
      (∀ w ∈ ws, IsEntry w) ∧ m.map Lit.toInt = (ws.filterMap integer?).filter (· ≠ 0) := by
  induction ws generalizing m with
  | nil => simp [literals, eq_comm]
  | cons w ws ih =>
    rw [literals, List.forall_mem_cons, List.filterMap_cons]
    cases hw : integer? w with
    | none => simp [IsEntry, hw]
    | some n =>
      have hentry : IsEntry w ↔ n.natAbs ≤ Var.maxCount := by simp [IsEntry, hw]
      rw [hentry]
      dsimp only
      by_cases hzero : n = 0
      · rw [if_pos hzero, ih, List.filter_cons_of_neg (by simp [hzero])]
        simp [hzero]
      · rw [if_neg hzero, List.filter_cons_of_pos (by simp [hzero])]
        cases hl : Lit.ofInt n with
        | error e =>
          have hlarge : ¬n.natAbs ≤ Var.maxCount := by
            intro hle
            obtain ⟨l, hok⟩ := Lit.exists_ofInt hzero hle
            rw [hl] at hok
            cases hok
          simp [hlarge]
        | ok l =>
          have hn := Lit.toInt_of_ofInt hl
          have hle : n.natAbs ≤ Var.maxCount := by
            rw [← hn, l.natAbs_toInt]
            exact l.var.number_le
          have hmap : (literals program ws).map (l :: ·) = .ok m ↔
              ∃ m', literals program ws = .ok m' ∧ l :: m' = m := by
            cases literals program ws <;> simp [Except.map]
          rw [hmap]
          constructor
          · rintro ⟨m', hws, rfl⟩
            obtain ⟨hentries, hm'⟩ := ih.mp hws
            exact ⟨⟨hle, hentries⟩, by rw [List.map_cons, hn, hm']⟩
          · rintro ⟨⟨-, hentries⟩, hm⟩
            obtain ⟨k, m', rfl, hk, hm'⟩ := List.map_eq_cons_iff.mp hm
            obtain rfl : k = l := Lit.toInt_inj (hk.trans hn.symm)
            exact ⟨m', ih.mpr ⟨hentries, hm'⟩, rfl⟩

theorem exists_literals {ws : List (List Char)} (h : ∀ w ∈ ws, IsEntry w) :
    ∃ m, literals program ws = .ok m := by
  have hrange : ∀ n ∈ (ws.filterMap integer?).filter (· ≠ 0), n ≠ 0 ∧ n.natAbs ≤ Var.maxCount := by
    intro n hn
    obtain ⟨hn, hne⟩ := List.mem_filter.mp hn
    obtain ⟨w, hw, hinteger⟩ := List.mem_filterMap.mp hn
    obtain ⟨k, hk, hle⟩ := h w hw
    obtain rfl : k = n := Option.some.inj (hk.symm.trans hinteger)
    exact ⟨by simpa using hne, hle⟩
  obtain ⟨m, hm⟩ := Lit.exists_map_toInt hrange
  exact ⟨m, (literals_eq_ok_iff program).mpr ⟨h, hm⟩⟩

-- The last of the result lines and the literals of all value lines come out in the end.
theorem readLines_eq (marker : Option Bool) (model : Array Lit) (ls : List (List Char)) :
    readLines program marker model ls =
      (literals program (ls.filterMap values?).flatten).map fun m =>
        ((ls.filterMap verdict?).getLast?.or marker, model.toList ++ m) := by
  induction ls generalizing marker model with
  | nil => simp [readLines, literals, Except.map]
  | cons line ls ih =>
    rw [readLines, List.filterMap_cons, List.filterMap_cons]
    obtain ⟨b, hverdict, hvalues, hline⟩ | ⟨vs, hverdict, hvalues, hline⟩ |
      ⟨hverdict, hvalues, hline⟩ := ofText_cases line
    · rw [hline, hverdict, hvalues]
      simp only [ih, List.getLast?_cons]
      cases (ls.filterMap verdict?).getLast? <;> rfl
    · rw [hline, hverdict, hvalues]
      simp only [List.flatten_cons, literals_append]
      cases literals program (words vs) with
      | error e => rfl
      | ok ms =>
        simp only [ih, Except.bind]
        cases literals program (ls.filterMap values?).flatten with
        | error e => rfl
        | ok m => simp [Except.map]
    · rw [hline, hverdict, hvalues]
      exact ih marker model

end Literals

theorem misplaced?_eq_none_iff {k : Nat} {m : List Lit} :
    misplaced? k m = none ↔ ∀ i (hi : i < m.length), m[i].var.number = k + i := by
  refine ⟨fun h => ?_, misplaced?_eq_none⟩
  induction m generalizing k with
  | nil => exact fun i hi => absurd hi (Nat.not_lt_zero i)
  | cons l m ih =>
    rw [misplaced?] at h
    split at h
    · rename_i hfirst
      intro i hi
      cases i with
      | zero => exact hfirst
      | succ i =>
        have hnext := ih h i (by simpa using hi)
        rw [List.getElem_cons_succ, hnext]
        omega
    · cases h

theorem checkModel_eq_ok_iff (program : String) {n : Nat} {m m' : List Lit} :
    checkModel program n m = .ok m' ↔
      m' = m ∧ m.length = n ∧ ∀ i (hi : i < m.length), m[i].var.number = i + 1 := by
  have hplace : (∀ i (hi : i < m.length), m[i].var.number = i + 1) ↔ misplaced? 1 m = none := by
    simp only [misplaced?_eq_none_iff, Nat.add_comm]
  rw [hplace, checkModel]
  by_cases hlength : m.length = n
  · cases misplaced? 1 m with
    | none => simp [hlength, eq_comm]
    | some p => simp [hlength]
  · simp [hlength]

-- With one of the two exit codes, the result depends on the lines that tell something, and on
-- nothing else.
theorem extract_of_code (program : String) (n : Nat) {out : Finished} {code : Nat}
    (hexit : out.exit = .code code) (hcode : code = 10 ∨ code = 20) :
    extract program n out =
      (literals program (valuesOf out)).bind fun m =>
        match verdictOf out with
        | none => .error (.output program .noResult)
        | some true =>
          if code = 10 then (checkModel program n m).map some
          else .error (.output program (.contradiction code))
        | some false =>
          if code = 20 then .ok none else .error (.output program (.contradiction code)) := by
  have hknown : ¬(code ≠ satExit ∧ code ≠ unsatExit) := by
    simp only [satExit, unsatExit]
    omega
  simp only [extract, hexit, Exit.code?, if_neg hknown, readLines_eq, bind]
  rw [valuesOf, verdictOf]
  cases literals program ((lines out.stdout.toList).filterMap values?).flatten with
  | error e => rfl
  | ok m => rcases ((lines out.stdout.toList).filterMap verdict?).getLast? with _ | _ | _ <;> rfl

theorem extract_of_unexpected (program : String) (n : Nat) {out : Finished}
    (hexit : out.exit ≠ .code 10 ∧ out.exit ≠ .code 20) :
    extract program n out = .error (.exit program out.exit.code? (out.stdout ++ out.stderr)) := by
  obtain ⟨exit, stdout, stderr⟩ := out
  cases exit with
  | signal k => rfl
  | code code =>
    have hknown : code ≠ satExit ∧ code ≠ unsatExit := by simpa [satExit, unsatExit] using hexit
    simp only [extract, Exit.code?, if_pos hknown]

-- A result that is not a failure because of the exit code.
def NoExit {α : Type} (x : Except Failure α) : Prop := ∀ p c o, x ≠ .error (.exit p c o)

section NoExit

variable {α β : Type} {x : Except Failure α}

theorem NoExit.bind (hx : NoExit x) {f : α → Except Failure β} (hf : ∀ a, NoExit (f a)) :
    NoExit (x.bind f) := by
  intro p c o
  cases x with
  | error e =>
    have he := hx p c o
    simpa [Except.bind] using he
  | ok a => exact hf a p c o

theorem NoExit.map (hx : NoExit x) (f : α → β) : NoExit (x.map f) := by
  intro p c o
  cases x with
  | error e =>
    have he := hx p c o
    simpa [Except.map] using he
  | ok a => simp [Except.map]

theorem noExit_literals (program : String) (ws : List (List Char)) :
    NoExit (literals program ws) := by
  induction ws with
  | nil => simp [NoExit, literals]
  | cons w ws ih =>
    rw [literals]
    split
    · simp [NoExit]
    split
    · exact ih
    split
    · simp [NoExit]
    · exact ih.map _

theorem noExit_checkModel (program : String) (n : Nat) (m : List Lit) :
    NoExit (checkModel program n m) := by
  rw [checkModel]
  split
  · simp [NoExit]
  split <;> simp [NoExit]

end NoExit

theorem bind_eq_ok_iff {α β : Type} {x : Except Failure α} {f : α → Except Failure β} {b : β} :
    x.bind f = .ok b ↔ ∃ a, x = .ok a ∧ f a = .ok b := by
  cases x <;> simp [Except.bind]

section Outcomes

variable (program : String) (n : Nat) (out : Finished)

theorem extract_eq_some_iff {m : List Lit} :
    extract program n out = .ok (some m) ↔
      out.exit = .code 10 ∧ verdictOf out = some true ∧ (∀ w ∈ valuesOf out, IsEntry w) ∧
        m.map Lit.toInt = ((valuesOf out).filterMap integer?).filter (· ≠ 0) ∧
        m.length = n ∧ ∀ i (hi : i < m.length), m[i].var.number = i + 1 := by
  by_cases hsat : out.exit = .code 10
  · rw [extract_of_code program n hsat (.inl rfl), bind_eq_ok_iff]
    rcases verdictOf out with _ | _ | _
    · simp
    · simp
    · have hmap : ∀ ls, ((checkModel program n ls).map some = .ok (some m)) ↔
          checkModel program n ls = .ok m := by
        intro ls
        cases checkModel program n ls <;> simp [Except.map]
      simp only [if_true, hmap, checkModel_eq_ok_iff, hsat, true_and, ← and_assoc,
        ← literals_eq_ok_iff program]
      constructor
      · rintro ⟨ls, ⟨⟨hls, rfl⟩, hlength⟩, hplace⟩
        exact ⟨⟨hls, hlength⟩, hplace⟩
      · rintro ⟨⟨hls, hlength⟩, hplace⟩
        exact ⟨m, ⟨⟨hls, rfl⟩, hlength⟩, hplace⟩
  · by_cases hunsat : out.exit = .code 20
    · rw [extract_of_code program n hunsat (.inr rfl), bind_eq_ok_iff]
      rcases verdictOf out with _ | _ | _ <;> simp [hunsat]
    · rw [extract_of_unexpected program n ⟨hsat, hunsat⟩]
      simp [hsat]

theorem extract_eq_none_iff :
    extract program n out = .ok none ↔
      out.exit = .code 20 ∧ verdictOf out = some false ∧ ∀ w ∈ valuesOf out, IsEntry w := by
  by_cases hunsat : out.exit = .code 20
  · rw [extract_of_code program n hunsat (.inr rfl), bind_eq_ok_iff]
    rcases verdictOf out with _ | _ | _
    · simp
    · simp only [if_true, and_true, hunsat, true_and]
      constructor
      · rintro ⟨ls, hls⟩
        exact ((literals_eq_ok_iff program).mp hls).1
      · intro hentries
        exact exists_literals program hentries
    · simp
  · by_cases hsat : out.exit = .code 10
    · rw [extract_of_code program n hsat (.inl rfl), bind_eq_ok_iff]
      have hmap : ∀ ls, (checkModel program n ls).map some ≠ .ok none := by
        intro ls
        cases checkModel program n ls <;> simp [Except.map]
      rcases verdictOf out with _ | _ | _ <;> simp [hsat, hmap]
    · rw [extract_of_unexpected program n ⟨hsat, hunsat⟩]
      simp [hunsat]

theorem extract_eq_exit_iff {p : String} {c : Option Nat} {o : String} :
    extract program n out = .error (.exit p c o) ↔
      (out.exit ≠ .code 10 ∧ out.exit ≠ .code 20) ∧
        p = program ∧ c = out.exit.code? ∧ o = out.stdout ++ out.stderr := by
  by_cases hexit : out.exit ≠ .code 10 ∧ out.exit ≠ .code 20
  · rw [extract_of_unexpected program n hexit]
    simp [hexit, eq_comm]
  · have hknown : ∃ code, out.exit = .code code ∧ (code = 10 ∨ code = 20) := by
      by_cases hsat : out.exit = .code 10
      · exact ⟨10, hsat, .inl rfl⟩
      · exact ⟨20, by simpa [hsat] using hexit, .inr rfl⟩
    obtain ⟨code, hcode, hvalue⟩ := hknown
    refine iff_of_false ?_ fun h => hexit h.1
    rw [extract_of_code program n hcode hvalue]
    refine NoExit.bind (noExit_literals program _) (fun ls => ?_) p c o
    rcases verdictOf out with _ | _ | _
    · simp [NoExit]
    · dsimp only
      split <;> simp [NoExit]
    · dsimp only
      split
      · exact (noExit_checkModel program n ls).map some
      · simp [NoExit]

-- The lines that tell nothing have no part in the verdict and the values.
theorem verdictOf_tellingOf : verdictOf out = ((tellingOf out).filterMap verdict?).getLast? := by
  have hkeep : ∀ line, (if Telling line then verdict? line else none) = verdict? line := by
    intro line
    cases hline : verdict? line <;> simp [Telling, hline]
  simp only [verdictOf, tellingOf, List.filterMap_filter, decide_eq_true_eq, hkeep]

theorem valuesOf_tellingOf : valuesOf out = ((tellingOf out).filterMap values?).flatten := by
  have hkeep : ∀ line, (if Telling line then values? line else none) = values? line := by
    intro line
    cases hline : values? line <;> simp [Telling, hline]
  simp only [valuesOf, tellingOf, List.filterMap_filter, decide_eq_true_eq, hkeep]

variable {out}

theorem extract_congr {other : Finished} (hexit : other.exit = out.exit)
    (htelling : tellingOf other = tellingOf out)
    (hknown : out.exit = .code 10 ∨ out.exit = .code 20) :
    extract program n other = extract program n out := by
  have hverdict : verdictOf other = verdictOf out := by
    rw [verdictOf_tellingOf, htelling, ← verdictOf_tellingOf]
  have hvalues : valuesOf other = valuesOf out := by
    rw [valuesOf_tellingOf, htelling, ← valuesOf_tellingOf]
  rcases hknown with hcode | hcode
  · rw [extract_of_code program n (hexit.trans hcode) (.inl rfl),
      extract_of_code program n hcode (.inl rfl), hverdict, hvalues]
  · rw [extract_of_code program n (hexit.trans hcode) (.inr rfl),
      extract_of_code program n hcode (.inr rfl), hverdict, hvalues]

-- A line that tells nothing may be put at the beginning of any line.
theorem tellingOf_insert (before line after : String)
    (hbefore : before = "" ∨ before.toList.getLast? = some '\n') (hline : OneLine line)
    (htelling : ¬Telling (stripReturn line.toList)) (hout : out.stdout = before ++ after) :
    tellingOf { out with stdout := before ++ (line ++ "\n") ++ after } = tellingOf out := by
  have hbefore' : before.toList = [] ∨ before.toList.getLast? = some '\n' :=
    hbefore.imp (fun h => by rw [h]; rfl) id
  have hends : line.toList ++ ['\n'] = [] ∨ (line.toList ++ ['\n']).getLast? = some '\n' := by
    simp
  have hone : lines (line.toList ++ ['\n']) = [stripReturn line.toList] := by
    have := lines_unlines (List.forall_mem_singleton.mpr hline)
    simpa [toList_unlines] using this
  have hfeed : "\n".toList = ['\n'] := rfl
  simp only [tellingOf, hout, String.toList_append, hfeed, List.append_assoc before.toList,
    lines_append hbefore', lines_append hends, hone]
  simp [htelling]

end Outcomes

-- The last result line and all value lines decide, together with the exit code. A model is reported
-- exactly when the exit code is 10, the result line says so too, and the numbers are entries that
-- give one literal for each variable, in order. That there is none is reported exactly when the exit
-- code is 20, the result line says so too, and the numbers are entries. With another exit code, or
-- none, that failure is reported, and only then. Other lines can be added or left out: with the two
-- exit codes the outcome is the same, and otherwise it is the same failure with the other output.
theorem extract_spec (program : String) (n : Nat) (out : Finished) :
    (∀ m, extract program n out = .ok (some m) ↔
      out.exit = .code 10 ∧ verdictOf out = some true ∧ (∀ w ∈ valuesOf out, IsEntry w) ∧
        m.map Lit.toInt = ((valuesOf out).filterMap integer?).filter (· ≠ 0) ∧
        m.length = n ∧ ∀ i (hi : i < m.length), m[i].var.number = i + 1) ∧
    (extract program n out = .ok none ↔
      out.exit = .code 20 ∧ verdictOf out = some false ∧ ∀ w ∈ valuesOf out, IsEntry w) ∧
    (∀ p c o, extract program n out = .error (.exit p c o) ↔
      (out.exit ≠ .code 10 ∧ out.exit ≠ .code 20) ∧
        p = program ∧ c = out.exit.code? ∧ o = out.stdout ++ out.stderr) ∧
    ∀ other : Finished, other.exit = out.exit → tellingOf other = tellingOf out →
      (out.exit = .code 10 ∨ out.exit = .code 20 →
        extract program n other = extract program n out) ∧
      (extract program n other).mapError Failure.message =
        (extract program n out).mapError Failure.message := by
  refine ⟨fun m => extract_eq_some_iff program n out, extract_eq_none_iff program n out,
    fun p c o => extract_eq_exit_iff program n out, fun other hexit htelling => ?_⟩
  have hknown := extract_congr program n hexit htelling
  refine ⟨hknown, ?_⟩
  by_cases hcode : out.exit = .code 10 ∨ out.exit = .code 20
  · rw [hknown hcode]
  · have hout : out.exit ≠ .code 10 ∧ out.exit ≠ .code 20 := not_or.mp hcode
    rw [extract_of_unexpected program n hout, extract_of_unexpected program n (hexit ▸ hout), hexit]
    rfl

-- A result line that is taken back, values on lines with odd blanks, and a comment in between.
theorem extract_spec_sampleOutput :
    let before := "s UNSATISFIABLE\nv  -1\t+2\n"
    let after := "value 9\ns SATISFIABLE \r\nv\nv 0 -3"
    let out : Finished := ⟨.code 10, before ++ after, ""⟩
    let other : Finished := ⟨.code 10, before ++ ("c v 7" ++ "\n") ++ after, ""⟩
    extract "solver" 3 out = .ok (some [⟨.ofNumber 1, true⟩, ⟨.ofNumber 2, false⟩,
      ⟨.ofNumber 3, true⟩]) ∧
    extract "solver" 3 other = extract "solver" 3 out := by
  intro before after out other
  obtain ⟨hsome, -, -, hmore⟩ := extract_spec "solver" 3 out
  have hinsert : tellingOf other = tellingOf out :=
    tellingOf_insert before "c v 7" after (.inr (by decide +kernel)) (by decide) (by decide) rfl
  refine ⟨(hsome _).mpr ⟨rfl, ?_, ?_, ?_, rfl, ?_⟩, (hmore other rfl hinsert).1 (.inl rfl)⟩
  · decide +kernel
  · decide +kernel
  · decide +kernel
  · decide +kernel

end Backend.Witness

end SatFrontend

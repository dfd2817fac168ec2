import SatFrontend.Proofs.Solver.Answers
import SatFrontend.Solver.Enumeration

namespace SatFrontend.Solver

variable {η : Type} [Engine η]

-- The search for all models as it goes on, without a bound on its rounds, with the answers that
-- the engine gave. It has come to an end when there is a result.
inductive Enumerates (assumptions : List Int) : Solver η → List Answer → Enumeration η → Prop
  | refused {s t : Solver η} {e : EntryError}
      (hassume : Receiver.assumeAll s assumptions = (t, some e)) :
      Enumerates assumptions s [] { ending := .refused e, solver := t }
  | unsat {s t u : Solver η} (hassume : Receiver.assumeAll s assumptions = (t, none))
      (hsolve : t.solve = (.unsat, u)) :
      Enumerates assumptions s [.unsat] { ending := .complete, solver := u }
  | unknown {s t u : Solver η} (hassume : Receiver.assumeAll s assumptions = (t, none))
      (hsolve : t.solve = (.unknown, u)) :
      Enumerates assumptions s [.unknown] { ending := .stopped, solver := u }
  | only {s t u : Solver η} (hassume : Receiver.assumeAll s assumptions = (t, none))
      (hsolve : t.solve = (.sat, u)) (hempty : u.modelLiterals = []) :
      Enumerates assumptions s [.sat] { models := [[]], ending := .complete, solver := u }
  | unblocked {s t u : Solver η} {e : EntryError}
      (hassume : Receiver.assumeAll s assumptions = (t, none)) (hsolve : t.solve = (.sat, u))
      (hne : u.modelLiterals ≠ [])
      (hblock : Receiver.addClause u (u.modelLiterals.map Lit.not) = .error e) :
      Enumerates assumptions s [.sat]
        { models := [u.modelLiterals], ending := .refused e, solver := u }
  | next {s t u v : Solver η} {answers : List Answer} {rest : Enumeration η}
      (hassume : Receiver.assumeAll s assumptions = (t, none)) (hsolve : t.solve = (.sat, u))
      (hne : u.modelLiterals ≠ [])
      (hblock : Receiver.addClause u (u.modelLiterals.map Lit.not) = .ok v)
      (hrest : Enumerates assumptions v answers rest) :
      Enumerates assumptions s (.sat :: answers) { rest with models := u.modelLiterals :: rest.models }

-- The search comes to one end only.
theorem Enumerates.unique {assumptions : List Int} {s : Solver η} {answers answers' : List Answer}
    {result result' : Enumeration η} (h : Enumerates assumptions s answers result)
    (h' : Enumerates assumptions s answers' result') : answers = answers' ∧ result = result' := by
  induction h generalizing answers' result' with
  | @next s t u v answers rest hassume hsolve hne hblock hrest ih =>
    cases h' with
    | next hassume' hsolve' hne' hblock' hrest' =>
      obtain rfl := congrArg Prod.fst (hassume.symm.trans hassume')
      obtain rfl := congrArg Prod.snd (hsolve.symm.trans hsolve')
      obtain rfl := Except.ok.inj (hblock.symm.trans hblock')
      obtain ⟨rfl, rfl⟩ := ih hrest'
      exact ⟨rfl, rfl⟩
    | _ => simp_all
  | _ => cases h' <;> simp_all

-- A bound on the rounds is not met if there are as many rounds as questions.
theorem Enumerates.rounds_eq {assumptions : List Int} {s : Solver η} {answers : List Answer}
    {result : Enumeration η} (h : Enumerates assumptions s answers result)
    (haccepted : ∀ e, result.ending ≠ .refused e) {n : Nat} (hn : answers.length ≤ n) :
    rounds assumptions n s = result := by
  induction h generalizing n with
  | refused hassume => exact absurd rfl (haccepted _)
  | unblocked hassume hsolve hne hblock => exact absurd rfl (haccepted _)
  | unsat hassume hsolve =>
    cases n with
    | zero => simp at hn
    | succ n => simp only [rounds, hassume, hsolve]
  | unknown hassume hsolve =>
    cases n with
    | zero => simp at hn
    | succ n => simp only [rounds, hassume, hsolve]
  | only hassume hsolve hempty =>
    cases n with
    | zero => simp at hn
    | succ n => simp [rounds, hassume, hsolve, hempty]
  | next hassume hsolve hne hblock hrest ih =>
    cases n with
    | zero => simp at hn
    | succ n =>
      have hrounds := ih haccepted (Nat.le_of_succ_le_succ hn)
      simp [rounds, hassume, hsolve, hne, hblock, hrounds]

-- Numbers of literals within the limit are all assumed.
theorem assumeAll_of_within {s : Solver η} {ns : List Int} {ls : List Lit}
    (hls : Lit.ofInts ns = .ok ls) (hwithin : ∀ l ∈ ls, l.var.number ≤ Receiver.limit s) :
    Receiver.assumeAll s ns = (ls.foldl assume s, none) := by
  induction ns generalizing s ls with
  | nil => cases hls; rfl
  | cons n ns ih =>
    simp only [Lit.ofInts] at hls
    cases hl : Lit.ofInt n with
    | error e => simp [hl, bind, Except.bind] at hls
    | ok l =>
      cases hrest : Lit.ofInts ns with
      | error e => simp [hl, hrest, bind, Except.bind] at hls
      | ok rest =>
        simp only [hl, hrest, bind, Except.bind] at hls
        obtain rfl := Except.ok.inj hls
        obtain ⟨hle, hle'⟩ := List.forall_mem_cons.mp hwithin
        have hzero : n ≠ 0 := by
          rw [← Lit.toInt_of_ofInt hl]
          exact l.toInt_ne_zero
        have hstep : Receiver.assumeNumber s n = .ok (s.assume l) := by
          simp only [Receiver.assumeNumber, hzero, Receiver.acceptNumber, hl, bind, Except.bind,
            Receiver.accept, hle, if_false, if_true]
          rfl
        have hlater := ih (s := s.assume l) hrest hle'
        simp only [Receiver.assumeAll] at hlater ⊢
        simp only [Receiver.runAll, hstep, hlater, List.foldl_cons]

namespace Reached

variable {e : η} {s : Solver η} {p : Formula.Plain}

theorem assumeAll (h : Reached e s p) {ls : List Lit}
    (hwithin : ∀ l ∈ ls, l.var.number ≤ Engine.limit e) :
    Reached e (ls.foldl Solver.assume s) { p with assumptions := p.assumptions ++ ls } := by
  induction ls generalizing s p with
  | nil => simpa using h
  | cons l ls ih =>
    obtain ⟨hl, hrest⟩ := List.forall_mem_cons.mp hwithin
    have := ih (h.assume l hl) hrest
    simpa [Formula.Plain.assume] using this

theorem pushAll (h : Reached e s p) {ls : List Lit}
    (hwithin : ∀ l ∈ ls, l.var.number ≤ Engine.limit e) :
    Reached e (Receiver.pushAll s ls) { p with openClause := p.openClause ++ ls } := by
  induction ls generalizing s p with
  | nil => simpa [Receiver.pushAll] using h
  | cons l ls ih =>
    obtain ⟨hl, hrest⟩ := List.forall_mem_cons.mp hwithin
    have hstep : Receiver.pushAll s (l :: ls) = Receiver.pushAll (s.push l) ls := rfl
    rw [hstep]
    simpa [Formula.Plain.push] using ih (h.push l hl) hrest

-- After a question, a clause within the limit is taken in.
theorem addClause (hsound : Engine.Sound e) (h : Reached e s p) (hopen : p.openClause = [])
    {c : List Lit} (hne : c ≠ []) (hwithin : ∀ l ∈ c, l.var.number ≤ Engine.limit e) :
    ∃ t, Receiver.addClause s c = .ok t ∧ Reached e t { p with clauses := p.clauses ++ [c] } := by
  have haccept : Receiver.acceptAll s c = .ok () :=
    Receiver.acceptAll_of_within (by rw [h.limit_eq hsound]; exact hwithin)
  refine ⟨Receiver.commit s c, by simp [Receiver.addClause, haccept, bind, Except.bind], ?_⟩
  have hsame : p.endClause = p := by simp [Formula.Plain.endClause, hopen]
  have hfirst := h.endClause
  rw [hsame] at hfirst
  have hlast := (hfirst.pushAll hwithin).endClause
  have hcommit : ({ p with openClause := p.openClause ++ c } : Formula.Plain).endClause =
      { p with clauses := p.clauses ++ [c] } := by
    simp [Formula.Plain.endClause, hopen, hne]
  rw [hcommit] at hlast
  exact hlast

theorem not_isModel (hsound : Engine.Sound e) (h : Reached e s p) (hunsat : s.solve.1 = .unsat)
    {n : Nat} (hn : n ≤ Var.maxCount) (m : List Lit) :
    ¬IsModel n p.endClause.clauses p.assumptions m := by
  intro hmodel
  obtain ⟨calls, hasks, hloaded, hasked, hanswer, -⟩ := h.question
  obtain ⟨a, ha⟩ := hmodel.holds hn
  rw [hanswer] at hunsat
  refine hsound.unsat calls hasks hunsat a ?_
  rwa [hloaded, hasked]

end Reached

-- What the search has found when it ends: only models, none of them twice. It has found all of
-- them, or it ended with the first question that was not decided.
structure Found (e : η) (n : Nat) (cs : List (List Lit)) (ls : List Lit) (answers : List Answer)
    (result : Enumeration η) : Prop where
  nodup : result.models.Nodup
  sound : ∀ m ∈ result.models, IsModel n cs ls m
  ending :
    (result.ending = .complete ∧ .unknown ∉ answers ∧ ∀ m, IsModel n cs ls m → m ∈ result.models) ∨
    (result.ending = .stopped ∧ answers = List.replicate result.models.length .sat ++ [.unknown] ∧
      ¬Engine.Decides e)

-- A model is found, and then the others.
theorem Found.cons {e : η} {n : Nat} {cs : List (List Lit)} {ls m : List Lit}
    {answers : List Answer} {rest : Enumeration η} (hn : n ≤ Var.maxCount)
    (hm : IsModel n cs ls m) (h : Found e n (cs ++ [m.map Lit.not]) ls answers rest) :
    Found e n cs ls (.sat :: answers) { rest with models := m :: rest.models } where
  nodup := by
    refine List.nodup_cons.mpr ⟨fun hmem => ?_, h.nodup⟩
    exact ((isModel_block_iff hm hn).mp (h.sound m hmem)).2 rfl
  sound := by
    refine List.forall_mem_cons.mpr ⟨hm, fun m' hm' => ?_⟩
    exact ((isModel_block_iff hm hn).mp (h.sound m' hm')).1
  ending := by
    rcases h.ending with ⟨hcomplete, hanswers, hall⟩ | ⟨hstopped, hanswers, hdecides⟩
    · refine Or.inl ⟨hcomplete, by simpa using hanswers, fun m' hm' => ?_⟩
      by_cases heq : m' = m
      · exact List.mem_cons.mpr (Or.inl heq)
      · exact List.mem_cons_of_mem _ (hall m' ((isModel_block_iff hm hn).mpr ⟨hm', heq⟩))
    · exact Or.inr ⟨hstopped, by simp [hanswers, List.replicate_succ], hdecides⟩

-- One more clause over the same variables leaves the number of variables as it is.
theorem varCountWith_block {n : Nat} {cs : List (List Lit)} {ls m : List Lit}
    (hn : varCountWith 0 (cs.flatten ++ ls) = n) (hm : m.map Lit.var = Var.upTo n) :
    varCountWith 0 ((cs ++ [m.map Lit.not]).flatten ++ ls) = n := by
  have hold := varCountWith_le_iff.mp (Nat.le_of_eq hn)
  refine Nat.le_antisymm (varCountWith_le_iff.mpr ⟨Nat.zero_le _, fun l hl => ?_⟩) ?_
  · simp only [List.flatten_append, List.flatten_cons, List.flatten_nil, List.append_nil,
      List.append_assoc, List.mem_append] at hl
    rcases hl with hl | hl | hl
    · exact hold.2 l (List.mem_append_left _ hl)
    · obtain ⟨k, hk, rfl⟩ := List.mem_map.mp hl
      rw [Lit.var_not]
      refine Var.mem_upTo.mp ?_
      rw [← hm]
      exact List.mem_map_of_mem hk
    · exact hold.2 l (List.mem_append_right _ hl)
  · rw [← hn]
    refine varCountWith_le_iff.mpr ⟨Nat.zero_le _, fun l hl => ?_⟩
    refine (varCountWith_le_iff.mp (Nat.le_refl _)).2 l ?_
    rcases List.mem_append.mp hl with hl | hl
    · simp [hl]
    · simp [hl]

-- The assumptions are taken in, and with them the variables of a model are known.
theorem Reached.assumed {e : η} (hsound : Engine.Sound e) {assumptions : List Int} {ls : List Lit}
    (hls : Lit.ofInts assumptions = .ok ls) (hwithin : ∀ l ∈ ls, l.var.number ≤ Engine.limit e)
    {s : Solver η} {p : Formula.Plain} (h : Reached e s p) (hassumed : p.assumptions = []) :
    ∃ t q, Receiver.assumeAll s assumptions = (t, none) ∧ Reached e t q ∧ q.assumptions = ls ∧
      q.endClause.clauses = p.endClause.clauses ∧
      t.nextVarCount = varCountWith 0 (p.endClause.clauses.flatten ++ ls) := by
  have ht := h.assumeAll hwithin
  rw [hassumed, List.nil_append] at ht
  have hclauses : ({ p with assumptions := ls } : Formula.Plain).endClause.clauses =
      p.endClause.clauses := by
    unfold Formula.Plain.endClause
    split <;> rfl
  refine ⟨_, _, assumeAll_of_within hls ?_, ht, rfl, hclauses, ?_⟩
  · rw [h.limit_eq hsound]
    exact hwithin
  · rw [ht.nextVarCount_eq, hclauses]

-- One round ends the search, or it finds a model and leaves a solver with one more clause.
theorem round_cases {e : η} (hsound : Engine.Sound e) {assumptions : List Int} {ls : List Lit}
    (hls : Lit.ofInts assumptions = .ok ls) (hwithin : ∀ l ∈ ls, l.var.number ≤ Engine.limit e)
    {n : Nat} {s : Solver η} {p : Formula.Plain} (h : Reached e s p) (hassumed : p.assumptions = [])
    (hn : varCountWith 0 (p.endClause.clauses.flatten ++ ls) = n) :
    (∃ answer result, Enumerates assumptions s [answer] result ∧
      Found e n p.endClause.clauses ls [answer] result) ∨
    ∃ m v, IsModel n p.endClause.clauses ls m ∧
      Reached e v ⟨p.endClause.clauses ++ [m.map Lit.not], [], []⟩ ∧
      ∀ answers rest, Enumerates assumptions v answers rest →
        Enumerates assumptions s (.sat :: answers) { rest with models := m :: rest.models } := by
  obtain ⟨t, q, hassume, ht, rfl, hclauses, hcount⟩ := h.assumed hsound hls hwithin hassumed
  rw [hn] at hcount
  have hmax : n ≤ Var.maxCount := by
    rw [← hn]
    exact varCountWith_le_iff.mpr ⟨Nat.zero_le _, fun l _ => l.var.number_le⟩
  cases hanswer : t.solve.1 with
  | unsat =>
    have hnone := fun m => ht.not_isModel hsound hanswer hmax m
    rw [hclauses] at hnone
    refine Or.inl ⟨.unsat, _, .unsat hassume (Prod.ext hanswer rfl), by simp, by simp, ?_⟩
    exact Or.inl ⟨rfl, by simp, fun m hm => absurd hm (hnone m)⟩
  | unknown =>
    refine Or.inl ⟨.unknown, _, .unknown hassume (Prod.ext hanswer rfl), by simp, by simp, ?_⟩
    obtain ⟨calls, hasks, -, -, hsame, -⟩ := ht.question
    exact Or.inr ⟨rfl, rfl, fun hdecides => hdecides calls hasks (hsame.symm.trans hanswer)⟩
  | sat =>
    have hsolve : t.solve = (.sat, t.solve.2) := Prod.ext hanswer rfl
    have hmodel := ht.isModel hsound hanswer
    rw [hclauses, hcount] at hmodel
    by_cases hempty : t.solve.2.modelLiterals = []
    · refine Or.inl ⟨.sat, _, .only hassume hsolve hempty, by simp, ?_, ?_⟩
      · intro m hm
        rw [List.mem_singleton.mp hm, ← hempty]
        exact hmodel
      · refine Or.inl ⟨rfl, by simp, fun m hm => ?_⟩
        have hvars := hm.vars.trans hmodel.vars.symm
        rw [hempty] at hvars
        simpa using hvars
    · have hall := ht.within.endClause
      -- the variables of the model occur in the clauses or assumptions, so none lies above the limit
      have hvars : ∀ l ∈ t.solve.2.modelLiterals.map Lit.not, l.var.number ≤ Engine.limit e := by
        intro l hl
        obtain ⟨k, hk, rfl⟩ := List.mem_map.mp hl
        have hle : k.var.number ≤ n := by
          refine Var.mem_upTo.mp ?_
          rw [← hmodel.vars]
          exact List.mem_map_of_mem hk
        refine Nat.le_trans hle ?_
        rw [← hn]
        refine varCountWith_le_iff.mpr ⟨Nat.zero_le _, fun j hj => ?_⟩
        rcases List.mem_append.mp hj with hj | hj
        · obtain ⟨c, hc, hjc⟩ := List.mem_flatten.mp hj
          rw [← hclauses] at hc
          exact hall.clauses c hc j hjc
        · exact hwithin j hj
      obtain ⟨v, hblock, hv⟩ := ht.solve.addClause hsound
        (Formula.Plain.openClause_endClause _) (by simpa using hempty) hvars
      refine Or.inr ⟨_, v, hmodel, ?_, fun answers rest => .next hassume hsolve hempty hblock⟩
      simpa [Formula.Plain.forget, hclauses] using hv

-- An induction on a bound on the number of models. Each round finds one, and excludes exactly it,
-- so there are fewer of them for the rounds that are left.
theorem exists_enumerates {e : η} (hsound : Engine.Sound e) {assumptions : List Int}
    {ls : List Lit} (hls : Lit.ofInts assumptions = .ok ls)
    (hwithin : ∀ l ∈ ls, l.var.number ≤ Engine.limit e) {n : Nat} (count : Nat) {s : Solver η}
    {p : Formula.Plain} (h : Reached e s p) (hassumed : p.assumptions = [])
    (hn : varCountWith 0 (p.endClause.clauses.flatten ++ ls) = n)
    (hcount : ∀ ms : List (List Lit), ms.Nodup →
      (∀ m ∈ ms, IsModel n p.endClause.clauses ls m) → ms.length ≤ count) :
    ∃ answers result, Enumerates assumptions s answers result ∧ answers.length ≤ count + 1 ∧
      Found e n p.endClause.clauses ls answers result := by
  have hmax : n ≤ Var.maxCount := by
    rw [← hn]
    exact varCountWith_le_iff.mpr ⟨Nat.zero_le _, fun l _ => l.var.number_le⟩
  induction count generalizing s p with
  | zero =>
    rcases round_cases hsound hls hwithin h hassumed hn with ⟨answer, result, hends, hfound⟩ |
        ⟨m, v, hmodel, -⟩
    · exact ⟨[answer], result, hends, by simp, hfound⟩
    · have := hcount [m] (by simp) (by simpa using hmodel)
      simp at this
  | succ count ih =>
    rcases round_cases hsound hls hwithin h hassumed hn with ⟨answer, result, hends, hfound⟩ |
        ⟨m, v, hmodel, hv, hnext⟩
    · exact ⟨[answer], result, hends, by simp, hfound⟩
    · have hfewer : ∀ ms : List (List Lit), ms.Nodup →
          (∀ m' ∈ ms, IsModel n (p.endClause.clauses ++ [m.map Lit.not]) ls m') →
            ms.length ≤ count := by
        intro ms hnodup hms
        have hms' := fun m' hm' => (isModel_block_iff hmodel hmax).mp (hms m' hm')
        have := hcount (m :: ms)
          (List.nodup_cons.mpr ⟨fun hmem => (hms' m hmem).2 rfl, hnodup⟩)
          (List.forall_mem_cons.mpr ⟨hmodel, fun m' hm' => (hms' m' hm').1⟩)
        simpa using this
      obtain ⟨answers, rest, hends, hlength, hfound⟩ := ih hv rfl
        (varCountWith_block hn hmodel.vars) hfewer
      exact ⟨_, _, hnext answers rest hends, by simpa using hlength, hfound.cons hmax hmodel⟩

-- Without variables, the only model is the empty one.
theorem models_of_zero {p : Formula.Plain} (hproper : p.Proper) {ls : List Lit}
    (hzero : varCountWith 0 (p.clauses.flatten ++ ls) = 0) {ms : List (List Lit)}
    (hnodup : ms.Nodup)
    (hiff : ∀ m, m ∈ ms ↔ IsModel (varCountWith 0 (p.clauses.flatten ++ ls)) p.clauses ls m) :
    ms = [[]] := by
  have hnone : p.clauses.flatten ++ ls = [] := by
    rw [List.eq_nil_iff_forall_not_mem]
    intro l hl
    have := (varCountWith_le_iff.mp (Nat.le_of_eq hzero)).2 l hl
    have := l.var.number_pos
    omega
  obtain ⟨hflat, rfl⟩ := List.append_eq_nil_iff.mp hnone
  have hclauses : p.clauses = [] := by
    rw [List.eq_nil_iff_forall_not_mem]
    intro c hc
    exact hproper c hc (List.flatten_eq_nil_iff.mp hflat c hc)
  rw [hzero, hclauses] at hiff
  have hempty : [] ∈ ms := (hiff []).mpr ⟨rfl, by simp, by simp⟩
  have hall : ∀ m ∈ ms, m = [] := by
    intro m hm
    simpa [Var.upTo] using ((hiff m).mp hm).vars
  refine List.perm_singleton.mp ((List.perm_ext_iff_of_nodup hnodup (by simp)).mpr fun m => ?_)
  rw [List.mem_singleton]
  exact ⟨hall m, fun heq => heq ▸ hempty⟩

-- The search finds what some rounds find that come to an end.
theorem found_enumerate {e : η} (hsound : Engine.Sound e) {s : Solver η} {p : Formula.Plain}
    (h : Reached e s p) (hassumed : p.assumptions = []) {assumptions : List Int} {ls : List Lit}
    (hls : Lit.ofInts assumptions = .ok ls) (hwithin : ∀ l ∈ ls, l.var.number ≤ Engine.limit e) :
    let n := varCountWith 0 (p.endClause.clauses.flatten ++ ls)
    ∃ answers, Enumerates assumptions s answers (s.enumerate assumptions) ∧
      answers.length ≤ 2 ^ n + 1 ∧
      Found e n p.endClause.clauses ls answers (s.enumerate assumptions) := by
  intro n
  obtain ⟨answers, found, hends, hlength, hfound⟩ := exists_enumerates hsound hls hwithin (2 ^ n) h
    hassumed rfl (fun ms hnodup hms => length_le_of_isModel hnodup hms)
  have haccepted : ∀ e, found.ending ≠ .refused e := by
    intro e
    rcases hfound.ending with ⟨hending, -⟩ | ⟨hending, -⟩ <;> simp [hending]
  have hresult : s.enumerate assumptions = found := by
    obtain ⟨t, q, hassume, -, -, -, hcount⟩ := h.assumed hsound hls hwithin hassumed
    refine hends.rounds_eq haccepted ?_
    rw [hassume, hcount]
    exact hlength
  rw [hresult]
  exact ⟨answers, hends, hlength, hfound⟩

-- The search for all models of clauses under assumptions ends, after one question more than there
-- are values for the variables at most. If the engine always decides, it finds every model once.
-- If not, it ends with the first question that is not decided, and has found models only, each
-- once.
theorem enumerate_spec {e : η} (hsound : Engine.Sound e) {s : Solver η} {p : Formula.Plain}
    (h : Reached e s p) (hassumed : p.assumptions = []) {assumptions : List Int} {ls : List Lit}
    (hls : Lit.ofInts assumptions = .ok ls) (hwithin : ∀ l ∈ ls, l.var.number ≤ Engine.limit e) :
    let cs := p.endClause.clauses
    let n := varCountWith 0 (cs.flatten ++ ls)
    let result := s.enumerate assumptions
    ∃ answers, Enumerates assumptions s answers result ∧ answers.length ≤ 2 ^ n + 1 ∧
      result.models.Nodup ∧
      (∀ m ∈ result.models, IsModel n cs ls m) ∧
      (Engine.Decides e → result.ending = .complete) ∧
      (result.ending = .complete →
        .unknown ∉ answers ∧ (∀ m, m ∈ result.models ↔ IsModel n cs ls m) ∧
          (n = 0 → result.models = [[]])) ∧
      (result.ending ≠ .complete → result.ending = .stopped ∧
        answers = List.replicate result.models.length .sat ++ [.unknown]) := by
  intro cs n result
  obtain ⟨answers, hends, hlength, hfound⟩ := found_enumerate hsound h hassumed hls hwithin
  refine ⟨answers, hends, hlength, hfound.nodup, hfound.sound, fun hdecides => ?_, fun hcomplete => ?_,
    fun hstopped => ?_⟩
  · rcases hfound.ending with ⟨hcomplete, -⟩ | ⟨-, -, hundecided⟩
    · exact hcomplete
    · exact absurd hdecides hundecided
  · rcases hfound.ending with ⟨-, hanswers, hall⟩ | ⟨hstopped, -⟩
    · have hiff : ∀ m, m ∈ result.models ↔ IsModel n cs ls m := fun m => ⟨hfound.sound m, hall m⟩
      exact ⟨hanswers, hiff, fun hzero => models_of_zero h.proper.endClause hzero hfound.nodup hiff⟩
    · rw [hcomplete] at hstopped
      simp at hstopped
  · rcases hfound.ending with ⟨hcomplete, -⟩ | ⟨hending, hanswers, -⟩
    · exact absurd hcomplete hstopped
    · exact ⟨hending, hanswers⟩

-- A clause of two literals that is still open, and an assumption about a third variable.
def openSolver : Solver SearchEngine :=
  ((ofEngine {}).push ⟨.ofNumber 1, false⟩).push ⟨.ofNumber 2, false⟩

def openPlain : Formula.Plain := { openClause := [⟨.ofNumber 1, false⟩, ⟨.ofNumber 2, false⟩] }

theorem reached_openSolver : Reached {} openSolver openPlain :=
  .push _ (by decide) (.push _ (by decide) .start)

theorem enumerate_openSolver :
    Engine.Sound ({} : SearchEngine) ∧ Reached {} openSolver openPlain ∧
    (openSolver.enumerate [-3]).ending = .complete ∧
    [⟨.ofNumber 1, false⟩, ⟨.ofNumber 2, true⟩, ⟨.ofNumber 3, true⟩] ∈
      (openSolver.enumerate [-3]).models ∧
    [⟨.ofNumber 1, true⟩, ⟨.ofNumber 2, true⟩, ⟨.ofNumber 3, true⟩] ∉
      (openSolver.enumerate [-3]).models := by
  have hls : Lit.ofInts [-3] = .ok [⟨.ofNumber 3, true⟩] := rfl
  obtain ⟨answers, -, -, -, -, hcomplete, hall, -⟩ :=
    enumerate_spec SearchEngine.sound reached_openSolver rfl hls (by decide)
  have hending := hcomplete SearchEngine.decides
  obtain ⟨-, hiff, -⟩ := hall hending
  refine ⟨SearchEngine.sound, reached_openSolver, hending, (hiff _).mpr (by decide),
    mt (hiff _).mp (by decide)⟩

end SatFrontend.Solver

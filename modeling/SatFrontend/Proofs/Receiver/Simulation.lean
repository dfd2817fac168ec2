import SatFrontend.Receiver

namespace SatFrontend

-- The variables of the literals that numbers name. A number too large for any literal names
-- none.
def Lit.numbers (ns : List Int) : List Nat := (ns.map Int.natAbs).filter (· ≤ Var.maxCount)

theorem Lit.number_mem_numbers {l : Lit} {ns : List Int} (h : l.toInt ∈ ns) :
    l.var.number ∈ Lit.numbers ns := by
  rw [← l.natAbs_toInt]
  refine List.mem_filter.mpr ⟨List.mem_map_of_mem h, ?_⟩
  simpa only [l.natAbs_toInt, decide_eq_true_eq] using l.var.number_le

theorem Lit.map_toInt_of_ofInts {ns : List Int} {ls : List Lit} (h : Lit.ofInts ns = .ok ls) :
    ls.map Lit.toInt = ns := by
  induction ns generalizing ls with
  | nil => cases h; rfl
  | cons n ns ih =>
    simp only [Lit.ofInts] at h
    cases hl : Lit.ofInt n with
    | error e => simp [hl, bind, Except.bind] at h
    | ok l =>
      cases hls : Lit.ofInts ns with
      | error e => simp [hl, hls, bind, Except.bind] at h
      | ok rest =>
        simp only [hl, hls, bind, Except.bind] at h
        obtain rfl := Except.ok.inj h
        rw [List.map_cons, ih hls, Lit.toInt_of_ofInt hl]

namespace Receiver

-- Two sides do something with related results, or refuse it for the same reason.
inductive Agree {ε σ τ : Type} (Related : σ → τ → Prop) : Except ε σ → Except ε τ → Prop
  | ok {s : σ} {t : τ} (h : Related s t) : Agree Related (.ok s) (.ok t)
  | error (e : ε) : Agree Related (.error e) (.error e)

section Run

variable {ε α σ τ : Type} {Related : σ → τ → Prop}

-- Both sides stop at the same place.
theorem runAll_related {f : σ → α → Except ε σ} {g : τ → α → Except ε τ} {as : List α}
    (hstep : ∀ a ∈ as, ∀ s t, Related s t → Agree Related (f s a) (g t a)) {s : σ} {t : τ}
    (h : Related s t) :
    Related (runAll f s as).1 (runAll g t as).1 ∧ (runAll f s as).2 = (runAll g t as).2 := by
  induction as generalizing s t with
  | nil => exact ⟨h, rfl⟩
  | cons a as ih =>
    have hagree := hstep a List.mem_cons_self s t h
    have hrest := fun a ha => hstep a (List.mem_cons_of_mem _ ha)
    simp only [runAll]
    generalize f s a = x at hagree
    generalize g t a = y at hagree
    cases hagree with
    | ok h' => exact ih hrest h'
    | error e => exact ⟨h, rfl⟩

end Run

variable {σ τ : Type} [Receiver σ] [Receiver τ]

-- Two limits are the same, or neither of them gets in the way of some variables.
def Near (ns : List Nat) (s : σ) (t : τ) : Prop :=
  limit s = limit t ∨ ∀ n ∈ ns, n ≤ limit s ∧ n ≤ limit t

section Accept

variable {ns : List Int} {s : σ} {t : τ}

theorem accept_eq (h : Near (Lit.numbers ns) s t) {l : Lit} (hl : l.toInt ∈ ns) :
    accept s l = accept t l := by
  unfold accept
  rcases h with heq | hall
  · rw [heq]
  · obtain ⟨hs, ht⟩ := hall _ (Lit.number_mem_numbers hl)
    rw [if_pos hs, if_pos ht]

theorem number_le_of_accept {l m : Lit} (h : accept s l = .ok m) :
    m = l ∧ l.var.number ≤ limit s := by
  unfold accept at h
  split at h
  · rename_i hle
    exact ⟨(Except.ok.inj h).symm, hle⟩
  · simp at h

theorem acceptNumber_eq (h : Near (Lit.numbers ns) s t) {n : Int} (hn : n ∈ ns) :
    acceptNumber s n = acceptNumber t n := by
  unfold acceptNumber
  cases hl : Lit.ofInt n with
  | error e => rfl
  | ok l => exact accept_eq h (by rwa [Lit.toInt_of_ofInt hl])

theorem of_acceptNumber {n : Int} {l : Lit} (h : acceptNumber s n = .ok l) :
    l.toInt = n ∧ l.var.number ≤ limit s := by
  unfold acceptNumber at h
  cases hl : Lit.ofInt n with
  | error e => simp [hl, bind, Except.bind] at h
  | ok m =>
    simp only [hl, bind, Except.bind] at h
    obtain ⟨rfl, hle⟩ := number_le_of_accept h
    exact ⟨Lit.toInt_of_ofInt hl, hle⟩

theorem acceptAll_eq (h : Near (Lit.numbers ns) s t) {ls : List Lit}
    (hls : ∀ l ∈ ls, l.toInt ∈ ns) : acceptAll s ls = acceptAll t ls := by
  induction ls with
  | nil => rfl
  | cons l ls ih =>
    obtain ⟨hl, hrest⟩ := List.forall_mem_cons.mp hls
    simp only [acceptAll]
    rw [accept_eq h hl, ih hrest]

theorem number_le_of_acceptAll {ls : List Lit} (h : acceptAll s ls = .ok ()) :
    ∀ l ∈ ls, l.var.number ≤ limit s := by
  induction ls with
  | nil => simp
  | cons l ls ih =>
    simp only [acceptAll] at h
    cases hl : accept s l with
    | error e => simp [hl, bind, Except.bind] at h
    | ok m =>
      simp only [hl, bind, Except.bind] at h
      exact List.forall_mem_cons.mpr ⟨(number_le_of_accept hl).2, ih h⟩

theorem acceptAll_of_within {ls : List Lit} (h : ∀ l ∈ ls, l.var.number ≤ limit s) :
    acceptAll s ls = .ok () := by
  induction ls with
  | nil => rfl
  | cons l ls ih =>
    obtain ⟨hl, hrest⟩ := List.forall_mem_cons.mp h
    have haccept : accept s l = .ok l := if_pos hl
    simp only [acceptAll, haccept, bind, Except.bind]
    exact ih hrest

theorem acceptBody_eq (h : Near (Lit.numbers ns) s t) (length position : Nat) {ms : List Int}
    (hms : ms ⊆ ns) : acceptBody s length position ms = acceptBody t length position ms := by
  induction ms generalizing position with
  | nil => rfl
  | cons m ms ih =>
    obtain ⟨hm, hrest⟩ := List.cons_subset.mp hms
    simp only [acceptBody]
    rw [acceptNumber_eq h hm, ih (position + 1) hrest]

theorem map_toInt_of_acceptBody {length position : Nat} {ms : List Int} {ls : List Lit}
    (h : acceptBody s length position ms = .ok ls) : ls.map Lit.toInt = ms := by
  induction ms generalizing position ls with
  | nil => cases h; rfl
  | cons m ms ih =>
    simp only [acceptBody] at h
    split at h
    · simp at h
    · cases hl : acceptNumber s m with
      | error e => simp [hl, bind, Except.bind] at h
      | ok l =>
        cases hls : acceptBody s length (position + 1) ms with
        | error e => simp [hl, hls, bind, Except.bind] at h
        | ok rest =>
          simp only [hl, hls, bind, Except.bind] at h
          obtain rfl := Except.ok.inj h
          rw [List.map_cons, ih hls, (of_acceptNumber hl).1]

theorem body_subset (ns : List Int) : body ns ⊆ ns := by
  unfold body
  split
  · exact List.dropLast_subset ns
  · exact List.Subset.refl ns

end Accept

-- Receivers that stay related under everything a receiver can be given. What the first one
-- lets through is allowed.
structure Simulation (Related : σ → τ → Prop) (Allowed : Lit → Prop) : Prop where
  allowed {s : σ} {t : τ} {l : Lit} (h : Related s t) (hle : l.var.number ≤ limit s) : Allowed l
  push {s : σ} {t : τ} {l : Lit} (h : Related s t) (hl : Allowed l) : Related (push s l) (push t l)
  endClause {s : σ} {t : τ} (h : Related s t) : Related (endClause s) (endClause t)
  assume {s : σ} {t : τ} {l : Lit} (h : Related s t) (hl : Allowed l) :
    Related (assume s l) (assume t l)

namespace Simulation

variable {Related : σ → τ → Prop} {Allowed : Lit → Prop} {s : σ} {t : τ} {ns : List Int}

theorem pushAll (hsim : Simulation Related Allowed) (h : Related s t) {ls : List Lit}
    (hls : ∀ l ∈ ls, Allowed l) : Related (pushAll s ls) (pushAll t ls) := by
  induction ls generalizing s t with
  | nil => exact h
  | cons l ls ih =>
    obtain ⟨hl, hrest⟩ := List.forall_mem_cons.mp hls
    exact ih (hsim.push h hl) hrest

theorem addClause (hsim : Simulation Related Allowed) (h : Related s t)
    (hnear : Near (Lit.numbers ns) s t) {ls : List Lit} (hls : ∀ l ∈ ls, l.toInt ∈ ns) :
    Agree Related (addClause s ls) (addClause t ls) := by
  unfold Receiver.addClause
  rw [← acceptAll_eq hnear hls]
  cases hall : acceptAll s ls with
  | error e => exact .error e
  | ok _ =>
    have hallowed : ∀ l ∈ ls, Allowed l := fun l hl =>
      hsim.allowed h (number_le_of_acceptAll hall l hl)
    exact .ok (hsim.endClause (hsim.pushAll (hsim.endClause h) hallowed))

theorem addNumber (hsim : Simulation Related Allowed) (h : Related s t)
    (hnear : Near (Lit.numbers ns) s t) {n : Int} (hn : n ∈ ns) :
    Agree Related (addNumber s n) (addNumber t n) := by
  unfold Receiver.addNumber
  rw [← acceptNumber_eq hnear hn]
  split
  · exact .ok (hsim.endClause h)
  · cases hl : acceptNumber s n with
    | error e => exact .error e
    | ok l => exact .ok (hsim.push h (hsim.allowed h (of_acceptNumber hl).2))

theorem addNumbers (hsim : Simulation Related Allowed) (h : Related s t) {ms : List Int}
    (hnear : Near (Lit.numbers ns) s t) (hms : ms ⊆ ns) :
    Agree Related (addNumbers s ms) (addNumbers t ms) := by
  unfold Receiver.addNumbers
  have hbody : body ms ⊆ ns := List.Subset.trans (body_subset ms) hms
  rw [← acceptBody_eq hnear ms.length 0 hbody]
  cases hls : acceptBody s ms.length 0 (body ms) with
  | error e => exact .error e
  | ok ls =>
    have hmap := map_toInt_of_acceptBody hls
    refine hsim.addClause h hnear fun l hl => hbody ?_
    rw [← hmap]
    exact List.mem_map_of_mem hl

theorem assumeNumber (hsim : Simulation Related Allowed) (h : Related s t)
    (hnear : Near (Lit.numbers ns) s t) {n : Int} (hn : n ∈ ns) :
    Agree Related (assumeNumber s n) (assumeNumber t n) := by
  unfold Receiver.assumeNumber
  rw [← acceptNumber_eq hnear hn]
  split
  · exact .error _
  · cases hl : acceptNumber s n with
    | error e => exact .error e
    | ok l => exact .ok (hsim.assume h (hsim.allowed h (of_acceptNumber hl).2))

end Simulation

-- The numbers of one thing that is added.
def Item.numbers : Item → List Int
  | number n => [n]
  | clause ns => ns

theorem Simulation.addItem {Related : σ → τ → Prop} {Allowed : Lit → Prop} {s : σ} {t : τ}
    {ns : List Int} (hsim : Simulation Related Allowed) (h : Related s t)
    (hnear : Near (Lit.numbers ns) s t) {item : Item} (hitem : item.numbers ⊆ ns) :
    Agree Related (addItem s item) (addItem t item) := by
  cases item with
  | number n => exact hsim.addNumber h hnear (hitem List.mem_cons_self)
  | clause ms => exact hsim.addNumbers h hnear hitem

-- A property of a receiver that nothing it can be given takes away.
structure Preserves (P : σ → Prop) (Allowed : Lit → Prop) : Prop where
  allowed {s : σ} {l : Lit} (h : P s) (hle : l.var.number ≤ limit s) : Allowed l
  push {s : σ} {l : Lit} (h : P s) (hl : Allowed l) : P (push s l)
  endClause {s : σ} (h : P s) : P (endClause s)
  assume {s : σ} {l : Lit} (h : P s) (hl : Allowed l) : P (assume s l)

-- A receiver with a property simulates itself.
theorem Preserves.simulation {P : σ → Prop} {Allowed : Lit → Prop} (h : Preserves P Allowed) :
    Simulation (fun s t => s = t ∧ P s) Allowed where
  allowed hs hle := h.allowed hs.2 hle
  push := by
    rintro s t l ⟨rfl, hs⟩ hl
    exact ⟨rfl, h.push hs hl⟩
  endClause := by
    rintro s t ⟨rfl, hs⟩
    exact ⟨rfl, h.endClause hs⟩
  assume := by
    rintro s t l ⟨rfl, hs⟩ hl
    exact ⟨rfl, h.assume hs hl⟩

end Receiver

end SatFrontend

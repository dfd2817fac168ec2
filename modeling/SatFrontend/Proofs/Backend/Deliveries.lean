import SatFrontend.Proofs.Backend.ModelStream

namespace SatFrontend.Backend

open Text

-- The lines of an output, each with its line feed. What comes after the last line feed is a line
-- as well.
def outputLines : List UInt8 → List (List UInt8)
  | [] => []
  | b :: bytes =>
    if b = 10 then [b] :: outputLines bytes
    else match outputLines bytes with
      | [] => [[b]]
      | line :: lines => (b :: line) :: lines

-- An output is cut after each line feed, and nowhere else.
inductive IsCut : List UInt8 → List (List UInt8) → Prop
  | nothing : IsCut [] []
  | unended {line : List UInt8} (hne : line ≠ []) (hline : 10 ∉ line) : IsCut line [line]
  | ended {line rest : List UInt8} {lines : List (List UInt8)} (hline : 10 ∉ line)
      (hrest : IsCut rest lines) : IsCut (line ++ 10 :: rest) ((line ++ [10]) :: lines)

theorem isCut_outputLines (bytes : List UInt8) : IsCut bytes (outputLines bytes) := by
  induction bytes with
  | nil => exact .nothing
  | cons b bytes ih =>
    rw [outputLines]
    split
    · rename_i hb
      subst hb
      have hended : IsCut ([] ++ 10 :: bytes) (([] ++ [10]) :: outputLines bytes) :=
        .ended List.not_mem_nil ih
      exact hended
    · rename_i hb
      generalize outputLines bytes = lines at ih
      cases ih with
      | nothing => exact .unended (by simp) (by simpa using Ne.symm hb)
      | unended hne hline => exact .unended (by simp) (by simp [Ne.symm hb, hline])
      | @ended line rest lines hline hrest =>
        have hended : IsCut (b :: line ++ 10 :: rest) ((b :: line ++ [10]) :: lines) :=
          .ended (by simp [Ne.symm hb, hline]) hrest
        exact hended

example : outputLines [49, 32, 48, 10, 10, 50] = [[49, 32, 48, 10], [10], [50]] := by decide

theorem outputLines_of_cut {bytes line rest : List UInt8}
    (h : cutLine? bytes = some (line, rest)) : outputLines bytes = line :: outputLines rest := by
  induction bytes generalizing line with
  | nil => simp [cutLine?] at h
  | cons b bytes ih =>
    rw [cutLine?] at h
    rw [outputLines]
    split at h
    · obtain ⟨rfl, rfl⟩ := Prod.mk.inj (Option.some.inj h)
      rw [if_pos ‹_›]
    · obtain ⟨⟨line', rest'⟩, hcut, heq⟩ := Option.map_eq_some_iff.mp h
      obtain ⟨rfl, rfl⟩ := Prod.mk.inj heq
      rw [if_neg ‹_›, ih hcut]

theorem outputLines_of_not_cut {bytes : List UInt8} (h : cutLine? bytes = none)
    (hne : bytes ≠ []) : outputLines bytes = [bytes] := by
  induction bytes with
  | nil => contradiction
  | cons b bytes ih =>
    rw [cutLine?] at h
    rw [outputLines]
    split at h
    · contradiction
    · rw [if_neg ‹_›]
      by_cases hbytes : bytes = []
      · rw [hbytes, outputLines]
      · rw [ih (Option.map_eq_none_iff.mp h) hbytes]

-- Reading takes the first line of the output away, or finds its end.
theorem outputLines_readLine (pending : List UInt8) (b : Behavior) :
    let r := readLine pending b
    r.behavior.exit = b.exit ∧
      outputLines (pending ++ b.output) =
        if r.line = [] then [] else r.line :: outputLines (r.pending ++ r.behavior.output) := by
  intro r
  cases hcut : cutLine? (pending ++ b.output) with
  | some cut =>
    obtain ⟨line, rest⟩ := cut
    obtain ⟨hline, hrest, hexit⟩ := readLine_of_some hcut
    refine ⟨hexit, ?_⟩
    rw [if_neg (by rw [hline]; exact ne_nil_of_cutLine? hcut), hline, hrest, outputLines_of_cut hcut]
  | none =>
    have hr : r = ⟨pending ++ b.output, [], .exits b.exit⟩ := readLine_of_none hcut
    rw [hr]
    refine ⟨rfl, ?_⟩
    split
    · rename_i hempty
      exact congrArg outputLines hempty
    · rename_i hne
      rw [outputLines_of_not_cut hcut hne]
      rfl

-- What delivers models until it comes to an end or is stopped.
class Deliverer (σ : Type) where
  state : σ → StreamState
  next : σ → Except Failure (Option (List Lit)) × σ
  list : σ → Except Failure (List (List Lit)) × σ
  cancel : σ → Except Failure Unit × σ

-- A model and the end of the models, as an iterator tells them.
def transpose {ε α : Type} : Except ε (Option α) → Option (Except ε α)
  | .ok (some a) => some (.ok a)
  | .ok none => none
  | .error e => some (.error e)

inductive Request where
  | next
  | iterate
  | list
  | cancel

inductive Outcome where
  | model (r : Except Failure (Option (List Lit)))
  | item (r : Option (Except Failure (List Lit)))
  | models (r : Except Failure (List (List Lit)))
  | stopped (r : Except Failure Unit)

section Serve

variable {σ τ : Type} [Deliverer σ] [Deliverer τ]

def Request.serve (s : σ) : Request → Outcome × σ
  | next => (.model (Deliverer.next s).1, (Deliverer.next s).2)
  | iterate => (.item (transpose (Deliverer.next s).1), (Deliverer.next s).2)
  | list => (.models (Deliverer.list s).1, (Deliverer.list s).2)
  | cancel => (.stopped (Deliverer.cancel s).1, (Deliverer.cancel s).2)

-- What some calls come to, each with the state after it.
def serveAll (s : σ) : List Request → List (Outcome × StreamState) × σ
  | [] => ([], s)
  | r :: rs =>
    let (outcome, s) := r.serve s
    let (outcomes, last) := serveAll s rs
    ((outcome, Deliverer.state s) :: outcomes, last)

-- Deliverers that answer every call the same.
structure Deliverer.Simulation (Related : σ → τ → Prop) : Prop where
  state {s : σ} {t : τ} (h : Related s t) : state s = state t
  next {s : σ} {t : τ} (h : Related s t) : (next s).1 = (next t).1 ∧ Related (next s).2 (next t).2
  list {s : σ} {t : τ} (h : Related s t) : (list s).1 = (list t).1 ∧ Related (list s).2 (list t).2
  cancel {s : σ} {t : τ} (h : Related s t) :
    (cancel s).1 = (cancel t).1 ∧ Related (cancel s).2 (cancel t).2

namespace Deliverer.Simulation

variable {Related : σ → τ → Prop} {s : σ} {t : τ}

theorem serve (hsim : Deliverer.Simulation Related) (h : Related s t) (r : Request) :
    (r.serve s).1 = (r.serve t).1 ∧ Related (r.serve s).2 (r.serve t).2 := by
  cases r with
  | next =>
    obtain ⟨heq, hrelated⟩ := hsim.next h
    exact ⟨congrArg Outcome.model heq, hrelated⟩
  | iterate =>
    obtain ⟨heq, hrelated⟩ := hsim.next h
    exact ⟨congrArg (Outcome.item ∘ transpose) heq, hrelated⟩
  | list =>
    obtain ⟨heq, hrelated⟩ := hsim.list h
    exact ⟨congrArg Outcome.models heq, hrelated⟩
  | cancel =>
    obtain ⟨heq, hrelated⟩ := hsim.cancel h
    exact ⟨congrArg Outcome.stopped heq, hrelated⟩

theorem serveAll (hsim : Deliverer.Simulation Related) (h : Related s t) (rs : List Request) :
    (serveAll s rs).1 = (serveAll t rs).1 ∧ Related (serveAll s rs).2 (serveAll t rs).2 := by
  induction rs generalizing s t with
  | nil => exact ⟨rfl, h⟩
  | cons r rs ih =>
    obtain ⟨heq, hrelated⟩ := hsim.serve h r
    obtain ⟨hrest, hlast⟩ := ih hrelated
    refine ⟨?_, hlast⟩
    simp only [Backend.serveAll, heq, hsim.state hrelated, hrest]

end Deliverer.Simulation

end Serve

-- What a call for the next model is answered with, and the state after it.
structure Delivery where
  answer : Except Failure (Option (List Lit))
  state : StreamState

-- What the end of the output is reported as.
def report (program : String) (exit : Exit) : Except Failure (Option (List Lit)) :=
  if exit.isSuccess then .ok none else .error (.exit program exit.code? "")

-- A line that is left out: there are only blanks in it, or the first character that is no blank is
-- the letter of a comment.
def IsBlankOrComment (cs : List Char) : Prop :=
  (∀ c ∈ cs, isBlank c = true) ∨ cs.find? (fun c => !isBlank c) = some 'c'

instance (cs : List Char) : Decidable (IsBlankOrComment cs) :=
  decidable_of_iff (cs.all isBlank = true ∨ cs.find? (fun c => !isBlank c) = some 'c')
    (by simp [IsBlankOrComment])

theorem isBlankOrComment_cons_of_blank {c : Char} (hc : isBlank c = true) (cs : List Char) :
    IsBlankOrComment (c :: cs) ↔ IsBlankOrComment cs := by
  simp [IsBlankOrComment, hc]

theorem isBlankOrComment_cons_of_not_blank {c : Char} (hc : isBlank c = false) (cs : List Char) :
    IsBlankOrComment (c :: cs) ↔ c = 'c' := by
  simp [IsBlankOrComment, hc]

-- These are the lines that a stream of models passes over, which looks at what is left of a line
-- without the blanks around it.
theorem isSkipped_trim_iff (cs : List Char) :
    ModelStream.isSkipped (trim cs) = true ↔ IsBlankOrComment cs := by
  induction cs with
  | nil => simp [ModelStream.isSkipped, IsBlankOrComment, trim, trimEnd]
  | cons c cs ih =>
    cases hc : isBlank c with
    | true =>
      have htrim : trim (c :: cs) = trim cs := by
        rw [trim, List.dropWhile_cons_of_pos hc, trim]
      rw [htrim, isBlankOrComment_cons_of_blank hc]
      exact ih
    | false =>
      rw [trim_cons hc, isBlankOrComment_cons_of_not_blank hc]
      simp [ModelStream.isSkipped]

-- What the lines of an output are delivered as, one after the other: blank lines and comments are
-- left out, each other line is a model or an error, and the end is reported. A line that is no text
-- is the last one that is looked at.
def deliveries (program : String) (exit : Exit) : List (List UInt8) → List Delivery
  | [] => [⟨report program exit, .exhausted⟩]
  | line :: lines =>
    match decode? line with
    | none => [⟨.error (.io .invalidData), .canceled⟩]
    | some cs =>
      if IsBlankOrComment cs then deliveries program exit lines
      else ⟨(ModelStream.model program (trim cs)).map some, .running⟩ ::
        deliveries program exit lines

section Deliveries

variable {program : String} {exit : Exit} {line : List UInt8} {lines : List (List UInt8)}
  {cs : List Char}

theorem deliveries_of_no_text (h : decode? line = none) :
    deliveries program exit (line :: lines) = [⟨.error (.io .invalidData), .canceled⟩] := by
  rw [deliveries, h]

theorem deliveries_of_skipped (h : decode? line = some cs)
    (hskipped : ModelStream.isSkipped (trim cs) = true) :
    deliveries program exit (line :: lines) = deliveries program exit lines := by
  simp only [deliveries, h]
  rw [if_pos ((isSkipped_trim_iff cs).mp hskipped)]

theorem deliveries_of_model (h : decode? line = some cs)
    (hskipped : ¬ModelStream.isSkipped (trim cs) = true) :
    deliveries program exit (line :: lines) =
      ⟨(ModelStream.model program (trim cs)).map some, .running⟩ ::
        deliveries program exit lines := by
  simp only [deliveries, h]
  rw [if_neg (mt (isSkipped_trim_iff cs).mpr hskipped)]

-- Lines that are left out need no case of their own.
theorem deliveries_induction {P : List Delivery → Prop}
    (hend : P [⟨report program exit, .exhausted⟩])
    (hstop : P [⟨.error (.io .invalidData), .canceled⟩])
    (hline : ∀ (line : List Char) (lines : List (List UInt8)), P (deliveries program exit lines) →
      P (⟨(ModelStream.model program line).map some, .running⟩ :: deliveries program exit lines))
    (lines : List (List UInt8)) : P (deliveries program exit lines) := by
  induction lines with
  | nil => exact hend
  | cons line lines ih =>
    cases hdecode : decode? line with
    | none =>
      rw [deliveries_of_no_text hdecode]
      exact hstop
    | some cs =>
      by_cases hskipped : ModelStream.isSkipped (trim cs) = true
      · rw [deliveries_of_skipped hdecode hskipped]
        exact ih
      · rw [deliveries_of_model hdecode hskipped]
        exact hline _ _ ih

end Deliveries

-- Deliveries that are handed out one after the other.
structure Queue where
  state : StreamState
  waiting : List Delivery

namespace Queue

def next (q : Queue) : Except Failure (Option (List Lit)) × Queue :=
  match q.waiting with
  | [] => (.ok none, q)
  | d :: ds => (d.answer, ⟨d.state, ds⟩)

-- All models up to the end, or the first error. What waits after that goes on waiting.
def takeAll (state : StreamState) : List Delivery → Except Failure (List (List Lit)) × Queue
  | [] => (.ok [], ⟨state, []⟩)
  | d :: ds =>
    match d.answer with
    | .ok (some m) => ((takeAll d.state ds).1.map (m :: ·), (takeAll d.state ds).2)
    | .ok none => (.ok [], ⟨d.state, ds⟩)
    | .error e => (.error e, ⟨d.state, ds⟩)

theorem takeAll_eq (q : Queue) :
    takeAll q.state q.waiting =
      match q.next with
      | (.ok (some m), q') =>
        ((takeAll q'.state q'.waiting).1.map (m :: ·), (takeAll q'.state q'.waiting).2)
      | (.ok none, q') => (.ok [], q')
      | (.error e, q') => (.error e, q') := by
  obtain ⟨state, waiting⟩ := q
  cases waiting with
  | nil => rfl
  | cons d ds =>
    obtain ⟨answer, after⟩ := d
    obtain e | _ | m := answer <;> rfl

instance : Deliverer Queue where
  state := state
  next := next
  list q := takeAll q.state q.waiting
  cancel q := (.ok (), if q.state = .running then ⟨.canceled, []⟩ else q)

end Queue

namespace ModelStream

instance : Deliverer ModelStream where
  state := state
  next := next
  list := list
  cancel s := (.ok (), s.cancel)

-- What collecting models comes to: all of them, or the first error.
def concluded (found : List (List Lit) × Option Failure × ModelStream) :
    Except Failure (List (List Lit)) :=
  match found.2.1 with
  | none => .ok found.1
  | some e => .error e

theorem list_eq (s : ModelStream) :
    s.list = (concluded (s.collect #[]), (s.collect #[]).2.2) := by
  unfold list drain concluded
  split <;> simp_all

variable {s : ModelStream} {q : Queue}

theorem cancel_of_running (hrunning : s.state = .running) :
    s.cancel = { s with state := .canceled } := by
  rw [cancel, hrunning]

theorem cancel_of_ended (hended : s.state ≠ .running) : s.cancel = s := by
  rw [cancel]
  split
  · contradiction
  · rfl

-- What waits is what the rest of the output is delivered as, and nothing after the last state.
structure Delivers (s : ModelStream) (q : Queue) : Prop where
  state : s.state = q.state
  waiting : q.waiting =
    if s.state = .running then deliveries s.program s.behavior.exit (outputLines s.remaining)
    else []

namespace Delivers

theorem waiting_of_running (h : Delivers s q) (hrunning : ¬s.state ≠ .running) :
    q.waiting = deliveries s.program s.behavior.exit (outputLines s.remaining) := by
  rw [h.waiting, if_pos (Decidable.not_not.mp hrunning)]

theorem waiting_of_ended (h : Delivers s q) (hended : s.state ≠ .running) : q.waiting = [] := by
  rw [h.waiting, if_neg hended]

theorem next (h : Delivers s q) : s.next.1 = q.next.1 ∧ Delivers s.next.2 q.next.2 := by
  fun_induction ModelStream.next s with
  | case1 s hstate =>
    rw [Queue.next, h.waiting_of_ended hstate]
    exact ⟨rfl, h⟩
  | case2 s hrunning r s₁ hline =>
    obtain ⟨hexit, hlines⟩ := outputLines_readLine s.pending s.behavior
    have hwaiting := h.waiting_of_running hrunning
    rw [remaining, hlines, if_pos hline, deliveries, ← hexit] at hwaiting
    rw [Queue.next, hwaiting, atEnd, report]
    split <;> exact ⟨rfl, rfl, rfl⟩
  | case3 s hrunning r s₁ hline hdecode =>
    obtain ⟨hexit, hlines⟩ := outputLines_readLine s.pending s.behavior
    have hwaiting := h.waiting_of_running hrunning
    rw [remaining, hlines, if_neg hline, deliveries_of_no_text hdecode] at hwaiting
    rw [Queue.next, hwaiting, cancel_of_running (s := s₁) (Decidable.not_not.mp hrunning)]
    exact ⟨rfl, rfl, rfl⟩
  | case4 s hrunning r s₁ hline cs hdecode line hskip ih =>
    obtain ⟨hexit, hlines⟩ := outputLines_readLine s.pending s.behavior
    have hwaiting := h.waiting_of_running hrunning
    rw [remaining, hlines, if_neg hline, deliveries_of_skipped hdecode hskip, ← hexit] at hwaiting
    exact ih ⟨h.state, hwaiting.trans (if_pos (Decidable.not_not.mp hrunning)).symm⟩
  | case5 s hrunning r s₁ hline cs hdecode line hskip =>
    obtain ⟨hexit, hlines⟩ := outputLines_readLine s.pending s.behavior
    have hwaiting := h.waiting_of_running hrunning
    rw [remaining, hlines, if_neg hline, deliveries_of_model hdecode hskip, ← hexit] at hwaiting
    rw [Queue.next, hwaiting]
    refine ⟨?_, Decidable.not_not.mp hrunning,
      (if_pos (Decidable.not_not.mp hrunning)).symm⟩
    cases model s.program line <;> rfl

theorem cancel (h : Delivers s q) : Delivers s.cancel (Deliverer.cancel q).2 := by
  have hq : (Deliverer.cancel q).2 = if q.state = .running then ⟨.canceled, []⟩ else q := rfl
  rw [hq, ← h.state]
  by_cases hrunning : s.state = .running
  · rw [if_pos hrunning, cancel_of_running hrunning]
    exact ⟨rfl, rfl⟩
  · rw [if_neg hrunning, cancel_of_ended hrunning]
    exact h

-- Collecting goes on as long as there are models.
theorem collect (h : Delivers s q) (found : Array (List Lit)) :
    concluded (s.collect found) = (Queue.takeAll q.state q.waiting).1.map (found.toList ++ ·) ∧
      Delivers (s.collect found).2.2 (Queue.takeAll q.state q.waiting).2 := by
  fun_induction ModelStream.collect s found generalizing q with
  | case1 s found m s' hnext ih =>
    obtain ⟨hanswer, hdelivers⟩ := h.next
    rw [hnext] at hanswer hdelivers
    obtain ⟨hconcluded, hlast⟩ := ih hdelivers
    rw [Queue.takeAll_eq, show q.next = (.ok (some m), q.next.2) from Prod.ext hanswer.symm rfl]
    refine ⟨?_, hlast⟩
    rw [hconcluded]
    dsimp only
    cases (Queue.takeAll q.next.2.state q.next.2.waiting).1 <;> simp [Except.map]
  | case2 s found s' hnext =>
    obtain ⟨hanswer, hdelivers⟩ := h.next
    rw [hnext] at hanswer hdelivers
    rw [Queue.takeAll_eq, show q.next = (.ok none, q.next.2) from Prod.ext hanswer.symm rfl]
    exact ⟨by simp [concluded, Except.map], hdelivers⟩
  | case3 s found e s' hnext =>
    obtain ⟨hanswer, hdelivers⟩ := h.next
    rw [hnext] at hanswer hdelivers
    rw [Queue.takeAll_eq, show q.next = (.error e, q.next.2) from Prod.ext hanswer.symm rfl]
    exact ⟨rfl, hdelivers⟩

end Delivers

theorem simulation_queue : Deliverer.Simulation Delivers where
  state h := h.state
  next h := h.next
  list := by
    intro s q h
    obtain ⟨hconcluded, hdelivers⟩ := h.collect #[]
    have hlist : Deliverer.list s = (concluded (s.collect #[]), (s.collect #[]).2.2) := list_eq s
    have hqueue : Deliverer.list q = Queue.takeAll q.state q.waiting := rfl
    rw [hlist, hqueue, hconcluded]
    refine ⟨?_, hdelivers⟩
    cases (Queue.takeAll q.state q.waiting).1 <;> simp [Except.map]
  cancel h := ⟨rfl, h.cancel⟩

end ModelStream

-- What a call comes to if nothing can be delivered anymore.
def Request.idle : Request → Outcome
  | next => .model (.ok none)
  | iterate => .item none
  | list => .models (.ok [])
  | cancel => .stopped (.ok ())

-- Nothing leads out of a last state.
theorem Queue.serveAll_ended {q : Queue} (hstate : q.state ≠ .running) (hempty : q.waiting = [])
    (rs : List Request) : serveAll q rs = (rs.map fun r => (r.idle, q.state), q) := by
  obtain ⟨state, waiting⟩ := q
  obtain rfl : waiting = [] := hempty
  have hserve : ∀ r : Request, r.serve (⟨state, []⟩ : Queue) = (r.idle, ⟨state, []⟩) := by
    intro r
    cases r with
    | next | iterate | list => rfl
    | cancel => exact congrArg (Prod.mk _) (if_neg hstate)
  induction rs with
  | nil => rfl
  | cons r rs ih =>
    rw [serveAll, hserve, List.map_cons]
    simp only [ih]
    rfl

theorem serveAll_append {σ : Type} [Deliverer σ] (s : σ) (rs more : List Request) :
    serveAll s (rs ++ more) =
      ((serveAll s rs).1 ++ (serveAll (serveAll s rs).2 more).1,
        (serveAll (serveAll s rs).2 more).2) := by
  induction rs generalizing s with
  | nil => rfl
  | cons r rs ih => simp only [List.cons_append, serveAll, ih]

def failureOf {α : Type} : Except Failure α → Option Failure
  | .ok _ => none
  | .error e => some e

theorem failureOf_map {α β : Type} (f : α → β) (a : Except Failure α) :
    failureOf (a.map f) = failureOf a := by
  cases a <;> rfl

def Outcome.failure? : Outcome → Option Failure
  | model r => failureOf r
  | item none => none
  | item (some r) => failureOf r
  | models r => failureOf r
  | stopped r => failureOf r

-- The program ended in a way that is told as a failure.
def IsExit : Failure → Bool
  | .exit .. => true
  | _ => false

-- What some calls tell of the way in which the program ended.
def exits (outcomes : List (Outcome × StreamState)) : List Failure :=
  (outcomes.filterMap (·.1.failure?)).filter IsExit

theorem exits_cons (outcome : Outcome) (state : StreamState)
    (outcomes : List (Outcome × StreamState)) :
    exits ((outcome, state) :: outcomes) =
      outcome.failure?.toList.filter IsExit ++ exits outcomes := by
  rw [exits, List.filterMap_cons]
  cases h : outcome.failure? with
  | none => rfl
  | some e =>
    simp only [Option.toList_some]
    rw [← List.singleton_append, List.filter_append]
    rfl

theorem exits_idle (rs : List Request) (state : StreamState) :
    exits (rs.map fun r => (r.idle, state)) = [] := by
  induction rs with
  | nil => rfl
  | cons r rs ih =>
    rw [List.map_cons, exits_cons, ih]
    cases r <;> rfl

-- A line that is no model is not taken for the end of the program.
theorem not_isExit_literals {program : String} {line : List Char} {ws : List (List Char)}
    {e : Failure} (h : ModelStream.literals program line ws = .error e) : IsExit e = false := by
  induction ws with
  | nil => cases h
  | cons w ws ih =>
    rw [ModelStream.literals] at h
    split at h
    · cases h
      rfl
    · split at h
      · split at h
        · cases h
        · cases h
          rfl
      · split at h
        · cases h
          rfl
        · cases hrest : ModelStream.literals program line ws with
          | error e' =>
            rw [hrest] at h
            cases h
            exact ih hrest
          | ok ls =>
            rw [hrest] at h
            cases h

namespace Queue

variable {program : String} {exit : Exit}

-- What can become of a queue of deliveries, with the failure that is told then.
inductive Leads (program : String) (exit : Exit) : Option Failure → Queue → Prop
  | running {e : Option Failure} {lines : List (List UInt8)} (he : ∀ e' ∈ e, IsExit e' = false) :
      Leads program exit e ⟨.running, deliveries program exit lines⟩
  | canceled {e : Option Failure} (he : ∀ e' ∈ e, IsExit e' = false) :
      Leads program exit e ⟨.canceled, []⟩
  | exhausted {e : Option Failure} (he : e = failureOf (report program exit)) :
      Leads program exit e ⟨.exhausted, []⟩

theorem leads_next (lines : List (List UInt8)) :
    let q : Queue := ⟨.running, deliveries program exit lines⟩
    Leads program exit (failureOf q.next.1) q.next.2 := by
  refine deliveries_induction
    (P := fun ds => Leads program exit (failureOf (next ⟨.running, ds⟩).1) (next ⟨.running, ds⟩).2)
    (.exhausted rfl) (.canceled (by simp [next, failureOf, IsExit])) (fun line lines _ => ?_) lines
  refine .running fun e he => ?_
  cases hmodel : ModelStream.model program line with
  | ok m => simp [next, failureOf, hmodel, Except.map] at he
  | error e' =>
    obtain rfl : e' = e := by simpa [next, failureOf, hmodel, Except.map] using he
    exact not_isExit_literals hmodel

theorem takeAll_report (program : String) (exit : Exit) :
    takeAll .running [⟨report program exit, .exhausted⟩] =
      ((report program exit).map fun _ => [], ⟨.exhausted, []⟩) := by
  unfold report
  split <;> rfl

-- Models are collected up to a line that is none.
theorem takeAll_line (x : Except Failure (List Lit)) (ds : List Delivery) :
    takeAll .running (⟨x.map some, .running⟩ :: ds) =
      match x with
      | .ok m => ((takeAll .running ds).1.map (m :: ·), (takeAll .running ds).2)
      | .error e => (.error e, ⟨.running, ds⟩) := by
  cases x <;> rfl

theorem leads_takeAll (lines : List (List UInt8)) :
    let taken := takeAll .running (deliveries program exit lines)
    Leads program exit (failureOf taken.1) taken.2 := by
  refine deliveries_induction
    (P := fun ds => Leads program exit (failureOf (takeAll .running ds).1) (takeAll .running ds).2)
    ?_ (.canceled (by simp [takeAll, failureOf, IsExit])) (fun line lines ih => ?_) lines
  · rw [takeAll_report]
    exact .exhausted (failureOf_map _ _)
  · rw [takeAll_line]
    cases hmodel : ModelStream.model program line with
    | ok m =>
      dsimp only
      rw [failureOf_map]
      exact ih
    | error e =>
      refine .running fun e' he => ?_
      obtain rfl : e = e' := by simpa [failureOf] using he
      exact not_isExit_literals hmodel

theorem leads_serve (lines : List (List UInt8)) (r : Request) :
    let served := r.serve (⟨.running, deliveries program exit lines⟩ : Queue)
    Leads program exit served.1.failure? served.2 := by
  cases r with
  | next => exact leads_next lines
  | iterate =>
    have hfailure : ∀ a : Except Failure (Option (List Lit)),
        (Outcome.item (transpose a)).failure? = failureOf a := by
      rintro (e | _ | m) <;> rfl
    simp only [Request.serve, hfailure]
    exact leads_next lines
  | list => exact leads_takeAll lines
  | cancel => exact .canceled (by simp [Request.serve, Deliverer.cancel, Outcome.failure?, failureOf])

-- That the program ended badly is told once, by the call that finds the end of the output.
theorem exits_serveAll (lines : List (List UInt8)) (rs : List Request) :
    let served := serveAll (⟨.running, deliveries program exit lines⟩ : Queue) rs
    exits served.1 =
      if served.2.state = .exhausted ∧ exit.isSuccess = false then [.exit program exit.code? ""]
      else [] := by
  induction rs generalizing lines with
  | nil => rfl
  | cons r rs ih =>
    obtain ⟨outcome, q, hserve⟩ :
        ∃ outcome q, r.serve (⟨.running, deliveries program exit lines⟩ : Queue) = (outcome, q) :=
      ⟨_, _, rfl⟩
    have hleads : Leads program exit outcome.failure? q := by
      have hserved := @leads_serve program exit lines r
      rwa [hserve] at hserved
    have hquiet : ∀ o : Option Failure, (∀ e ∈ o, IsExit e = false) →
        o.toList.filter IsExit = [] := by
      rintro (_ | e) ho
      · rfl
      · simp [ho e rfl]
    simp only [serveAll, hserve, exits_cons]
    cases hleads with
    | running he => rw [hquiet _ he, ih, List.nil_append]
    | canceled he =>
      rw [hquiet _ he, serveAll_ended (by simp) rfl, exits_idle]
      simp
    | exhausted he =>
      rw [serveAll_ended (by simp) rfl, exits_idle, he, report]
      cases hsuccess : exit.isSuccess <;> simp [failureOf, IsExit]

end Queue

end SatFrontend.Backend

import SatFrontend.Proofs.Backend.Deliveries

namespace SatFrontend.Backend

open Text

-- What is done in the end with a program that was started.
inductive Upkeep where
  | kill
  | wait
  | close
deriving DecidableEq

-- A program that prints models, with what is held of it: the process, which ends as it does if it
-- is let, and its output, from which bytes were taken in for lines that are not read yet.
structure Custody where
  program : String
  state : StreamState
  child : Option Exit
  output : Option (List UInt8 × Behavior)
  -- what was done with the process and its output so far
  upkeep : List Upkeep := []

namespace Custody

-- Wait for the process, if it is still held, and close its output.
def finish (c : Custody) (state : StreamState) : Except Failure Unit × Custody :=
  let waited := if c.child.isSome then [Upkeep.wait] else []
  let closed := if c.output.isSome then [Upkeep.close] else []
  let c' := { c with state, child := none, output := none, upkeep := c.upkeep ++ waited ++ closed }
  match c.child with
  | none => (.ok (), c')
  | some exit =>
    if state = .exhausted ∧ exit.isSuccess = false then
      (.error (.exit c.program exit.code? ""), c')
    else (.ok (), c')

-- Kill the process, if it is still held, and then wait for it.
def cancel (c : Custody) : Except Failure Unit × Custody :=
  if c.state ≠ .running then (.ok (), c)
  else
    let killed := if c.child.isSome then [Upkeep.kill] else []
    { c with upkeep := c.upkeep ++ killed }.finish .canceled

-- Go on with an answer if what was done before did not fail.
def andThen {α : Type} (done : Except Failure Unit × Custody) (a : Except Failure α) :
    Except Failure α × Custody :=
  match done with
  | (.ok (), c) => (a, c)
  | (.error e, c) => (.error e, c)

-- The bytes that have not been read yet.
def unread (c : Custody) : Nat :=
  match c.output with
  | some (pending, b) => pending.length + b.output.length
  | none => 0

theorem unread_readLine_lt {c : Custody} {pending : List UInt8} {b : Behavior}
    (houtput : c.output = some (pending, b)) (h : (readLine pending b).line ≠ []) :
    unread { c with output := some ((readLine pending b).pending, (readLine pending b).behavior) } <
      c.unread := by
  have happend := congrArg List.length (append_readLine pending b)
  have hpos := List.length_pos_iff.mpr h
  simp only [List.length_append] at happend
  simp only [unread, houtput]
  omega

-- Lines are read until one is not left out. At the end of the output, or without one, the process
-- is waited for, and after a line that is no text it is killed first.
def next (c : Custody) : Except Failure (Option (List Lit)) × Custody :=
  if c.state ≠ .running then (.ok none, c)
  else
    match _houtput : c.output with
    | none => andThen (c.finish .exhausted) (.ok none)
    | some (pending, b) =>
      let r := readLine pending b
      let c' := { c with output := some (r.pending, r.behavior) }
      if _h : r.line = [] then andThen (c'.finish .exhausted) (.ok none)
      else
        match decode? r.line with
        | none => andThen c'.cancel (.error (.io .invalidData))
        | some cs =>
          if IsBlankOrComment cs then next c'
          else ((ModelStream.model c.program (trim cs)).map some, c')
termination_by c.unread
decreasing_by exact unread_readLine_lt _houtput _h

theorem ok_andThen {done : Except Failure Unit × Custody} {m : List Lit} {c : Custody}
    {a : Except Failure (Option (List Lit))} (h : andThen done a = (.ok (some m), c)) :
    a = .ok (some m) := by
  unfold andThen at h
  split at h
  · exact congrArg Prod.fst h
  · cases h

theorem unread_next_lt {c c' : Custody} {m : List Lit} (h : c.next = (.ok (some m), c')) :
    c'.unread < c.unread := by
  fun_induction next c with
  | case1 c hstate => cases h
  | case2 c hstate houtput => cases ok_andThen h
  | case3 c hstate pending b houtput r c₁ hline => cases ok_andThen h
  | case4 c hstate pending b houtput r c₁ hline hdecode => cases ok_andThen h
  | case5 c hstate pending b houtput r c₁ hline cs hdecode hskip ih =>
    exact Nat.lt_trans (ih h) (unread_readLine_lt houtput hline)
  | case6 c hstate pending b houtput r c₁ hline cs hdecode hskip =>
    obtain ⟨-, rfl⟩ := Prod.mk.inj h
    exact unread_readLine_lt houtput hline

-- All models that are still to come, after those collected before.
def collect (c : Custody) (models : Array (List Lit)) : Except Failure (List (List Lit)) × Custody :=
  match _h : c.next with
  | (.ok (some m), c') => c'.collect (models.push m)
  | (.ok none, c') => (.ok models.toList, c')
  | (.error e, c') => (.error e, c')
termination_by c.unread
decreasing_by exact unread_next_lt _h

instance : Deliverer Custody where
  state := state
  next := next
  list c := c.collect #[]
  cancel := cancel

-- What is held along with a stream of models: the process and its output as long as the stream
-- runs, and nothing afterwards.
def ofStream (s : ModelStream) : Custody :=
  match s.state with
  | .running => ⟨s.program, .running, some s.behavior.exit, some (s.pending, s.behavior), []⟩
  | .exhausted => ⟨s.program, .exhausted, none, none, [.wait, .close]⟩
  | .canceled => ⟨s.program, .canceled, none, none, [.kill, .wait, .close]⟩

variable {s : ModelStream}

theorem state_ofStream (s : ModelStream) : (ofStream s).state = s.state := by
  unfold ofStream
  split <;> simp_all

theorem ofStream_of_running (h : s.state = .running) :
    ofStream s =
      ⟨s.program, .running, some s.behavior.exit, some (s.pending, s.behavior), []⟩ := by
  rw [ofStream, h]

theorem cancel_ofStream (s : ModelStream) : (ofStream s).cancel = (.ok (), ofStream s.cancel) := by
  by_cases hrunning : s.state = .running
  · rw [ofStream_of_running hrunning, ModelStream.cancel_of_running hrunning]
    rfl
  · rw [cancel, state_ofStream, if_pos hrunning, ModelStream.cancel_of_ended hrunning]

theorem ended_ofStream (hrunning : s.state = .running) :
    andThen ((ofStream s).finish .exhausted) (.ok none) =
      ((s.atEnd s.behavior.exit).1, ofStream (s.atEnd s.behavior.exit).2) := by
  have hend : ofStream { s with state := .exhausted } =
      ⟨s.program, .exhausted, none, none, [.wait, .close]⟩ := rfl
  rw [ofStream_of_running hrunning, ModelStream.atEnd]
  cases hsuccess : s.behavior.exit.isSuccess with
  | true => simp [finish, andThen, hsuccess, hend]
  | false => simp [finish, andThen, hsuccess, hend]

-- A line is read from the output that is held, like it is read in the stream.
theorem next_of_running (hrunning : s.state = .running) :
    let r := readLine s.pending s.behavior
    let s' := { s with pending := r.pending, behavior := r.behavior }
    (ofStream s).next =
      if r.line = [] then andThen ((ofStream s').finish .exhausted) (.ok none)
      else
        match decode? r.line with
        | none => andThen (ofStream s').cancel (.error (.io .invalidData))
        | some cs =>
          if IsBlankOrComment cs then (ofStream s').next
          else ((ModelStream.model s.program (trim cs)).map some, ofStream s') := by
  intro r s'
  have hexit : r.behavior.exit = s.behavior.exit :=
    (outputLines_readLine s.pending s.behavior).1
  have hs' : ofStream s' =
      ⟨s.program, .running, some s.behavior.exit, some (r.pending, r.behavior), []⟩ := by
    rw [ofStream_of_running (s := s') hrunning, hexit]
  rw [hs', next, ofStream_of_running hrunning, if_neg (by simp)]
  rfl

theorem next_ofStream (s : ModelStream) :
    (ofStream s).next = (s.next.1, ofStream s.next.2) := by
  fun_induction ModelStream.next s with
  | case1 s hstate => rw [next, state_ofStream, if_pos hstate]
  | case2 s hrunning r s₁ hline =>
    rw [next_of_running (Decidable.not_not.mp hrunning), if_pos hline]
    exact ended_ofStream (s := s₁) (Decidable.not_not.mp hrunning)
  | case3 s hrunning r s₁ hline hdecode =>
    rw [next_of_running (Decidable.not_not.mp hrunning), if_neg hline, hdecode]
    exact congrArg (andThen · _) (cancel_ofStream s₁)
  | case4 s hrunning r s₁ hline cs hdecode line hskip ih =>
    rw [next_of_running (Decidable.not_not.mp hrunning), if_neg hline, hdecode]
    exact (if_pos ((isSkipped_trim_iff cs).mp hskip)).trans ih
  | case5 s hrunning r s₁ hline cs hdecode line hskip =>
    rw [next_of_running (Decidable.not_not.mp hrunning), if_neg hline, hdecode]
    refine (if_neg (mt (isSkipped_trim_iff cs).mpr hskip)).trans ?_
    rw [show ModelStream.model s.program (trim cs) = ModelStream.model s.program line from rfl]
    cases ModelStream.model s.program line <;> rfl

theorem collect_ofStream (s : ModelStream) (found : Array (List Lit)) :
    (ofStream s).collect found =
      (ModelStream.concluded (s.collect found), ofStream (s.collect found).2.2) := by
  fun_induction ModelStream.collect s found with
  | case1 s found m s' hnext ih =>
    rw [collect, next_ofStream, hnext]
    exact ih
  | case2 s found s' hnext =>
    rw [collect, next_ofStream, hnext]
    rfl
  | case3 s found e s' hnext =>
    rw [collect, next_ofStream, hnext]
    rfl

theorem simulation_ofStream :
    Deliverer.Simulation (fun (c : Custody) (s : ModelStream) => c = ofStream s) where
  state := by
    rintro c s rfl
    exact state_ofStream s
  next := by
    rintro c s rfl
    exact Prod.ext_iff.mp (next_ofStream s)
  list := by
    rintro c s rfl
    have hlist : Deliverer.list s =
        (ModelStream.concluded (s.collect #[]), (s.collect #[]).2.2) := ModelStream.list_eq s
    rw [hlist]
    exact Prod.ext_iff.mp (collect_ofStream s #[])
  cancel := by
    rintro c s rfl
    exact Prod.ext_iff.mp (cancel_ofStream s)

end Custody

-- Whatever a program prints, and however it ends, calls for its models take its output in line by
-- line. Each line that is not left out is delivered once, as a model or as an error, in order, and
-- after the last line, or a line that is no text, nothing is delivered anymore. The way in which the
-- program ended is told once if it is a failure. As long as the stream runs, the process and the
-- output are held. At the end of the output the process is waited for, and if the stream is
-- stopped, the process is killed and waited for, each of it once.
theorem serveAll_output (program : String) (b : Behavior) (requests : List Request) :
    let stream : ModelStream := ⟨program, .running, [], b⟩
    let custody : Custody := ⟨program, .running, some b.exit, some ([], b), []⟩
    let queue : Queue := ⟨.running, deliveries program b.exit (outputLines b.output)⟩
    let served := serveAll stream requests
    let kept := serveAll custody requests
    IsCut b.output (outputLines b.output) ∧
    (served.1 = (serveAll queue requests).1 ∧ served.1 = kept.1) ∧
    (kept.2.state = served.2.state ∧
      match served.2.state with
      | .running => kept.2.child.isSome ∧ kept.2.output.isSome ∧ kept.2.upkeep = []
      | .exhausted => kept.2.child = none ∧ kept.2.output = none ∧ kept.2.upkeep = [.wait, .close]
      | .canceled =>
        kept.2.child = none ∧ kept.2.output = none ∧ kept.2.upkeep = [.kill, .wait, .close]) ∧
    (served.2.state ≠ .running → ∀ more, (serveAll stream (requests ++ more)).1 =
      served.1 ++ more.map fun r => (r.idle, served.2.state)) ∧
    exits served.1 =
      if served.2.state = .exhausted ∧ b.exit.isSuccess = false then
        [.exit program b.exit.code? ""]
      else [] := by
  intro stream custody queue served kept
  have hdelivers : stream.Delivers queue := ⟨rfl, rfl⟩
  obtain ⟨houtcomes, hlast⟩ := ModelStream.simulation_queue.serveAll hdelivers requests
  obtain ⟨hsame, hkept⟩ := Custody.simulation_ofStream.serveAll
    (show custody = Custody.ofStream stream from rfl) requests
  have hkept : kept.2 = Custody.ofStream served.2 := hkept
  have hstate : (serveAll queue requests).2.state = served.2.state := hlast.state.symm
  refine ⟨isCut_outputLines b.output, ⟨houtcomes, hsame.symm⟩, ⟨?_, ?_⟩, fun hended more => ?_, ?_⟩
  · rw [hkept]
    exact Custody.state_ofStream _
  · rw [hkept, Custody.ofStream]
    cases served.2.state <;> simp
  · obtain ⟨hmore, -⟩ := ModelStream.simulation_queue.serveAll hdelivers (requests ++ more)
    rw [hmore, serveAll_append, ← houtcomes,
      Queue.serveAll_ended (by rwa [hstate]) (hlast.waiting_of_ended hended), hstate]
  · rw [show served.1 = _ from houtcomes, ← hstate]
    exact Queue.exits_serveAll (outputLines b.output) requests

end SatFrontend.Backend

import SatFrontend.Backend.Batch

namespace SatFrontend.Backend

-- Whether more models can come. The last two stay for good.
inductive StreamState where
  | running
  | exhausted
  | canceled
deriving DecidableEq, Repr

-- The models that a program prints, one in a line. Lines are read only when they are asked
-- for.
structure ModelStream where
  program : String
  state : StreamState
  -- bytes that were printed and belong to lines not read yet
  pending : List UInt8
  -- what the program is going to do
  behavior : Behavior

-- Cut the first line off, with its line feed. There is none without a line feed.
def cutLine? : List UInt8 → Option (List UInt8 × List UInt8)
  | [] => none
  | b :: bytes =>
    if b = 10 then some ([b], bytes)
    else (cutLine? bytes).map (fun (line, rest) => (b :: line, rest))

theorem append_of_cutLine? {bytes line rest : List UInt8}
    (h : cutLine? bytes = some (line, rest)) : line ++ rest = bytes := by
  induction bytes generalizing line with
  | nil => simp [cutLine?] at h
  | cons b bytes ih =>
    unfold cutLine? at h
    split at h
    · obtain ⟨rfl, rfl⟩ := Prod.mk.inj (Option.some.inj h)
      rfl
    · obtain ⟨⟨line', rest'⟩, hcut, heq⟩ := Option.map_eq_some_iff.mp h
      obtain ⟨rfl, rfl⟩ := Prod.mk.inj heq
      simp [ih hcut]

theorem ne_nil_of_cutLine? {bytes line rest : List UInt8}
    (h : cutLine? bytes = some (line, rest)) : line ≠ [] := by
  cases bytes with
  | nil => simp [cutLine?] at h
  | cons b bytes =>
    unfold cutLine? at h
    split at h
    · obtain ⟨rfl, rfl⟩ := Prod.mk.inj (Option.some.inj h)
      simp
    · obtain ⟨⟨line', rest'⟩, -, heq⟩ := Option.map_eq_some_iff.mp h
      obtain ⟨rfl, rfl⟩ := Prod.mk.inj heq
      simp

-- What the next line is read from: the line, the bytes after it, and what the program does
-- from there on. The line is empty only at the end of the output.
structure LineRead where
  line : List UInt8
  pending : List UInt8
  behavior : Behavior

-- Wait until a line is complete or the output ends.
def readLine (pending : List UInt8) : Behavior → LineRead
  | .exits e =>
    match cutLine? pending with
    | some (line, rest) => ⟨line, rest, .exits e⟩
    | none => ⟨pending, [], .exits e⟩
  | .prints bytes rest =>
    match cutLine? pending with
    | some (line, pending) => ⟨line, pending, .prints bytes rest⟩
    | none => readLine (pending ++ bytes) (rest ())
  | .complains bytes rest =>
    match cutLine? pending with
    | some (line, pending) => ⟨line, pending, .complains bytes rest⟩
    | none => readLine pending (rest ())

-- Reading a line only moves what the program prints.
theorem append_readLine (pending : List UInt8) (b : Behavior) :
    (readLine pending b).line ++ (readLine pending b).pending ++
      (readLine pending b).behavior.output = pending ++ b.output := by
  induction b generalizing pending with
  | exits e =>
    unfold readLine
    split
    · rename_i h
      simp [append_of_cutLine? h]
    · simp
  | prints bytes rest ih =>
    unfold readLine
    split
    · rename_i h
      simp [append_of_cutLine? h]
    · simp [ih, Behavior.output]
  | complains bytes rest ih =>
    unfold readLine
    split
    · rename_i h
      simp [append_of_cutLine? h]
    · simp [ih, Behavior.output]

namespace ModelStream

-- The literals of a model line. A 0 may stand at its end and nowhere else.
def literals (program : String) (line : List Char) : List (List Char) →
    Except Failure (List Lit)
  | [] => .ok []
  | w :: ws =>
    match Text.integer? w with
    | none => .error (.output program (.invalidLiteral (String.ofList w)))
    | some n =>
      if n = 0 then
        if ws.isEmpty then .ok []
        else .error (.output program (.innerTerminator (String.ofList line)))
      else match Lit.ofInt n with
        | .error e => .error (.entry e)
        | .ok l => (literals program line ws).map (l :: ·)

def model (program : String) (line : List Char) : Except Failure (List Lit) :=
  literals program line (Text.words line)

-- Blank lines and comments are no models.
def isSkipped (line : List Char) : Bool := line.isEmpty || line.head? == some 'c'

-- Start on a formula under assumptions. The whole formula is written before anything is
-- read.
def startAssuming (host : Host) (command : Command) (f : Formula) (assumptions : List Lit) :
    List Notice × Except Failure ModelStream :=
  let begun := [.enumerating command.program f.size]
  let feed := Text.encode (Dimacs.sendLines (feedOf f assumptions))
  match host.start command feed with
  | .error e => (begun, .error (.start command.program e))
  | .ok behavior =>
    (begun, .ok { program := command.program, state := .running, pending := [], behavior })

-- Start on a formula and its pending assumptions, which are spent whatever comes of it.
def start (host : Host) (command : Command) (f : Formula) :
    Formula × List Notice × Except Failure ModelStream :=
  let (assumptions, f) := f.close.takeAssumptions
  (f, startAssuming host command f assumptions)

-- Stop the program. This does nothing if it is not running anymore.
def cancel (s : ModelStream) : ModelStream :=
  match s.state with
  | .running => { s with state := .canceled }
  | _ => s

-- The end of the output is the end of the models only if the program ended well.
def atEnd (s : ModelStream) (exit : Exit) : Except Failure (Option (List Lit)) × ModelStream :=
  let s := { s with state := .exhausted }
  if exit.isSuccess then (.ok none, s)
  else (.error (.exit s.program exit.code? ""), s)

-- The bytes that have not been read yet.
def unread (s : ModelStream) : Nat := s.pending.length + s.behavior.output.length

-- Reading a line leaves less to read, if there was a line.
theorem unread_readLine_lt (s : ModelStream) (h : (readLine s.pending s.behavior).line ≠ []) :
    ModelStream.unread { s with
      pending := (readLine s.pending s.behavior).pending
      behavior := (readLine s.pending s.behavior).behavior } < s.unread := by
  have happend := congrArg List.length (append_readLine s.pending s.behavior)
  have hpos := List.length_pos_iff.mpr h
  simp only [List.length_append] at happend
  simp only [unread]
  omega

-- Wait for the next model. There is none after the end of the output, and none after the
-- program was stopped. A line that is no model is an error of its own, and the next call
-- goes on after it.
def next (s : ModelStream) : Except Failure (Option (List Lit)) × ModelStream :=
  if s.state ≠ .running then (.ok none, s)
  else
    let r := readLine s.pending s.behavior
    let s' := { s with pending := r.pending, behavior := r.behavior }
    if _h : r.line = [] then s'.atEnd r.behavior.exit
    else
      match Text.decode? r.line with
      | none => (.error (.io .invalidData), s'.cancel)
      | some cs =>
        let line := Text.trim cs
        if isSkipped line then next s' else (model s.program line, s')
termination_by s.unread
decreasing_by exact unread_readLine_lt s _h

-- Each model that is delivered leaves less to read.
theorem unread_next_lt {s s' : ModelStream} {m : List Lit} (h : s.next = (.ok (some m), s')) :
    s'.unread < s.unread := by
  fun_induction next s with
  | case1 s hstate => simp at h
  | case2 s hstate r s₁ hline =>
    simp only [atEnd] at h
    split at h <;> simp at h
  | case3 s hstate r s₁ hline hdecode => simp at h
  | case4 s hstate r s₁ hline cs hdecode line hskip ih =>
    exact Nat.lt_trans (ih h) (unread_readLine_lt s hline)
  | case5 s hstate r s₁ hline cs hdecode line hskip =>
    obtain ⟨-, rfl⟩ := Prod.mk.inj h
    exact unread_readLine_lt s hline

-- What is still to come, after the models collected before: models up to the end or up to the
-- first error.
def collect (s : ModelStream) (models : Array (List Lit)) :
    List (List Lit) × Option Failure × ModelStream :=
  match _h : s.next with
  | (.ok (some m), s') => s'.collect (models.push m)
  | (.ok none, s') => (models.toList, none, s')
  | (.error e, s') => (models.toList, some e, s')
termination_by s.unread
decreasing_by exact unread_next_lt _h

-- The models that are still to come, up to the end or up to the first error.
def drain (s : ModelStream) : List (List Lit) × Option Failure × ModelStream :=
  s.collect #[]

-- All models that are still to come, or the first error.
def list (s : ModelStream) : Except Failure (List (List Lit)) × ModelStream :=
  match s.drain with
  | (models, none, s) => (.ok models, s)
  | (_, some e, s) => (.error e, s)

end ModelStream

end SatFrontend.Backend

import SatFrontend.Dimacs.Source

namespace SatFrontend.Dimacs

-- A reader that goes on, and has not read a number above the limit.
def Mode.Within (limit : Nat) : Mode → Prop
  | .digits _ value => value ≤ limit
  | .failed => False
  | _ => True

theorem Mode.Within.ne_failed {limit : Nat} {mode : Mode} (h : mode.Within limit) :
    mode ≠ .failed := by
  rintro rfl
  exact h

-- The comparison that is made of a number and one more digit.
theorem toNat_sub_le_nine {b : UInt8} (h : isDigit b = true) : b.toNat - 48 ≤ 9 := by
  simp only [isDigit, Bool.and_eq_true, decide_eq_true_eq, UInt8.le_iff_toNat_le] at h
  have : (57 : UInt8).toNat = 57 := rfl
  omega

-- The limit check compares without computing the larger number.
theorem exceeds_iff {limit value digit : Nat} (h : digit ≤ 9) :
    exceeds limit value digit = true ↔ limit < value * 10 + digit := by
  simp only [exceeds, decide_eq_true_eq]
  split <;> omega

namespace Reader

-- All that a reader can do at once: change its mode, take in the literal that it has read, or
-- take in a problem line. It does not fail by itself, and no number that it reads passes the
-- limit.
inductive Outcome (limit : Nat) (r : Reader) : Reader × Option Event → Prop
  | move (mode : Mode) (hmode : mode.Within limit) : Outcome limit r ({ r with mode := mode }, none)
  | literal (mode : Mode) (hmode : mode.Within limit) (negative : Bool) (value : Nat)
      (hread : r.mode = .digits negative value) :
      Outcome limit r
        (({ r with mode := mode }.finishLiteral negative value).1,
          some ({ r with mode := mode }.finishLiteral negative value).2)
  | problem (mode : Mode) (hmode : mode.Within limit) (text : List UInt8) :
      Outcome limit r ({ r with mode := mode }.finishProblem text)

-- Only line feeds count lines.
theorem line_countLine (r : Reader) (b : UInt8) :
    (r.countLine b).line = r.line + if b = 10 then 1 else 0 := by
  unfold countLine
  split <;> rfl

-- A digit is accepted exactly if the number does not pass the limit with it.
theorem digit_eq_ok_iff {limit : Nat} {r out : Reader} {negative : Bool} {value : Nat} {b : UInt8}
    (hb : isDigit b = true) :
    r.digit limit negative value b = .ok out ↔
      value * 10 + (b.toNat - 48) ≤ limit ∧
        out = { r with mode := .digits negative (value * 10 + (b.toNat - 48)) } := by
  have hiff : exceeds limit value (b.toNat - 48) = true ↔ limit < value * 10 + (b.toNat - 48) :=
    exceeds_iff (toNat_sub_le_nine hb)
  unfold digit
  by_cases hexceeds : exceeds limit value (b.toNat - 48) = true
  · have := hiff.mp hexceeds
    simp only [hexceeds]
    constructor
    · intro h
      simp at h
    · intro h
      omega
  · have := mt hiff.mpr hexceeds
    simp only [hexceeds]
    constructor
    · intro h
      exact ⟨by omega, (Except.ok.inj h).symm⟩
    · rintro ⟨-, rfl⟩
      rfl

theorem digit_outcome {limit : Nat} {r : Reader} {negative : Bool} {value : Nat} {b : UInt8}
    {out : Reader × Option Event} (hb : isDigit b = true)
    (h : (r.digit limit negative value b).map (·, none) = .ok out) : Outcome limit r out := by
  cases hdigit : r.digit limit negative value b with
  | error e => simp [hdigit, Except.map] at h
  | ok r' =>
    obtain ⟨hle, rfl⟩ := (digit_eq_ok_iff hb).mp hdigit
    rw [hdigit] at h
    obtain rfl := Except.ok.inj h
    exact .move _ hle

theorem blank_outcome {limit : Nat} {r : Reader} {b : UInt8} {fresh : Bool}
    {out : Reader × Option Event} (hmode : r.mode = .blank fresh)
    (h : r.step limit b = .ok out) : Outcome limit (r.countLine b) out := by
  have hcount : (r.countLine b).mode = .blank fresh := by
    rw [← hmode]
    unfold countLine
    split <;> rfl
  simp only [step, hcount] at h
  split at h
  · rename_i hb
    exact digit_outcome hb h
  split at h
  · obtain rfl := Except.ok.inj h
    exact .move _ trivial
  split at h
  · obtain rfl := Except.ok.inj h
    have hsame : r.countLine b = { r.countLine b with mode := .blank fresh } := by rw [← hcount]
    rw [hsame]
    exact .move _ trivial
  split at h
  · obtain rfl := Except.ok.inj h
    exact .move _ trivial
  split at h
  · obtain rfl := Except.ok.inj h
    exact .move _ trivial
  split at h
  · obtain rfl := Except.ok.inj h
    exact .move _ trivial
  · simp at h

theorem step_outcome {limit : Nat} {r : Reader} {b : UInt8} {out : Reader × Option Event}
    (h : r.step limit b = .ok out) : Outcome limit (r.countLine b) out := by
  have hcount : (r.countLine b).mode = r.mode := by
    unfold countLine
    split <;> rfl
  cases hmode : r.mode with
  | blank fresh => exact blank_outcome hmode h
  | sign =>
    simp only [step, hcount, hmode] at h
    split at h
    · rename_i hb
      exact digit_outcome hb h
    · simp at h
  | digits negative value =>
    simp only [step, hcount, hmode] at h
    split at h
    · rename_i hb
      exact digit_outcome hb h
    split at h
    · obtain rfl := Except.ok.inj h
      exact .literal (.blank (isLineEnd b)) trivial _ _ (hcount.trans hmode)
    · simp at h
  | comment =>
    simp only [step, hcount, hmode] at h
    obtain rfl := Except.ok.inj h
    refine .move _ ?_
    split <;> trivial
  | problem text =>
    simp only [step, hcount, hmode] at h
    split at h
    · obtain rfl := Except.ok.inj h
      exact .problem (.blank true) trivial _
    · obtain rfl := Except.ok.inj h
      exact .move _ trivial
  | failed =>
    simp only [step, hcount, hmode] at h
    simp at h

theorem finish_outcome (limit : Nat) {r : Reader} {out : Reader × Option Event}
    (h : r.finish = .ok out) : Outcome limit r out := by
  unfold finish at h
  split at h
  · simp at h
  · simp at h
  · obtain rfl := Except.ok.inj h
    exact .problem .comment trivial _
  · rename_i hmode
    obtain rfl := Except.ok.inj h
    exact .literal (.blank false) trivial _ _ hmode
  · rename_i hmode
    obtain rfl := Except.ok.inj h
    have hsame : r = { r with mode := r.mode } := rfl
    rw [hsame]
    refine .move _ ?_
    rw [hmode]
    trivial
  · rename_i hmode
    obtain rfl := Except.ok.inj h
    have hsame : r = { r with mode := r.mode } := rfl
    rw [hsame]
    refine .move _ ?_
    rw [hmode]
    trivial

namespace Outcome

variable {limit : Nat} {r : Reader} {out : Reader × Option Event}

theorem mode_within (h : Outcome limit r out) : out.1.mode.Within limit := by
  cases h with
  | move mode hmode => exact hmode
  | literal mode hmode negative value hread =>
    unfold finishLiteral
    split <;> exact hmode
  | problem mode hmode text =>
    unfold finishProblem
    dsimp only
    split <;> exact hmode

theorem line_eq (h : Outcome limit r out) : out.1.line = r.line := by
  cases h with
  | move mode hmode => rfl
  | literal mode hmode negative value hread =>
    unfold finishLiteral
    split <;> rfl
  | problem mode hmode text =>
    unfold finishProblem
    dsimp only
    split <;> rfl

end Outcome

end Reader

namespace Scan

variable {limit : Nat}

-- An error stays, whatever follows it.
theorem foldl_step_of_error {s : Scan} (h : s.error.isSome = true) (bytes : List UInt8) :
    bytes.foldl (step limit) s = s := by
  induction bytes with
  | nil => rfl
  | cons b bytes ih => rw [List.foldl_cons, step, if_pos h, ih]

theorem foldl_step_after_error (s : Scan) (e : SyntaxError) (bytes : List UInt8) :
    bytes.foldl (step limit) (s.after (.error e)) = s.after (.error e) :=
  foldl_step_of_error rfl bytes

theorem step_eq_after (limit : Nat) {s : Scan} (h : s.error = none) (b : UInt8) :
    s.step limit b = s.after (s.reader.step limit b) := by
  simp [step, h]

theorem after_ok {s : Scan} (h : s.error = none) (out : Reader × Option Event) :
    (s.after (.ok out)).error = none ∧ (s.after (.ok out)).reader = out.1 ∧
      (s.after (.ok out)).events.toList = s.events.toList ++ out.2.toList := by
  obtain ⟨r', event⟩ := out
  cases event <;> simp [after, h]

-- What a scan has seen before it only carries along.
theorem foldl_step_eq {s : Scan} (h : s.error = none) (bytes : List UInt8) :
    let scan := bytes.foldl (step limit) { reader := s.reader }
    bytes.foldl (step limit) s =
      { reader := scan.reader, events := s.events ++ scan.events, error := scan.error } := by
  induction bytes generalizing s with
  | nil => cases s; simp_all
  | cons b bytes ih =>
    simp only [List.foldl_cons]
    rw [step_eq_after limit h, step_eq_after limit (s := { reader := s.reader }) rfl]
    cases hout : s.reader.step limit b with
    | error e =>
      rw [foldl_step_after_error, foldl_step_after_error]
      simp [after]
    | ok out =>
      obtain ⟨r', event⟩ := out
      cases event with
      | none => exact ih h
      | some event =>
        have hright := ih (s := { reader := r', events := #[event] }) rfl
        have hleft := ih (s := { s with reader := r', events := s.events.push event }) h
        simp only [after, List.push_toArray, List.nil_append] at hleft hright ⊢
        rw [hleft, hright]
        simp only [Array.push_eq_append, Array.append_assoc]

theorem mode_foldl_step (limit : Nat) {s : Scan} (hs : s.error = none) (hmode : s.reader.mode ≠ .failed)
    {bytes : List UInt8} (h : (bytes.foldl (step limit) s).error = none) :
    (bytes.foldl (step limit) s).reader.mode ≠ .failed := by
  induction bytes generalizing s with
  | nil => exact hmode
  | cons b bytes ih =>
    rw [List.foldl_cons, step_eq_after limit hs] at h ⊢
    cases hout : s.reader.step limit b with
    | error e =>
      rw [hout, foldl_step_after_error] at h
      simp [after] at h
    | ok out =>
      obtain ⟨herror, hreader, -⟩ := after_ok hs out
      rw [hout] at h
      refine ih herror ?_ h
      rw [hreader]
      exact (Reader.step_outcome hout).mode_within.ne_failed

theorem line_foldl_step {s : Scan} (hs : s.error = none) {bytes : List UInt8}
    (h : (bytes.foldl (step limit) s).error = none) :
    (bytes.foldl (step limit) s).reader.line = s.reader.line + bytes.count 10 := by
  induction bytes generalizing s with
  | nil => rfl
  | cons b bytes ih =>
    rw [List.foldl_cons, step_eq_after limit hs] at h ⊢
    cases hout : s.reader.step limit b with
    | error e =>
      rw [hout, foldl_step_after_error] at h
      simp [after] at h
    | ok out =>
      obtain ⟨herror, hreader, -⟩ := after_ok hs out
      rw [hout] at h
      rw [ih herror h, hreader, (Reader.step_outcome hout).line_eq, Reader.line_countLine,
        List.count_cons]
      simp only [beq_iff_eq]
      omega

end Scan

namespace Reader

variable {limit : Nat}

theorem line_feedEnd {r : Reader} (h : r.feedEnd.error = none) :
    r.feedEnd.reader.line = r.line := by
  unfold feedEnd at h ⊢
  cases hout : r.finish with
  | error e => simp [hout, Scan.after] at h
  | ok out =>
    rw [(Scan.after_ok rfl out).2.1]
    exact (finish_outcome 0 hout).line_eq

theorem feed_eq {r : Reader} (h : r.mode ≠ .failed) (bytes : List UInt8) :
    r.feed limit bytes = bytes.foldl (Scan.step limit) { reader := r } := by
  rw [feed, if_neg h]

-- A text can be cut in two: the second piece is read where the first one ends.
theorem feed_append {r : Reader} (h : r.mode ≠ .failed) {xs : List UInt8}
    (hxs : (r.feed limit xs).error = none) (ys : List UInt8) :
    (r.feed limit xs).reader.mode ≠ .failed ∧
    r.feed limit (xs ++ ys) =
      { reader := ((r.feed limit xs).reader.feed limit ys).reader
        events := (r.feed limit xs).events ++ ((r.feed limit xs).reader.feed limit ys).events
        error := ((r.feed limit xs).reader.feed limit ys).error } := by
  rw [feed_eq h] at hxs ⊢
  have hmode := Scan.mode_foldl_step limit (s := { reader := r }) rfl h hxs
  refine ⟨hmode, ?_⟩
  rw [feed_eq h, feed_eq hmode, List.foldl_append]
  exact Scan.foldl_step_eq hxs ys

theorem feed_append_of_error {r : Reader} (h : r.mode ≠ .failed) {xs : List UInt8}
    (hxs : (r.feed limit xs).error.isSome = true) (ys : List UInt8) :
    r.feed limit (xs ++ ys) = r.feed limit xs := by
  rw [feed_eq h] at hxs ⊢
  rw [feed_eq h, List.foldl_append, Scan.foldl_step_of_error hxs]

end Reader

-- A stream hands out the bytes of a text in nonempty pieces of any sizes and does not break.
structure Supply.Delivers (supply : Supply) (bytes : List UInt8) : Prop where
  failure : supply.failure = none
  nonempty : [] ∉ supply.pieces
  flatten : supply.pieces.flatten = bytes

theorem Supply.delivers_ofBytes {bytes : List UInt8} (h : bytes ≠ []) :
    (Supply.ofBytes bytes).Delivers bytes where
  failure := rfl
  nonempty := by simpa [Supply.ofBytes] using h
  flatten := by simp [Supply.ofBytes]

section Pieces

variable {σ : Type} [Receiver σ]

theorem limit_forward (hkeep : ∀ (s : σ) (e : Event), Receiver.limit (e.forward s) = Receiver.limit s)
    (s : σ) (scan : Scan) : Receiver.limit (scan.forward s) = Receiver.limit s := by
  unfold Scan.forward
  rw [← Array.foldl_toList]
  generalize scan.events.toList = events
  induction events generalizing s with
  | nil => rfl
  | cons e events ih => rw [List.foldl_cons, ih, hkeep]

theorem forward_append (s : σ) (r : Reader) (xs ys : Array Event) (error : Option SyntaxError) :
    Scan.forward s { reader := r, events := xs ++ ys, error } =
      ys.foldl Event.forward (xs.foldl Event.forward s) := by
  simp [Scan.forward]

theorem notices_append (r : Reader) (xs ys : Array Event) (error : Option SyntaxError) :
    Scan.notices { reader := r, events := xs ++ ys, error } =
      xs.toList.filterMap Event.notice? ++ ys.toList.filterMap Event.notice? := by
  simp [Scan.notices]

-- What the pieces of a stream come to for a receiver whose limit stays the same is what their
-- bytes at once come to, and then the end or the failure of the stream.
theorem readPieces_eq
    (hkeep : ∀ (s : σ) (e : Event), Receiver.limit (e.forward s) = Receiver.limit s)
    {r : Reader} (hmode : r.mode ≠ .failed) (failure : Option IoError) (s : σ)
    (notices : List Notice) {pieces : List (List UInt8)} (hne : [] ∉ pieces) :
    let scan := r.feed (Receiver.limit s) pieces.flatten
    readPieces failure r s notices pieces =
      match scan.error with
      | some e =>
        { receiver := scan.forward s
          notices := notices ++ scan.notices
          error := some (.malformed e)
          reader := scan.reader }
      | none => readPieces failure scan.reader (scan.forward s) (notices ++ scan.notices) [] := by
  induction pieces generalizing r s notices with
  | nil =>
    have hfeed : r.feed (Receiver.limit s) [] = { reader := r } := Reader.feed_eq hmode []
    simp [hfeed, Scan.forward, Scan.notices]
  | cons piece pieces ih =>
    obtain ⟨hpiece, hpieces⟩ := not_or.mp (mt List.mem_cons.mpr hne)
    obtain ⟨b, rest, rfl⟩ := List.exists_cons_of_ne_nil (Ne.symm hpiece)
    intro scan
    simp only [readPieces]
    cases herror : (r.feed (Receiver.limit s) (b :: rest)).error with
    | some e =>
      have happend : scan = r.feed (Receiver.limit s) (b :: rest) :=
        Reader.feed_append_of_error hmode (by rw [herror]; rfl) pieces.flatten
      simp only [happend, herror]
    | none =>
      obtain ⟨hmode', happend⟩ := Reader.feed_append hmode herror pieces.flatten
      have hlimit := limit_forward hkeep s (r.feed (Receiver.limit s) (b :: rest))
      have hscan : scan = _ := happend
      simp only
      rw [ih hmode' _ _ hpieces, hlimit, hscan]
      simp only [forward_append, notices_append, List.append_assoc]
      rfl

theorem readText_of_delivers
    (hkeep : ∀ (s : σ) (e : Event), Receiver.limit (e.forward s) = Receiver.limit s)
    {supply : Supply} {bytes : List UInt8} (h : supply.Delivers bytes) (s : σ) :
    readText supply s = readText (.ofBytes bytes) s := by
  have hdelivered := readPieces_eq hkeep (r := {}) (by simp) none s [] h.nonempty
  rw [h.flatten] at hdelivered
  rw [readText, h.failure, hdelivered]
  cases bytes with
  | nil => rfl
  | cons b bytes =>
    have hwhole : (Supply.ofBytes (b :: bytes)).Delivers (b :: bytes) :=
      Supply.delivers_ofBytes (by simp)
    have hpieces := readPieces_eq hkeep (r := {}) (by simp) none s [] hwhole.nonempty
    rw [hwhole.flatten] at hpieces
    exact hpieces.symm

theorem readEnd_of_ok {r : Reader} (h : r.feedEnd.error = none) (s : σ) (notices : List Notice) :
    (readEnd r s notices).error = none ∧
      (readEnd r s notices).receiver = r.feedEnd.forward s ∧
      (readEnd r s notices).reader = r.feedEnd.reader := by
  simp [readEnd, h]

theorem receiver_readEnd (r : Reader) (s : σ) (notices : List Notice) :
    (readEnd r s notices).receiver = r.feedEnd.forward s := by
  cases h : r.feedEnd.error <;> simp [readEnd, h]

-- A text that is taken in to its end is handed to the receiver by its events.
theorem readText_ofBytes_of_ok (s : σ) (bytes : List UInt8) :
    let scan := ({} : Reader).feed (Receiver.limit s) bytes
    let last := scan.reader.feedEnd
    scan.error = none → last.error = none →
      (readText (.ofBytes bytes) s).error = none ∧
      (readText (.ofBytes bytes) s).receiver = last.forward (scan.forward s) ∧
      (readText (.ofBytes bytes) s).reader = last.reader := by
  intro scan last hscan hlast
  cases bytes with
  | nil => exact readEnd_of_ok hlast s []
  | cons b bytes =>
    have hfeed : (({} : Reader).feed (Receiver.limit s) (b :: bytes)).error = none := hscan
    simp only [readText, Supply.ofBytes, readPieces, hfeed]
    exact readEnd_of_ok hlast _ _

-- However reading ends, the receiver is handed events.
theorem exists_events_readPieces (failure : Option IoError) (r : Reader) (s : σ)
    (notices : List Notice) (pieces : List (List UInt8)) :
    ∃ events : List Event,
      (readPieces failure r s notices pieces).receiver = events.foldl Event.forward s := by
  have hend : ∀ (r : Reader) (s : σ) (notices : List Notice), ∃ events : List Event,
      (readEnd r s notices).receiver = events.foldl Event.forward s := by
    intro r s notices
    exact ⟨r.feedEnd.events.toList, by rw [receiver_readEnd]; simp [Scan.forward]⟩
  induction pieces generalizing r s notices with
  | nil =>
    cases failure with
    | none => exact hend r s notices
    | some e => exact ⟨[], rfl⟩
  | cons piece pieces ih =>
    cases piece with
    | nil => exact hend r s notices
    | cons b piece =>
      simp only [readPieces]
      cases (r.feed (Receiver.limit s) (b :: piece)).error with
      | some e =>
        exact ⟨(r.feed (Receiver.limit s) (b :: piece)).events.toList, by simp [Scan.forward]⟩
      | none =>
        obtain ⟨events, hevents⟩ := ih (r.feed (Receiver.limit s) (b :: piece)).reader
          ((r.feed (Receiver.limit s) (b :: piece)).forward s)
          (notices ++ (r.feed (Receiver.limit s) (b :: piece)).notices)
        refine ⟨(r.feed (Receiver.limit s) (b :: piece)).events.toList ++ events, ?_⟩
        rw [List.foldl_append]
        simpa [Scan.forward] using hevents

end Pieces

end SatFrontend.Dimacs

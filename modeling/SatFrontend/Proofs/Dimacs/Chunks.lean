import SatFrontend.Proofs.Dimacs.Acceptance

namespace SatFrontend.Dimacs

open Receiver

-- What came of a text that was given in chunks: the receiver, the reader, everything that was seen
-- in order, and the first error.
structure Intake (σ : Type) where
  receiver : σ
  reader : Reader
  events : List Event
  error : Option SyntaxError

-- One thing that a reader can be given.
inductive Portion where
  | chunk (bytes : List UInt8)
  | ending

def Portion.scan (limit : Nat) (r : Reader) : Portion → Scan
  | chunk bytes => r.feed limit bytes
  | ending => r.feedEnd

section Receiver

variable {σ : Type} [Receiver σ]

def Intake.ofScan (s : σ) (scan : Scan) : Intake σ :=
  ⟨scan.forward s, scan.reader, scan.events.toList, scan.error⟩

-- The same with events that were seen before.
def Intake.after (events : Array Event) (x : Intake σ) : Intake σ :=
  { x with events := events.toList ++ x.events }

-- Give chunks to a reader up to the first error, and then the end of the text if there was none.
-- Each chunk is held against the limit that the receiver has by then.
def intake (r : Reader) (s : σ) : List (List UInt8) → Intake σ
  | [] => .ofScan s r.feedEnd
  | chunk :: chunks =>
    let scan := r.feed (limit s) chunk
    match scan.error with
    | some _ => .ofScan s scan
    | none => (intake scan.reader (scan.forward s) chunks).after scan.events

-- Give one portion after the other, whatever comes of it.
def serve (r : Reader) (s : σ) : List Portion → List Scan × σ
  | [] => ([], s)
  | portion :: portions =>
    let scan := portion.scan (limit s) r
    let rest := serve scan.reader (scan.forward s) portions
    (scan :: rest.1, rest.2)

end Receiver

section Failed

variable {limit : Nat} {r : Reader}

theorem mode_foldl_step_of_error {s : Scan} (hs : s.error.isSome = true → s.reader.mode = .failed)
    {bytes : List UInt8} (h : (bytes.foldl (Scan.step limit) s).error.isSome = true) :
    (bytes.foldl (Scan.step limit) s).reader.mode = .failed := by
  induction bytes generalizing s with
  | nil => exact hs h
  | cons b bytes ih =>
    rw [List.foldl_cons] at h ⊢
    refine ih (fun herror => ?_) h
    cases hnone : s.error with
    | some e =>
      have hsome : s.error.isSome = true := by simp [hnone]
      rw [Scan.step, if_pos hsome]
      exact hs hsome
    | none =>
      rw [Scan.step_eq_after limit hnone] at herror ⊢
      cases hout : s.reader.step limit b with
      | error e => rfl
      | ok out =>
        rw [hout, (Scan.after_ok hnone out).1] at herror
        simp at herror

-- Every error is for good.
theorem Portion.mode_of_error {portion : Portion}
    (h : (portion.scan limit r).error.isSome = true) :
    (portion.scan limit r).reader.mode = .failed := by
  cases portion with
  | chunk bytes =>
    by_cases hfailed : r.mode = .failed
    · simp only [scan, Reader.feed, if_pos hfailed]
      exact hfailed
    · simp only [scan, Reader.feed_eq hfailed] at h ⊢
      exact mode_foldl_step_of_error (by simp) h
  | ending =>
    simp only [scan, Reader.feedEnd] at h ⊢
    cases hout : r.finish with
    | error e => rfl
    | ok out =>
      rw [hout, (Scan.after_ok rfl out).1] at h
      simp at h

theorem Portion.scan_of_failed (hfailed : r.mode = .failed) (portion : Portion) :
    portion.scan limit r = { reader := r, error := some .afterError } := by
  cases portion with
  | chunk bytes => simp only [scan, Reader.feed, if_pos hfailed]
  | ending =>
    have hfinish : r.finish = .error .afterError := by simp only [Reader.finish, hfailed]
    have hsame : { r with mode := .failed } = r := by rw [← hfailed]
    simp only [scan, Reader.feedEnd, hfinish, Scan.after, hsame]

theorem serve_of_failed {σ : Type} [Receiver σ] (hfailed : r.mode = .failed) (s : σ)
    (portions : List Portion) :
    serve r s portions = (portions.map fun _ => { reader := r, error := some .afterError }, s) := by
  induction portions with
  | nil => rfl
  | cons portion portions ih =>
    have hforward : Scan.forward s { reader := r, error := some .afterError } = s := rfl
    simp only [serve, Portion.scan_of_failed hfailed, hforward, ih, List.map_cons]

end Failed

section Unfinished

variable {limit : Nat} {r : Reader} {b : UInt8}

-- A token and a problem line end at a blank or at the end of a line, so nothing is seen at any
-- other byte.
theorem step_event_eq_none (hspace : isSpace b = false) (hend : isLineEnd b = false)
    {out : Reader × Option Event} (h : r.step limit b = .ok out) : out.2 = none := by
  have hdigit : ∀ (negative : Bool) (value : Nat),
      ((r.countLine b).digit limit negative value b).map (·, none) = .ok out → out.2 = none := by
    intro negative value hmap
    cases hout : (r.countLine b).digit limit negative value b with
    | error e => simp [hout, Except.map] at hmap
    | ok r' =>
      rw [hout] at hmap
      obtain rfl := Except.ok.inj hmap
      rfl
  unfold Reader.step at h
  simp only [countLine_mode, hspace, hend, Bool.false_or, Bool.false_eq_true, if_false] at h
  cases hmode : r.mode with
  | failed => simp [hmode] at h
  | comment =>
    simp only [hmode] at h
    obtain rfl := Except.ok.inj h
    rfl
  | problem text =>
    simp only [hmode] at h
    obtain rfl := Except.ok.inj h
    rfl
  | sign =>
    simp only [hmode] at h
    split at h
    · exact hdigit _ _ h
    · simp at h
  | digits negative value =>
    simp only [hmode] at h
    split at h
    · exact hdigit _ _ h
    · simp at h
  | blank fresh =>
    simp only [hmode] at h
    split at h
    · exact hdigit _ _ h
    split at h
    · obtain rfl := Except.ok.inj h
      rfl
    split at h
    · obtain rfl := Except.ok.inj h
      rfl
    split at h
    · obtain rfl := Except.ok.inj h
      rfl
    · simp at h

theorem events_foldl_step {s : Scan} {bytes : List UInt8}
    (h : ∀ b ∈ bytes, isSpace b = false ∧ isLineEnd b = false) :
    (bytes.foldl (Scan.step limit) s).events = s.events := by
  induction bytes generalizing s with
  | nil => rfl
  | cons b bytes ih =>
    obtain ⟨⟨hspace, hend⟩, hrest⟩ := List.forall_mem_cons.mp h
    rw [List.foldl_cons, ih hrest]
    cases herror : s.error with
    | some e => rw [Scan.step, if_pos (by simp [herror])]
    | none =>
      rw [Scan.step_eq_after limit herror]
      cases hout : s.reader.step limit b with
      | error e => rfl
      | ok out =>
        obtain ⟨r', event⟩ := out
        obtain rfl : event = none := step_event_eq_none hspace hend hout
        rfl

-- A token that is cut short by the end of the bytes is not handed on.
theorem feed_append_events (hmode : r.mode ≠ .failed) (bytes : List UInt8) {cut : List UInt8}
    (hcut : ∀ b ∈ cut, isSpace b = false ∧ isLineEnd b = false) :
    (r.feed limit (bytes ++ cut)).events = (r.feed limit bytes).events := by
  rw [Reader.feed_eq hmode, Reader.feed_eq hmode, List.foldl_append]
  exact events_foldl_step hcut

end Unfinished

section Chunks

variable {σ : Type} [Receiver σ]
  (hsteady : ∀ (s : σ) (e : Event), limit (e.forward s) = limit s)

include hsteady

-- An induction on the chunks. Before each of them the reader is the one that all chunks before it
-- at once lead to.
theorem intake_eq_flatten {r : Reader} (hmode : r.mode ≠ .failed) (s : σ)
    (chunks : List (List UInt8)) : intake r s chunks = intake r s [chunks.flatten] := by
  induction chunks generalizing r s with
  | nil =>
    have hfeed : r.feed (limit s) [] = { reader := r } := Reader.feed_eq hmode []
    simp [intake, hfeed, Scan.forward, Intake.after]
  | cons chunk chunks ih =>
    simp only [List.flatten_cons, intake]
    cases herror : (r.feed (limit s) chunk).error with
    | some e =>
      have happend := Reader.feed_append_of_error hmode (by rw [herror]; rfl) chunks.flatten
      simp only [happend, herror]
    | none =>
      obtain ⟨hmode', happend⟩ := Reader.feed_append hmode herror chunks.flatten
      have hlimit := limit_forward hsteady s (r.feed (limit s) chunk)
      rw [ih hmode', happend]
      simp only [intake, hlimit]
      cases hnext : ((r.feed (limit s) chunk).reader.feed (limit s) chunks.flatten).error with
      | some e =>
        simp only [Intake.after, Intake.ofScan, forward_append, Array.toList_append, hnext]
        rfl
      | none =>
        simp only [Intake.after, Intake.ofScan, forward_append, Array.toList_append,
          List.append_assoc]
        rfl

-- What is not a syntax error of the bytes leaves the failure of the stream that hands them out.
theorem readText_of_failure {pieces : List (List UInt8)} (hne : [] ∉ pieces) (e : IoError) (s : σ)
    (hok : (({} : Reader).feed (limit s) pieces.flatten).error = none) :
    let scan := ({} : Reader).feed (limit s) pieces.flatten
    readText ⟨pieces, some e⟩ s =
      { receiver := scan.forward s
        notices := scan.notices
        error := some (.io e)
        reader := scan.reader } := by
  have hpieces := readPieces_eq hsteady (r := {}) (by simp) (some e) s [] hne
  simp only [hok, List.nil_append] at hpieces
  exact hpieces

-- Where a text is cut into chunks makes no difference to a receiver whose limit stays the same: in
-- every cut the same is seen in the same order, up to the same first error. After an error each
-- further portion is refused and nothing is handed on. A stream comes to the same however its bytes
-- are handed out in pieces. If it breaks after bytes without a syntax error, the receiver holds
-- exactly what they hand on by themselves, and a token without a blank after it is not part of that.
theorem intake_chunks (s : σ) (bytes : List UInt8) :
    let scan := ({} : Reader).feed (limit s) bytes
    (∀ chunks : List (List UInt8), chunks.flatten = bytes →
      intake {} s chunks = intake {} s [bytes]) ∧
    (∀ (r : Reader) (t : σ) (portion : Portion),
      let refused := portion.scan (limit t) r
      refused.error.isSome = true → ∀ later : List Portion,
        serve r t (portion :: later) =
          (refused :: later.map fun _ => { reader := refused.reader, error := some .afterError },
            refused.forward t)) ∧
    (∀ supply supply' : Supply, [] ∉ supply.pieces → [] ∉ supply'.pieces →
      supply.pieces.flatten = bytes → supply'.pieces.flatten = bytes →
      supply.failure = supply'.failure → readText supply s = readText supply' s) ∧
    (∀ (pieces : List (List UInt8)) (e : IoError), [] ∉ pieces → pieces.flatten = bytes →
      scan.error = none →
      readText ⟨pieces, some e⟩ s =
        { receiver := scan.forward s
          notices := scan.notices
          error := some (.io e)
          reader := scan.reader }) ∧
    ∀ whole cut : List UInt8, bytes = whole ++ cut →
      (∀ b ∈ cut, isSpace b = false ∧ isLineEnd b = false) →
      scan.events = (({} : Reader).feed (limit s) whole).events := by
  intro scan
  have hmode : ({} : Reader).mode ≠ .failed := by simp
  refine ⟨?_, ?_, ?_, ?_, ?_⟩
  · rintro chunks rfl
    exact intake_eq_flatten hsteady hmode s chunks
  · intro r t portion refused herror later
    rw [serve, serve_of_failed (Portion.mode_of_error herror)]
  · rintro ⟨pieces, failure⟩ ⟨pieces', failure'⟩ hne hne' hbytes hbytes' rfl
    have hleft := readPieces_eq hsteady hmode failure s [] hne
    have hright := readPieces_eq hsteady hmode failure s [] hne'
    rw [hbytes] at hleft
    rw [hbytes'] at hright
    exact hleft.trans hright.symm
  · rintro pieces e hne rfl hok
    exact readText_of_failure hsteady hne e s hok
  · rintro whole cut rfl hcut
    exact feed_append_events hmode whole hcut

end Chunks

theorem limit_forward_limited (s : LimitedFormula) (e : Event) :
    limit (e.forward s) = limit s := by
  cases e <;> rfl

-- A comment, a clause, and a literal above the limit of 9, cut inside of each of them.
def sampleChunks : List (List UInt8) :=
  [[99], [32, 120, 10, 51, 32, 45], [], [52, 32, 48, 10, 45, 49], [50]]

theorem intake_sampleChunks :
    (∀ (s : LimitedFormula) (e : Event), limit (e.forward s) = limit s) ∧
    (let s : LimitedFormula := { limit := 9 }
    intake {} s sampleChunks = intake {} s [sampleChunks.flatten] ∧
      (intake {} s sampleChunks).error = some (.literalTooLarge 3 1 2) ∧
      (readText ⟨[[51], [32, 45], [52]], some .other⟩ s).error = some (.io .other) ∧
      (readText ⟨[[51], [32, 45], [52]], some .other⟩ s).receiver.formula.openClause =
        [⟨.ofNumber 3, false⟩]) := by
  refine ⟨limit_forward_limited, ?_⟩
  intro s
  obtain ⟨hchunks, -⟩ := intake_chunks limit_forward_limited s sampleChunks.flatten
  obtain ⟨-, -, -, hbreaks, -⟩ := intake_chunks limit_forward_limited s [51, 32, 45, 52]
  refine ⟨hchunks sampleChunks rfl, by decide, ?_, ?_⟩
  · rw [hbreaks [[51], [32, 45], [52]] .other (by decide) rfl (by decide)]
  · rw [hbreaks [[51], [32, 45], [52]] .other (by decide) rfl (by decide)]
    decide

end SatFrontend.Dimacs

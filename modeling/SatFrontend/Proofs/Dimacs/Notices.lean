import SatFrontend.Proofs.Dimacs.Progress
import SatFrontend.Proofs.Text.Lines

namespace SatFrontend.Dimacs

-- The problem line that is being read has not ended yet.
def Mode.OneLine : Mode → Prop
  | .problem text => 10 ∉ text
  | _ => True

def Event.OneLine : Event → Prop
  | .malformedHeader _ text => Text.OneLine text
  | _ => True

structure Scan.OneLine (s : Scan) : Prop where
  mode : s.reader.mode.OneLine
  events : ∀ e ∈ s.events.toList, e.OneLine

namespace Reader

theorem finishProblem_oneLine (r : Reader) {text : List UInt8} (htext : 10 ∉ text)
    (hmode : r.mode.OneLine) :
    (r.finishProblem text).1.mode.OneLine ∧ ∀ e ∈ (r.finishProblem text).2, e.OneLine := by
  have hline : '\n' ∉ Text.decodeLossy text.reverse :=
    Text.lineFeed_not_mem_decodeLossy (by simpa using htext)
  unfold finishProblem
  dsimp only
  split
  · exact ⟨hmode, by simp⟩
  · refine ⟨hmode, ?_⟩
    rintro e ⟨rfl⟩
    simpa [Event.OneLine, Text.OneLine] using hline

theorem finishLiteral_oneLine (r : Reader) (negative : Bool) (value : Nat)
    (hmode : r.mode.OneLine) :
    (r.finishLiteral negative value).1.mode.OneLine ∧
      (r.finishLiteral negative value).2.OneLine := by
  unfold finishLiteral
  split <;> exact ⟨hmode, trivial⟩

theorem digit_oneLine {limit : Nat} {r : Reader} {negative : Bool} {value : Nat} {b : UInt8}
    {out : Reader × Option Event}
    (h : (r.digit limit negative value b).map (·, none) = .ok out) :
    out.1.mode.OneLine ∧ ∀ e ∈ out.2, e.OneLine := by
  unfold digit at h
  dsimp only at h
  split at h
  · simp [Except.map] at h
  · obtain rfl := Except.ok.inj h
    exact ⟨trivial, by simp⟩

-- Only a problem line is kept as text, and every byte that ends lines ends it.
theorem step_oneLine {limit : Nat} {r : Reader} {b : UInt8} {out : Reader × Option Event}
    (hmode : r.mode.OneLine) (h : r.step limit b = .ok out) :
    out.1.mode.OneLine ∧ ∀ e ∈ out.2, e.OneLine := by
  have hcount : (r.countLine b).mode = r.mode := by
    unfold countLine
    split <;> rfl
  unfold step at h
  dsimp only at h
  rw [hcount] at h
  split at h
  · simp at h
  · obtain rfl := Except.ok.inj h
    dsimp only
    split <;> exact ⟨trivial, by simp⟩
  · rename_i text heq
    rw [heq] at hmode
    split at h
    · obtain rfl := Except.ok.inj h
      exact finishProblem_oneLine _ hmode trivial
    · rename_i hb
      obtain rfl := Except.ok.inj h
      have hne : 10 ≠ b := by
        rintro rfl
        exact hb rfl
      exact ⟨by simpa [Mode.OneLine, hne] using hmode, by simp⟩
  · rename_i fresh heq
    split at h
    · exact digit_oneLine h
    split at h
    · obtain rfl := Except.ok.inj h
      exact ⟨trivial, by simp⟩
    split at h
    · obtain rfl := Except.ok.inj h
      exact ⟨by rw [hcount, heq]; trivial, by simp⟩
    split at h
    · obtain rfl := Except.ok.inj h
      exact ⟨trivial, by simp⟩
    split at h
    · obtain rfl := Except.ok.inj h
      exact ⟨trivial, by simp⟩
    split at h
    · obtain rfl := Except.ok.inj h
      exact ⟨by simp [Mode.OneLine], by simp⟩
    · simp at h
  · split at h
    · exact digit_oneLine h
    · simp at h
  · split at h
    · exact digit_oneLine h
    split at h
    · obtain rfl := Except.ok.inj h
      obtain ⟨hmode', hevent⟩ := finishLiteral_oneLine
        { r.countLine b with mode := .blank (isLineEnd b) } _ _ trivial
      exact ⟨hmode', by simpa using hevent⟩
    · simp at h

theorem finish_oneLine {r : Reader} {out : Reader × Option Event} (hmode : r.mode.OneLine)
    (h : r.finish = .ok out) : out.1.mode.OneLine ∧ ∀ e ∈ out.2, e.OneLine := by
  unfold finish at h
  split at h
  · simp at h
  · simp at h
  · rename_i text heq
    rw [heq] at hmode
    obtain rfl := Except.ok.inj h
    exact finishProblem_oneLine _ hmode trivial
  · obtain rfl := Except.ok.inj h
    obtain ⟨hmode', hevent⟩ := finishLiteral_oneLine { r with mode := .blank false } _ _ trivial
    refine ⟨hmode', fun e he => ?_⟩
    obtain rfl := Option.some.inj he
    exact hevent
  · obtain rfl := Except.ok.inj h
    exact ⟨hmode, by simp⟩
  · obtain rfl := Except.ok.inj h
    exact ⟨hmode, by simp⟩

end Reader

namespace Scan

theorem OneLine.after {s : Scan} (h : s.OneLine) {out : Except SyntaxError (Reader × Option Event)}
    (hout : ∀ o, out = .ok o → o.1.mode.OneLine ∧ ∀ e ∈ o.2, e.OneLine) :
    (s.after out).OneLine := by
  unfold Scan.after
  split
  · exact ⟨(hout _ rfl).1, h.events⟩
  · obtain ⟨hmode, hevent⟩ := hout _ rfl
    refine ⟨hmode, fun e he => ?_⟩
    rw [Array.toList_push, List.mem_append, List.mem_singleton] at he
    rcases he with he | rfl
    · exact h.events e he
    · exact hevent e rfl
  · exact ⟨trivial, h.events⟩

theorem OneLine.foldl_step {s : Scan} (h : s.OneLine) (limit : Nat) (bytes : List UInt8) :
    (bytes.foldl (Scan.step limit) s).OneLine := by
  induction bytes generalizing s with
  | nil => exact h
  | cons b bytes ih =>
    refine ih ?_
    unfold Scan.step
    split
    · exact h
    · exact h.after fun o ho => Reader.step_oneLine h.mode ho

end Scan

theorem Reader.feed_oneLine {r : Reader} (h : r.mode.OneLine) (limit : Nat) (bytes : List UInt8) :
    (r.feed limit bytes).OneLine := by
  have hstart : Scan.OneLine { reader := r } := ⟨h, by simp⟩
  unfold feed
  split
  · exact ⟨h, by simp⟩
  · exact hstart.foldl_step limit bytes

theorem Reader.feedEnd_oneLine {r : Reader} (h : r.mode.OneLine) : r.feedEnd.OneLine := by
  have hstart : Scan.OneLine { reader := r } := ⟨h, by simp⟩
  exact hstart.after fun o ho => finish_oneLine h ho

theorem Scan.OneLine.notices {s : Scan} (h : s.OneLine) :
    ∀ n ∈ s.notices, Text.OneLine n.text := by
  intro n hn
  obtain ⟨e, he, hnotice⟩ := List.mem_filterMap.mp hn
  have hline := h.events e he
  cases e with
  | malformedHeader line text =>
    obtain rfl := Option.some.inj hnotice
    have hfront : Text.OneLine "line " := Text.oneLine_literal rfl (by decide)
    have hmiddle : Text.OneLine ": Ignoring malformed problem line '" :=
      Text.oneLine_literal rfl (by decide)
    have hback : Text.OneLine "'" := Text.oneLine_literal rfl (by decide)
    exact (((hfront.append (Text.oneLine_repr line)).append hmiddle).append hline).append hback
  | _ => simp [Event.notice?] at hnotice

theorem oneLine_parsed (clauses lines : Nat) :
    Text.OneLine (Notice.parsed clauses lines).text := by
  have hfront : Text.OneLine "Parsed " := Text.oneLine_literal rfl (by decide)
  have hmiddle : Text.OneLine " clauses in " := Text.oneLine_literal rfl (by decide)
  have hback : Text.OneLine " lines" := Text.oneLine_literal rfl (by decide)
  exact (((hfront.append (Text.oneLine_repr clauses)).append hmiddle).append
    (Text.oneLine_repr lines)).append hback

section Receiver

variable {σ : Type} [Receiver σ]

theorem notices_readEnd {r : Reader} (hmode : r.mode.OneLine) (s : σ) {notices : List Notice}
    (hnotices : ∀ n ∈ notices, Text.OneLine n.text) :
    ∀ n ∈ (readEnd r s notices).notices, Text.OneLine n.text := by
  have hend := (Reader.feedEnd_oneLine hmode).notices
  have hall : ∀ n ∈ notices ++ r.feedEnd.notices, Text.OneLine n.text := by
    intro n hn
    exact (List.mem_append.mp hn).elim (hnotices n) (hend n)
  unfold readEnd
  dsimp only
  split
  · exact hall
  · intro n hn
    rcases List.mem_append.mp hn with hn | hn
    · exact hall n hn
    · rw [List.mem_singleton.mp hn]
      exact oneLine_parsed _ _

theorem notices_readPieces (failure : Option IoError) {r : Reader} (hmode : r.mode.OneLine) (s : σ)
    {notices : List Notice} (hnotices : ∀ n ∈ notices, Text.OneLine n.text)
    (pieces : List (List UInt8)) :
    ∀ n ∈ (readPieces failure r s notices pieces).notices, Text.OneLine n.text := by
  induction pieces generalizing r s notices with
  | nil =>
    cases failure with
    | some e => exact hnotices
    | none => exact notices_readEnd hmode s hnotices
  | cons piece pieces ih =>
    cases piece with
    | nil => exact notices_readEnd hmode s hnotices
    | cons b piece =>
      have hscan := Reader.feed_oneLine hmode (Receiver.limit s) (b :: piece)
      have hall : ∀ n ∈ notices ++ (r.feed (Receiver.limit s) (b :: piece)).notices,
          Text.OneLine n.text := by
        intro n hn
        exact (List.mem_append.mp hn).elim (hnotices n) (hscan.notices n)
      simp only [readPieces]
      split
      · exact hall
      · exact ih hscan.mode _ hall

-- Whatever is read, what is noticed of it is told in single lines.
theorem notices_readText (supply : Supply) (s : σ) :
    ∀ n ∈ (readText supply s).notices, Text.OneLine n.text :=
  notices_readPieces supply.failure (r := {}) trivial s (by simp) supply.pieces

end Receiver

end SatFrontend.Dimacs

import SatFrontend.Proofs.Dimacs.Registers
import SatFrontend.Proofs.Formula.Layout
import SatFrontend.Proofs.Text.Utf8

namespace SatFrontend.Dimacs

open Receiver

-- Registers at work for a receiver, and all that they have done, each with the number of line ends
-- that were taken in before it.
structure Work (σ : Type) where
  registers : Registers := {}
  receiver : σ
  ends : Nat := 0
  done : List (Nat × Effect) := []

namespace Effect

def perform {σ : Type} [Receiver σ] (s : σ) : Effect → σ
  | push l => Receiver.push s l
  | endClause => Receiver.endClause s
  | evaluate .. => s

def isEvaluation : Effect → Bool
  | evaluate .. => true
  | _ => false

-- The ended clauses and the literals after the last of them, with one more effect.
def tally (counts : Nat × Nat) : Effect → Nat × Nat
  | push _ => (counts.1, counts.2 + 1)
  | endClause => (counts.1 + 1, 0)
  | evaluate .. => counts

end Effect

namespace Work

variable {σ : Type}

def effects (w : Work σ) : List Effect := w.done.map (·.2)

def events (w : Work σ) : List Event := w.effects.filterMap Effect.event?

-- The lines whose problem line was evaluated, each given by the line ends before it.
def evaluated (w : Work σ) : List Nat := (w.done.filter (·.2.isEvaluation)).map (·.1)

variable [Receiver σ]

-- Do what a byte or the end of the text comes to.
def after (w : Work σ) (ended : Bool) (y : Yield) : Work σ where
  registers := y.registers
  receiver := y.effects.foldl Effect.perform w.receiver
  ends := w.ends + ended.toNat
  done := w.done ++ y.effects.map (w.ends, ·)

def feed (limit : Nat) (w : Work σ) : List UInt8 → Work σ × Option SyntaxError
  | [] => (w, none)
  | b :: bytes =>
    let y := w.registers.step limit b
    let w := w.after (isLineEnd b) y
    match y.error with
    | some e => (w, some e)
    | none => feed limit w bytes

-- Every call after an error is refused.
def call (w : Work σ) (portion : Portion) : Work σ × Option SyntaxError :=
  if w.registers.error then (w, some .afterError)
  else
    match portion with
    | .chunk bytes => w.feed (limit w.receiver) bytes
    | .ending =>
      let y := w.registers.finish
      (w.after false y, y.error)

-- Make one call after the other, whatever comes of it.
def serve (w : Work σ) : List Portion → List (Option SyntaxError) × Work σ
  | [] => ([], w)
  | portion :: portions =>
    let (w, error) := w.call portion
    let (errors, w) := serve w portions
    (error :: errors, w)

end Work

section Settles

variable {limit : Nat} {x : Registers} {b : UInt8} {ended : Bool} {y : Yield}

-- Nothing of the rest of the line is kept.
def Registers.Skips (x : Registers) : Prop := x.inComment = true ∧ x.inHeader = false

-- What a byte and the end of the text have in common. A problem line that is evaluated is not
-- evaluated again before the line has ended.
structure Settles (x : Registers) (ended : Bool) (y : Yield) : Prop where
  consistent : y.registers.Consistent
  error : y.registers.error = y.error.isSome
  tally : (y.registers.clauseCount, y.registers.openLits) =
    y.effects.foldl Effect.tally (x.clauseCount, x.openLits)
  evaluates :
    (∀ e ∈ y.effects, e.isEvaluation = false) ∧
        (ended = false → x.Skips → y.registers.Skips) ∨
      x.inHeader = true ∧ (∃ line, y.effects = [.evaluate line x.headerLine]) ∧
        (ended = false → y.registers.Skips)

namespace Registers

theorem finishLiteral_tally (x : Registers) :
    (x.finishLiteral.1.clauseCount, x.finishLiteral.1.openLits) =
        x.finishLiteral.2.foldl Effect.tally (x.clauseCount, x.openLits) ∧
      ∀ e ∈ x.finishLiteral.2, e.isEvaluation = false := by
  unfold finishLiteral
  split
  · split
    · exact ⟨rfl, by simp [Effect.isEvaluation]⟩
    · exact ⟨rfl, by simp [Effect.isEvaluation]⟩
  · exact ⟨rfl, nofun⟩

theorem Moves.settles (hmoves : Moves limit x b y) (h : x.Consistent) (herror : x.error = false) :
    Settles x (isLineEnd b) y := by
  obtain ⟨hconsistent, hfailed⟩ := hmoves.consistent h herror
  -- a byte outside of comments evaluates nothing
  have houtside (hcomment : x.inComment = false) (hnone : ∀ e ∈ y.effects, e.isEvaluation = false) :
      (∀ e ∈ y.effects, e.isEvaluation = false) ∧
        (isLineEnd b = false → x.Skips → y.registers.Skips) :=
    ⟨hnone, fun _ hskip => by simp [Skips, hcomment] at hskip⟩
  cases hmoves with
  | evaluate hend hcomment hheader =>
    refine ⟨hconsistent, hfailed, rfl, .inr ⟨hheader, ⟨_, rfl⟩, fun hinside => ?_⟩⟩
    simp [hend] at hinside
  | uncomment hend hcomment hheader =>
    refine ⟨hconsistent, hfailed, rfl, .inl ⟨nofun, fun hinside => ?_⟩⟩
    simp [hend] at hinside
  | extend hend hcomment hheader =>
    refine ⟨hconsistent, hfailed, rfl, .inl ⟨nofun, fun _ hskip => ?_⟩⟩
    simp [Skips, hheader] at hskip
  | skip hend hcomment hheader =>
    exact ⟨hconsistent, hfailed, rfl, .inl ⟨nofun, fun _ hskip => hskip⟩⟩
  | literal hcomment hblank hlit =>
    obtain ⟨htally, hnone⟩ := x.finishLiteral_tally
    exact ⟨hconsistent, hfailed, htally, .inl (houtside hcomment hnone)⟩
  | digit hcomment | overflow hcomment | sign hcomment | blank hcomment | comment hcomment
  | problem hcomment | refuse hcomment =>
    exact ⟨hconsistent, hfailed, rfl, .inl (houtside hcomment nofun)⟩

theorem Ends.settles (hends : Ends x y) (h : x.Consistent) (herror : x.error = false) :
    Settles x false y := by
  obtain ⟨hconsistent, hfailed⟩ := hends.consistent h herror
  cases hends with
  | evaluate hheader =>
    exact ⟨hconsistent, hfailed, rfl,
      .inr ⟨hheader, ⟨_, rfl⟩, fun _ => ⟨(h.problem hheader).1, rfl⟩⟩⟩
  | literal hheader hlit =>
    obtain ⟨htally, hnone⟩ := x.finishLiteral_tally
    refine ⟨hconsistent, hfailed, htally, .inl ⟨hnone, fun _ hskip => ?_⟩⟩
    simp [((h.orderly herror).of_comment hskip.1).1] at hlit
  | refuse hheader hlit hnegate =>
    exact ⟨hconsistent, hfailed, rfl, .inl ⟨nofun, fun _ hskip => hskip⟩⟩
  | nothing hheader hlit hnegate =>
    exact ⟨hconsistent, hfailed, rfl, .inl ⟨nofun, fun _ hskip => hskip⟩⟩

theorem Consistent.countLine (h : x.Consistent) (b : UInt8) : (x.countLine b).Consistent := by
  unfold Registers.countLine
  split
  · exact ⟨h.problem, fun herror => ⟨(h.orderly herror).number, (h.orderly herror).literal⟩⟩
  · exact h

theorem error_countLine (x : Registers) (b : UInt8) : (x.countLine b).error = x.error := by
  unfold countLine
  split <;> rfl

theorem step_settles (limit : Nat) (h : x.Consistent) (herror : x.error = false) (b : UInt8) :
    Settles x (isLineEnd b) (x.step limit b) := by
  have hsettles := (x.step_moves limit b).settles (h.countLine b) (by rwa [error_countLine])
  -- counting the line leaves all that is said of the registers before it
  unfold countLine at hsettles
  split at hsettles
  · exact ⟨hsettles.consistent, hsettles.error, hsettles.tally, hsettles.evaluates⟩
  · exact hsettles

end Registers

end Settles

section Kept

variable {σ : Type} [Receiver σ] {limit : Nat} {s₀ : σ} {w : Work σ}

theorem Work.effects_after (w : Work σ) (ended : Bool) (y : Yield) :
    (w.after ended y).effects = w.effects ++ y.effects := by
  simp [effects, after, Function.comp_def]

theorem Work.evaluated_after_of_none (w : Work σ) (ended : Bool) {y : Yield}
    (hnone : ∀ e ∈ y.effects, e.isEvaluation = false) :
    (w.after ended y).evaluated = w.evaluated := by
  have hfilter : (y.effects.map (w.ends, ·)).filter (·.2.isEvaluation) = [] := by
    rw [List.filter_eq_nil_iff]
    simpa using hnone
  rw [evaluated, after, List.filter_append, hfilter, List.append_nil, evaluated]

theorem Work.evaluated_after_of_one (w : Work σ) (ended : Bool) {y : Yield} {line : Nat}
    {text : List UInt8} (hone : y.effects = [.evaluate line text]) :
    (w.after ended y).evaluated = w.evaluated ++ [w.ends] := by
  simp [evaluated, after, hone, Effect.isEvaluation]

-- Lines below or at line `n`, in their order. If line `n` is one of them, then its rest is skipped.
structure Once (lines : List Nat) (n : Nat) (skipped : Prop) : Prop where
  ordered : lines.Pairwise (· < ·)
  le : ∀ k ∈ lines, k ≤ n
  spent : n ∈ lines → skipped

namespace Once

variable {lines : List Nat} {n : Nat} {skipped skipped' : Prop} {ended : Bool}

theorem pass (h : Once lines n skipped) (hskip : ended = false → skipped → skipped') :
    Once lines (n + ended.toNat) skipped' := by
  refine ⟨h.ordered, fun k hk => Nat.le_trans (h.le k hk) (Nat.le_add_right _ _), fun hspent => ?_⟩
  cases ended with
  | false => exact hskip rfl (h.spent hspent)
  | true => exact absurd (h.le _ hspent) (Nat.not_succ_le_self _)

theorem add (h : Once lines n skipped) (hnew : ¬skipped) (hskip : ended = false → skipped') :
    Once (lines ++ [n]) (n + ended.toNat) skipped' := by
  have hbelow : ∀ k ∈ lines, k < n := fun k hk =>
    Nat.lt_of_le_of_ne (h.le k hk) fun heq => hnew (h.spent (heq ▸ hk))
  have hadded : Once (lines ++ [n]) n True := by
    refine ⟨?_, ?_, fun _ => trivial⟩
    · exact List.pairwise_append.mpr
        ⟨h.ordered, List.pairwise_singleton _ _, by simpa using hbelow⟩
    · exact List.forall_mem_append.mpr ⟨h.le, by simp⟩
  exact hadded.pass fun hinside _ => hskip hinside

end Once

-- What holds of registers at work from the beginning on, whatever calls are made.
structure Kept (s₀ : σ) (w : Work σ) : Prop where
  consistent : w.registers.Consistent
  receiver : w.receiver = w.effects.foldl Effect.perform s₀
  tally : (w.registers.clauseCount, w.registers.openLits) = w.effects.foldl Effect.tally (0, 0)
  problems : ∀ line text, .evaluate line text ∈ w.effects → Registers.IsProblem text
  once : Once w.evaluated w.ends w.registers.Skips

theorem kept_start (s₀ : σ) : Kept s₀ { receiver := s₀ } where
  consistent := ⟨nofun, fun _ => ⟨nofun, nofun⟩⟩
  receiver := rfl
  tally := rfl
  problems := nofun
  once := ⟨.nil, nofun, nofun⟩

theorem Kept.after (h : Kept s₀ w) {ended : Bool} {y : Yield}
    (hy : Settles w.registers ended y) : Kept s₀ (w.after ended y) := by
  have hreceiver :
      (w.after ended y).receiver = (w.after ended y).effects.foldl Effect.perform s₀ := by
    rw [Work.effects_after, List.foldl_append, ← h.receiver]
    rfl
  have htally : (y.registers.clauseCount, y.registers.openLits) =
      (w.after ended y).effects.foldl Effect.tally (0, 0) := by
    rw [Work.effects_after, List.foldl_append, ← h.tally, hy.tally]
  have hproblems (hmore : ∀ line text, .evaluate line text ∈ y.effects →
        Registers.IsProblem text) (line : Nat) (text : List UInt8)
      (hmem : .evaluate line text ∈ (w.after ended y).effects) : Registers.IsProblem text := by
    rw [Work.effects_after] at hmem
    exact (List.mem_append.mp hmem).elim (h.problems line text) (hmore line text)
  obtain ⟨hnone, hskip⟩ | ⟨hheader, ⟨line, hone⟩, hskip⟩ := hy.evaluates
  · refine ⟨hy.consistent, hreceiver, htally, hproblems fun line text hmem => ?_, ?_⟩
    · simpa [Effect.isEvaluation] using hnone _ hmem
    · rw [w.evaluated_after_of_none ended hnone]
      exact h.once.pass hskip
  · refine ⟨hy.consistent, hreceiver, htally, hproblems fun line' text hmem => ?_, ?_⟩
    · obtain ⟨-, rfl⟩ : line' = line ∧ text = w.registers.headerLine := by simpa [hone] using hmem
      exact (h.consistent.problem hheader).2
    · rw [w.evaluated_after_of_one ended hone]
      -- the problem line is still open, so its line is a new one
      have hnew : ¬w.registers.Skips := fun hskips => by simp [hskips.2] at hheader
      exact h.once.add hnew hskip

end Kept

section Agreement

-- A reader is where registers are. After an error, the line of a reader is of no account.
structure Reads (r : Reader) (x : Registers) : Prop where
  same : { r with line := x.line } = x.reader
  line : x.error = false → r.line = x.line

theorem Reads.of_eq {r : Reader} {x : Registers} (h : r = x.reader) : Reads r x := by
  subst h
  exact ⟨rfl, fun _ => rfl⟩

theorem Reads.eq {r : Reader} {x : Registers} (h : Reads r x) (herror : x.error = false) :
    r = x.reader := by
  rw [← h.same, ← h.line herror]

theorem Reads.mode_of_error {r : Reader} {x : Registers} (h : Reads r x) (herror : x.error = true) :
    r.mode = .failed := by
  have hmode : ({ r with line := x.line } : Reader).mode = x.reader.mode := by rw [h.same]
  rwa [Registers.reader, Registers.mode, if_pos herror] at hmode

variable {σ : Type} [Receiver σ] {limit : Nat} {s₀ t : σ} {before : List Event} {s : Scan}
  {w : Work σ}

theorem Effect.exists_of_event?_evaluate {line : Nat} {text : List UInt8} {event : Event}
    (h : (evaluate line text).event? = some event) :
    ∃ seen, event = .malformedHeader line seen := by
  simp only [event?, Option.ite_none_left_eq_some, Option.some.injEq] at h
  exact ⟨_, h.2.symm⟩

-- What was seen of some effects is handed to a receiver like the effects.
theorem foldl_perform (t : σ) (effects : List Effect) :
    effects.foldl Effect.perform t =
      (effects.filterMap Effect.event?).foldl Event.forward t := by
  induction effects generalizing t with
  | nil => rfl
  | cons e effects ih =>
    rw [List.foldl_cons, ih, List.filterMap_cons]
    cases e with
    | push l => rfl
    | endClause => rfl
    | evaluate line text =>
      cases hevent : (Effect.evaluate line text).event? with
      | none => rfl
      | some event =>
        obtain ⟨seen, rfl⟩ := Effect.exists_of_event?_evaluate hevent
        rfl

-- Registers at work have come to what a scan has come to after some events.
structure Paces (before : List Event) (t : σ) (s : Scan) (w : Work σ) : Prop where
  reads : Reads s.reader w.registers
  events : w.events = before ++ s.events.toList
  receiver : w.receiver = s.forward t

theorem forward_eq (t : σ) (s : Scan) : s.forward t = s.events.toList.foldl Event.forward t := by
  rw [Scan.forward, Array.foldl_toList]

theorem Paces.after (h : Paces before t s w) (hs : s.error = none) {n : Nat} {y : Yield}
    {out : Except SyntaxError (Reader × Option Event)} (ended : Bool)
    (halike : Registers.Alike { s.reader with line := n } y out) :
    Paces before t (s.after out) (w.after ended y) ∧ (s.after out).error = y.error := by
  have hreceiver : (w.after ended y).receiver =
      (y.effects.filterMap Effect.event?).foldl Event.forward
        (s.events.toList.foldl Event.forward t) := by
    rw [← foldl_perform, ← forward_eq, ← h.receiver]
    rfl
  have hevents : (w.after ended y).events =
      before ++ (s.events.toList ++ y.effects.filterMap Effect.event?) := by
    rw [Work.events, Work.effects_after, List.filterMap_append, ← List.append_assoc, ← h.events]
    rfl
  cases halike with
  | @ok x' effects r' event hreader hseen =>
    obtain ⟨herror, hr, hadded⟩ := Scan.after_ok hs (r', event)
    refine ⟨⟨.of_eq (hr.trans hreader), ?_, ?_⟩, herror⟩
    · rw [hevents, hadded, hseen]
    · rw [hreceiver, forward_eq, hadded, List.foldl_append, hseen]
  | @error x' e herror hsame =>
    refine ⟨⟨⟨hsame, fun hnone => ?_⟩, ?_, ?_⟩, rfl⟩
    · simp [Work.after, herror] at hnone
    · simpa [Scan.after] using hevents
    · simpa [Scan.after, Scan.forward] using hreceiver

theorem Paces.step (limit : Nat) (h : Paces before t s w) (hs : s.error = none)
    (hconsistent : w.registers.Consistent) (herror : w.registers.error = false) (b : UInt8) :
    Paces before t (s.step limit b) (w.after (isLineEnd b) (w.registers.step limit b)) ∧
      (s.step limit b).error = (w.registers.step limit b).error := by
  have hcount : s.reader.countLine b = (w.registers.countLine b).reader := by
    rw [h.reads.eq herror, Registers.reader_countLine]
  have halike := (w.registers.step_moves limit b).alike hcount (hconsistent.countLine b)
    (by rwa [Registers.error_countLine])
  obtain ⟨n, hline⟩ : ∃ n, s.reader.countLine b = { s.reader with line := n } := by
    unfold Reader.countLine
    split
    · exact ⟨_, rfl⟩
    · exact ⟨_, rfl⟩
  rw [← hcount, hline] at halike
  rw [Scan.step_eq_after limit hs]
  exact h.after hs (isLineEnd b) halike

-- An induction on the bytes, which takes the scan and the registers on together.
theorem feed_spec (hkept : Kept s₀ w) (herror : w.registers.error = false)
    (h : Paces before t s w) (hs : s.error = none) (bytes : List UInt8) :
    let out := w.feed limit bytes
    let scan := bytes.foldl (Scan.step limit) s
    Kept s₀ out.1 ∧ out.1.registers.error = out.2.isSome ∧
      Paces before t scan out.1 ∧ scan.error = out.2 := by
  induction bytes generalizing s w with
  | nil => exact ⟨hkept, herror, h, hs⟩
  | cons b bytes ih =>
    have hsettles := Registers.step_settles limit hkept.consistent herror b
    have hkept' := hkept.after hsettles
    obtain ⟨h', hs'⟩ := h.step limit hs hkept.consistent herror b
    simp only [Work.feed, List.foldl_cons]
    cases hyield : (w.registers.step limit b).error with
    | none =>
      have herror' : (w.registers.step limit b).registers.error = false := by
        rw [hsettles.error, hyield]
        rfl
      exact ih hkept' herror' h' (hs'.trans hyield)
    | some e =>
      have herror' : (s.step limit b).error = some e := hs'.trans hyield
      rw [Scan.foldl_step_of_error (by simp [herror'])]
      refine ⟨hkept', ?_, h', herror'⟩
      change (w.registers.step limit b).registers.error = true
      rw [hsettles.error, hyield]
      rfl

theorem call_spec (hkept : Kept s₀ w) {r : Reader} (h : Reads r w.registers) (portion : Portion) :
    let out := w.call portion
    let scan := portion.scan (Receiver.limit w.receiver) r
    Kept s₀ out.1 ∧ out.1.registers.error = out.2.isSome ∧
      Paces w.events w.receiver scan out.1 ∧ scan.error = out.2 := by
  have hstart : ∀ error, Paces w.events w.receiver { reader := r, error := error } w :=
    fun error => ⟨h, by simp, rfl⟩
  by_cases herror : w.registers.error = true
  · have hcall : w.call portion = (w, some .afterError) := if_pos herror
    rw [hcall, Portion.scan_of_failed (h.mode_of_error herror)]
    exact ⟨hkept, herror, hstart _, rfl⟩
  have hfine := Bool.eq_false_iff.mpr herror
  simp only [Work.call, if_neg herror]
  cases portion with
  | chunk bytes =>
    have hmode : r.mode ≠ .failed := by
      rw [h.eq hfine]
      exact Registers.mode_ne_failed hfine
    simp only [Portion.scan, Reader.feed_eq hmode]
    exact feed_spec hkept hfine (hstart none) rfl bytes
  | ending =>
    have hends := Registers.finish_ends hkept.consistent hfine
    have hsettles := hends.settles hkept.consistent hfine
    have halike := hends.alike hkept.consistent hfine
    rw [← h.eq hfine] at halike
    obtain ⟨hpaces, hsame⟩ := (hstart none).after (n := r.line) rfl false halike
    exact ⟨hkept.after hsettles, hsettles.error, hpaces, hsame⟩

-- An induction on the calls. It is not ended by an error.
theorem serve_spec (hkept : Kept s₀ w) {r : Reader} (h : Reads r w.registers)
    (portions : List Portion) :
    let out := w.serve portions
    let calls := serve r w.receiver portions
    Kept s₀ out.2 ∧ Reads ((calls.1.getLast?.map Scan.reader).getD r) out.2.registers ∧
      calls.1.map Scan.error = out.1 ∧ calls.2 = out.2.receiver ∧
      w.events ++ calls.1.flatMap (·.events.toList) = out.2.events ∧
      (w.registers.error = false → (∀ error ∈ out.1, error = none) →
        out.2.registers.error = false) := by
  induction portions generalizing r w with
  | nil => exact ⟨hkept, h, rfl, rfl, by simp [serve, Work.serve], fun herror _ => herror⟩
  | cons portion portions ih =>
    obtain ⟨hkept', hfailed, hpaces, hsame⟩ := call_spec hkept h portion
    obtain ⟨hlast, hreads, herrors, hreceiver, hevents, hfine⟩ := ih hkept' hpaces.reads
    simp only [serve, Work.serve]
    rw [← hpaces.receiver]
    refine ⟨hlast, ?_, ?_, hreceiver, ?_, fun _ hnone => ?_⟩
    · rw [List.getLast?_cons, Option.map_some, Option.getD_some]
      cases hlast? : (serve (portion.scan (Receiver.limit w.receiver) r).reader
        (w.call portion).1.receiver portions).1.getLast? <;> simpa [hlast?] using hreads
    · rw [List.map_cons, hsame, herrors]
    · rw [List.flatMap_cons, ← List.append_assoc, ← hpaces.events, hevents]
    · obtain ⟨hfirst, hrest⟩ := List.forall_mem_cons.mp hnone
      exact hfine (by rw [hfailed, hfirst]; rfl) hrest

end Agreement

section Endings

namespace Registers

theorem finish_of_settled (x : Registers) (hheader : x.inHeader = false) (hlit : x.inLit = false)
    (hnegate : x.negate = false) (hzero : x.partialLit = 0) : x.finish = ⟨x, [], none⟩ := by
  unfold finish
  rw [if_neg (by simp [hheader]), finishToken_of_no_token x hlit hnegate]
  cases x
  subst hlit hnegate hzero
  rfl

-- The end of the text settles what was unfinished, so nothing is left for another one.
theorem Ends.finish_eq {x : Registers} {y : Yield} (hends : Ends x y) (hnone : y.error = none) :
    y.registers.finish = ⟨y.registers, [], none⟩ := by
  cases hends with
  | evaluate hheader => exact finish_of_settled _ rfl rfl rfl rfl
  | refuse hheader hlit hnegate => exact nomatch hnone
  | literal hheader hlit =>
    obtain ⟨c, n, hlast⟩ := x.exists_finishLiteral
    rw [hlast]
    exact finish_of_settled _ hheader rfl rfl rfl
  | nothing hheader hlit hnegate => exact finish_of_settled _ hheader rfl rfl rfl

end Registers

theorem feedEnd_of_settled {r : Reader} (h : r.mode = .comment ∨ ∃ fresh, r.mode = .blank fresh) :
    r.feedEnd = { reader := r } := by
  have hfinish : r.finish = .ok (r, none) := by
    obtain hmode | ⟨fresh, hmode⟩ := h
    · simp only [Reader.finish, hmode]
    · simp only [Reader.finish, hmode]
  rw [Reader.feedEnd, hfinish]
  rfl

theorem feedEnd_twice {r : Reader} (hnone : r.feedEnd.error = none) :
    r.feedEnd.reader.feedEnd = { reader := r.feedEnd.reader } := by
  cases hmode : r.mode with
  | comment => rw [feedEnd_of_settled (.inl hmode), feedEnd_of_settled (.inl hmode)]
  | blank fresh =>
    rw [feedEnd_of_settled (.inr ⟨fresh, hmode⟩), feedEnd_of_settled (.inr ⟨fresh, hmode⟩)]
  | problem text =>
    refine feedEnd_of_settled (.inl ?_)
    simp only [Reader.feedEnd, Reader.finish, hmode, Reader.finishProblem]
    split <;> rfl
  | digits negative value =>
    refine feedEnd_of_settled (.inr ⟨false, ?_⟩)
    simp only [Reader.feedEnd, Reader.finish, hmode, Reader.finishLiteral]
    split <;> rfl
  | sign | failed => simp [Reader.feedEnd, Reader.finish, hmode, Scan.after] at hnone

variable {σ : Type} [Receiver σ] {s₀ : σ} {w : Work σ}

theorem call_ending_twice (h : Kept s₀ w) (hnone : (w.call .ending).2 = none) :
    (w.call .ending).1.call .ending = ((w.call .ending).1, none) := by
  by_cases herror : w.registers.error = true
  · have hcall : w.call .ending = (w, some .afterError) := if_pos herror
    simp [hcall] at hnone
  have hfine := Bool.eq_false_iff.mpr herror
  have hends := Registers.finish_ends h.consistent hfine
  have hfailed := (hends.settles h.consistent hfine).error
  have hcall : w.call .ending = (w.after false w.registers.finish, w.registers.finish.error) :=
    if_neg herror
  rw [hcall] at hnone ⊢
  have hnone : w.registers.finish.error = none := hnone
  have hsettled := hends.finish_eq hnone
  generalize w.registers.finish = y at hnone hfailed hsettled ⊢
  have hfine' : (w.after false y).registers.error = false := by
    change y.registers.error = false
    rw [hfailed, hnone]
    rfl
  have hagain : (w.after false y).call .ending =
      ((w.after false y).after false y.registers.finish, y.registers.finish.error) :=
    if_neg (by simp [hfine'])
  rw [hagain, hsettled]
  simp [Work.after]

end Endings

section Formula

theorem tally_fst (counts : Nat × Nat) (effects : List Effect) :
    (effects.foldl Effect.tally counts).1 = counts.1 + effects.count .endClause := by
  induction effects generalizing counts with
  | nil => rfl
  | cons e effects ih =>
    rw [List.foldl_cons, ih, List.count_cons]
    cases e with
    | push l => simp [Effect.tally]
    | endClause =>
      simp only [Effect.tally, beq_self_eq_true, if_true]
      omega
    | evaluate line text => simp [Effect.tally]

theorem count_clauseEnd (effects : List Effect) :
    (effects.filterMap Effect.event?).count .clauseEnd = effects.count .endClause := by
  induction effects with
  | nil => rfl
  | cons e effects ih =>
    rw [List.filterMap_cons, List.count_cons, ← ih]
    cases e with
    | push l => simp [Effect.event?]
    | endClause => simp [Effect.event?]
    | evaluate line text =>
      cases hevent : (Effect.evaluate line text).event? with
      | none => simp
      | some event =>
        obtain ⟨seen, rfl⟩ := Effect.exists_of_event?_evaluate hevent
        simp

-- A formula takes in every effect: its open clause has the literals after the last clause end, and
-- each clause that it gains is ended once.
theorem exists_plain_perform (p : Formula.Plain) (count : Nat) (effects : List Effect) :
    ∃ q : Formula.Plain, effects.foldl Effect.perform p.layout = q.layout ∧
      (effects.foldl Effect.tally (count, p.openClause.length)).2 = q.openClause.length ∧
      q.clauses.length ≤ p.clauses.length + effects.count .endClause := by
  induction effects generalizing p count with
  | nil => exact ⟨p, rfl, rfl, Nat.le_refl _⟩
  | cons e effects ih =>
    rw [List.foldl_cons, List.foldl_cons, List.count_cons]
    cases e with
    | push l =>
      obtain ⟨q, hq, hopen, hsize⟩ := ih (p.push l) count
      refine ⟨q, ?_, ?_, by simpa [Formula.Plain.push] using hsize⟩
      · rw [← hq, ← p.push_layout l]
        rfl
      · rw [← hopen]
        simp [Effect.tally, Formula.Plain.push]
    | endClause =>
      obtain ⟨q, hq, hopen, hsize⟩ := ih p.endClause (count + 1)
      refine ⟨q, ?_, ?_, ?_⟩
      · rw [← hq, ← p.close_layout]
        rfl
      · rw [← hopen, Formula.Plain.openClause_endClause]
        rfl
      · have hgain : p.endClause.clauses.length ≤ p.clauses.length + 1 := by
          unfold Formula.Plain.endClause
          split <;> simp
        simp only [beq_self_eq_true, if_true]
        omega
    | evaluate line text =>
      obtain ⟨q, hq, hopen, hsize⟩ := ih p count
      exact ⟨q, hq, hopen, by simpa using hsize⟩

theorem encode_decodeLossy_problem (rest : List UInt8) :
    Text.encode (String.ofList (Text.decodeLossy (112 :: rest))) =
      112 :: Text.encode (String.ofList (Text.decodeLossy rest)) := by
  have hp : String.utf8EncodeChar 'p' = [112] := by decide
  rw [decodeLossy_cons_problem, Text.encode_eq, Text.encode_eq, String.toList_ofList,
    String.toList_ofList, List.flatMap_cons, hp, List.singleton_append]

-- Whatever calls are made, registers and the reader come to the same, call by call. The open
-- literals are those of the formula, each clause of it was ended once, and what is held of a token
-- or of a problem line is in order. A problem line begins with a `p` that is one byte of its text,
-- and it is evaluated at most once. The end of a text is only taken in once.
theorem registers_after_calls {f : Formula} (hreachable : f.Reachable)
    (hclosed : f.openClause = []) (portions : List Portion) :
    let calls := serve {} f portions
    let reader := (calls.1.getLast?.map Scan.reader).getD {}
    let events := calls.1.flatMap (·.events.toList)
    let g := calls.2
    let out := ({ receiver := f } : Work Formula).serve portions
    let w := out.2
    let x := w.registers
    (Reads reader x ∧ reader.isClauseOpen = x.isClauseOpen ∧
      calls.1.map Scan.error = out.1 ∧ g = w.receiver ∧ events = w.events) ∧
    (x.openLits = g.openClause.length ∧ (x.isClauseOpen = true ↔ g.openClause ≠ [])) ∧
    (x.clauseCount = events.count .clauseEnd ∧ g.size ≤ f.size + x.clauseCount) ∧
    ((∀ error ∈ out.1, error = none) → x.Orderly) ∧
    (x.inHeader = true → x.inComment = true ∧ Registers.IsProblem x.headerLine) ∧
    (∀ line text, .evaluate line text ∈ w.effects → ∃ rest, text = 112 :: rest ∧
      Text.encode (String.ofList (Text.decodeLossy text)) =
        112 :: Text.encode (String.ofList (Text.decodeLossy rest))) ∧
    w.evaluated.Pairwise (· < ·) ∧
    ((w.call .ending).2 = none → (w.call .ending).1.call .ending = ((w.call .ending).1, none)) ∧
    (reader.feedEnd.error = none →
      reader.feedEnd.reader.feedEnd = { reader := reader.feedEnd.reader }) := by
  intro calls reader events g out w x
  obtain ⟨hkept, hreads, herrors, hreceiver, hevents, hfine⟩ :=
    serve_spec (kept_start f) (r := {}) (.of_eq rfl) portions
  have hevents : events = w.events := hevents
  obtain ⟨p, -, rfl⟩ := hreachable.exists_plain
  obtain ⟨q, hq, hopen, hsize⟩ := exists_plain_perform p 0 w.effects
  have hg : g = q.layout := by
    rw [← hq, ← hkept.receiver]
    exact hreceiver
  rw [Formula.Plain.openClause_layout] at hclosed
  have hopenLits : x.openLits = g.openClause.length := by
    rw [hg, Formula.Plain.openClause_layout, ← hopen, hclosed]
    exact congrArg Prod.snd hkept.tally
  have hcount : x.clauseCount = w.effects.count .endClause := by
    have hfirst := tally_fst (0, 0) w.effects
    rw [← hkept.tally, Nat.zero_add] at hfirst
    exact hfirst
  refine ⟨⟨hreads, ?_, herrors, hreceiver, hevents⟩, ⟨hopenLits, ?_⟩, ⟨?_, ?_⟩, ?_,
    hkept.consistent.problem, ?_, hkept.once.ordered, call_ending_twice hkept, feedEnd_twice⟩
  · have hsame : ({ reader with line := x.line } : Reader).openCount = x.reader.openCount :=
      congrArg Reader.openCount hreads.same
    exact congrArg (fun n => decide (0 < n)) hsame
  · rw [Registers.isClauseOpen, hopenLits, decide_eq_true_eq, List.length_pos_iff]
  · rw [hcount, hevents]
    exact (count_clauseEnd w.effects).symm
  · rw [hg, hcount, Formula.Plain.size_layout, Formula.Plain.size_layout]
    exact hsize
  · intro hnone
    exact hkept.consistent.orderly (hfine rfl hnone)
  · intro line text hmem
    obtain ⟨rest, rfl, -⟩ := hkept.problems line text hmem
    exact ⟨rest, rfl, encode_decodeLossy_problem rest⟩

-- The end of the text falls into a problem line and after a digit, and the text goes on both times.
-- Then it falls after a minus sign, and calls after that are refused.
def sampleCalls : List Portion :=
  [.chunk [112, 32, 99], .ending,
    .chunk [110, 102, 32, 49, 32, 49, 10, 49, 32, 45, 50, 32, 48, 32, 51], .ending, .ending,
    .chunk [32, 52, 32, 45], .ending, .chunk [53], .ending]

theorem registers_after_sampleCalls :
    (Formula.Reachable .empty ∧ Formula.empty.openClause = []) ∧
    (let calls := serve {} Formula.empty sampleCalls
    let w := (({ receiver := .empty } : Work Formula).serve sampleCalls).2
    calls.1.map Scan.error = [none, none, none, none, none, none, some (.unexpected 2 45),
        some .afterError, some .afterError] ∧
      calls.2.openClause.length = 2 ∧ calls.2.size ≤ 1 ∧ w.evaluated = [0]) ∧
    (let w := (({ receiver := .empty } : Work Formula).serve (sampleCalls.take 3)).2
    w.registers.Orderly ∧ w.registers.partialLit = 3 ∧ (w.call .ending).2 = none ∧
      (w.call .ending).1.call .ending = ((w.call .ending).1, none)) := by
  refine ⟨⟨.empty, rfl⟩, ?_, ?_⟩
  · obtain ⟨⟨-, -, herrors, -⟩, ⟨hopen, -⟩, ⟨-, hsize⟩, -⟩ :=
      registers_after_calls .empty rfl sampleCalls
    intro calls w
    exact ⟨herrors.trans (by decide), hopen.symm.trans (by decide),
      Nat.le_trans hsize (by decide), by decide⟩
  · obtain ⟨-, -, -, horderly, -, -, -, htwice, -⟩ :=
      registers_after_calls .empty rfl (sampleCalls.take 3)
    intro w
    have hending : (w.call .ending).2 = none := by decide
    exact ⟨horderly (by decide), by decide, hending, htwice hending⟩

end Formula

end SatFrontend.Dimacs

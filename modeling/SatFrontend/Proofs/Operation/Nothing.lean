import SatFrontend.Proofs.Operation.Simulation

namespace SatFrontend

namespace Dimacs

open Grammar

-- A text without tokens is taken in byte by byte without an error, and nothing of it is handed on.
theorem foldl_step_of_no_tokens {limit : Nat} {s : Scan} (hs : s.error = none)
    {bytes rest : List UInt8} {ps : List (List UInt8)}
    (h : Expects s.reader.mode (bytes ++ rest) [] ps) (hwithin : s.reader.mode.Within limit) :
    let scan := bytes.foldl (Scan.step limit) s
    scan.error = none ∧
    scan.events.toList.filter Event.isCall = s.events.toList.filter Event.isCall ∧
    scan.reader.mode.Within limit ∧ ∃ ps', Expects scan.reader.mode rest [] ps' := by
  induction bytes generalizing s ps with
  | nil => exact ⟨hs, rfl, hwithin, ps, h⟩
  | cons b bytes ih =>
    rw [List.foldl_cons, Scan.step_eq_after limit hs]
    rcases advances h hwithin with ⟨e, -, t, rest, ht, -⟩ | ⟨r', event, ts₁, ts₂, ps₁, ps₂, hok, htakes,
        hexpects, hts, -⟩
    · simp at ht
    · obtain ⟨rfl, rfl⟩ := List.append_eq_nil_iff.mp hts.symm
      obtain ⟨herror, hreader, hevents⟩ := Scan.after_ok hs (r', event)
      have hnext : Expects (s.after (.ok (r', event))).reader.mode (bytes ++ rest) [] ps₂ := by
        rw [hreader]
        exact hexpects
      rw [hok]
      have hmode : r'.mode.Within limit := (Reader.step_outcome hok).mode_within
      obtain ⟨hnone, hcalls, hrest⟩ := ih herror hnext (by rwa [hreader])
      refine ⟨hnone, ?_, hrest⟩
      rw [hcalls, hevents, List.filter_append, htakes.calls]
      simp

theorem feedEnd_of_no_tokens {limit : Nat} {r : Reader} {ps : List (List UInt8)}
    (h : Expects r.mode [] [] ps) (hwithin : r.mode.Within limit) :
    r.feedEnd.events.toList.filter Event.isCall = [] := by
  rcases finish_cases h hwithin with ⟨e, -, t, rest, ht, -⟩ | ⟨r', event, hok, htakes⟩
  · simp at ht
  · rw [Reader.feedEnd, hok, (Scan.after_ok rfl (r', event)).2.2]
    simpa using htakes.calls

section Receiver

variable {σ : Type} [Receiver σ]

theorem forward_of_no_calls {scan : Scan} (h : scan.events.toList.filter Event.isCall = []) (s : σ) :
    scan.forward s = s := by
  rw [Scan.forward, ← Array.foldl_toList, ← foldl_forward_filter, h]
  rfl

theorem readPieces_of_no_tokens (failure : Option IoError) {r : Reader} (s : σ)
    (notices : List Notice) {pieces : List (List UInt8)} {ps : List (List UInt8)}
    (h : Expects r.mode (textOf pieces) [] ps) (hwithin : r.mode.Within (Receiver.limit s)) :
    (readPieces failure r s notices pieces).receiver = s := by
  have hend : ∀ (r : Reader) (notices : List Notice) (ps : List (List UInt8)),
      Expects r.mode [] [] ps → r.mode.Within (Receiver.limit s) →
      (readEnd r s notices).receiver = s := by
    intro r notices ps h hwithin
    rw [receiver_readEnd, forward_of_no_calls (feedEnd_of_no_tokens h hwithin)]
  induction pieces generalizing r notices ps with
  | nil =>
    cases failure with
    | some e => rfl
    | none => exact hend r notices ps h hwithin
  | cons piece pieces ih =>
    cases piece with
    | nil => exact hend r notices ps h hwithin
    | cons b piece =>
      have htext : textOf ((b :: piece) :: pieces) = (b :: piece) ++ textOf pieces := by
        simp [textOf]
      rw [htext] at h
      obtain ⟨herror, hcalls, hwithin', ps', h'⟩ :=
        foldl_step_of_no_tokens (s := { reader := r }) rfl h hwithin
      rw [← Reader.feed_eq hwithin.ne_failed] at herror hcalls hwithin' h'
      simp only [readPieces, herror, forward_of_no_calls hcalls]
      exact ih _ h' hwithin'

-- Comments, problem lines and blanks alone leave a receiver as it is, also if the stream breaks.
theorem readText_of_no_tokens {supply : Supply} (h : tokens (textOf supply.pieces) = []) (s : σ) :
    (readText supply s).receiver = s := by
  have hfresh := Expects.fresh (textOf supply.pieces)
  rw [h] at hfresh
  exact readPieces_of_no_tokens supply.failure (r := {}) s [] hfresh trivial

end Receiver

-- The text that is read, if it is not clauses that are read.
def Source.text? (files : Files) : Source → Option (List UInt8)
  | .clauses _ | .producer _ => none
  | .path name => (files.read name).toOption
  | .text bytes => some bytes
  | .supply stream => some (textOf stream.pieces)

theorem read_of_no_tokens {σ : Type} [Receiver σ] {files : Files} {source : Source}
    {bytes : List UInt8} (hbytes : source.text? files = some bytes) (h : tokens bytes = []) (s : σ) :
    (read files s source).receiver = s := by
  have hwhole : (readText (.ofBytes bytes) s).receiver = s :=
    readText_of_no_tokens (by rw [textOf_ofBytes, h]) s
  cases source with
  | clauses cs => simp [Source.text?] at hbytes
  | producer cs => simp [Source.text?] at hbytes
  | path name =>
    cases hread : files.read name with
    | error e => simp [Source.text?, hread, Except.toOption] at hbytes
    | ok content =>
      obtain rfl : content = bytes := by simpa [Source.text?, hread, Except.toOption] using hbytes
      simp only [read, hread]
      exact hwhole
  | text content =>
    obtain rfl := Option.some.inj hbytes
    exact hwhole
  | supply stream =>
    obtain rfl := Option.some.inj hbytes
    exact readText_of_no_tokens h s

end Dimacs

namespace Operation

open Receiver Dimacs

variable {σ : Type} [Receiver σ]

-- What leaves a receiver without an open clause as it is: ending a clause, adding clauses without
-- literals, assuming nothing, reading a text without tokens, and what fails on its first item.
inductive AddsNothing (files : Files) (s : σ) : Operation → Prop
  | endClause : AddsNothing files s .endClause
  | zero : AddsNothing files s (.addNumber 0)
  | noLiterals : AddsNothing files s (.addClause [])
  | noNumbers {ns : List Int} (h : body ns = []) : AddsNothing files s (.addNumbers ns)
  | noItems {items : List Item}
      (h : ∀ item ∈ items, item = .number 0 ∨ ∃ ns, item = .clause ns ∧ body ns = []) :
      AddsNothing files s (.add items)
  | noAssumptions : AddsNothing files s (.assume [])
  | noClauses {cs : List (List Int)} (h : ∀ c ∈ cs, body c = []) :
      AddsNothing files s (.read (.clauses cs))
  | noneMade {cs : Unit → List (List Int)} (h : ∀ c ∈ cs (), body c = []) :
      AddsNothing files s (.read (.producer cs))
  | noTokens {source : Source} {bytes : List UInt8} (hbytes : source.text? files = some bytes)
      (h : Grammar.tokens bytes = []) : AddsNothing files s (.read source)
  | refusedNumber {n : Int} {e : EntryError} (h : Receiver.addNumber s n = .error e) :
      AddsNothing files s (.addNumber n)
  | refusedClause {ns : List Int} {e : EntryError} (h : Receiver.addNumbers s ns = .error e) :
      AddsNothing files s (.addNumbers ns)
  | refusedFirst {c : List Int} {cs : List (List Int)} {e : EntryError}
      (h : Receiver.addNumbers s c = .error e) : AddsNothing files s (.read (.clauses (c :: cs)))
  | refusedItem {item : Item} {items : List Item} {e : EntryError} (h : addItem s item = .error e) :
      AddsNothing files s (.add (item :: items))
  | refusedAssumption {n : Int} {ns : List Int} {e : EntryError}
      (h : assumeNumber s n = .error e) : AddsNothing files s (.assume (n :: ns))

variable {s : σ}

theorem addNumbers_of_no_literals (hclosed : Receiver.endClause s = s) {ns : List Int}
    (h : body ns = []) : Receiver.addNumbers s ns = .ok s := by
  have hcommit : commit s [] = s := by
    simp only [commit, hclosed, pushAll, List.foldl_nil]
  simp only [Receiver.addNumbers, h, acceptBody, bind, Except.bind, Receiver.addClause, acceptAll,
    hcommit]

omit [Receiver σ] in
theorem runAll_of_idle {α ε : Type} {step : σ → α → Except ε σ} {as : List α}
    (h : ∀ a ∈ as, step s a = .ok s) : runAll step s as = (s, none) := by
  induction as with
  | nil => rfl
  | cons a as ih =>
    obtain ⟨ha, hrest⟩ := List.forall_mem_cons.mp h
    simp only [runAll, ha]
    exact ih hrest

theorem readClauses_of_no_literals (hclosed : Receiver.endClause s = s) {cs : List (List Int)}
    (h : ∀ c ∈ cs, body c = []) : (readClauses s cs).receiver = s := by
  have hrun : runAll Receiver.addNumbers s cs = (s, none) :=
    runAll_of_idle fun c hc => addNumbers_of_no_literals hclosed (h c hc)
  simp only [readClauses, hrun]

theorem perform_of_addsNothing (hclosed : Receiver.endClause s = s) {files : Files}
    {op : Operation} (h : op.AddsNothing files s) : (op.perform files s).receiver = s := by
  cases h with
  | endClause => exact hclosed
  | zero =>
    have hzero : Receiver.addNumber s 0 = .ok s := by rw [Receiver.addNumber, if_pos rfl, hclosed]
    simp only [perform, hzero, attempt]
  | noLiterals =>
    have hadd : Receiver.addClause s [] = .ok (commit s []) := rfl
    have hcommit : commit s [] = s := by
      simp only [commit, hclosed, pushAll, List.foldl_nil]
    simp only [perform, Lit.ofInts, bind, Except.bind, hadd, attempt, hcommit]
  | noNumbers h => simp only [perform, addNumbers_of_no_literals hclosed h, attempt]
  | noItems h =>
    have hrun : runAll addItem s _ = (s, none) := runAll_of_idle fun item hitem => by
      rcases h item hitem with rfl | ⟨ns, rfl, hns⟩
      · rw [addItem, Receiver.addNumber, if_pos rfl, hclosed]
      · exact addNumbers_of_no_literals hclosed hns
    simp only [perform, addAll, hrun, partly]
  | noAssumptions => rfl
  | noClauses h => exact readClauses_of_no_literals hclosed h
  | noneMade h => exact readClauses_of_no_literals hclosed h
  | noTokens hbytes h => exact read_of_no_tokens hbytes h s
  | refusedNumber h => simp only [perform, h, attempt]
  | refusedClause h => simp only [perform, h, attempt]
  | refusedFirst h => simp only [perform, Dimacs.read, readClauses, runAll, h]
  | refusedItem h => simp only [perform, addAll, runAll, h, partly]
  | refusedAssumption h => simp only [perform, assumeAll, runAll, h, partly]

end Operation

end SatFrontend

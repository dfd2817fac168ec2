import Mathlib.Data.List.TakeWhile
import SatFrontend.Proofs.Dimacs.Acceptance

namespace SatFrontend.Dimacs

open Grammar

-- What a scan has seen in the end: the end of the text is only looked at if there was no error.
def Scan.ended (scan : Scan) : List Event :=
  match scan.error with
  | some _ => scan.events.toList
  | none => scan.events.toList ++ scan.reader.feedEnd.events.toList

-- Tokens are handed on up to the first one that does not fit.
theorem foldl_step_takeWhile (limit : Nat) {s : Scan} (hs : s.error = none) {bytes : List UInt8}
    {ts ps : List (List UInt8)} (h : Expects s.reader.mode bytes ts ps)
    (hwithin : s.reader.mode.Within limit) :
    (bytes.foldl (Scan.step limit) s).ended.filter Event.isCall =
      s.events.toList.filter Event.isCall ++
        (ts.takeWhile (Token.Fits limit ·)).map Token.event := by
  induction bytes generalizing s ts ps with
  | nil =>
    rw [List.foldl_nil, Scan.ended, hs]
    rcases finish_cases h hwithin with ⟨e, herr, t, rest, rfl, hbad⟩ | ⟨r', event, hok, htakes⟩
    · rw [List.takeWhile_cons_of_neg (by simpa using hbad)]
      simp [Reader.feedEnd, herr, Scan.after]
    · have hall : ts.takeWhile (Token.Fits limit ·) = ts :=
        List.takeWhile_eq_self_iff.mpr fun t ht => by simpa using htakes.fits t ht
      rw [Reader.feedEnd, hok, (Scan.after_ok rfl (r', event)).2.2, hall, List.filter_append]
      simpa using htakes.calls
  | cons b bytes ih =>
    rw [List.foldl_cons, Scan.step_eq_after limit hs]
    rcases advances h hwithin with ⟨e, herr, t, rest, rfl, hbad⟩ | ⟨r', event, ts₁, ts₂, ps₁, ps₂,
        hok, htakes, hexpects, rfl, rfl⟩
    · rw [herr, Scan.foldl_step_after_error, List.takeWhile_cons_of_neg (by simpa using hbad)]
      simp [Scan.ended, Scan.after]
    · have hall : ∀ t ∈ ts₁, decide (Token.Fits limit t) = true := fun t ht => by
        simpa using htakes.fits t ht
      obtain ⟨herror, hreader, hevents⟩ := Scan.after_ok hs (r', event)
      have hmode : r'.mode.Within limit := (Reader.step_outcome hok).mode_within
      rw [hok, ih herror (by rwa [hreader]) (by rwa [hreader]), hevents,
        List.takeWhile_append_of_pos hall, List.filter_append, htakes.calls, List.map_append,
        List.append_assoc]

section Receiver

variable {σ : Type} [Receiver σ]

theorem readText_ofBytes_eq (s : σ) (bytes : List UInt8) :
    let scan := bytes.foldl (Scan.step (Receiver.limit s)) { reader := {} }
    (readText (.ofBytes bytes) s).receiver = scan.ended.foldl Event.forward s ∧
      ((readText (.ofBytes bytes) s).error = none ↔
        scan.error = none ∧ scan.reader.feedEnd.error = none) := by
  intro scan
  have hend : ∀ (r : Reader) (s : σ) (notices : List Notice),
      (readEnd r s notices).error = none ↔ r.feedEnd.error = none := by
    intro r s notices
    cases herror : r.feedEnd.error <;> simp [readEnd, herror]
  cases bytes with
  | nil =>
    refine ⟨(receiver_readEnd {} s []).trans ?_, (hend {} s []).trans (and_iff_right rfl).symm⟩
    have hended : scan.ended = ({} : Reader).feedEnd.events.toList := rfl
    rw [hended, Scan.forward, Array.foldl_toList]
  | cons b bytes =>
    have hscan : scan = ({} : Reader).feed (Receiver.limit s) (b :: bytes) := rfl
    simp only [readText, Supply.ofBytes, readPieces, ← hscan]
    cases herror : scan.error with
    | some e => simp [Scan.ended, Scan.forward, herror]
    | none =>
      refine ⟨?_, (hend _ _ _).trans (and_iff_right rfl).symm⟩
      refine (receiver_readEnd _ _ _).trans ?_
      rw [forward_forward, Scan.ended, herror]

-- Reading a text hands its tokens to the receiver, up to the first one that does not fit, and
-- succeeds if there is none.
theorem readText_takeWhile (s : σ) (bytes : List UInt8) :
    (readText (.ofBytes bytes) s).receiver =
        ((tokens bytes).takeWhile (Token.Fits (Receiver.limit s) ·)).foldl Token.send s ∧
      ((readText (.ofBytes bytes) s).error = none ↔
        ∀ t ∈ tokens bytes, Token.Fits (Receiver.limit s) t) := by
  obtain ⟨hreceiver, herror⟩ := readText_ofBytes_eq s bytes
  obtain ⟨hiff, -⟩ := foldl_step_spec (Receiver.limit s) (s := { reader := {} }) rfl
    (.fresh bytes) trivial
  have hcalls := foldl_step_takeWhile (Receiver.limit s) (s := { reader := {} }) rfl
    (.fresh bytes) trivial
  refine ⟨?_, herror.trans hiff⟩
  rw [hreceiver, ← foldl_forward_filter, hcalls, List.foldl_append, List.foldl_map]
  simp only [forward_event]
  rfl

end Receiver

end SatFrontend.Dimacs

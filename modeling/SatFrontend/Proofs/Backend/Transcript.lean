import Mathlib.Data.List.TakeWhile
import SatFrontend.Proofs.Backend.Blame
import SatFrontend.Proofs.Text.Integer

namespace SatFrontend.Backend

open Text CommandLine

-- A line that is no model: it is blank, or begins with a `c`.
structure Remark where
  text : String
  oneLine : OneLine text
  noModel : (∀ c ∈ text.toList, isBlank c = true) ∨ text.toList.head? = some 'c'

-- Models as they are printed, each with the remarks before it, and remarks after the last one.
structure Transcript where
  entries : List (List Remark × List Lit)
  closing : List Remark

namespace Transcript

def models (t : Transcript) : List (List Lit) := t.entries.map (·.2)

def lines (t : Transcript) : List String :=
  t.entries.flatMap (fun entry => entry.1.map Remark.text ++ [modelLine [] entry.2]) ++
    t.closing.map Remark.text

def text (t : Transcript) : String := unlines t.lines

end Transcript

-- A line that spells a model: integers in the range of literals, of which only the last one may be
-- a 0. The others are the literals of the model.
def Spells (m : List Lit) (line : List Char) : Prop :=
  ∃ ns : List Int, List.Forall₂ IsInteger (words line) ns ∧
    (∀ n ∈ ns, n.natAbs ≤ Var.maxCount) ∧ 0 ∉ ns.dropLast ∧ m.map Lit.toInt = ns.filter (· ≠ 0)

-- A line that is not left out and spells a model.
def Modeling (m : List Lit) (line : List Char) : Prop :=
  ModelStream.isSkipped line = false ∧ Spells m line

-- Models that are handed out one after the other, and then the end.
def Queue.ofModels (ms : List (List Lit)) : Queue :=
  ⟨.running, ms.map (fun m => ⟨.ok (some m), .running⟩) ++ [⟨.ok none, .exhausted⟩]⟩

section Words

variable {program : String} {line : List Char} {ws : List (List Char)} {m : List Lit}

theorem map_eq_ok_iff {α β : Type} {f : α → β} {x : Except Failure α} {b : β} :
    x.map f = .ok b ↔ ∃ a, x = .ok a ∧ f a = b := by
  cases x <;> simp [Except.map]

-- Below the last number, a number that is not 0 only stands before the others.
theorem zero_not_mem_dropLast_cons {n : Int} (hne : n ≠ 0) (ns : List Int) :
    0 ∉ (n :: ns).dropLast ↔ 0 ∉ ns.dropLast := by
  cases ns with
  | nil => simp
  | cons k ns => simp [Ne.symm hne]

theorem ModelStream.literals_eq_ok_iff :
    literals program line ws = .ok m ↔
      ∃ ns : List Int, List.Forall₂ IsInteger ws ns ∧ (∀ n ∈ ns, n.natAbs ≤ Var.maxCount) ∧
        0 ∉ ns.dropLast ∧ m.map Lit.toInt = ns.filter (· ≠ 0) := by
  induction ws generalizing m with
  | nil => simp [literals, eq_comm]
  | cons w ws ih =>
    rw [literals]
    simp only [List.forall₂_cons_left_iff, ← integer?_eq_some_iff]
    cases reading w with
    | noInteger h => simp [h]
    | zero h =>
      simp only [h, if_true]
      cases ws with
      | nil =>
        constructor
        · intro hm
          obtain rfl := Except.ok.inj hm
          exact ⟨[0], ⟨0, [], rfl, .nil, rfl⟩, by simp, by simp, by simp⟩
        · rintro ⟨-, ⟨n, rest, hn, hrest, rfl⟩, -, -, hm⟩
          obtain rfl : 0 = n := Option.some.inj hn
          cases hrest
          obtain rfl : m = [] := by simpa using hm
          rfl
      | cons v ws =>
        refine iff_of_false (by simp) ?_
        rintro ⟨-, ⟨n, rest, hn, hrest, rfl⟩, -, hlast, -⟩
        obtain rfl : 0 = n := Option.some.inj hn
        cases hrest with
        | cons hv hws => simp at hlast
    | @literal n l h hne hle hl =>
      have hn := Lit.toInt_of_ofInt hl
      simp only [h, if_neg hne, hl, map_eq_ok_iff, ih]
      constructor
      · rintro ⟨m, ⟨ns, hws, hrange, hlast, hm⟩, rfl⟩
        refine ⟨n :: ns, ⟨n, ns, rfl, hws, rfl⟩, List.forall_mem_cons.mpr ⟨hle, hrange⟩,
          (zero_not_mem_dropLast_cons hne ns).mpr hlast, ?_⟩
        rw [List.map_cons, hn, hm, List.filter_cons_of_pos (by simp [hne])]
      · rintro ⟨-, ⟨k, ns, hk, hws, rfl⟩, hrange, hlast, hm⟩
        obtain rfl : n = k := Option.some.inj hk
        rw [List.filter_cons_of_pos (by simp [hne])] at hm
        obtain ⟨l', m, rfl, hl', hm⟩ := List.map_eq_cons_iff.mp hm
        obtain rfl : l' = l := Lit.toInt_inj (hl'.trans hn.symm)
        exact ⟨m, ⟨ns, hws, (List.forall_mem_cons.mp hrange).2,
          (zero_not_mem_dropLast_cons hne ns).mp hlast, hm⟩, rfl⟩
    | beyond h hne hlt hl =>
      simp only [h, if_neg hne, hl]
      refine iff_of_false (by simp) ?_
      rintro ⟨-, ⟨n, ns, hn, -, rfl⟩, hrange, -⟩
      obtain rfl := Option.some.inj hn
      exact Nat.not_le.mpr hlt (List.forall_mem_cons.mp hrange).1

theorem ModelStream.model_eq_ok_iff (program : String) (line : List Char) (m : List Lit) :
    model program line = .ok m ↔ Spells m line :=
  literals_eq_ok_iff

end Words

section Lines

variable {program : String} {exit : Exit} {lines : List (List UInt8)} {m : List Lit}

-- A model that is delivered next is spelled by the first line that is not left out.
theorem Queue.next_eq_model_iff :
    (next ⟨.running, deliveries program exit lines⟩).1 = .ok (some m) ↔
      After (Says (ModelStream.isSkipped · = true)) (Says (Modeling m)) lines := by
  induction lines with
  | nil =>
    refine iff_of_false (fun h => ?_) not_after_nil
    simp only [deliveries, next, report] at h
    split at h <;> cases h
  | cons line lines ih =>
    rw [after_cons_iff]
    cases hdecode : decode? line with
    | none =>
      rw [deliveries_of_no_text hdecode]
      exact iff_of_false (by simp [next]) (by simp [not_says_of_no_text hdecode])
    | some cs =>
      rw [says_iff hdecode, says_iff hdecode, Modeling]
      by_cases hskipped : ModelStream.isSkipped (trim cs) = true
      · rw [deliveries_of_skipped hdecode hskipped, ih]
        simp [hskipped]
      · have hnext : (next ⟨.running, deliveries program exit (line :: lines)⟩).1 =
            (ModelStream.model program (trim cs)).map some := by
          rw [deliveries_of_model hdecode hskipped]
          rfl
        rw [hnext, map_eq_ok_iff, ← ModelStream.model_eq_ok_iff program]
        simp [hskipped]

theorem ModelStream.next_eq_model_iff (s : ModelStream) (m : List Lit) :
    s.next.1 = .ok (some m) ↔ s.state = .running ∧
      After (Says (isSkipped · = true)) (Says (Modeling m)) (outputLines s.remaining) := by
  by_cases h : s.state = .running
  · rw [next_eq, queue_of_running h, Queue.next_eq_model_iff, and_iff_right h]
  · exact iff_of_false (by simp [(quiet_of_ended h).1]) fun hrunning => h hrunning.1

end Lines

section Transcript

open ModelStream

theorem Remark.isSkipped (r : Remark) : ModelStream.isSkipped (trim r.text.toList) = true := by
  obtain ⟨text, -, hblank | hcomment⟩ := r
  · have hnil : text.toList.dropWhile isBlank = [] := List.dropWhile_eq_nil_iff.mpr hblank
    rw [trim, hnil]
    rfl
  · obtain ⟨rest, hrest⟩ := List.head?_eq_some_iff.mp hcomment
    rw [hrest, trim_cons (by decide)]
    rfl

theorem prints_remarks (rs : List Remark) : Prints (rs.map Remark.text) [] := by
  induction rs with
  | nil => exact .nothing
  | cons r rs ih => exact .remark r.oneLine r.isSkipped ih

theorem Transcript.prints (t : Transcript) : Prints t.lines t.models := by
  obtain ⟨entries, closing⟩ := t
  induction entries with
  | nil => exact prints_remarks closing
  | cons entry entries ih =>
    have hlines : lines ⟨entry :: entries, closing⟩ =
        entry.1.map Remark.text ++ modelLine [] entry.2 :: lines ⟨entries, closing⟩ := by
      simp [lines]
    rw [hlines]
    exact (prints_remarks entry.1).append (ih.model entry.2)

-- Lines that are models or left out are delivered as the models.
theorem deliveries_of_prints {ts : List String} {ms : List (List Lit)} (h : Prints ts ms)
    (program : String) (exit : Exit) :
    deliveries program exit (outputLines (encode (unlines ts))) =
      ms.map (fun m => ⟨.ok (some m), .running⟩) ++ [⟨report program exit, .exhausted⟩] := by
  have hcons : ∀ {t : String} (ts : List String), OneLine t →
      outputLines (encode (unlines (t :: ts))) =
        encode (t ++ "\n") :: outputLines (encode (unlines ts)) := by
    intro t ts ht
    rw [unlines_cons, encode_append]
    exact outputLines_of_cut (cutLine?_encode ht _)
  have htrim : ∀ t : String, trim (t ++ "\n").toList = trim t.toList := by
    intro t
    rw [String.toList_append]
    exact trim_append_blank (by decide) _
  induction h with
  | nothing => rfl
  | @remark t ts ms honeLine hskipped _ ih =>
    rw [hcons ts honeLine, deliveries_of_skipped (decode?_encode _) (by rwa [htrim]), ih]
  | @model ts ms m _ ih =>
    have hmodel : ModelStream.model program (modelLine [] m).toList = .ok m := by
      rw [ModelStream.model, words_modelLine, literals_modelWords]
    rw [hcons ts (oneLine_modelLine m), deliveries_of_model (decode?_encode _)
      (by rw [htrim, trim_modelLine, not_isSkipped_modelLine]; simp), htrim, trim_modelLine, hmodel,
      ih]
    rfl

theorem Queue.serveAll_ofModels (ms : List (List Lit)) (k : Nat) :
    (serveAll (ofModels ms) (List.replicate (ms.length + k) .next)).1 =
      ms.map (fun m => (.model (.ok (some m)), .running)) ++
        List.replicate k (.model (.ok none), .exhausted) := by
  induction ms with
  | nil =>
    cases k with
    | zero => rfl
    | succ k =>
      have hidle := serveAll_ended (q := ⟨.exhausted, []⟩) (by simp) rfl (List.replicate k .next)
      have hfirst : (serveAll (ofModels []) (List.replicate (k + 1) .next)).1 =
          (.model (.ok none), .exhausted) ::
            (serveAll (⟨.exhausted, []⟩ : Queue) (List.replicate k .next)).1 := rfl
      rw [List.length_nil, Nat.zero_add, hfirst, hidle, List.map_replicate]
      rfl
  | cons m ms ih =>
    have hfirst : ∀ n, (serveAll (ofModels (m :: ms)) (List.replicate (n + 1) .next)).1 =
        (.model (.ok (some m)), .running) ::
          (serveAll (ofModels ms) (List.replicate n .next)).1 := fun _ => rfl
    rw [List.length_cons, Nat.add_right_comm, hfirst, ih]
    rfl

theorem Queue.takeAll_ofModels (ms : List (List Lit)) :
    takeAll (ofModels ms).state (ofModels ms).waiting = (.ok ms, ⟨.exhausted, []⟩) := by
  induction ms with
  | nil => rfl
  | cons m ms ih =>
    have hcons : takeAll (ofModels (m :: ms)).state (ofModels (m :: ms)).waiting =
        ((takeAll (ofModels ms).state (ofModels ms).waiting).1.map (m :: ·),
          (takeAll (ofModels ms).state (ofModels ms).waiting).2) := rfl
    rw [hcons, ih]
    rfl

end Transcript

-- Models that are printed with remarks between them are read back as the same models in the same
-- order, and then comes the end, however the program cuts its output and however the models are
-- asked for. A line gives a model exactly if it spells one, and no other line is delivered.
theorem read_transcript (t : Transcript) (s : ModelStream) (hrunning : s.state = .running)
    (houtput : s.remaining = encode t.text) (hexit : s.behavior.exit.isSuccess = true) :
    ((∀ requests, (serveAll s requests).1 = (serveAll (Queue.ofModels t.models) requests).1) ∧
      (∀ k, (serveAll s (List.replicate (t.models.length + k) .next)).1 =
        t.models.map (fun m => (.model (.ok (some m)), .running)) ++
          List.replicate k (.model (.ok none), .exhausted)) ∧
      s.list.1 = .ok t.models ∧ s.list.2.state = .exhausted) ∧
    (∀ program line m, ModelStream.model program line = .ok m ↔ Spells m line) ∧
    ∀ (s : ModelStream) (m : List Lit), s.next.1 = .ok (some m) ↔ s.state = .running ∧
      After (Says (ModelStream.isSkipped · = true)) (Says (Modeling m))
        (outputLines s.remaining) := by
  have hqueue : s.queue = Queue.ofModels t.models := by
    rw [ModelStream.queue_of_running hrunning, houtput, Transcript.text,
      deliveries_of_prints t.prints, report, if_pos hexit]
    rfl
  have hdelivers := s.delivers_queue
  rw [hqueue] at hdelivers
  have hserve := fun requests => (ModelStream.simulation_queue.serveAll hdelivers requests).1
  obtain ⟨hlist, hlast⟩ := ModelStream.simulation_queue.list hdelivers
  have htaken : Deliverer.list (Queue.ofModels t.models) = (.ok t.models, ⟨.exhausted, []⟩) :=
    Queue.takeAll_ofModels t.models
  rw [htaken] at hlist hlast
  refine ⟨⟨hserve, fun k => ?_, hlist, hlast.state⟩, ModelStream.model_eq_ok_iff,
    ModelStream.next_eq_model_iff⟩
  rw [hserve, Queue.serveAll_ofModels]

-- A model, and the empty model after it, with a comment, a blank line and another comment.
def sampleTranscript : Transcript where
  entries :=
    [([⟨"c begin", by decide, .inr (by decide)⟩], [⟨.ofNumber 1, false⟩, ⟨.ofNumber 2, true⟩]),
      ([⟨" \t", by decide, .inl (by simp [isBlank])⟩], [])]
  closing := [⟨"c end", by decide, .inr (by decide)⟩]

theorem read_transcript_sampleTranscript :
    let output := encode sampleTranscript.text
    let s : ModelStream := ⟨"solver", .running, [], .prints (output.take 12) fun _ =>
      .prints (output.drop 12) fun _ => .exits (.code 0)⟩
    (s.state = .running ∧ s.remaining = output ∧ s.behavior.exit.isSuccess = true) ∧
      s.list.1 = .ok [[⟨.ofNumber 1, false⟩, ⟨.ofNumber 2, true⟩], []] := by
  intro output s
  have hremaining : s.remaining = output := by
    simp [s, ModelStream.remaining, Behavior.output]
  obtain ⟨⟨-, -, hlist, -⟩, -⟩ := read_transcript sampleTranscript s rfl hremaining rfl
  exact ⟨⟨rfl, hremaining, rfl⟩, hlist⟩

end SatFrontend.Backend

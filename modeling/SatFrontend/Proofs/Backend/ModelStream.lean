import SatFrontend.Proofs.Backend.ModelLine

namespace SatFrontend.Backend

open Text CommandLine

theorem cutLine?_append {bytes line rest : List UInt8} (h : cutLine? bytes = some (line, rest))
    (more : List UInt8) : cutLine? (bytes ++ more) = some (line, rest ++ more) := by
  induction bytes generalizing line with
  | nil => simp [cutLine?] at h
  | cons b bytes ih =>
    rw [cutLine?] at h
    rw [List.cons_append, cutLine?]
    split at h
    · obtain ⟨rfl, rfl⟩ := Prod.mk.inj (Option.some.inj h)
      rw [if_pos ‹_›]
    · obtain ⟨⟨line', rest'⟩, hcut, heq⟩ := Option.map_eq_some_iff.mp h
      obtain ⟨rfl, rfl⟩ := Prod.mk.inj heq
      rw [if_neg ‹_›, ih hcut]
      rfl

theorem cutLine?_eq_none {bytes more : List UInt8} (h : cutLine? (bytes ++ more) = none) :
    cutLine? bytes = none := by
  cases hcut : cutLine? bytes with
  | none => rfl
  | some cut =>
    rw [cutLine?_append hcut] at h
    contradiction

theorem cutLine?_of_not_mem {line : List UInt8} (h : 10 ∉ line) (rest : List UInt8) :
    cutLine? (line ++ 10 :: rest) = some (line ++ [10], rest) := by
  induction line with
  | nil => rfl
  | cons b line ih =>
    obtain ⟨hb, hline⟩ := not_or.mp (mt List.mem_cons.mpr h)
    rw [List.cons_append, cutLine?, if_neg (Ne.symm hb), ih hline]
    rfl

-- However the output comes in pieces, a line is read as if all of it were there.
theorem readLine_of_some {pending line rest : List UInt8} {b : Behavior}
    (h : cutLine? (pending ++ b.output) = some (line, rest)) :
    (readLine pending b).line = line ∧
      (readLine pending b).pending ++ (readLine pending b).behavior.output = rest ∧
      (readLine pending b).behavior.exit = b.exit := by
  induction b generalizing pending with
  | exits e =>
    rw [Behavior.output, List.append_nil] at h
    simp [readLine, h, Behavior.output]
  | prints bytes more ih =>
    rw [Behavior.output] at h
    rw [readLine]
    cases hcut : cutLine? pending with
    | none => exact ih () (by rwa [List.append_assoc])
    | some cut =>
      obtain ⟨line', rest'⟩ := cut
      rw [cutLine?_append hcut] at h
      obtain ⟨rfl, rfl⟩ := Prod.mk.inj (Option.some.inj h)
      exact ⟨rfl, rfl, rfl⟩
  | complains bytes more ih =>
    rw [Behavior.output] at h
    rw [readLine]
    cases hcut : cutLine? pending with
    | none => exact ih () h
    | some cut =>
      obtain ⟨line', rest'⟩ := cut
      rw [cutLine?_append hcut] at h
      obtain ⟨rfl, rfl⟩ := Prod.mk.inj (Option.some.inj h)
      exact ⟨rfl, rfl, rfl⟩

-- What is left without a line feed at the end of the output is read as a line as well.
theorem readLine_of_none {pending : List UInt8} {b : Behavior}
    (h : cutLine? (pending ++ b.output) = none) :
    readLine pending b = ⟨pending ++ b.output, [], .exits b.exit⟩ := by
  induction b generalizing pending with
  | exits e => simp [readLine, cutLine?_eq_none h, Behavior.output, Behavior.exit]
  | prints bytes more ih =>
    rw [readLine, cutLine?_eq_none h]
    rw [Behavior.output, ← List.append_assoc] at h
    simp only [ih () h, Behavior.output, Behavior.exit, List.append_assoc]
  | complains bytes more ih =>
    rw [readLine, cutLine?_eq_none h]
    simp only [ih () h, Behavior.output, Behavior.exit]

theorem cutLine?_encode {t : String} (h : OneLine t) (rest : List UInt8) :
    cutLine? (encode (t ++ "\n") ++ rest) = some (encode (t ++ "\n"), rest) := by
  rw [encode_append, List.append_assoc]
  exact cutLine?_of_not_mem (lineFeed_not_mem_encode h) rest

namespace ModelStream

-- The bytes that are still to come.
def remaining (s : ModelStream) : List UInt8 := s.pending ++ s.behavior.output

-- What a line of the output comes to: it is left out, or it is read as a model.
theorem next_line {s : ModelStream} (hrunning : s.state = .running) {t : String} (h : OneLine t)
    {rest : List UInt8} (hrest : s.remaining = encode (t ++ "\n") ++ rest) :
    ∃ s' : ModelStream, s'.state = .running ∧ s'.remaining = rest ∧
      s'.behavior.exit = s.behavior.exit ∧
      s.next =
        if isSkipped (trim t.toList) then s'.next
        else (model s.program (trim t.toList), s') := by
  have hcut := cutLine?_encode h rest
  rw [← hrest] at hcut
  obtain ⟨hline, hremaining, hexit⟩ := readLine_of_some hcut
  refine ⟨{ s with
    pending := (readLine s.pending s.behavior).pending
    behavior := (readLine s.pending s.behavior).behavior }, hrunning, hremaining, hexit, ?_⟩
  have htrim : trim (t ++ "\n").toList = trim t.toList := by
    rw [String.toList_append]
    exact trim_append_blank (by decide) _
  rw [next, if_neg (by simp [hrunning]), dif_neg (by simp [hline, encode_eq]), hline,
    decode?_encode]
  simp only [htrim]

theorem next_end {s : ModelStream} (hrunning : s.state = .running) (hrest : s.remaining = [])
    (hexit : s.behavior.exit.isSuccess = true) :
    ∃ s', s.next = (.ok none, s') ∧ s'.state = .exhausted := by
  have hread : readLine s.pending s.behavior = ⟨s.remaining, [], .exits s.behavior.exit⟩ :=
    readLine_of_none (congrArg cutLine? hrest)
  rw [hrest] at hread
  rw [next, if_neg (by simp [hrunning]), hread, dif_pos rfl, atEnd]
  simp only [Behavior.exit, hexit, if_true]
  exact ⟨_, rfl, rfl⟩

theorem collect_eq (s : ModelStream) (ms : Array (List Lit)) :
    s.collect ms =
      match s.next with
      | (.ok (some m), s') => s'.collect (ms.push m)
      | (.ok none, s') => (ms.toList, none, s')
      | (.error e, s') => (ms.toList, some e, s') := by
  rw [collect]
  split <;> simp_all

-- Lines that are remarks or models, and the models among them.
inductive Prints : List String → List (List Lit) → Prop where
  | nothing : Prints [] []
  | remark {t : String} {ts : List String} {ms : List (List Lit)} (honeLine : OneLine t)
      (hskipped : isSkipped (trim t.toList) = true) (h : Prints ts ms) : Prints (t :: ts) ms
  | model {ts : List String} {ms : List (List Lit)} (m : List Lit) (h : Prints ts ms) :
      Prints (modelLine [] m :: ts) (m :: ms)

namespace Prints

variable {ts us : List String} {ms ns : List (List Lit)}

theorem append (h : Prints ts ms) (h' : Prints us ns) : Prints (ts ++ us) (ms ++ ns) := by
  induction h with
  | nothing => exact h'
  | remark honeLine hskipped _ ih => exact ih.remark honeLine hskipped
  | model m _ ih => exact ih.model m

theorem comments (h : ∀ t ∈ ts, IsComment t) : Prints ts [] := by
  induction ts with
  | nil => exact .nothing
  | cons t ts ih =>
    obtain ⟨ht, hts⟩ := List.forall_mem_cons.mp h
    refine .remark ht.oneLine ?_ (ih hts)
    obtain ⟨rest, hrest⟩ := ht.lead
    rw [← hrest, List.cons_append, trim_cons (by decide)]
    rfl

theorem models (ms : List (List Lit)) : Prints (ms.map (modelLine [])) ms := by
  induction ms with
  | nil => exact .nothing
  | cons m ms ih => exact ih.model m

end Prints

theorem trim_modelLine (m : List Lit) :
    trim (modelLine [] m).toList = (modelLine [] m).toList := by
  obtain ⟨⟨c, rest, hcons, hsign⟩, cs, hlast⟩ := ends_modelLine m
  have htrim : trim (modelLine [] m).toList = trimEnd (modelLine [] m).toList := by
    rw [hcons, trim, List.dropWhile_cons_of_neg (by simp [hsign.not_blank])]
  rw [htrim, hlast, trimEnd_append_singleton (by decide)]

theorem not_isSkipped_modelLine (m : List Lit) : isSkipped (modelLine [] m).toList = false := by
  obtain ⟨⟨c, rest, hcons, hsign⟩, -⟩ := ends_modelLine m
  have hc : c ≠ 'c' := hsign.ne (by simp [Sign])
  simp [isSkipped, hcons, hc]

-- All models that were printed are delivered in order, and then the end.
theorem collect_prints {ts : List String} {ms : List (List Lit)} (h : Prints ts ms)
    {s : ModelStream} (hrunning : s.state = .running)
    (houtput : s.remaining = encode (unlines ts)) (hexit : s.behavior.exit.isSuccess = true)
    (found : Array (List Lit)) :
    ∃ s', s.collect found = (found.toList ++ ms, none, s') ∧ s'.state = .exhausted := by
  -- Only the bytes that remain count, not the pieces that they come in.
  induction h generalizing s found with
  | nothing =>
    obtain ⟨s', hnext, hstate⟩ := next_end hrunning houtput hexit
    exact ⟨s', by rw [collect_eq, hnext, List.append_nil], hstate⟩
  | @remark t ts ms honeLine hskipped _ ih =>
    rw [unlines_cons, encode_append] at houtput
    obtain ⟨s', hrunning', houtput', hexit', hnext⟩ := next_line hrunning honeLine houtput
    rw [if_pos hskipped] at hnext
    rw [collect_eq, hnext, ← collect_eq]
    exact ih hrunning' houtput' (hexit'.symm ▸ hexit) found
  | @model ts ms m _ ih =>
    rw [unlines_cons, encode_append] at houtput
    obtain ⟨s', hrunning', houtput', hexit', hnext⟩ :=
      next_line hrunning (oneLine_modelLine m) houtput
    have hmodel : ModelStream.model s.program (modelLine [] m).toList = .ok m := by
      rw [ModelStream.model, words_modelLine, literals_modelWords]
    rw [if_neg (by simp [trim_modelLine, not_isSkipped_modelLine]), trim_modelLine, hmodel] at hnext
    obtain ⟨s₁, hcollect, hstate⟩ :=
      ih hrunning' houtput' (hexit'.symm ▸ hexit) (found.push m)
    refine ⟨s₁, ?_, hstate⟩
    rw [collect_eq, hnext]
    change s'.collect (found.push m) = _
    simp [hcollect]

theorem drain_prints {ts : List String} {ms : List (List Lit)} (h : Prints ts ms)
    {s : ModelStream} (hrunning : s.state = .running)
    (houtput : s.remaining = encode (unlines ts)) (hexit : s.behavior.exit.isSuccess = true) :
    ∃ s', s.drain = (ms, none, s') ∧ s'.state = .exhausted :=
  collect_prints h hrunning houtput hexit #[]

end ModelStream

end SatFrontend.Backend

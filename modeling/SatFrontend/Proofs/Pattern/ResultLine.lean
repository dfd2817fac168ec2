import SatFrontend.Backend.Counter
import SatFrontend.Proofs.Pattern.Follow

namespace SatFrontend.Pattern

open Unicode (CharSet)

-- The program of the pattern for the result line of the usual counters.
def resultProgram : Program where
  nodes := #[.accept, .closes 0, .split 3 1, .take Unicode.decimalDigits 2, .opens 3,
    .take (.single ' ') 4, .take (.single 'c') 5, .take (.single 'm') 6, .take (.single ' ') 7,
    .take (.single 's') 8, .look (.lineStart false) 9]
  start := 10

-- A frontier with its threads, at which the program has not been started yet.
structure Open (f : Frontier) (position : Nat) (threads : List Thread) : Prop where
  ready : f.ready.toList = threads
  startable : ∃ seen, Seen f.visited position seen ∧ resultProgram.start ∉ seen

section Start

variable (place : Place) {visited : Array Nat} {t : Thread}

theorem open_nothing (h : Seen visited place.position []) :
    Open { visited } place.position [] := ⟨rfl, [], h, by simp⟩

theorem start_eq (f : Frontier) (t : Thread) :
    f.start resultProgram place t = f.follow resultProgram place 24 [t] := rfl

theorem open_start_take (h : Seen visited place.position []) {s : CharSet} {next : Nat}
    (hnode : resultProgram.nodes[t.node]? = some (.take s next)) :
    Open (.start resultProgram place { visited } t) place.position [t] := by
  have hne : resultProgram.start ≠ t.node := by
    intro heq
    rw [← heq] at hnode
    cases hnode
  rw [start_eq, Frontier.follow_take h (by simp) hnode, Frontier.follow_nil]
  exact ⟨rfl, _, h.visit t.node, by simpa using hne⟩

theorem open_start_opens (h : Seen visited place.position []) (ht : t.node = 4) :
    Open (.start resultProgram place { visited } t) place.position
      [{ t with node := 3, opened := some place.position }] := by
  have hopens : resultProgram.nodes[t.node]? = some (.opens 3) := by rw [ht]; rfl
  have h₄ := Frontier.seen_visit (f := { visited }) h t.node
  have h₃ := Frontier.seen_await h₄ { t with node := 3, opened := some place.position }
  rw [start_eq, Frontier.follow_opens h (by simp) hopens, Frontier.follow_take h₄ (by simp [ht]) rfl,
    Frontier.follow_nil]
  exact ⟨rfl, _, h₃, by simp [ht, resultProgram]⟩

-- After a digit there can be another one, and there need not be.
theorem open_start_split (h : Seen visited place.position []) (ht : t.node = 2) :
    Open (.start resultProgram place { visited } t) place.position
      [{ t with node := 3 }, { t with node := 0, closed := some place.position }] := by
  have hsplit : resultProgram.nodes[t.node]? = some (.split 3 1) := by rw [ht]; rfl
  have h₂ := Frontier.seen_visit (f := { visited }) h t.node
  have h₃ := Frontier.seen_await h₂ { t with node := 3 }
  have h₁ := Frontier.seen_visit h₃ 1
  have h₀ := Frontier.seen_await h₁ { t with node := 0, closed := some place.position }
  rw [start_eq, Frontier.follow_split h (by simp) hsplit,
    Frontier.follow_take h₂ (by simp [ht]) rfl, Frontier.follow_closes h₃ (by simp [ht]) rfl,
    Frontier.follow_accept h₁ (by simp [ht]) rfl, Frontier.follow_nil]
  exact ⟨rfl, _, h₀, by simp [ht, resultProgram]⟩

end Start

abbrev placeAfter (position : Nat) (c : Char) (cs : List Char) : Place :=
  { position := position + 1, before := some c, after := cs.head? }

-- Whether a line begins after a character.
def AtLineStart (before : Option Char) : Prop := ∀ c ∈ before, c = '\n'

section Search

variable {f : Frontier} {position : Nat} {before : Option Char} {c : Char} (cs : List Char)

theorem atLineStart_none : AtLineStart none := by simp [AtLineStart]

theorem atLineStart_lineFeed : AtLineStart (some '\n') := by simp [AtLineStart]

theorem not_atLineStart (h : c ≠ '\n') : ¬AtLineStart (some c) := fun hstart => h (hstart c rfl)

theorem lineStart_holds {place : Place} :
    (Anchor.lineStart false).holds place = true ↔ AtLineStart place.before := by
  cases hbefore : place.before <;> simp [Anchor.holds, AtLineStart, hbefore]

-- Where no line begins the program is started in vain.
theorem settle_inside (place : Place) {threads : List Thread}
    (h : Open f place.position threads) (hbefore : ¬AtLineStart place.before) :
    ∃ visited, Seen visited (place.position + 1) [] ∧
      f.settle resultProgram place none =
        (threads.takeWhile (fun t => !t.accepts resultProgram),
          threads.find? (·.accepts resultProgram), visited) := by
  obtain ⟨seen, hseen, hnew⟩ := h.startable
  have hfails : (Anchor.lineStart false).holds place = false := by
    simpa using mt lineStart_holds.mp hbefore
  have hstart : f.start resultProgram place { node := resultProgram.start } =
      f.visit place resultProgram.start := by
    rw [start_eq, Frontier.follow_look hseen hnew rfl, hfails]
    exact Frontier.follow_nil
  refine ⟨_, (hseen.visit resultProgram.start).next, ?_⟩
  simp only [Frontier.settle, Option.isNone_none, if_true, hstart]
  rw [← h.ready]
  simp [Frontier.visit]

-- Where a line begins it can be a result line.
theorem settle_lineStart (place : Place) {visited : Array Nat}
    (h : Seen visited place.position []) (hbefore : AtLineStart place.before) :
    ∃ visited', Seen visited' (place.position + 1) [] ∧
      Frontier.settle resultProgram place none { visited } =
        ([{ node := 9 }], none, visited') := by
  have hholds := lineStart_holds.mpr hbefore
  have hseen := h.visit resultProgram.start
  have hstart : Frontier.start resultProgram place { visited } { node := resultProgram.start } =
      Frontier.await (Frontier.visit { visited } place resultProgram.start) place
        { node := 9 } := by
    rw [start_eq, Frontier.follow_look h (by simp) rfl, hholds]
    exact (Frontier.follow_take hseen (by simp [resultProgram]) rfl).trans Frontier.follow_nil
  refine ⟨_, (hseen.visit 9).next, ?_⟩
  simp only [Frontier.settle, Option.isNone_none, if_true, hstart]
  rfl

theorem search_cons {threads : List Thread} {visited : Array Nat}
    (h : f.settle resultProgram { position, before, after := some c } none =
      (threads, none, visited)) :
    search resultProgram position before none f (c :: cs) =
      search resultProgram (position + 1) (some c) none
        (.advance resultProgram c (placeAfter position c cs) threads visited) cs := by
  rw [search, h]
  simp

-- A character that begins a line and is no `s`, or that stands inside of a line in which
-- nothing was found yet.
theorem search_pass {visited : Array Nat} (h : Seen visited position [])
    (hc : AtLineStart before → c ≠ 's') :
    ∃ visited', Seen visited' (position + 1) [] ∧
      search resultProgram position before none { visited } (c :: cs) =
        search resultProgram (position + 1) (some c) none { visited := visited' } cs := by
  by_cases hbefore : AtLineStart before
  · obtain ⟨visited', hvisited, hsettle⟩ :=
      settle_lineStart { position, before, after := some c } h hbefore
    refine ⟨visited', hvisited, ?_⟩
    have hother : (CharSet.single 's').mem c = false := by
      rw [CharSet.mem_single]
      exact beq_false_of_ne (hc hbefore).symm
    rw [search_cons cs hsettle, Frontier.advance_take rfl, if_neg (by simp [hother])]
  · obtain ⟨visited', hvisited, hsettle⟩ :=
      settle_inside { position, before, after := some c } (open_nothing _ h) hbefore
    exact ⟨visited', hvisited, search_cons cs hsettle⟩

theorem search_take {t : Thread} (h : Open f position [t]) (hbefore : ¬AtLineStart before)
    {s : CharSet} {next : Nat} (hnode : resultProgram.nodes[t.node]? = some (.take s next))
    (hc : s.mem c = true) :
    ∃ visited, Seen visited (position + 1) [] ∧
      search resultProgram position before none f (c :: cs) =
        search resultProgram (position + 1) (some c) none
          (.start resultProgram (placeAfter position c cs) { visited } { t with node := next })
          cs := by
  have hwaits : t.accepts resultProgram = false := by simp [Thread.accepts, hnode]
  obtain ⟨visited, hvisited, hsettle⟩ :=
    settle_inside { position, before, after := some c } h hbefore
  refine ⟨visited, hvisited, ?_⟩
  rw [search_cons cs (by simpa [hwaits] using hsettle)]
  rw [Frontier.advance_take hnode, if_pos hc]

theorem search_take_take {t : Thread} (h : Open f position [t]) (hbefore : ¬AtLineStart before)
    {s s' : CharSet} {next next' : Nat}
    (hnode : resultProgram.nodes[t.node]? = some (.take s next))
    (hnext : resultProgram.nodes[next]? = some (.take s' next')) (hc : s.mem c = true) :
    ∃ f', Open f' (position + 1) [{ t with node := next }] ∧
      search resultProgram position before none f (c :: cs) =
        search resultProgram (position + 1) (some c) none f' cs := by
  obtain ⟨visited, hvisited, hsearch⟩ := search_take cs h hbefore hnode hc
  exact ⟨_, open_start_take (placeAfter position c cs) hvisited hnext, hsearch⟩

-- A line is passed over unless it begins as a result line.
theorem search_line {line : List Char} {visited : Array Nat} (h : Seen visited position [])
    (honeLine : '\n' ∉ line) (hhead : AtLineStart before → line.head? ≠ some 's') :
    ∃ visited', Seen visited' (position + line.length + 1) [] ∧
      search resultProgram position before none { visited } (line ++ '\n' :: cs) =
        search resultProgram (position + line.length + 1) (some '\n') none
          { visited := visited' } cs := by
  induction line generalizing position before visited with
  | nil => exact search_pass cs h fun _ => by decide
  | cons c line ih =>
    obtain ⟨hc, hline⟩ := not_or.mp (mt List.mem_cons.mpr honeLine)
    obtain ⟨visited₁, hvisited₁, hpass⟩ :=
      search_pass (line ++ '\n' :: cs) h fun hbefore => by simpa using hhead hbefore
    obtain ⟨visited₂, hvisited₂, hrest⟩ := ih hvisited₁ hline fun hbefore =>
      absurd hbefore (not_atLineStart (Ne.symm hc))
    rw [List.length_cons, Nat.add_comm line.length 1, ← Nat.add_assoc position]
    exact ⟨visited₂, hvisited₂, hpass.trans hrest⟩

theorem search_lines {log : List (List Char)} {visited : Array Nat} (h : Seen visited position [])
    (hbefore : AtLineStart before)
    (hlog : ∀ line ∈ log, '\n' ∉ line ∧ line.head? ≠ some 's') :
    ∃ visited' before', Seen visited' (position + (log.flatMap (· ++ ['\n'])).length) [] ∧
      AtLineStart before' ∧
      search resultProgram position before none { visited } (log.flatMap (· ++ ['\n']) ++ cs) =
        search resultProgram (position + (log.flatMap (· ++ ['\n'])).length) before' none
          { visited := visited' } cs := by
  induction log generalizing position before visited with
  | nil => exact ⟨visited, before, h, hbefore, rfl⟩
  | cons line log ih =>
    obtain ⟨⟨honeLine, hhead⟩, hlog⟩ := List.forall_mem_cons.mp hlog
    obtain ⟨visited₁, hvisited₁, hline⟩ :=
      search_line (log.flatMap (· ++ ['\n']) ++ cs) h honeLine fun _ => hhead
    obtain ⟨visited₂, before₂, hvisited₂, hbefore₂, hrest⟩ :=
      ih hvisited₁ atLineStart_lineFeed hlog
    have hlength : position + ((line :: log).flatMap (· ++ ['\n'])).length =
        position + line.length + 1 + (log.flatMap (· ++ ['\n'])).length := by
      rw [List.flatMap_cons, List.length_append, List.length_append, List.length_singleton]
      omega
    rw [hlength, List.flatMap_cons, List.append_assoc, List.append_assoc, List.singleton_append]
    exact ⟨visited₂, before₂, hvisited₂, hbefore₂, hline.trans hrest⟩

-- What stands before the digits of a result.
def resultLead : List Char := ['s', ' ', 'm', 'c', ' ']

theorem search_begin {visited : Array Nat} (h : Seen visited position [])
    (hbefore : AtLineStart before) :
    ∃ f, Open f (position + 1) [{ node := 8 }] ∧
      search resultProgram position before none { visited } ('s' :: cs) =
        search resultProgram (position + 1) (some 's') none f cs := by
  obtain ⟨visited', hvisited, hsettle⟩ :=
    settle_lineStart { position, before, after := some 's' } h hbefore
  refine ⟨_, open_start_take (placeAfter position 's' cs) (t := { node := 8 }) hvisited
    rfl, ?_⟩
  rw [search_cons cs hsettle, Frontier.advance_take rfl, if_pos (by decide)]

theorem search_resultLead {visited : Array Nat} (h : Seen visited position [])
    (hbefore : AtLineStart before) :
    ∃ f, Open f (position + 5) [{ node := 3, opened := some (position + 5) }] ∧
      search resultProgram position before none { visited } (resultLead ++ cs) =
        search resultProgram (position + 5) (some ' ') none f cs := by
  obtain ⟨f₀, hf₀, h₀⟩ := search_begin (' ' :: 'm' :: 'c' :: ' ' :: cs) h hbefore
  obtain ⟨f₁, hf₁, h₁⟩ := search_take_take ('m' :: 'c' :: ' ' :: cs) (c := ' ') hf₀
    (not_atLineStart (c := 's') (by decide)) rfl rfl (by decide)
  obtain ⟨f₂, hf₂, h₂⟩ := search_take_take ('c' :: ' ' :: cs) (c := 'm') hf₁
    (not_atLineStart (c := ' ') (by decide)) rfl rfl (by decide)
  obtain ⟨f₃, hf₃, h₃⟩ := search_take_take (' ' :: cs) (c := 'c') hf₂
    (not_atLineStart (c := 'm') (by decide)) rfl rfl (by decide)
  obtain ⟨v₄, hv₄, h₄⟩ := search_take cs (c := ' ') hf₃
    (not_atLineStart (c := 'c') (by decide)) rfl (by decide)
  have hopens := open_start_opens (placeAfter (position + 4) ' ' cs)
    (t := { node := 4 }) hv₄ rfl
  have hlead : resultLead ++ cs = 's' :: ' ' :: 'm' :: 'c' :: ' ' :: cs := rfl
  refine ⟨_, hopens, ?_⟩
  rw [hlead, h₀, h₁, h₂, h₃]
  exact h₄

-- Once something was found and no thread is left the search is over.
theorem search_done (best : Thread) (visited : Array Nat) :
    search resultProgram position before (some best) { visited } cs = some best := by
  cases cs <;> simp [search, Frontier.settle]

-- Inside of the digits there is always a match that ends where the search stands.
theorem settle_digits (place : Place) {o : Nat} (best : Option Thread)
    (h : Open f place.position
      [{ node := 3, opened := some o },
        { node := 0, opened := some o, closed := some place.position }])
    (hbefore : ¬AtLineStart place.before) :
    ∃ visited, Seen visited (place.position + 1) [] ∧
      f.settle resultProgram place best =
        ([{ node := 3, opened := some o }],
          some { node := 0, opened := some o, closed := some place.position }, visited) := by
  cases best with
  | none => exact settle_inside place h hbefore
  | some t =>
    obtain ⟨seen, hseen, -⟩ := h.startable
    refine ⟨f.visited, hseen.next, ?_⟩
    rw [Frontier.settle, Option.isNone_some, if_neg Bool.false_ne_true, h.ready]
    rfl

theorem not_atLineStart_of_mem {d : Char} (hd : Unicode.decimalDigits.mem d = true) :
    ¬AtLineStart (some d) := by
  refine not_atLineStart ?_
  rintro rfl
  exact absurd hd (by decide)

theorem search_digits {o : Nat} (best : Option Thread)
    (h : Open f position
      [{ node := 3, opened := some o }, { node := 0, opened := some o, closed := some position }])
    (hbefore : ¬AtLineStart before) {ds : List Char}
    (hds : ∀ d ∈ ds, Unicode.decimalDigits.mem d = true)
    (hcs : ∀ c ∈ cs.head?, Unicode.decimalDigits.mem c = false) :
    search resultProgram position before best f (ds ++ cs) =
      some { node := 0, opened := some o, closed := some (position + ds.length) } := by
  have hdigit : resultProgram.nodes[Thread.node { node := 3, opened := some o }]? =
      some (.take Unicode.decimalDigits 2) := rfl
  -- A longer match is preferred, so the best one so far is given up with each digit.
  induction ds generalizing position before best f with
  | nil =>
    cases cs with
    | nil =>
      obtain ⟨visited, -, hsettle⟩ :=
        settle_digits { position, before, after := none } best h hbefore
      exact congrArg (·.2.1) hsettle
    | cons c cs =>
      have hc := hcs c rfl
      obtain ⟨visited, -, hsettle⟩ :=
        settle_digits { position, before, after := some c } best h hbefore
      rw [List.nil_append, search, hsettle]
      simp [Frontier.advance_take hdigit, hc, search_done]
  | cons d ds ih =>
    obtain ⟨hd, hds⟩ := List.forall_mem_cons.mp hds
    obtain ⟨visited, hvisited, hsettle⟩ :=
      settle_digits { position, before, after := some d } best h hbefore
    have hnext := open_start_split (placeAfter position d (ds ++ cs))
      (t := { node := 2, opened := some o }) hvisited rfl
    have hinside := not_atLineStart_of_mem hd
    rw [List.length_cons, Nat.add_comm ds.length, ← Nat.add_assoc,
      ← ih (some { node := 0, opened := some o, closed := some position }) hnext hinside hds,
      List.cons_append, search, hsettle]
    simp [-List.head?_append, Frontier.advance_take hdigit, hd]

end Search

-- What a regular expression with line starts promises of the pattern of a result line: the
-- leftmost match is the one that is found, so lines that do not begin as a result line are passed
-- over, and the group takes as many digits as there are.
def FindsResult (firstGroup? : List Char → Option (List Char)) : Prop :=
  ∀ (log : List (List Char)) (ds rest : List Char),
    (∀ line ∈ log, '\n' ∉ line ∧ line.head? ≠ some 's') →
    ds ≠ [] → (∀ d ∈ ds, Unicode.decimalDigits.mem d = true) →
    (∀ c ∈ rest.head?, Unicode.decimalDigits.mem c = false) →
    firstGroup? (log.flatMap (· ++ ['\n']) ++ (resultLead ++ (ds ++ rest))) = some ds

theorem findsResult_resultProgram : FindsResult resultProgram.firstGroup? := by
  intro log ds rest hlog hne hds hrest
  generalize hbefore : log.flatMap (· ++ ['\n']) = text
  obtain ⟨v, before, hv, hstart, hlines⟩ := search_lines (resultLead ++ (ds ++ rest))
    (seen_replicate resultProgram.nodes.size) atLineStart_none hlog
  rw [hbefore, Nat.zero_add] at hv hlines
  obtain ⟨f, hf, hlead⟩ := search_resultLead (ds ++ rest) hv hstart
  obtain ⟨d, ds, rfl⟩ := List.exists_cons_of_ne_nil hne
  obtain ⟨hd, hds⟩ := List.forall_mem_cons.mp hds
  obtain ⟨v', hv', hfirst⟩ := search_take (ds ++ rest) hf
    (not_atLineStart (c := ' ') (by decide)) rfl hd
  have hmore := search_digits rest none (open_start_split (placeAfter _ d (ds ++ rest))
    (t := { node := 2, opened := some (text.length + 5) }) hv' rfl) (not_atLineStart_of_mem hd)
    hds hrest
  have hdrop : (text ++ (resultLead ++ (d :: ds ++ rest))).drop (text.length + 5) =
      d :: ds ++ rest := by
    rw [← List.append_assoc, List.drop_left']
    simp [resultLead]
  have hsize : text.length + 5 + 1 + ds.length - (text.length + 5) = (d :: ds).length := by
    rw [List.length_cons]
    omega
  rw [Program.firstGroup?, hlines, hlead, List.cons_append, hfirst, hmore]
  change some ((List.drop _ _).take _) = _
  rw [← List.cons_append, hdrop, hsize, List.take_left]

end SatFrontend.Pattern

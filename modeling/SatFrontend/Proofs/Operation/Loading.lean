import SatFrontend.Operation
import SatFrontend.Proofs.Dimacs.Prefix
import SatFrontend.Proofs.Dimacs.RoundTrip
import SatFrontend.Proofs.Receiver.Adding

namespace SatFrontend

open Dimacs Receiver

-- The clauses as numbers.
def numbersOf (cs : List (List Lit)) : List (List Int) := cs.map fun c => c.map Lit.toInt

-- The clauses as a text, under a problem line if there is one.
def dimacsOf (h : Option Header) (cs : List (List Lit)) : List UInt8 :=
  Text.encode (h.elim "" writeHeader ++ writeClauses cs)

-- The operations that give clauses whole, one after the other.
inductive GivesWhole (cs : List (List Lit)) : Operation → Prop
  | clauses : GivesWhole cs (.read (.clauses (numbersOf cs)))
  | producer {make : Unit → List (List Int)} (h : make () = numbersOf cs) :
      GivesWhole cs (.read (.producer make))
  | items : GivesWhole cs (.add ((numbersOf cs).map .clause))

-- The operations that give clauses number by number, with a 0 after each of them.
inductive GivesRunning (files : Files) (cs : List (List Lit)) : Operation → Prop
  | numbers : GivesRunning files cs
      (.add ((cs.flatMap fun c => c.map Lit.toInt ++ [0]).map .number))
  | text (h : Option Header) : GivesRunning files cs (.read (.text (dimacsOf h cs)))
  | supply (h : Option Header) {supply : Supply} (hsupply : supply.Delivers (dimacsOf h cs)) :
      GivesRunning files cs (.read (.supply supply))
  | path (h : Option Header) {name : String} (hfile : files.read name = .ok (dimacsOf h cs)) :
      GivesRunning files cs (.read (.path name))

-- The first literal above a limit stands behind whole clauses, and in its own clause behind the
-- literals that it leaves open.
structure Overrun (limit : Nat) (cs before : List (List Lit)) (opened : List Lit) : Prop where
  within : ∀ l ∈ before.flatten ++ opened, l.var.number ≤ limit
  exceeds : ∃ l rest after, cs = before ++ (opened ++ l :: rest) :: after ∧ limit < l.var.number

theorem within_or_overrun (limit : Nat) (cs : List (List Lit)) :
    (∀ l ∈ cs.flatten, l.var.number ≤ limit) ∨
      ∃ before opened, Overrun limit cs before opened := by
  rcases all_or_first (fun c : List Lit => ∀ l ∈ c, l.var.number ≤ limit) cs with
    hall | ⟨before, c, after, rfl, hbefore, hc⟩
  · exact .inl (List.forall_mem_flatten.mpr hall)
  · obtain ⟨opened, l, rest, rfl, hopened, hl⟩ :=
      (all_or_first (fun l : Lit => l.var.number ≤ limit) c).resolve_left hc
    have hwithin := List.forall_mem_append.mpr ⟨List.forall_mem_flatten.mpr hbefore, hopened⟩
    exact .inr ⟨before, opened, hwithin, l, rest, after, rfl, Nat.not_le.mp hl⟩

namespace Receiver

-- A receiver for which it makes no difference to end a clause twice.
structure Orderly (σ : Type) [Receiver σ] : Prop extends Steady σ where
  again (s : σ) : Receiver.endClause (Receiver.endClause s) = Receiver.endClause s

variable {σ : Type} [Receiver σ] {s : σ}

-- The receiver after some clauses.
def load (s : σ) (cs : List (List Lit)) : σ :=
  cs.foldl (fun s c => endClause (pushAll s c)) s

section Load

variable (horderly : Orderly σ)

include horderly

theorem limit_load (cs : List (List Lit)) : limit (load s cs) = limit s := by
  induction cs generalizing s with
  | nil => rfl
  | cons c cs ih =>
    refine (ih (s := endClause (pushAll s c))).trans ?_
    rw [horderly.endClause, limit_pushAll horderly.toSteady]

theorem limit_forward_of_orderly (s : σ) (e : Event) : limit (e.forward s) = limit s := by
  cases e with
  | literal l => exact horderly.push s l
  | clauseEnd => exact horderly.endClause s
  | malformedHeader line text => rfl

end Load

section Whole

theorem body_toInt (c : List Lit) : body (c.map Lit.toInt) = c.map Lit.toInt := by
  rw [body, if_neg]
  intro hlast
  obtain ⟨l, -, hl⟩ := List.mem_map.mp (List.mem_of_getLast? hlast)
  exact l.toInt_ne_zero hl

theorem entry_toInt {limit : Nat} {l : Lit} : Entry limit l.toInt ↔ l.var.number ≤ limit := by
  simp [Entry, l.toInt_ne_zero, l.natAbs_toInt, l.var.number_le]

theorem addNumbers_toInt {c : List Lit} (h : ∀ l ∈ c, l.var.number ≤ limit s) :
    addNumbers s (c.map Lit.toInt) = .ok (commit s c) := by
  have hfits : (Item.clause (c.map Lit.toInt)).Fits (limit s) := by
    simpa only [Item.Fits, body_toInt, List.forall_mem_map, entry_toInt] using h
  obtain ⟨ls, hls, hadd⟩ := addNumbers_of_fits hfits
  rw [body_toInt] at hls
  rw [hadd, (List.map_inj_right fun _ _ => Lit.toInt_inj).mp hls]

theorem addNumbers_toInt_of_first {before : List Lit} {l : Lit} (after : List Lit)
    (hbefore : ∀ k ∈ before, k.var.number ≤ limit s) (hl : limit s < l.var.number) :
    ∃ e, addNumbers s ((before ++ l :: after).map Lit.toInt) = .error e := by
  have hbody : body ((before ++ l :: after).map Lit.toInt) =
      before.map Lit.toInt ++ l.toInt :: after.map Lit.toInt := by
    rw [body_toInt]
    simp
  refine ⟨_, addItem_of_refused (.clause hbody ?_ ?_)⟩
  · simpa only [List.forall_mem_map, entry_toInt] using hbefore
  · simpa only [entry_toInt, Nat.not_le] using hl

variable {cs : List (List Lit)}

theorem runAll_addNumbers (horderly : Orderly σ) (hclosed : endClause s = s)
    (h : ∀ l ∈ cs.flatten, l.var.number ≤ limit s) :
    runAll addNumbers s (numbersOf cs) = (load s cs, none) := by
  induction cs generalizing s with
  | nil => rfl
  | cons c cs ih =>
    obtain ⟨hc, hcs⟩ := List.forall_mem_append.mp h
    have hadd : addNumbers s (c.map Lit.toInt) = .ok (endClause (pushAll s c)) := by
      rw [addNumbers_toInt hc, commit, hclosed]
    have hlimit : limit (endClause (pushAll s c)) = limit s := limit_load horderly [c]
    rw [← hlimit] at hcs
    have hnumbers : numbersOf (c :: cs) = c.map Lit.toInt :: numbersOf cs := rfl
    simp only [hnumbers, runAll, hadd]
    exact ih (horderly.again _) hcs

-- The clause that is refused is left out as a whole.
theorem runAll_addNumbers_of_overrun (horderly : Orderly σ) (hclosed : endClause s = s)
    {before : List (List Lit)} {opened : List Lit} (h : Overrun (limit s) cs before opened) :
    ∃ e, runAll addNumbers s (numbersOf cs) = (load s before, some e) := by
  obtain ⟨hbefore, hopened⟩ := List.forall_mem_append.mp h.within
  obtain ⟨l, rest, after, hcs, hl⟩ := h.exceeds
  have hrun := runAll_addNumbers horderly hclosed hbefore
  rw [← limit_load horderly before] at hopened hl
  obtain ⟨e, he⟩ := addNumbers_toInt_of_first rest hopened hl
  have hnumbers : numbersOf cs =
      numbersOf before ++ (opened ++ l :: rest).map Lit.toInt :: numbersOf after := by
    simp [hcs, numbersOf]
  refine ⟨e, ?_⟩
  rw [hnumbers, runAll_of_first (by rw [hrun]) (by rw [hrun]; exact he), hrun]

omit [Receiver σ] in
theorem runAll_map {α β ε : Type} (step : σ → β → Except ε σ) (f : α → β) (s : σ) (as : List α) :
    runAll step s (as.map f) = runAll (fun s a => step s (f a)) s as := by
  induction as generalizing s with
  | nil => rfl
  | cons a as ih =>
    simp only [List.map_cons, runAll]
    cases step s (f a) with
    | ok s' => exact ih s'
    | error e => rfl

end Whole

section Running

variable {cs : List (List Lit)}

-- The numbers of clauses, each of which a 0 ends.
def runningItems (cs : List (List Lit)) : List Item :=
  (cs.flatMap fun c => c.map Lit.toInt ++ [0]).map .number

theorem runningItems_append (cs ds : List (List Lit)) :
    runningItems (cs ++ ds) = runningItems cs ++ runningItems ds := by
  simp [runningItems]

theorem runningItems_cons (c : List Lit) (cs : List (List Lit)) :
    runningItems (c :: cs) =
      (c.map fun l => .number l.toInt) ++ .number 0 :: runningItems cs := by
  simp [runningItems]

theorem addAll_running (horderly : Orderly σ) (h : ∀ l ∈ cs.flatten, l.var.number ≤ limit s) :
    addAll s (runningItems cs) = (load s cs, none) := by
  induction cs generalizing s with
  | nil => rfl
  | cons c cs ih =>
    obtain ⟨hc, hcs⟩ := List.forall_mem_append.mp h
    have hlimit : limit (endClause (pushAll s c)) = limit s := limit_load horderly [c]
    rw [← hlimit] at hcs
    have hclause := addAll_literals horderly.toSteady hc
    have hzero : addItem (pushAll s c) (.number 0) = .ok (endClause (pushAll s c)) := rfl
    rw [addAll] at hclause
    rw [runningItems_cons, addAll, runAll_append, hclause]
    simp only [runAll, hzero]
    exact ih hcs

-- What stands before the number that is refused is kept.
theorem addAll_running_of_overrun (horderly : Orderly σ) {before : List (List Lit)}
    {opened : List Lit} (h : Overrun (limit s) cs before opened) :
    ∃ e, addAll s (runningItems cs) = (pushAll (load s before) opened, some e) := by
  obtain ⟨hbefore, hopened⟩ := List.forall_mem_append.mp h.within
  obtain ⟨l, rest, after, hcs, hl⟩ := h.exceeds
  have hrun := addAll_running horderly hbefore
  rw [← limit_load horderly before] at hopened hl
  have hliterals := addAll_literals horderly.toSteady hopened
  rw [addAll] at hrun hliterals
  have hstart : runAll addItem s (runningItems before ++ opened.map fun k => .number k.toInt) =
      (pushAll (load s before) opened, none) := by
    rw [runAll_append, hrun]
    exact hliterals
  have hentry : ¬Entry (limit (pushAll (load s before) opened)) l.toInt := by
    rw [limit_pushAll horderly.toSteady, entry_toInt]
    omega
  have hitems : runningItems cs =
      (runningItems before ++ opened.map fun k => Item.number k.toInt) ++
        Item.number l.toInt :: (rest.map (fun k => Item.number k.toInt) ++
          Item.number 0 :: runningItems after) := by
    simp [hcs, runningItems_append, runningItems_cons]
  have herror := addItem_of_refused (.number l.toInt_ne_zero hentry)
  refine ⟨tooLarge (limit (pushAll (load s before) opened)) l.toInt, ?_⟩
  rw [hitems, addAll, runAll_of_first (by rw [hstart]) (by rw [hstart]; exact herror), hstart]

end Running

end Receiver

namespace Dimacs

open Grammar

variable {σ : Type} [Receiver σ] {s : σ} {cs : List (List Lit)}

theorem tokens_dimacsOf (h : Option Header) (cs : List (List Lit)) :
    tokens (dimacsOf h cs) = cs.flatMap clauseTokens := by
  cases h with
  | none =>
    have htext : dimacsOf none cs = Text.encode (writeClauses cs) := by simp [dimacsOf]
    rw [htext]
    exact (tokens_writeClauses cs).1
  | some h => exact (grammar_write h cs).1

theorem fits_of_mem_flatMap {limit : Nat} (h : ∀ l ∈ cs.flatten, l.var.number ≤ limit) :
    ∀ t ∈ cs.flatMap clauseTokens, Token.Fits limit t := by
  intro t ht
  obtain ⟨c, hc, ht⟩ := List.mem_flatMap.mp ht
  exact fits_of_mem_clauseTokens (fun l hl => h l (List.mem_flatten.mpr ⟨c, hc, hl⟩)) ht

theorem readText_dimacsOf (h : Option Header)
    (hwithin : ∀ l ∈ cs.flatten, l.var.number ≤ limit s) :
    (readText (.ofBytes (dimacsOf h cs)) s).error = none ∧
      (readText (.ofBytes (dimacsOf h cs)) s).receiver = load s cs := by
  obtain ⟨hreceiver, herror⟩ := readText_takeWhile s (dimacsOf h cs)
  have hfits := fits_of_mem_flatMap hwithin
  rw [tokens_dimacsOf] at hreceiver herror
  have hall : (cs.flatMap clauseTokens).takeWhile (Token.Fits (limit s) ·) =
      cs.flatMap clauseTokens :=
    List.takeWhile_eq_self_iff.mpr fun t ht => by simpa using hfits t ht
  refine ⟨herror.mpr hfits, ?_⟩
  rw [hreceiver, hall, foldl_send_flatMap]
  rfl

theorem readText_dimacsOf_of_overrun (h : Option Header) {before : List (List Lit)}
    {opened : List Lit} (hover : Overrun (limit s) cs before opened) :
    (readText (.ofBytes (dimacsOf h cs)) s).error ≠ none ∧
      (readText (.ofBytes (dimacsOf h cs)) s).receiver = pushAll (load s before) opened := by
  obtain ⟨hreceiver, herror⟩ := readText_takeWhile s (dimacsOf h cs)
  obtain ⟨hbefore, hopened⟩ := List.forall_mem_append.mp hover.within
  obtain ⟨l, rest, after, hcs, hl⟩ := hover.exceeds
  have htokens : tokens (dimacsOf h cs) = (before.flatMap clauseTokens ++ opened.map litBytes) ++
      litBytes l :: (rest.map litBytes ++ [[48]] ++ after.flatMap clauseTokens) := by
    simp [tokens_dimacsOf, hcs, clauseTokens]
  have hfits : ∀ t ∈ before.flatMap clauseTokens ++ opened.map litBytes,
      decide (Token.Fits (limit s) t) = true := by
    intro t ht
    rw [decide_eq_true_eq]
    rcases List.mem_append.mp ht with ht | ht
    · exact fits_of_mem_flatMap hbefore t ht
    · exact fits_of_mem_clauseTokens hopened (List.mem_append_left _ ht)
  have hlarge : ¬Token.Fits (limit s) (litBytes l) := by
    intro hfit
    have hle := hfit.2
    rw [magnitude_litBytes] at hle
    omega
  rw [htokens] at hreceiver herror
  refine ⟨fun hnone => hlarge (herror.mp hnone _ (by simp)), ?_⟩
  rw [hreceiver, List.takeWhile_append_of_pos hfits,
    List.takeWhile_cons_of_neg (by simpa using hlarge), List.append_nil, List.foldl_append,
    foldl_send_flatMap, foldl_send_litBytes]
  rfl

end Dimacs

namespace Operation

open Receiver (addAll runningItems Orderly load)

variable {σ : Type} [Receiver σ] {s : σ} {files : Files} {cs before : List (List Lit)}
  {opened : List Lit} {op : Operation}

-- What gives clauses whole comes to adding them one after the other.
theorem perform_of_givesWhole (files : Files) (s : σ) (h : GivesWhole cs op) :
    (perform files s op).receiver = (runAll Receiver.addNumbers s (numbersOf cs)).1 ∧
      ((perform files s op).error = none ↔
        (runAll Receiver.addNumbers s (numbersOf cs)).2 = none) := by
  have hread : (readClauses s (numbersOf cs)).receiver =
        (runAll Receiver.addNumbers s (numbersOf cs)).1 ∧
      ((readClauses s (numbersOf cs)).error = none ↔
        (runAll Receiver.addNumbers s (numbersOf cs)).2 = none) :=
    ⟨rfl, Option.map_eq_none_iff⟩
  cases h with
  | clauses => exact hread
  | producer hmake =>
    rw [perform, Dimacs.read, hmake]
    exact hread
  | items =>
    have hadd : addAll s ((numbersOf cs).map .clause) =
        runAll Receiver.addNumbers s (numbersOf cs) :=
      runAll_map addItem .clause s (numbersOf cs)
    rw [perform, hadd]
    exact ⟨rfl, Option.map_eq_none_iff⟩

-- What gives clauses number by number comes to adding the numbers, or to reading the text at once.
theorem perform_of_givesRunning (horderly : Orderly σ) (s : σ) (h : GivesRunning files cs op) :
    (∃ header, (perform files s op).receiver =
        (readText (.ofBytes (dimacsOf header cs)) s).receiver ∧
      (perform files s op).error = (readText (.ofBytes (dimacsOf header cs)) s).error) ∨
    (perform files s op).receiver = (addAll s (runningItems cs)).1 ∧
      ((perform files s op).error = none ↔ (addAll s (runningItems cs)).2 = none) := by
  cases h with
  | numbers => exact .inr ⟨rfl, Option.map_eq_none_iff⟩
  | text header => exact .inl ⟨header, rfl, rfl⟩
  | supply header hsupply =>
    have hwhole := readText_of_delivers (limit_forward_of_orderly horderly) hsupply s
    refine .inl ⟨header, ?_, ?_⟩
    · rw [perform, Dimacs.read, hwhole]
    · rw [perform, Dimacs.read, hwhole]
  | path header hfile =>
    refine .inl ⟨header, ?_, ?_⟩
    · rw [perform, Dimacs.read, hfile]
    · rw [perform, Dimacs.read, hfile]

-- Every way to give clauses within the limit leads to the same receiver.
theorem perform_of_within (horderly : Orderly σ) (hclosed : Receiver.endClause s = s)
    (hop : GivesWhole cs op ∨ GivesRunning files cs op)
    (h : ∀ l ∈ cs.flatten, l.var.number ≤ limit s) :
    (perform files s op).error = none ∧ (perform files s op).receiver = load s cs := by
  rcases hop with hop | hop
  · obtain ⟨hreceiver, herror⟩ := perform_of_givesWhole files s hop
    rw [runAll_addNumbers horderly hclosed h] at hreceiver herror
    exact ⟨herror.mpr rfl, hreceiver⟩
  · rcases perform_of_givesRunning horderly s hop with
      ⟨header, hreceiver, herror⟩ | ⟨hreceiver, herror⟩
    · rw [hreceiver, herror]
      exact readText_dimacsOf header h
    · rw [addAll_running horderly h] at hreceiver herror
      exact ⟨herror.mpr rfl, hreceiver⟩

theorem perform_whole_of_overrun (horderly : Orderly σ) (hclosed : Receiver.endClause s = s)
    (hop : GivesWhole cs op) (h : Overrun (limit s) cs before opened) :
    (perform files s op).error ≠ none ∧ (perform files s op).receiver = load s before := by
  obtain ⟨hreceiver, herror⟩ := perform_of_givesWhole files s hop
  obtain ⟨e, he⟩ := runAll_addNumbers_of_overrun horderly hclosed h
  rw [he] at hreceiver herror
  exact ⟨fun hnone => Option.some_ne_none e (herror.mp hnone), hreceiver⟩

theorem perform_running_of_overrun (horderly : Orderly σ) (hop : GivesRunning files cs op)
    (h : Overrun (limit s) cs before opened) :
    (perform files s op).error ≠ none ∧
      (perform files s op).receiver = pushAll (load s before) opened := by
  rcases perform_of_givesRunning horderly s hop with
    ⟨header, hreceiver, herror⟩ | ⟨hreceiver, herror⟩
  · rw [hreceiver, herror]
    exact readText_dimacsOf_of_overrun header h
  · obtain ⟨e, he⟩ := addAll_running_of_overrun horderly h
    rw [he] at hreceiver herror
    exact ⟨fun hnone => Option.some_ne_none e (herror.mp hnone), hreceiver⟩

end Operation

end SatFrontend

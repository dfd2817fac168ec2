import SatFrontend.Proofs.Text.Utf8
import SatFrontend.Text.Blank

namespace SatFrontend.Text

-- A text that is a single line.
def OneLine (s : String) : Prop := '\n' ∉ s.toList

instance (s : String) : Decidable (OneLine s) := inferInstanceAs (Decidable ('\n' ∉ s.toList))

-- A literal is the list of its characters, which takes far less than to decode it.
theorem oneLine_literal {s : String} {cs : List Char} (h : s = String.ofList cs) (hcs : '\n' ∉ cs) :
    OneLine s := by
  rwa [OneLine, h, String.toList_ofList]

theorem OneLine.append {s t : String} (hs : OneLine s) (ht : OneLine t) : OneLine (s ++ t) := by
  rw [OneLine, String.toList_append, List.mem_append, not_or]
  exact ⟨hs, ht⟩

theorem oneLine_repr (n : Nat) : OneLine n.repr := by
  rw [OneLine, Nat.toList_repr]
  intro hmem
  exact absurd (isDigit_of_mem_toDigits n hmem) (by decide)

-- A line that is no result.
structure IsComment (t : String) : Prop where
  oneLine : OneLine t
  lead : ['c', ' '] <+: t.toList

theorem IsComment.append {s t : String} (hs : IsComment s) (ht : OneLine t) :
    IsComment (s ++ t) where
  oneLine := hs.oneLine.append ht
  lead := by
    rw [String.toList_append]
    exact hs.lead.trans (List.prefix_append _ _)

theorem IsComment.head? {t : String} (h : IsComment t) : t.toList.head? = some 'c' := by
  obtain ⟨rest, hrest⟩ := h.lead
  rw [← hrest]
  rfl

-- Texts as they are printed, each in a line of its own.
def unlines (ts : List String) : String := String.join (ts.map (· ++ "\n"))

theorem toList_unlines (ts : List String) :
    (unlines ts).toList = ts.flatMap (fun t => t.toList ++ ['\n']) := by
  rw [unlines, String.toList_join, List.flatMap_map]
  simp

theorem unlines_cons (t : String) (ts : List String) :
    unlines (t :: ts) = t ++ "\n" ++ unlines ts := by
  rw [← String.toList_inj, String.toList_append]
  simp [toList_unlines]

-- Single lines stand between the line feeds that end them.
theorem splitWhere_unlines {ts : List String} (h : ∀ t ∈ ts, OneLine t) :
    splitWhere (· == '\n') (unlines ts).toList = ts.map String.toList ++ [[]] := by
  rw [toList_unlines]
  induction ts with
  | nil => rfl
  | cons t ts ih =>
    obtain ⟨ht, hts⟩ := List.forall_mem_cons.mp h
    have hparts : splitWhere (· == '\n') t.toList = [t.toList] :=
      splitWhere_eq_singleton fun c hc => by
        rw [beq_eq_false_iff_ne]
        rintro rfl
        exact ht hc
    rw [List.flatMap_cons, List.append_assoc, List.singleton_append,
      splitWhere_append_cons (by decide), hparts, ih hts]
    rfl

-- A text that ends with a line feed has no empty line after it.
theorem lines_unlines {ts : List String} (h : ∀ t ∈ ts, OneLine t) :
    lines (unlines ts).toList = ts.map (fun t => stripReturn t.toList) := by
  simp [lines, splitWhere_unlines h, Function.comp_def]

-- Only the end of a line is stripped.
theorem exists_stripReturn {c : Char} (hc : c ≠ '\r') (cs : List Char) :
    ∃ rest, stripReturn (c :: cs) = c :: rest := by
  unfold stripReturn
  split
  · rename_i hlast
    cases cs with
    | nil => simp [hc] at hlast
    | cons d cs => exact ⟨(d :: cs).dropLast, rfl⟩
  · exact ⟨cs, rfl⟩

theorem stripReturn_append_singleton {c : Char} (hc : c ≠ '\r') (cs : List Char) :
    stripReturn (cs ++ [c]) = cs ++ [c] := by
  simp [stripReturn, hc]

section Blank

variable {c : Char}

-- Blanks at the end do not reach what stands before them.
theorem trimEnd_cons (hc : isBlank c = false) (cs : List Char) :
    trimEnd (c :: cs) = c :: trimEnd cs := by
  unfold trimEnd
  rw [List.reverse_cons, List.dropWhile_append]
  split
  · rename_i hempty
    rw [List.isEmpty_iff.mp hempty]
    simp [hc]
  · simp

theorem trimEnd_append_singleton (hc : isBlank c = false) (cs : List Char) :
    trimEnd (cs ++ [c]) = cs ++ [c] := by
  simp [trimEnd, hc]

theorem trimEnd_append_blank (hc : isBlank c = true) (cs : List Char) :
    trimEnd (cs ++ [c]) = trimEnd cs := by
  simp [trimEnd, hc]

theorem trim_cons (hc : isBlank c = false) (cs : List Char) : trim (c :: cs) = c :: trimEnd cs := by
  rw [trim, List.dropWhile_cons_of_neg (by simp [hc]), trimEnd_cons hc]

theorem trim_append_blank (hc : isBlank c = true) (cs : List Char) :
    trim (cs ++ [c]) = trim cs := by
  rw [trim, List.dropWhile_append]
  split
  · rename_i hempty
    rw [trim, List.isEmpty_iff.mp hempty, List.dropWhile_cons_of_pos hc]
    rfl
  · rw [trimEnd_append_blank hc, trim]

end Blank

-- The words of words that are put together again.
theorem words_intercalate {ws : List (List Char)}
    (h : ∀ w ∈ ws, w ≠ [] ∧ ∀ c ∈ w, isBlank c = false) : words ([' '].intercalate ws) = ws := by
  have hone : ∀ w : List Char, w ≠ [] ∧ (∀ c ∈ w, isBlank c = false) →
      (splitWhere isBlank w).filter (fun w => !w.isEmpty) = [w] := by
    rintro w ⟨hne, hw⟩
    rw [splitWhere_eq_singleton hw]
    simp [hne]
  unfold words
  induction ws with
  | nil => rfl
  | cons w ws ih =>
    obtain ⟨hw, hws⟩ := List.forall_mem_cons.mp h
    cases ws with
    | nil => simpa using hone w hw
    | cons v ws =>
      rw [List.intercalate_cons_cons, List.append_assoc, List.singleton_append,
        splitWhere_append_cons (by decide), List.filter_append, hone w hw, ih hws]
      rfl

end SatFrontend.Text

import SatFrontend.Backend.Counter
import SatFrontend.Proofs.Pattern.ResultLine
import SatFrontend.Proofs.Text.Lines

namespace SatFrontend.Backend

open Pattern Text

-- The usual pattern is a line start, the words before the number, and a group of digits.
def standardExpression : Expression :=
  .both (.anchor (.lineStart false))
    (.both (.literal resultLead) (.group 1 (.repeated (.set Unicode.decimalDigits) 1 none true)))

theorem ofText_standard :
    Compiled.ofText CountPattern.standard = .ok { program := resultProgram, groups := 1 } := by
  have hread : read? CountPattern.standard = some standardExpression := by decide +kernel
  have hsize : standardExpression.isTooLarge = false := by decide +kernel
  have hprogram : Program.ofExpression standardExpression = resultProgram := by decide +kernel
  have hgroups : standardExpression.lastGroup = 1 := by decide +kernel
  rw [Compiled.ofText, hread]
  simp only [hsize, Bool.false_eq_true, if_false, hprogram, hgroups]

-- The pattern as it is used.
def standardPattern : CountPattern where
  text := CountPattern.standard
  compiled := { program := resultProgram, groups := 1 }
  hasGroup := Nat.one_pos

theorem findsResult_standardPattern : FindsResult standardPattern.compiled.firstGroup? :=
  findsResult_resultProgram

theorem countPattern_ofText_standard :
    CountPattern.ofText CountPattern.standard = .ok standardPattern := by
  rw [CountPattern.ofText, ofText_standard]
  rfl

theorem mem_decimalDigits {c : Char} (h : c.isDigit = true) :
    Unicode.decimalDigits.mem c = true := by
  have hrange := toNat_of_isDigit h
  have hfirst : ¬c.toNat < 48 := by omega
  rw [Unicode.decimalDigits, Unicode.CharSet.mem, Unicode.CharSet.memCode,
    Unicode.CharSet.inRanges, if_neg hfirst]
  simp [hrange.2]

theorem count?_toDigits (n : Nat) : count? (Nat.toDigits 10 n) = some n := by
  have hplain : ∀ c ∈ Nat.toDigits 10 n, c ≠ '+' ∧ c ≠ '_' := by
    intro c hc
    have := isDigit_of_mem_toDigits n hc
    constructor <;> rintro rfl <;> exact absurd this (by decide)
  have hfilter : (Nat.toDigits 10 n).filter (· != '_') = Nat.toDigits 10 n := by
    rw [List.filter_eq_self]
    exact fun c hc => bne_iff_ne.mpr (hplain c hc).2
  have hhead : (Nat.toDigits 10 n).head? ≠ some '_' := fun h =>
    (hplain _ (List.mem_of_mem_head? h)).2 rfl
  unfold count?
  dsimp only
  split
  · rename_i heq
    exact absurd rfl (hplain '+' (by simp [heq])).1
  · rename_i heq
    exact absurd rfl (hplain '+' (by simp [heq])).1
  · rw [if_neg hhead, hfilter, digits?_toDigits]

section ResultLine

variable {p : CountPattern} (hp : FindsResult p.compiled.firstGroup?)

include hp

-- The number of models that is printed after comments is the number that is read, whatever else the
-- search for the pattern does.
theorem count_resultLine (program : String) {log : List String} (hlog : ∀ t ∈ log, IsComment t)
    (n : Nat) : p.count program (unlines (log ++ ["s mc " ++ n.repr])) = .ok n := by
  have hlines : ∀ line ∈ log.map String.toList, '\n' ∉ line ∧ line.head? ≠ some 's' := by
    rw [List.forall_mem_map]
    exact fun t ht => ⟨(hlog t ht).oneLine, by simp [(hlog t ht).head?]⟩
  have hdigits : ∀ d ∈ Nat.toDigits 10 n, Unicode.decimalDigits.mem d = true :=
    fun d hd => mem_decimalDigits (isDigit_of_mem_toDigits n hd)
  have hend : ∀ c ∈ ['\n'].head?, Unicode.decimalDigits.mem c = false := by
    simp only [List.head?_cons, Option.mem_some_iff, forall_eq']
    decide
  have hresult := hp _ _ _ hlines Nat.toDigits_ne_nil hdigits hend
  have hfound : p.compiled.firstGroup? (unlines (log ++ ["s mc " ++ n.repr])).toList =
      some (Nat.toDigits 10 n) := by
    rw [toList_unlines, List.flatMap_append]
    simpa [List.flatMap_map, resultLead, Nat.toList_repr] using hresult
  rw [CountPattern.count, hfound]
  simp only [count?_toDigits]

theorem extract_resultLine (base : Command) (program : String) {log : List String}
    (hlog : ∀ t ∈ log, IsComment t) {finished : Finished} (hexit : finished.exit = .code 0)
    {n : Nat} (hout : finished.stdout = unlines (log ++ ["s mc " ++ n.repr])) :
    Counter.extract { base, pattern := p } program finished = ([], .ok n) := by
  rw [Counter.extract, hexit, hout]
  exact congrArg _ (count_resultLine hp program hlog n)

end ResultLine

theorem counter_exact_standard (base : Command) :
    Counter.exact base CountPattern.standard = .ok { base, pattern := standardPattern } := by
  rw [Counter.exact, countPattern_ofText_standard]
  rfl

end SatFrontend.Backend

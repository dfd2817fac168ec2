import SatFrontend.CommandLine.Arguments
import SatFrontend.CommandLine.Session
import SatFrontend.Proofs.Backend.ModelLine

namespace SatFrontend.CommandLine

open Text

-- The arguments by which literals are assumed.
def assuming (ls : List Lit) : List String := ls.flatMap (fun l => ["--assume", l.text])

def assumingItems (ls : List Lit) : List Item :=
  ls.flatMap (fun l => [.given .assume, .value .assume l.text])

theorem step_assume (items : List Item) :
    Progress.step .solving { items } "--assume" =
      .ok { items := items ++ [.given .assume], waiting := some .assume } := by
  simp [Progress.step, Progress.isSwitch, Progress.long, Grammar.solving, Progress.give,
    Switch.takesValue]

-- What follows is a value, whatever it looks like.
theorem step_value (items : List Item) (a : String) :
    Progress.step .solving { items, waiting := some .assume } a =
      .ok { items := items ++ [.value .assume a] } := by
  simp [Progress.step, Progress.isSwitch, Switch.takesDashes]

theorem readArguments_cons {p p' : Progress} (hitems : p.items ≠ []) {a : String}
    (h : p.step .solving a = .ok p') (as : List String) :
    readArguments .solving p (a :: as) = readArguments .solving p' as := by
  rw [readArguments, if_neg (by simp [Progress.isKeyword, hitems]), h]
  rfl

theorem readArguments_assuming {items : List Item} (hitems : items ≠ []) (ls : List Lit) :
    readArguments .solving { items } (assuming ls) = .ok (items ++ assumingItems ls, none) := by
  induction ls generalizing items with
  | nil => simp [assuming, assumingItems, readArguments]
  | cons l ls ih =>
    have hcons : assuming (l :: ls) = "--assume" :: l.text :: assuming ls := rfl
    rw [hcons, readArguments_cons hitems (step_assume items),
      readArguments_cons (by simp) (step_value _ l.text), ih (by simp)]
    simp [assumingItems]

section Items

variable (ls : List Lit)

theorem valuesOf_assumingItems : valuesOf .assume (assumingItems ls) = ls.map Lit.text := by
  induction ls with
  | nil => rfl
  | cons l ls ih => simpa [assumingItems, valuesOf] using ih

theorem valuesOf_delta_assumingItems : valuesOf .delta (assumingItems ls) = [] := by
  induction ls with
  | nil => rfl
  | cons l ls ih => simpa [assumingItems, valuesOf] using ih

theorem operandsOf_assumingItems : operandsOf (assumingItems ls) = [] := by
  induction ls with
  | nil => rfl
  | cons l ls ih => simpa [assumingItems, operandsOf] using ih

theorem given_mem_assumingItems {s : Switch} (h : .given s ∈ assumingItems ls) :
    s = .assume ∧ ls ≠ [] := by
  obtain ⟨l, hl, hitem⟩ := List.mem_flatMap.mp h
  exact ⟨by simpa using hitem, List.ne_nil_of_mem hl⟩

-- Literals can be assumed more than once, next to a switch that is given once.
theorem isProper_assumingItems {s : Switch} (hvalue : s.takesValue = false) (hs : s ≠ .assume) :
    isProper (.given s :: assumingItems ls) = true := by
  have habsent : .given s ∉ assumingItems ls := fun h => hs (given_mem_assumingItems ls h).1
  have hvalues : valuesOf .assume (.given s :: assumingItems ls) = ls.map Lit.text :=
    valuesOf_assumingItems ls
  rw [isProper, List.all_cons, Bool.and_eq_true]
  constructor
  · simp [hvalue, List.count_eq_zero_of_not_mem habsent]
  · rw [List.all_eq_true]
    intro item hitem
    cases item with
    | given t =>
      obtain ⟨rfl, hne⟩ := given_mem_assumingItems ls hitem
      simp [hvalues, hne, Switch.repeats]
    | value t text => rfl
    | operand text => rfl

theorem isGiven_assumingItems {s t : Switch} (ht : t ≠ .assume) :
    isGiven t (.given s :: assumingItems ls) = decide (t = s) := by
  have habsent : .given t ∉ assumingItems ls := fun h => ht (given_mem_assumingItems ls h).1
  rw [isGiven, List.contains_cons, Bool.eq_iff_iff]
  simp [habsent]

theorem ofItems_assumingItems {s : Switch} {task : Task}
    (h : (s, task) ∈ [(.count, .count none), (.enumerate, .enumerate)]) :
    Solving.ofItems (.given s :: assumingItems ls) = .ok ⟨none, ls.map Lit.text, task⟩ := by
  have hvalues : valuesOf .assume (.given s :: assumingItems ls) = ls.map Lit.text :=
    valuesOf_assumingItems ls
  have hdelta : valuesOf .delta (.given s :: assumingItems ls) = [] :=
    valuesOf_delta_assumingItems ls
  have hoperands : operandsOf (.given s :: assumingItems ls) = [] := operandsOf_assumingItems ls
  have hcount := isGiven_assumingItems ls (s := s) (t := .count) (by decide)
  have henumerate := isGiven_assumingItems ls (s := s) (t := .enumerate) (by decide)
  simp only [List.mem_cons, List.not_mem_nil, or_false, Prod.mk.injEq] at h
  have hproper : isProper (.given s :: assumingItems ls) = true := by
    rcases h with ⟨rfl, -⟩ | ⟨rfl, -⟩ <;> exact isProper_assumingItems ls rfl (by decide)
  simp only [Solving.ofItems, hvalues, hdelta, hoperands, hcount, henumerate, hproper]
  rcases h with ⟨rfl, rfl⟩ | ⟨rfl, rfl⟩ <;> rfl

end Items

section Invocation

variable (ls : List Lit)

theorem ofArguments_flag {flag : String} {s : Switch} {task : Task}
    (hflag : Progress.isKeyword .solving {} flag = false)
    (hstep : Progress.step .solving {} flag = .ok { items := [.given s] })
    (h : (s, task) ∈ [(.count, .count none), (.enumerate, .enumerate)]) :
    Invocation.ofArguments (flag :: assuming ls) = .ok (.solve ⟨none, ls.map Lit.text, task⟩) := by
  have hread : readArguments .solving {} (flag :: assuming ls) =
      .ok (.given s :: assumingItems ls, none) := by
    rw [readArguments, hflag, hstep]
    exact readArguments_assuming (by simp) ls
  rw [Invocation.ofArguments, hread]
  change (Except.map _ (Solving.ofItems _) : Except Refusal Invocation) = _
  rw [ofItems_assumingItems ls h]
  rfl

-- A switch for the task and literals to assume ask for the task under the literals.
theorem ofArguments_count :
    Invocation.ofArguments ("--count" :: assuming ls) =
      .ok (.solve ⟨none, ls.map Lit.text, .count none⟩) :=
  ofArguments_flag ls (s := .count) (by simp [Progress.isKeyword, Grammar.solving])
    (by simp [Progress.step, Progress.isSwitch, Progress.long, Grammar.solving, List.lookup_cons,
      Progress.give, Switch.takesValue]) (by simp)

theorem ofArguments_enumerate :
    Invocation.ofArguments ("--enumerate" :: assuming ls) =
      .ok (.solve ⟨none, ls.map Lit.text, .enumerate⟩) :=
  ofArguments_flag ls (s := .enumerate) (by simp [Progress.isKeyword, Grammar.solving])
    (by simp [Progress.step, Progress.isSwitch, Progress.long, Grammar.solving, List.lookup_cons,
      Progress.give, Switch.takesValue]) (by simp)

end Invocation

-- The numbers of literals are read back from what was given as arguments.
theorem readAssumptions_text (ls : List Lit) :
    readAssumptions (ls.map Lit.text) = pure (ls.map Lit.toInt) := by
  induction ls with
  | nil => rfl
  | cons l ls ih =>
    rw [List.map_cons, readAssumptions, ih, l.integer?_text]
    rfl

end SatFrontend.CommandLine

import Mathlib.Data.List.Induction
import SatFrontend.Config.Update

namespace SatFrontend

-- What a program is used for.
inductive Role where
  | witness
  | exactCount
  | probabilisticCount
  | enumerate

-- Settings that are a single text.
inductive Setting where
  | program (role : Role)
  | exactPattern
  | probabilisticPattern
  | riskFlag

namespace Config

def command (c : Config) : Role → Command
  | .witness => c.witness
  | .exactCount => c.exactCount.command
  | .probabilisticCount => c.probabilisticCount.command
  | .enumerate => c.enumerate

def args (c : Config) (role : Role) : List String := (c.command role).args

def setting (c : Config) : Setting → String
  | .program role => (c.command role).program
  | .exactPattern => c.exactCount.pattern
  | .probabilisticPattern => c.probabilisticCount.pattern
  | .riskFlag => c.probabilisticCount.riskFlag

end Config

section Options

variable {α β γ : Type}

theorem later_assoc (a b c : Option α) : later (later a b) c = later a (later b c) :=
  (Option.or_assoc).symm

theorem both_assoc {merge : α → α → α} (h : ∀ x y z, merge (merge x y) z = merge x (merge y z))
    (a b c : Option α) : both merge (both merge a b) c = both merge a (both merge b c) := by
  cases a <;> cases b <;> cases c <;> simp [both, later, h]

theorem none_both (merge : α → α → α) (a : Option α) : both merge none a = a := by
  cases a <;> rfl

theorem both_none (merge : α → α → α) (a : Option α) : both merge a none = a := by
  cases a <;> rfl

-- A part that is merged by itself is merged the same inside of what it is a part of.
theorem map_both {merge : α → α → α} {merge' : β → β → β} {part : α → β}
    (h : ∀ x y, part (merge x y) = merge' (part x) (part y)) (a b : Option α) :
    (both merge a b).map part = both merge' (a.map part) (b.map part) := by
  cases a <;> cases b <;> simp [both, later, h]

theorem bind_both {merge : α → α → α} {field : α → Option β}
    (h : ∀ x y, field (merge x y) = later (field x) (field y)) (a b : Option α) :
    (both merge a b).bind field = later (a.bind field) (b.bind field) := by
  cases a <;> cases b <;> simp [both, later, h]

theorem isSome_both (merge : α → α → α) (a b : Option α) :
    (both merge a b).isSome = (a.isSome || b.isSome) := by
  cases a <;> cases b <;> rfl

-- Doing the same again changes nothing, if there is something to do at all.
theorem elim_elim {f : α → β → β} (h : ∀ x y, f x (f x y) = f x y) (a : Option α) (y : β) :
    a.elim (a.elim y (f · y)) (f · (a.elim y (f · y))) = a.elim y (f · y) := by
  cases a with
  | none => rfl
  | some x => exact h x y

end Options

namespace CommandUpdate

theorem merge_assoc (u v w : CommandUpdate) : (u.merge v).merge w = u.merge (v.merge w) := by
  simp only [merge, later_assoc]

theorem apply_apply (u : CommandUpdate) (c : Command) : u.apply (u.apply c) = u.apply c := by
  obtain ⟨program, args⟩ := u
  cases program <;> cases args <;> rfl

end CommandUpdate

namespace CounterUpdate

theorem merge_assoc (u v w : CounterUpdate) : (u.merge v).merge w = u.merge (v.merge w) := by
  simp only [merge, later_assoc, CommandUpdate.merge_assoc]

theorem apply_apply (u : CounterUpdate) (c : CounterConfig) : u.apply (u.apply c) = u.apply c := by
  simp only [apply, CommandUpdate.apply_apply]
  cases u.pattern <;> rfl

end CounterUpdate

namespace ProbabilisticUpdate

theorem merge_assoc (u v w : ProbabilisticUpdate) :
    (u.merge v).merge w = u.merge (v.merge w) := by
  simp only [merge, later_assoc, CounterUpdate.merge_assoc]

theorem apply_apply (u : ProbabilisticUpdate) (c : ProbabilisticConfig) :
    u.apply (u.apply c) = u.apply c := by
  simp only [apply, CounterUpdate.apply_apply]
  cases u.riskFlag <;> rfl

end ProbabilisticUpdate

namespace ConfigUpdate

-- What an update says about the program of a role, if it names the role at all.
def command? (u : ConfigUpdate) : Role → Option CommandUpdate
  | .witness => u.witness
  | .exactCount => u.exactCount.map (·.toCommandUpdate)
  | .probabilisticCount => u.probabilisticCount.map (·.toCommandUpdate)
  | .enumerate => u.enumerate

def args? (u : ConfigUpdate) (role : Role) : Option (List String) :=
  (u.command? role).bind (·.args)

def setting? (u : ConfigUpdate) : Setting → Option String
  | .program role => (u.command? role).bind (·.program)
  | .exactPattern => u.exactCount.bind (·.pattern)
  | .probabilisticPattern => u.probabilisticCount.bind (·.pattern)
  | .riskFlag => u.probabilisticCount.bind (·.riskFlag)

-- A way to merge updates two at a time.
inductive Grouping where
  | nothing
  | one (u : ConfigUpdate)
  | two (g h : Grouping)

namespace Grouping

-- The updates in their order.
def updates : Grouping → List ConfigUpdate
  | nothing => []
  | one u => [u]
  | two g h => g.updates ++ h.updates

def merged : Grouping → ConfigUpdate
  | nothing => {}
  | one u => u
  | two g h => g.merged.merge h.merged

end Grouping

section Merge

variable (u v w : ConfigUpdate)

theorem merge_assoc : (u.merge v).merge w = u.merge (v.merge w) := by
  simp only [merge, both_assoc CommandUpdate.merge_assoc, both_assoc CounterUpdate.merge_assoc,
    both_assoc ProbabilisticUpdate.merge_assoc]

theorem empty_merge : merge {} u = u := by
  simp only [merge, none_both]

theorem merge_empty : u.merge {} = u := by
  simp only [merge, both_none]

instance : Std.Associative merge := ⟨merge_assoc⟩

theorem command?_merge (role : Role) :
    (u.merge v).command? role = both .merge (u.command? role) (v.command? role) := by
  cases role with
  | witness | enumerate => rfl
  | exactCount | probabilisticCount => exact map_both (fun _ _ => rfl) _ _

theorem args?_merge (role : Role) :
    (u.merge v).args? role = later (u.args? role) (v.args? role) := by
  rw [args?, command?_merge]
  exact bind_both (fun _ _ => rfl) _ _

theorem setting?_merge (s : Setting) :
    (u.merge v).setting? s = later (u.setting? s) (v.setting? s) := by
  cases s with
  | program role =>
    rw [setting?, command?_merge]
    exact bind_both (fun _ _ => rfl) _ _
  | exactPattern | probabilisticPattern | riskFlag => exact bind_both (fun _ _ => rfl) _ _

end Merge

theorem mergeAll_append (us vs : List ConfigUpdate) :
    mergeAll (us ++ vs) = (mergeAll us).merge (mergeAll vs) := by
  have hassoc : vs.foldl merge ((mergeAll us).merge {}) = (mergeAll us).merge (mergeAll vs) :=
    List.foldl_assoc
  rw [merge_empty] at hassoc
  rw [← hassoc, mergeAll, List.foldl_append, mergeAll]

theorem Grouping.merged_eq (g : Grouping) : g.merged = mergeAll g.updates := by
  induction g with
  | nothing => rfl
  | one u => exact (empty_merge u).symm
  | two g h ihg ihh => rw [merged, updates, mergeAll_append, ihg, ihh]

-- What is merged by taking the later value comes to the last value.
theorem getLast?_of_later {α : Type} (field : ConfigUpdate → Option α) (hempty : field {} = none)
    (hmerge : ∀ u v : ConfigUpdate, field (u.merge v) = later (field u) (field v))
    (us : List ConfigUpdate) : field (mergeAll us) = (us.filterMap field).getLast? := by
  induction us using List.reverseRecOn with
  | nil => exact hempty
  | append_singleton us u ih =>
    have hone : mergeAll [u] = u := empty_merge u
    rw [mergeAll_append, hone, hmerge, ih, List.filterMap_append, List.getLast?_append, later]
    cases h : field u <;> simp [h]

theorem args?_mergeAll (us : List ConfigUpdate) (role : Role) :
    (mergeAll us).args? role = (us.filterMap (·.args? role)).getLast? :=
  getLast?_of_later (·.args? role) (by cases role <;> rfl)
    (fun u v => args?_merge u v role) us

theorem setting?_mergeAll (us : List ConfigUpdate) (s : Setting) :
    (mergeAll us).setting? s = (us.filterMap (·.setting? s)).getLast? :=
  getLast?_of_later (·.setting? s) (by obtain ⟨_ | _ | _ | _⟩ | _ | _ | _ := s <;> rfl)
    (fun u v => setting?_merge u v s) us

theorem isSome_command?_mergeAll (us : List ConfigUpdate) (role : Role) :
    ((mergeAll us).command? role).isSome ↔ ∃ u ∈ us, (u.command? role).isSome := by
  induction us using List.reverseRecOn with
  | nil => cases role <;> simp [mergeAll, command?]
  | append_singleton us u ih =>
    have hone : mergeAll [u] = u := empty_merge u
    rw [mergeAll_append, hone, command?_merge, isSome_both, Bool.or_eq_true, ih]
    simp [or_and_right, exists_or]

section Apply

variable (u : ConfigUpdate) (c : Config)

theorem apply_apply : u.apply (u.apply c) = u.apply c := by
  simp only [apply, elim_elim (f := CommandUpdate.apply) CommandUpdate.apply_apply,
    elim_elim (f := CounterUpdate.apply) CounterUpdate.apply_apply,
    elim_elim (f := ProbabilisticUpdate.apply) ProbabilisticUpdate.apply_apply]

theorem command_apply (role : Role) :
    (u.apply c).command role =
      (u.command? role).elim (c.command role) (·.apply (c.command role)) := by
  cases role with
  | witness | enumerate => rfl
  | exactCount =>
    simp only [Config.command, apply, command?]
    cases u.exactCount <;> rfl
  | probabilisticCount =>
    simp only [Config.command, apply, command?]
    cases u.probabilisticCount <;> rfl

theorem setting_apply (s : Setting) :
    (u.apply c).setting s = (u.setting? s).getD (c.setting s) := by
  cases s with
  | program role =>
    simp only [Config.setting, setting?, command_apply]
    cases u.command? role <;> rfl
  | exactPattern =>
    simp only [Config.setting, setting?, apply]
    cases u.exactCount <;> rfl
  | probabilisticPattern | riskFlag =>
    simp only [Config.setting, setting?, apply]
    cases u.probabilisticCount <;> rfl

theorem args_apply (role : Role) :
    (u.apply c).args role =
      (u.args? role).getD (if (u.setting? (.program role)).isSome then [] else c.args role) := by
  rw [Config.args, command_apply, args?, setting?]
  cases u.command? role <;> rfl

end Apply

theorem applyAll_append (us vs : List ConfigUpdate) (c : Config) :
    applyAll (us ++ vs) c = applyAll vs (applyAll us c) :=
  List.foldl_append

theorem setting_applyAll (us : List ConfigUpdate) (c : Config) (s : Setting) :
    (applyAll us c).setting s = ((us.filterMap (·.setting? s)).getLast?).getD (c.setting s) := by
  induction us using List.reverseRecOn with
  | nil => rfl
  | append_singleton us u ih =>
    have hone : applyAll [u] (applyAll us c) = u.apply (applyAll us c) := rfl
    rw [applyAll_append, hone, setting_apply, ih, List.filterMap_append, List.getLast?_append]
    cases h : u.setting? s <;> simp [h]

section Args

variable {role : Role} {us after : List ConfigUpdate} {args : List String} {c : Config}

-- Some update gives a program for the role.
def Renamed (role : Role) (us : List ConfigUpdate) : Prop :=
  ∃ u ∈ us, (u.setting? (.program role)).isSome

instance (role : Role) (us : List ConfigUpdate) : Decidable (Renamed role us) :=
  inferInstanceAs (Decidable (∃ u ∈ us, (u.setting? (.program role)).isSome))

-- The last arguments that are given for a role, and the updates after them.
def LastArgs (role : Role) (us : List ConfigUpdate) (args : List String)
    (after : List ConfigUpdate) : Prop :=
  ∃ before u, us = before ++ u :: after ∧ u.args? role = some args ∧
    ∀ v ∈ after, v.args? role = none

-- The last arguments that are given for a role are some, and a program is given after them.
def Overruled (role : Role) (us : List ConfigUpdate) (args : List String) : Prop :=
  args ≠ [] ∧ ∃ after, LastArgs role us args after ∧ Renamed role after

theorem args?_eq_none_or_last (role : Role) (us : List ConfigUpdate) :
    (∀ u ∈ us, u.args? role = none) ∨ ∃ args after, LastArgs role us args after := by
  induction us with
  | nil => exact .inl (by simp)
  | cons u us ih =>
    obtain hnone | ⟨args, after, before, v, rfl, hv, hafter⟩ := ih
    · cases hu : u.args? role with
      | none => exact .inl (List.forall_mem_cons.mpr ⟨hu, hnone⟩)
      | some args => exact .inr ⟨args, us, [], u, rfl, hu, hnone⟩
    · exact .inr ⟨args, after, u :: before, v, rfl, hv, hafter⟩

theorem LastArgs.args?_mergeAll (h : LastArgs role us args after) :
    (mergeAll us).args? role = some args := by
  obtain ⟨before, u, rfl, hu, hafter⟩ := h
  rw [ConfigUpdate.args?_mergeAll, List.filterMap_append, List.filterMap_cons,
    List.filterMap_eq_nil_iff.mpr hafter, hu, List.getLast?_append]
  rfl

-- Without arguments of their own, programs only take those away that there are.
theorem args_applyAll_of_none (h : ∀ u ∈ us, u.args? role = none) :
    (applyAll us c).args role = if Renamed role us then [] else c.args role := by
  induction us generalizing c with
  | nil => simp [applyAll, Renamed]
  | cons u us ih =>
    obtain ⟨hu, hus⟩ := List.forall_mem_cons.mp h
    have hcons : applyAll (u :: us) c = applyAll us (u.apply c) := rfl
    have hrenamed : Renamed role (u :: us) ↔
        (u.setting? (.program role)).isSome ∨ Renamed role us := by simp [Renamed]
    rw [hcons, ih hus, args_apply, hu, Option.getD_none]
    by_cases hlater : Renamed role us
    · rw [if_pos hlater, if_pos (hrenamed.mpr (.inr hlater))]
    · simp only [hrenamed, hlater, or_false, if_false]

theorem LastArgs.args_applyAll (h : LastArgs role us args after) :
    (applyAll us c).args role = if Renamed role after then [] else args := by
  obtain ⟨before, u, rfl, hu, hafter⟩ := h
  have hsplit : applyAll (before ++ u :: after) c = applyAll after (u.apply (applyAll before c)) :=
    applyAll_append before (u :: after) c
  rw [hsplit, args_applyAll_of_none hafter, args_apply, hu, Option.getD_some]

theorem LastArgs.args_config (h : LastArgs role us args after) :
    (mergeAll us).config.args role = args := by
  rw [config, args_apply, h.args?_mergeAll, Option.getD_some]

theorem args_config_of_none (h : ∀ u ∈ us, u.args? role = none) :
    (mergeAll us).config.args role = (applyAll us .standard).args role := by
  have hnone : (mergeAll us).args? role = none := by
    rw [args?_mergeAll, List.filterMap_eq_nil_iff.mpr h]
    rfl
  have hrenamed : ((mergeAll us).setting? (.program role)).isSome ↔ Renamed role us := by
    rw [setting?_mergeAll, List.getLast?_isSome]
    simp [Renamed, Option.isSome_iff_ne_none]
  rw [config, args_apply, hnone, Option.getD_none, args_applyAll_of_none h]
  simp only [hrenamed]

theorem Overruled.args_eq (h : Overruled role us args) :
    (mergeAll us).config.args role = args ∧ (applyAll us .standard).args role = [] := by
  obtain ⟨-, after, hlast, hrenamed⟩ := h
  exact ⟨hlast.args_config, by rw [hlast.args_applyAll, if_pos hrenamed]⟩

theorem args_config_eq_iff (role : Role) (us : List ConfigUpdate) :
    (mergeAll us).config.args role = (applyAll us .standard).args role ↔
      ¬∃ args, Overruled role us args := by
  refine ⟨?_, fun hnot => ?_⟩
  · rintro heq ⟨args, hoverruled⟩
    obtain ⟨hmerged, hinTurn⟩ := hoverruled.args_eq
    exact hoverruled.1 (hmerged.symm.trans (heq.trans hinTurn))
  · obtain hnone | ⟨args, after, hlast⟩ := args?_eq_none_or_last role us
    · exact args_config_of_none hnone
    · rw [hlast.args_config, hlast.args_applyAll]
      by_cases hrenamed : Renamed role after
      · rw [if_pos hrenamed]
        by_contra hne
        exact hnot ⟨args, hne, after, hlast, hrenamed⟩
      · rw [if_neg hrenamed]

end Args

-- Merging is associative, the empty update changes nothing, and an update that is applied twice is
-- applied once. Updates come to the same in every grouping: what is said last about a setting. To
-- merge them and to apply them in turn comes to the same configuration, but for arguments after
-- which another update gives a program. These are kept when updates are merged, and lost when they
-- are applied in turn.
theorem config_mergeAll_applyAll :
    ((∀ u v w : ConfigUpdate, (u.merge v).merge w = u.merge (v.merge w)) ∧
      (∀ u : ConfigUpdate, merge {} u = u ∧ u.merge {} = u) ∧
      ∀ (u : ConfigUpdate) (c : Config), u.apply (u.apply c) = u.apply c) ∧
    (∀ g : Grouping, g.merged = mergeAll g.updates) ∧
    ∀ us : List ConfigUpdate,
      let merged := mergeAll us
      let inTurn := applyAll us .standard
      (∀ role, ((merged.command? role).isSome ↔ ∃ u ∈ us, (u.command? role).isSome) ∧
        merged.args? role = (us.filterMap (·.args? role)).getLast?) ∧
      (∀ s, merged.setting? s = (us.filterMap (·.setting? s)).getLast? ∧
        merged.config.setting s = inTurn.setting s) ∧
      ∀ role,
        (merged.config.args role = inTurn.args role ↔ ¬∃ args, Overruled role us args) ∧
        ∀ args, Overruled role us args →
          merged.config.args role = args ∧ inTurn.args role = [] := by
  refine ⟨⟨merge_assoc, fun u => ⟨empty_merge u, merge_empty u⟩, apply_apply⟩,
    Grouping.merged_eq, fun us => ?_⟩
  intro merged inTurn
  refine ⟨fun role => ⟨isSome_command?_mergeAll us role, args?_mergeAll us role⟩, fun s => ?_,
    fun role => ⟨args_config_eq_iff role us, fun args h => h.args_eq⟩⟩
  have hsetting := setting?_mergeAll us s
  refine ⟨hsetting, ?_⟩
  have hconfig : merged.config.setting s = (merged.setting? s).getD (Config.standard.setting s) :=
    setting_apply merged .standard s
  rw [hconfig, hsetting, setting_applyAll]

theorem config_mergeAll_applyAll_laterProgram :
    let us : List ConfigUpdate :=
      [{ enumerate := some { args := some ["-v"] } },
        { enumerate := some { program := some "solver" } }]
    Overruled .enumerate us ["-v"] ∧ (mergeAll us).config.args .enumerate = ["-v"] ∧
      (applyAll us .standard).args .enumerate = [] := by
  intro us
  have hlast : LastArgs .enumerate us ["-v"] us.tail := ⟨[], _, rfl, rfl, by decide⟩
  have hoverruled : Overruled .enumerate us ["-v"] := ⟨by decide, us.tail, hlast, by decide⟩
  obtain ⟨-, -, hagree⟩ := config_mergeAll_applyAll
  obtain ⟨-, -, hargs⟩ := hagree us
  exact ⟨hoverruled, (hargs .enumerate).2 _ hoverruled⟩

end ConfigUpdate

end SatFrontend

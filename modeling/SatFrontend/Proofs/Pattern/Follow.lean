import SatFrontend.Pattern.Search

namespace SatFrontend.Pattern

-- The instructions that can have been visited at a place, by what was written down for them. What
-- was written down at earlier places does not matter.
structure Seen (visited : Array Nat) (position : Nat) (seen : List Nat) : Prop where
  bound : ∀ i : Nat, visited[i]?.getD 0 ≤ position + 1
  fresh : ∀ i : Nat, i ∉ seen → visited[i]?.getD 0 ≠ position + 1

theorem seen_replicate (size : Nat) : Seen (Array.replicate size 0) 0 [] := by
  have hzero : ∀ i : Nat, (Array.replicate size 0)[i]?.getD 0 = 0 := by
    intro i
    rw [Array.getElem?_replicate]
    split <;> rfl
  exact ⟨fun i => by simp [hzero], fun i _ => by simp [hzero]⟩

namespace Seen

variable {visited : Array Nat} {position : Nat} {seen : List Nat}

theorem next (h : Seen visited position seen) : Seen visited (position + 1) [] where
  bound i := Nat.le_succ_of_le (h.bound i)
  fresh i _ := by
    have := h.bound i
    omega

theorem visit (h : Seen visited position seen) (i : Nat) :
    Seen (visited.setIfInBounds i (position + 1)) position (i :: seen) := by
  constructor
  · intro j
    rw [Array.getElem?_setIfInBounds]
    split
    · split <;> simp
    · exact h.bound j
  · intro j hj
    obtain ⟨hne, hseen⟩ : j ≠ i ∧ j ∉ seen := by simpa using hj
    rw [Array.getElem?_setIfInBounds, if_neg (Ne.symm hne)]
    exact h.fresh j hseen

end Seen

namespace Frontier

variable {program : Program} {place : Place} {f : Frontier} {t : Thread} {rest : List Thread}
  {seen : List Nat} {fuel : Nat}

-- The frontier with one more instruction visited.
def visit (f : Frontier) (place : Place) (i : Nat) : Frontier :=
  { f with visited := f.visited.setIfInBounds i (place.position + 1) }

-- The frontier with one more thread that waits.
def await (f : Frontier) (place : Place) (t : Thread) : Frontier where
  ready := f.ready.push t
  visited := (f.visit place t.node).visited

theorem seen_visit (h : Seen f.visited place.position seen) (i : Nat) :
    Seen (f.visit place i).visited place.position (i :: seen) := h.visit i

theorem seen_await (h : Seen f.visited place.position seen) (t : Thread) :
    Seen (f.await place t).visited place.position (t.node :: seen) := h.visit t.node

theorem follow_nil : f.follow program place fuel [] = f := by
  cases fuel <;> rfl

section Cons

variable (h : Seen f.visited place.position seen) (ht : t.node ∉ seen)

include h ht

-- What following a thread does, by its instruction.
theorem follow_take {s : Unicode.CharSet} {next : Nat}
    (hnode : program.nodes[t.node]? = some (.take s next)) :
    f.follow program place (fuel + 1) (t :: rest) =
      (f.await place t).follow program place fuel rest := by
  rw [follow, if_neg (h.fresh _ ht)]
  simp only [hnode]
  rfl

theorem follow_accept (hnode : program.nodes[t.node]? = some .accept) :
    f.follow program place (fuel + 1) (t :: rest) =
      (f.await place t).follow program place fuel rest := by
  rw [follow, if_neg (h.fresh _ ht)]
  simp only [hnode]
  rfl

theorem follow_look {a : Anchor} {next : Nat}
    (hnode : program.nodes[t.node]? = some (.look a next)) :
    f.follow program place (fuel + 1) (t :: rest) =
      (f.visit place t.node).follow program place fuel
        (if a.holds place then { t with node := next } :: rest else rest) := by
  rw [follow, if_neg (h.fresh _ ht)]
  simp only [hnode]
  rfl

theorem follow_split {first second : Nat}
    (hnode : program.nodes[t.node]? = some (.split first second)) :
    f.follow program place (fuel + 1) (t :: rest) =
      (f.visit place t.node).follow program place fuel
        ({ t with node := first } :: { t with node := second } :: rest) := by
  rw [follow, if_neg (h.fresh _ ht)]
  simp only [hnode]
  rfl

theorem follow_opens {next : Nat} (hnode : program.nodes[t.node]? = some (.opens next)) :
    f.follow program place (fuel + 1) (t :: rest) =
      (f.visit place t.node).follow program place fuel
        ({ t with node := next, opened := some place.position } :: rest) := by
  rw [follow, if_neg (h.fresh _ ht)]
  simp only [hnode]
  rfl

theorem follow_closes {next : Nat} (hnode : program.nodes[t.node]? = some (.closes next)) :
    f.follow program place (fuel + 1) (t :: rest) =
      (f.visit place t.node).follow program place fuel
        ({ t with node := next, closed := some place.position } :: rest) := by
  rw [follow, if_neg (h.fresh _ ht)]
  simp only [hnode]
  rfl

end Cons

-- What taking a character does with a thread that waits for one.
theorem advance_take {s : Unicode.CharSet} {next : Nat}
    (hnode : program.nodes[t.node]? = some (.take s next)) (c : Char) (visited : Array Nat) :
    advance program c place [t] visited =
      if s.mem c then start program place { visited } { t with node := next }
      else { visited } := by
  rw [advance, List.foldl_cons, List.foldl_nil, Thread.step?, hnode]
  by_cases hc : s.mem c = true <;> simp [hc]

end Frontier

end SatFrontend.Pattern

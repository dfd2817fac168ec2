import SatFrontend.Proofs.Dimacs.Limits

namespace SatFrontend.Dimacs

open Grammar Receiver

-- The literal that is being read may be handed on.
def Mode.Ready (Allowed : Lit → Prop) : Mode → Prop
  | .digits negative value => value ≠ 0 → Allowed ⟨Var.ofNumber value, negative⟩
  | _ => True

-- Only literals that may be handed on.
def Permits (Allowed : Lit → Prop) (events : List Event) : Prop :=
  ∀ l, Event.literal l ∈ events → Allowed l

section Allowed

variable {Allowed : Lit → Prop} {limit : Nat}

theorem Mode.Within.ready (hallowed : ∀ l : Lit, l.var.number ≤ limit → Allowed l) {mode : Mode}
    (h : mode.Within limit) : mode.Ready Allowed := by
  cases mode with
  | digits negative value =>
    intro hzero
    exact hallowed _ (Nat.le_trans (Var.number_ofNumber_le hzero) h)
  | _ => trivial

-- A reader hands on no other literal than the one that it was reading.
theorem Reader.Outcome.permits {r : Reader} {out : Reader × Option Event}
    (h : Outcome limit r out) (hready : r.mode.Ready Allowed) : Permits Allowed out.2.toList := by
  intro l hl
  cases h with
  | move mode hmode => simp at hl
  | literal mode hmode negative value hread =>
    rw [hread] at hready
    unfold finishLiteral at hl
    split at hl
    · simp at hl
    · rename_i hzero
      obtain rfl : l = ⟨Var.ofNumber value, negative⟩ := by simpa using hl
      exact hready hzero
  | problem mode hmode text =>
    unfold finishProblem at hl
    dsimp only at hl
    split at hl <;> simp at hl

theorem foldl_step_permits (hallowed : ∀ l : Lit, l.var.number ≤ limit → Allowed l) {s : Scan}
    (hready : s.reader.mode.Ready Allowed) (hevents : Permits Allowed s.events.toList)
    (bytes : List UInt8) :
    (bytes.foldl (Scan.step limit) s).reader.mode.Ready Allowed ∧
      Permits Allowed (bytes.foldl (Scan.step limit) s).events.toList := by
  induction bytes generalizing s with
  | nil => exact ⟨hready, hevents⟩
  | cons b bytes ih =>
    cases herror : s.error with
    | some e =>
      rw [Scan.foldl_step_of_error (by simp [herror])]
      exact ⟨hready, hevents⟩
    | none =>
      rw [List.foldl_cons, Scan.step_eq_after limit herror]
      cases hout : s.reader.step limit b with
      | error e => exact ih trivial hevents
      | ok out =>
        have houtcome := Reader.step_outcome hout
        obtain ⟨-, hreader, htaken⟩ := Scan.after_ok herror out
        have hcount : (s.reader.countLine b).mode.Ready Allowed := by rwa [countLine_mode]
        refine ih ?_ ?_
        · rw [hreader]
          exact houtcome.mode_within.ready hallowed
        · rw [htaken]
          intro l hl
          rcases List.mem_append.mp hl with hl | hl
          · exact hevents l hl
          · exact houtcome.permits hcount l hl

theorem feedEnd_permits {r : Reader} (hready : r.mode.Ready Allowed) :
    Permits Allowed r.feedEnd.events.toList := by
  unfold Reader.feedEnd
  cases hout : r.finish with
  | error e => simp [Permits, Scan.after]
  | ok out =>
    rw [(Scan.after_ok rfl out).2.2]
    simpa using (Reader.finish_outcome 0 hout).permits hready

end Allowed

-- Reading gives the same on both sides, but for the receivers, which stay related.
structure Reading.Alike {σ τ : Type} (Related : σ → τ → Prop) (a : Reading σ) (b : Reading τ) :
    Prop where
  receiver : Related a.receiver b.receiver
  notices : a.notices = b.notices
  error : a.error = b.error

section Reading

variable {σ τ : Type} [Receiver σ] [Receiver τ] {Related : σ → τ → Prop} {Allowed : Lit → Prop}
  {s : σ} {t : τ}

theorem forward_related (hsim : Simulation Related Allowed) (h : Related s t) {scan : Scan}
    (hevents : Permits Allowed scan.events.toList) :
    Related (scan.forward s) (scan.forward t) := by
  unfold Scan.forward
  rw [← Array.foldl_toList, ← Array.foldl_toList]
  generalize scan.events.toList = events at hevents
  induction events generalizing s t with
  | nil => exact h
  | cons event events ih =>
    have hrest : Permits Allowed events := fun l hl => hevents l (List.mem_cons_of_mem _ hl)
    refine ih ?_ hrest
    cases event with
    | literal l => exact hsim.push h (hevents l List.mem_cons_self)
    | clauseEnd => exact hsim.endClause h
    | malformedHeader line text => exact h

theorem readEnd_alike (hsim : Simulation Related Allowed) (h : Related s t) {r : Reader}
    (hready : r.mode.Ready Allowed) (notices : List Notice) :
    Reading.Alike Related (readEnd r s notices).toReading (readEnd r t notices).toReading := by
  have hrelated := forward_related hsim h (feedEnd_permits hready)
  unfold readEnd
  dsimp only
  cases r.feedEnd.error with
  | some e => exact ⟨hrelated, rfl, rfl⟩
  | none => exact ⟨hrelated, rfl, rfl⟩

-- What the pieces of a stream hand out before its end.
def textOf (pieces : List (List UInt8)) : List UInt8 :=
  (pieces.takeWhile (fun piece => !piece.isEmpty)).flatten

-- An induction on the pieces. Before each of them the readers of both sides are the same, and
-- expect tokens that neither limit keeps them from reading.
theorem readPieces_alike {ns : List Nat} (hsim : Simulation Related Allowed)
    (hnear : ∀ s t, Related s t → Near ns s t) (failure : Option IoError) {r : Reader}
    (hready : r.mode.Ready Allowed) (h : Related s t) (notices : List Notice)
    {pieces : List (List UInt8)} {ts ps : List (List UInt8)}
    (hexpects : Expects r.mode (textOf pieces) ts ps)
    (hns : ∀ token ∈ ts, Token.leading token ∈ ns) :
    Reading.Alike Related (readPieces failure r s notices pieces).toReading
      (readPieces failure r t notices pieces).toReading := by
  induction pieces generalizing r s t notices ts ps with
  | nil =>
    cases failure with
    | some e => exact ⟨h, rfl, rfl⟩
    | none => exact readEnd_alike hsim h hready notices
  | cons piece pieces ih =>
    cases piece with
    | nil => exact readEnd_alike hsim h hready notices
    | cons b piece =>
      have htext : textOf ((b :: piece) :: pieces) = (b :: piece) ++ textOf pieces := by
        simp [textOf]
      rw [htext] at hexpects
      have hfeed : r.feed (limit s) (b :: piece) = r.feed (limit t) (b :: piece) := by
        rcases hnear s t h with heq | hall
        · rw [heq]
        · rw [Reader.feed_eq hexpects.ne_failed, Reader.feed_eq hexpects.ne_failed]
          exact foldl_step_eq_of_le rfl hexpects fun token htoken => hall _ (hns token htoken)
      obtain ⟨hready', hpermits⟩ := foldl_step_permits (s := { reader := r })
        (fun l hl => hsim.allowed h hl) hready (by simp [Permits]) (b :: piece)
      rw [← Reader.feed_eq hexpects.ne_failed] at hready' hpermits
      have hrelated := forward_related hsim h hpermits
      simp only [readPieces, ← hfeed]
      cases herror : (r.feed (limit s) (b :: piece)).error with
      | some e => exact ⟨hrelated, rfl, rfl⟩
      | none =>
        rw [Reader.feed_eq hexpects.ne_failed] at herror
        obtain ⟨ts', ps', hexpects', hsub⟩ := Expects.foldl_step rfl hexpects herror
        rw [← Reader.feed_eq hexpects.ne_failed] at hexpects'
        exact ih hready' hrelated _ hexpects' fun token htoken => hns token (hsub htoken)

-- The numbers that a reader meets in a text.
def textNumbers (bytes : List UInt8) : List Nat := (tokens bytes).map Token.leading

theorem readText_alike {ns : List Nat} (hsim : Simulation Related Allowed)
    (hnear : ∀ s t, Related s t → Near ns s t) (h : Related s t) {supply : Supply}
    (hns : textNumbers (textOf supply.pieces) ⊆ ns) :
    Reading.Alike Related (readText supply s).toReading (readText supply t).toReading :=
  readPieces_alike (r := {}) hsim hnear supply.failure trivial h [] (.fresh _) fun _ htoken =>
    hns (List.mem_map_of_mem htoken)

-- The numbers that a reader or a receiver meets in what a formula is read from.
def Source.numbers (files : Files) : Source → List Nat
  | .clauses cs => Lit.numbers cs.flatten
  | .producer cs => Lit.numbers (cs ()).flatten
  | .path name =>
    match files.read name with
    | .error _ => []
    | .ok bytes => textNumbers bytes
  | .text bytes => textNumbers bytes
  | .supply ⟨pieces, _⟩ => textNumbers (textOf pieces)

theorem textOf_ofBytes (bytes : List UInt8) : textOf (Supply.ofBytes bytes).pieces = bytes := by
  cases bytes <;> simp [textOf, Supply.ofBytes]

theorem readClauses_alike {cs : List (List Int)} (hsim : Simulation Related Allowed)
    (hnear : ∀ s t, Related s t → Near (Lit.numbers cs.flatten) s t) (h : Related s t) :
    Reading.Alike Related (readClauses s cs) (readClauses t cs) := by
  have hstep : ∀ c ∈ cs, ∀ s t, Related s t → Agree Related (addNumbers s c) (addNumbers t c) := by
    intro c hc s t h
    refine hsim.addNumbers h (hnear s t h) fun n hn => ?_
    exact List.mem_flatten.mpr ⟨c, hc, hn⟩
  obtain ⟨hrelated, heq⟩ := runAll_related hstep h
  exact ⟨hrelated, rfl, congrArg (Option.map ReadError.entry) heq⟩

theorem read_alike (files : Files) {source : Source} (hsim : Simulation Related Allowed)
    (hnear : ∀ s t, Related s t → Near (source.numbers files) s t) (h : Related s t) :
    Reading.Alike Related (read files s source) (read files t source) := by
  have hbytes : ∀ bytes, (∀ s t, Related s t → Near (textNumbers bytes) s t) →
      Reading.Alike Related (readText (.ofBytes bytes) s).toReading
        (readText (.ofBytes bytes) t).toReading := by
    intro bytes hnear
    refine readText_alike hsim hnear h ?_
    rw [textOf_ofBytes]
    exact List.Subset.refl _
  cases source with
  | clauses cs => exact readClauses_alike hsim hnear h
  | producer cs => exact readClauses_alike hsim hnear h
  | path path =>
    simp only [Source.numbers] at hnear
    simp only [read]
    cases hread : files.read path with
    | error e => exact ⟨h, rfl, rfl⟩
    | ok bytes =>
      rw [hread] at hnear
      obtain ⟨hrelated, hnotices, herror⟩ := hbytes bytes hnear
      exact ⟨hrelated, congrArg (Notice.readingFile path :: ·) hnotices, herror⟩
  | text bytes => exact hbytes bytes hnear
  | supply supply => exact readText_alike hsim hnear h (List.Subset.refl _)

end Reading

end SatFrontend.Dimacs

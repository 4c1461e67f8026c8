import Gatehouse.Proofs.Regex.Steps

/-!
# Escapes with a closing behind

What follows a backslash is read in the same way whether or not a closing stands behind the
expression, but for one case (`StrayEdge`): the brace after a word edge may begin its name, and right
before a closing it begins nothing.
-/

namespace Gatehouse.Regex.Reader

variable {α β : Type} {E : β → State → Prop} {P : State → Prop} {n k : Nat} {s t : State}

/-! ## Up to a last character -/

theorem readUntil_ends {last : Char} {fuel : Nat} {cs : List Char}
    (h : readUntil last fuel s = some (cs, t)) : t.rest.head? = some last := by
  induction fuel generalizing s cs with
  | zero => cases h
  | succ fuel ih =>
      obtain ⟨c, s', hc, hmore⟩ := bind_eq_some_iff.1 h
      obtain ⟨hhead, rfl⟩ := current_eq_some_iff.1 hc
      split at hmore
      · next hlast =>
        cases hmore
        rw [hhead, hlast]
      · obtain ⟨-, s₁, -, hmore⟩ := bind_eq_some_iff.1 hmore
        obtain ⟨cs, s₂, hcs, ⟨⟩⟩ := bind_eq_some_iff.1 hmore
        exact ih hcs

theorem Local.readUntil (last : Char) (fuel : Nat) : Local P 0 1 (readUntil last fuel) := by
  induction fuel generalizing P with
  | zero => exact .failure
  | succ fuel ih =>
      refine .current (fun c => ?_) (by decide)
      split
      · exact .pure []
      · refine .bind Local.bumpSpaceNext (fun _ => ?_) (by decide)
        exact .bind ih (fun cs => .pure (c :: cs)) (by decide)

theorem readUntil_fuel {last : Char} {fuel fuel' : Nat} (h : s.rest.length < fuel)
    (h' : s.rest.length < fuel') : readUntil last fuel s = readUntil last fuel' s := by
  induction fuel generalizing s fuel' with
  | zero => exact absurd h (Nat.not_lt_zero _)
  | succ fuel ih =>
      obtain ⟨fuel', rfl⟩ := Nat.exists_eq_add_one_of_ne_zero (Nat.ne_zero_of_lt h')
      refine bind_congr rfl fun c s₁ hc => ?_
      obtain ⟨hhead, rfl⟩ := current_eq_some_iff.1 hc
      split
      · rfl
      · refine bind_congr rfl fun _ s₂ hs₂ => bind_congr ?_ fun _ _ _ => rfl
        have hless := bumpSpace_lt (ne_nil_of_head? hhead) hs₂
        exact ih (by omega) (by omega)

/-- Up to a last character, which is then passed over. -/
theorem LocalBut.upTo {last : Char} {f : List Char → Read β}
    (hf : ∀ cs, LocalBut E (fun s => s.rest.head? = some last) n k (f cs)) (hnk : 1 ≤ n + k) :
    LocalBut E P n k (get >>= fun s => readUntil last (s.rest.length + 1) >>= f) := by
  refine .of_fuel (fun N => readUntil last N >>= f) (fun N => ?_) fun s N hN => ?_
  · exact .bind_of (Local.readUntil last N) hf (fun _ _ _ _ h => readUntil_ends h)
      (Nat.le_add_left _ _) (by omega)
  · exact bind_congr (readUntil_fuel (Nat.lt_succ_self _) hN) fun _ _ _ => rfl

/-! ## Escapes -/

theorem Local.readFixed (count : Nat) : Local P (min count 1) k (readFixed count) := by
  induction count using Reader.readFixed.induct generalizing P with
  | case1 => exact .pure []
  | case2 =>
      refine .current (fun c => ?_) (by simp)
      exact .bind Local.bumpSpaceNext (fun _ => .pure [c]) (by simp)
  | case3 count ih =>
      refine .current (fun c => ?_) (by simp)
      refine .bind Local.bumpSpaceNext (fun _ => ?_) (by simp)
      exact .bind ih (fun cs => .pure (c :: cs)) (Nat.zero_le _)

theorem Local.readHexEscape (kind : Char) (hP : ∀ s, P s → s.rest ≠ []) :
    Local P 1 k (readHexEscape kind) := by
  refine .bind_reads (Local.bumpSpace hP) (fun _ => .current (fun c => ?_) (by omega)) (by decide)
  split
  · refine .bind_reads Local.bumpSpaceNext (fun _ => ?_) (by decide)
    refine .upTo (fun digits => ?_) (by omega)
    refine .bind (Local.bumpSpace fun s hs => ne_nil_of_head? hs) (fun _ => ?_) (by decide)
    refine .need fun _ => ?_
    split
    · exact .pure _
    · exact .failure
  · refine .bind (Local.readFixed _) (fun digits => ?_) ?_
    · split
      · exact .pure _
      · exact .failure
    · split
      · decide
      · split <;> decide

theorem Local.fold (set : CharSet) : Local P 0 k (fold set) := by
  refine .ofState (fun s => ?_) fun _ _ _ _ => rfl
  dsimp only
  split
  · exact .pure _
  · exact .pure _

theorem Local.negate (negated : Bool) (set : CharSet) : Local P 0 k (negate negated set) := by
  unfold Reader.negate
  split
  · exact .ofState (fun s => .pure _) fun _ _ _ _ => rfl
  · exact .pure _

/-- What comes of the name of a property. -/
def property (kind : Char) (name : List Char) : Read Primitive := do
  need (← get).flags.unicode
  let some (s, inverted) := namedProperty? name | failure
  return .set (← negate ((kind == 'P') != inverted) (← fold s))

theorem Local.property (kind : Char) (name : List Char) : Local P 0 k (property kind name) := by
  refine .ofState (fun s => ?_) fun _ _ _ _ => rfl
  refine .need fun _ => ?_
  split
  · refine .bind (Local.fold _) (fun _ => ?_) (Nat.le_refl _)
    exact .bind (Local.negate _ _) (fun _ => .pure _) (Nat.le_refl _)
  · exact .failure

theorem Local.readProperty (kind : Char) (hP : ∀ s, P s → s.rest ≠ []) :
    Local P 1 k (readProperty kind) := by
  refine .bind_reads (Local.bumpSpace hP) (fun _ => .current (fun c => ?_) (by omega)) (by decide)
  split
  · refine .bind_reads Local.bumpSpaceNext (fun _ => ?_) (by decide)
    refine .upTo (fun name => ?_) (by omega)
    refine .bind (Local.bump fun s hs => ne_nil_of_head? hs) (fun _ => ?_) (by decide)
    exact .bind (.pure name) (fun name => Local.property kind name) (Nat.le_refl _)
  · refine .need fun _ => ?_
    refine .bind Local.bumpSpaceNext (fun _ => ?_) (by decide)
    exact .bind (.pure [c]) (fun name => Local.property kind name) (Nat.le_refl _)

theorem Local.readClassLetter (kind : Char) (hP : ∀ s, P s → s.rest ≠ []) :
    Local P 1 k (readClassLetter kind) := by
  refine .bind (Local.bump hP) (fun _ => .ofState (fun s => ?_) fun _ _ _ _ => rfl) (by decide)
  exact .bind (Local.negate _ _) (fun _ => .pure _) (Nat.le_refl _)

/-! ### Word edges

A brace behind a word edge begins its name, or a repetition of it. Right before a closing it can be
neither, but that is found out later: the edge is read, and the brace is left over. -/

/-- A brace is left over right before a closing. -/
def Stray (t : State) : Prop := t.rest.head? = some '\x7b' ∧ Closing t.beyond

/-- The name of a word edge from its opening brace on. -/
def edgeName (ascii : Bool) : Read Place := do
  bumpSpace
  let _ ← current
  let name ← readUntil '\x7d' ((← get).rest.length + 1)
  bump
  match String.ofList name with
  | "start" => return .wordStart ascii
  | "end" => return .wordEnd ascii
  | "start-half" => return .wordStartHalf ascii
  | "end-half" => return .wordEndHalf ascii
  | _ => failure

theorem Local.edgeName (ascii : Bool) (hP : ∀ s, P s → s.rest ≠ []) :
    Local P 1 k (edgeName ascii) := by
  refine .bind_reads (Local.bumpSpace hP) (fun _ => .current (fun c => ?_) (by omega)) (by decide)
  refine .upTo (fun name => ?_) (by omega)
  refine .bind (Local.bump fun s hs => ne_nil_of_head? hs) (fun _ => ?_) (by decide)
  split
  · exact .pure _
  · exact .pure _
  · exact .pure _
  · exact .pure _
  · exact .failure

/-- Whether no name starts with a character. -/
def startsNoName (c : Char) : Bool := !(c.isAlpha || c == '-')

/-- A word edge from the next character and the one beyond it. -/
def edgeStep (ascii : Bool) : Option Char → Option Char → Read Place
  | some '\x7b', none => failure
  | some '\x7b', some c => if startsNoName c then return .wordEdge ascii else edgeName ascii
  | _, _ => return .wordEdge ascii

theorem edgeStep_of_ne (ascii : Bool) {next beyond : Option Char} (h : next ≠ some '\x7b') :
    edgeStep ascii next beyond = pure (.wordEdge ascii) := by
  unfold edgeStep
  split
  · exact absurd rfl h
  · exact absurd rfl h
  · rfl

theorem readWordEdge_apply (ascii : Bool) (s : State) :
    readWordEdge ascii s = edgeStep ascii s.rest.head? s.beyond.head? s := by
  have hstep : readWordEdge ascii s =
      (if (s.rest.head? != some '\x7b') = true then _ else _ : Read Place) s := rfl
  by_cases hs : s.rest.head? = some '\x7b'
  · have hpeek : (s.rest.head? != some '\x7b') = false := by rw [hs]; rfl
    rw [hstep, hpeek, if_neg Bool.false_ne_true, hs, bind_apply (get_apply s),
      bind_apply (bumpSpace_apply s)]
    cases hbeyond : s.beyond with
    | nil => rfl
    | cons c r =>
        show (if startsNoName c = true then _ else _ : Read Place) _ =
          (if startsNoName c = true then _ else _ : Read Place) s
        split
        · rfl
        · rw [edgeName, bind_apply (bumpSpace_apply s), hbeyond]
          rfl
  · rw [edgeStep_of_ne ascii hs, hstep, bne_iff_ne.2 hs]
    rfl

theorem Local.edgeStep (ascii : Bool) (next beyond : Option Char) :
    Local (fun s => s.rest.head? = next) 0 k (edgeStep ascii next beyond) := by
  unfold Reader.edgeStep
  split
  · exact .failure
  · split
    · exact .pure _
    · exact (Local.edgeName ascii fun s hs => ne_nil_of_head? hs).weaken
  · exact .pure _

/-- A closing behind the text makes a difference to an edge only where the edge is stray. -/
theorem edgeStep_behind (ascii : Bool) (s : State) {u : List Char} (hu : Closing u) :
    edgeStep ascii (s.behind u).rest.head? (s.behind u).beyond.head? =
        edgeStep ascii s.rest.head? s.beyond.head? ∨
      (Stray (s.behind u) ∧ edgeStep ascii s.rest.head? s.beyond.head? = failure ∧
        edgeStep ascii (s.behind u).rest.head? (s.behind u).beyond.head? =
          pure (.wordEdge ascii)) := by
  by_cases hs : s.rest.head? = some '\x7b'
  · have hbrace : (s.behind u).rest.head? = some '\x7b' := by
      rw [State.rest_behind, List.head?_append, hs]
      rfl
    rw [hbrace, hs]
    rcases State.beyond_behind (ne_nil_of_head? hs) with hbehind | ⟨hnil, hlost⟩
    · cases hbeyond : s.beyond with
      | nil =>
          have hclosing : (s.behind u).beyond = u := by rw [hbehind u hu, hbeyond, List.nil_append]
          have hstray : Stray (s.behind u) := ⟨hbrace, by rwa [hclosing]⟩
          obtain ⟨v, hv⟩ := hu.exists_eq_cons
          rw [hclosing, hv]
          exact Or.inr ⟨hv ▸ hstray, rfl, rfl⟩
      | cons c r =>
          rw [hbehind u hu, hbeyond]
          exact Or.inl rfl
    · rw [hnil, hlost u hu]
      exact Or.inl rfl
  · have hother : (s.behind u).rest.head? ≠ some '\x7b' := by
      rcases hu.head?_append s.rest with h | ⟨-, h⟩
      · exact fun hbrace => hs (h.symm.trans hbrace)
      · exact fun hbrace => absurd (h.symm.trans hbrace) (by decide)
    rw [edgeStep_of_ne ascii hs, edgeStep_of_ne ascii hother]
    exact Or.inl rfl

/-- The one step that is not local: an edge followed by a brace looks two characters ahead. -/
theorem LocalBut.readWordEdge (ascii : Bool) :
    LocalBut (fun a t => (∃ b, a = .wordEdge b) ∧ Stray t) P 0 k (readWordEdge ascii) := by
  refine ⟨fun s a t h => ?_, fun s a t _ h => ?_, fun s u a t _ hu h hlength => ?_⟩
  · rw [readWordEdge_apply] at h
    exact (Local.edgeStep (k := 0) ascii _ _).reads s a t h
  · rw [readWordEdge_apply] at h
    have hsame : ∀ u, Closing u → Reader.readWordEdge ascii (s.behind u) =
        edgeStep ascii s.rest.head? s.beyond.head? (s.behind u) := by
      intro u hu
      rw [readWordEdge_apply]
      rcases edgeStep_behind ascii s hu with heq | ⟨-, hfail, -⟩
      · rw [heq]
      · rw [hfail] at h
        cases h
    refine ((Local.edgeStep (k := 0) ascii _ _).forth s a t rfl h).imp (fun hbehind u hu => ?_)
      (And.imp_right fun hlost u hu => ?_)
    · exact (hsame u hu).trans (hbehind u hu)
    · exact (hsame u hu).trans (hlost u hu)
  · rw [readWordEdge_apply] at h
    rcases edgeStep_behind ascii s hu with heq | ⟨hstray, -, hpure⟩
    · rw [heq] at h
      rcases (Local.edgeStep ascii _ _).back s u a t rfl hu h hlength with ⟨t', ht', rfl⟩ | hno
      · exact Or.inl ⟨t', (readWordEdge_apply ascii s).trans ht', rfl⟩
      · exact hno.elim
    · rw [hpure] at h
      cases h
      exact Or.inr ⟨⟨ascii, rfl⟩, hstray⟩

/-- A word edge was read and a brace is left over. -/
def StrayEdge (a : Primitive) (t : State) : Prop := (∃ b, a = .place (.wordEdge b)) ∧ Stray t

/-- An escape is local but for that. -/
theorem LocalBut.readEscape (hP : ∀ s, P s → s.rest ≠ []) :
    LocalBut StrayEdge P 1 k readEscape := by
  refine .bind_reads (Local.bump hP) (fun _ => .current (fun c => ?_) (by omega)) (by decide)
  have hrest : ∀ s : State, (Any s ∧ s.rest.head? = some c) → s.rest ≠ [] :=
    fun s hs => ne_nil_of_head? hs.2
  refine .ofState (fun s => ?_) fun _ _ _ _ => rfl
  refine LocalBut.on (P := fun s => Any s ∧ s.rest.head? = some c) ?_ fun s hs => hs.1
  dsimp only
  split
  · exact .failure
  split
  · exact (Local.readHexEscape c hrest).but
  split
  · exact (Local.readProperty c hrest).but
  split
  · exact (Local.readClassLetter c hrest).but
  refine .bind (Local.bump hrest) (fun _ => ?_) (by decide)
  split
  · exact .pure _
  split
  case h_9 =>
    refine .bind_but (LocalBut.readWordEdge _) (fun p => .pure _) ?_ (Nat.le_refl _)
    rintro a s b t ⟨⟨ascii, rfl⟩, hstray⟩ ⟨⟩
    exact ⟨⟨ascii, rfl⟩, hstray⟩
  all_goals first | exact .pure _ | exact .failure

end Gatehouse.Regex.Reader

import Gatehouse.Proofs.Regex.Brackets
import Gatehouse.Proofs.Regex.Groups

/-!
# Expressions with a closing behind

Expressions are read in the same way whether or not a closing stands behind them
(`Local.readBranches`), and the fuel that the reader is given is enough for them
(`readBranches_fuel`).
-/

namespace Gatehouse.Regex.Reader

variable {P : State → Prop} {k : Nat} {s t : State}

/-! ## Single characters -/

theorem LocalBut.primitiveRegex {E : Regex → State → Prop} (p : Primitive) :
    LocalBut E P 0 k (primitiveRegex p) := by
  unfold Reader.primitiveRegex
  split
  · refine .ofState (fun s => .need fun _ => ?_) fun _ _ _ _ => rfl
    exact .bind (Local.fold _) (fun _ => .pure _) (Nat.le_refl _)
  · exact .ofState (fun s => .need fun _ => .pure _) fun _ _ _ _ => rfl
  · exact .pure _
  · exact .ofState (fun s => .need fun _ => .pure _) fun _ _ _ _ => rfl

theorem LocalBut.readPrimitive : LocalBut StrayEdge P 1 k readPrimitive := by
  refine .current (fun c => .ofState (fun s => ?_) fun _ _ _ _ => rfl) (by omega)
  have hrest : ∀ t : State, ((P t ∧ t.rest.head? = some c) ∧ t = s) → t.rest ≠ [] :=
    fun t ht => ne_nil_of_head? ht.1.2
  dsimp only
  split
  · exact .readEscape hrest
  all_goals exact .bind (Local.bump hrest) (fun _ => .pure _) (Nat.le_refl _)

/-- A brace that is left over right before a closing is no repetition. -/
theorem readBounds_stray (h : Stray t) : readBounds t = none := by
  obtain ⟨-, hclosing⟩ := h
  rw [readBounds_eq, bind_apply (bumpSpace_apply t)]
  rcases hclosing with hu | hu
  · rw [hu]
    rfl
  · rw [hu]
    rfl

/-- Behind a stray edge nothing can be read: its brace begins bounds, and there are none. -/
theorem readBranches_stray (fuel : Nat) (branches : List (Regex × Nat)) (items : List Item)
    (h : Stray t) : readBranches fuel branches items t = none := by
  cases fuel with
  | zero => rfl
  | succ fuel =>
      obtain ⟨rest, flags, groups, names⟩ := t
      cases rest with
      | nil => cases h.1
      | cons c r =>
          obtain rfl : c = '\x7b' := Option.some.inj h.1
          have hdrop : dropVerbose false ('\x7b' :: r) = '\x7b' :: r := by
            rw [dropVerbose, if_neg (by decide), if_neg (by decide)]
          have hspace : space ⟨'\x7b' :: r, flags, groups, names⟩ =
              some ((), ⟨'\x7b' :: r, flags, groups, names⟩) := by
            rw [space_apply, State.spaced]
            dsimp only
            rw [hdrop, ite_self]
          rw [readBranches, bind_apply hspace, bind_apply (show peek _ = some (some '\x7b', _) from rfl)]
          dsimp only
          refine need_bind_eq_none ?_
          exact bind_apply_none (readBounds_stray h)

/-! ## Groups and alternatives -/

/-- A group up to its closing parenthesis, and everything after it. -/
def readGroup (fuel : Nat) (branches : List (Regex × Nat)) (items : List Item) (outer : Flags)
    (wrap : Regex → Regex) : Read (Regex × Nat) := do
  let (r, depth) ← readBranches fuel [] []
  need ((← peek) = some ')')
  bump
  modify fun s => { s with flags := outer }
  readBranches fuel branches (⟨wrap r, depth + 1, false⟩ :: items)

theorem Local.setFlags (f : Flags) : Local P 0 k (modify fun s => { s with flags := f }) :=
  .change (fun _ => List.suffix_refl _) fun _ _ _ _ => rfl

/-- A group is local if the branches inside are. -/
theorem Local.readGroup {fuel : Nat}
    (hbranches : ∀ k branches items, Local Any 0 k (readBranches fuel branches items))
    (branches : List (Regex × Nat)) (items : List Item) (outer : Flags) (wrap : Regex → Regex) :
    Local P 0 k (readGroup fuel branches items outer wrap) := by
  refine .bind_reads (hbranches (k + 1) [] []).any (fun (r, depth) => ?_) (Nat.zero_le _)
  refine .closing ?_ (by omega)
  refine .bind Local.bumpNext (fun _ => ?_) (Nat.le_refl _)
  exact .bind (Local.setFlags outer) (fun _ => hbranches _ _ _) (Nat.le_refl _)

/-- By induction on the fuel, one case for each kind of item. -/
theorem Local.readBranches (fuel : Nat) (branches : List (Regex × Nat)) (items : List Item) :
    Local P 0 k (readBranches fuel branches items) := by
  induction fuel generalizing P k branches items with
  | zero => exact .failure
  | succ fuel ih =>
      rw [Reader.readBranches]
      refine .bind Local.space (fun _ => .peek (fun o => ?_) rfl) (Nat.le_refl _)
      have hrest : ∀ {c} (s : State), (Any s ∧ s.rest.head? = some c) → s.rest ≠ [] :=
        fun s hs => ne_nil_of_head? hs.2
      have hrepeat : ∀ least most, Local (fun s => s.rest ≠ []) 0 k (do
          Reader.bump; Reader.readBranches fuel branches (← Reader.repeatLast least most items)) := by
        intro least most
        refine .bind (Local.bump fun s hs => hs) (fun _ => ?_) (Nat.zero_le _)
        exact .bind (LocalBut.repeatLast least most items) (fun _ => ih _ _) (Nat.le_refl _)
      -- by the next character: none, a closing parenthesis, a bar, the four repetitions, a bracket
      -- expression, a group, and any other
      split
      · exact .pure _
      · exact .pure _
      · exact .bind (Local.bump hrest) (fun _ => ih _ _) (Nat.zero_le _)
      · exact (hrepeat 0 (some 1)).on hrest
      · exact (hrepeat 0 none).on hrest
      · exact (hrepeat 1 none).on hrest
      · refine .need fun _ => ?_
        refine .bind_of (Q := fun _ s => s.rest.head? = some '\x7d') (j := 1) (Local.readBounds hrest)
          (fun (least, most) => ?_) (fun s a t _ h => readBounds_ends h) (Nat.zero_le _) (Nat.le_refl _)
        refine .bind (Local.bumpSpace fun s hs => ne_nil_of_head? hs) (fun _ => ?_) (Nat.le_refl _)
        exact .bind (LocalBut.repeatLast least most items) (fun _ => ih _ _) (Nat.le_refl _)
      · refine .bind (Local.readSet fuel hrest) (fun (s, depth) => ?_) (Nat.zero_le _)
        exact .bind (LocalBut.primitiveRegex _) (fun _ => ih _ _) (Nat.le_refl _)
      · refine .ofState (fun s => ?_) fun _ _ _ _ => rfl
        refine .bind (Local.readOpening fun t ht => hrest t ht.1) (fun opening => ?_) (Nat.zero_le _)
        split
        · exact .bind (Local.setFlags _) (fun _ => ih _ _) (Nat.le_refl _)
        · refine .bind (Local.setFlags _) (fun _ => ?_) (Nat.le_refl _)
          exact Local.readGroup (fun _ => ih) branches items s.flags id
        · next index => exact Local.readGroup (fun _ => ih) branches items s.flags (.group index)
      · refine .bind_but LocalBut.readPrimitive (fun p => ?_) ?_ (Nat.zero_le _)
        · exact .bind (LocalBut.primitiveRegex p) (fun _ => ih _ _) (Nat.le_refl _)
        · -- a brace left over after a word edge is no repetition of it
          rintro a s b t ⟨⟨ascii, rfl⟩, hstray⟩ h
          rw [bind_apply (show primitiveRegex (.place _) s = some (.place _, s) from rfl),
            readBranches_stray _ _ _ hstray] at h
          cases h

/-! ## Fuel -/

theorem readGroup_fuel {fuel fuel' : Nat}
    (hbranches : ∀ {t : State} branches items, t.rest.length ≤ s.rest.length →
      readBranches fuel branches items t = readBranches fuel' branches items t)
    (branches : List (Regex × Nat)) (items : List Item) (outer : Flags) (wrap : Regex → Regex) :
    readGroup fuel branches items outer wrap s = readGroup fuel' branches items outer wrap s := by
  refine bind_congr (hbranches _ _ (Nat.le_refl _)) fun (r, depth) s₁ hs₁ => ?_
  have hless := Local.length_le (.readBranches fuel [] []) hs₁
  refine bind_congr rfl fun o s₂ ho => ?_
  obtain rfl : s₁ = s₂ := (Prod.mk.inj (Option.some.inj ho)).2
  refine need_bind_congr (bind_congr rfl fun _ s₃ hs₃ => bind_congr rfl fun _ s₄ hs₄ => ?_)
  cases hs₃
  cases hs₄
  have hdrop := (List.drop_suffix 1 s₁.rest).length_le
  exact hbranches _ _ (Nat.le_trans hdrop hless)

/-- Fuel for twice the text is enough for an expression. -/
theorem readBranches_fuel {fuel fuel' : Nat} {branches : List (Regex × Nat)} {items : List Item}
    (h : 2 * s.rest.length < fuel) (h' : 2 * s.rest.length < fuel') :
    readBranches fuel branches items s = readBranches fuel' branches items s := by
  induction fuel generalizing s fuel' branches items with
  | zero => exact absurd h (Nat.not_lt_zero _)
  | succ fuel ih =>
      obtain ⟨fuel', rfl⟩ := Nat.exists_eq_add_one_of_ne_zero (Nat.ne_zero_of_lt h')
      rw [readBranches, readBranches]
      refine bind_congr rfl fun _ s₁ hs₁ => bind_congr rfl fun o s₂ ho => ?_
      have hspace := Local.length_le .space hs₁
      obtain ⟨hhead, rfl⟩ : s₁.rest.head? = o ∧ s₁ = s₂ := Prod.mk.inj (Option.some.inj ho)
      have hnext : ∀ {t : State} branches items, t.rest.length < s₁.rest.length →
          readBranches fuel branches items t = readBranches fuel' branches items t :=
        fun _ _ ht => ih (by omega) (by omega)
      have hrepeat : ∀ least most, s₁.rest ≠ [] →
          (bump >>= fun _ => repeatLast least most items >>= readBranches fuel branches) s₁ =
            (bump >>= fun _ => repeatLast least most items >>= readBranches fuel' branches) s₁ := by
        intro least most hs
        refine bind_congr rfl fun _ s₂ hs₂ => bind_congr rfl fun items' s₃ hs₃ => ?_
        have hless := bump_lt hs hs₂
        have hless' := Local.length_le (.repeatLast least most items) hs₃
        exact hnext _ _ (by omega)
      -- each kind of item reads at least one character before the branches go on
      split
      · rfl
      · rfl
      · exact bind_congr rfl fun _ s₂ hs₂ => hnext _ _ (bump_lt (ne_nil_of_head? hhead) hs₂)
      · exact hrepeat 0 (some 1) (ne_nil_of_head? hhead)
      · exact hrepeat 0 none (ne_nil_of_head? hhead)
      · exact hrepeat 1 none (ne_nil_of_head? hhead)
      · refine need_bind_congr ?_
        refine bind_congr rfl fun (least, most) s₂ hs₂ => bind_congr rfl fun _ s₃ hs₃ =>
          bind_congr rfl fun items' s₄ hs₄ => hnext _ _ ?_
        have hbounds := Local.length_lt (.readBounds fun _ hs => hs) (ne_nil_of_head? hhead) hs₂
        have hclose := bumpSpace_lt (ne_nil_of_head? (readBounds_ends hs₂)) hs₃
        have hlast := Local.length_le (.repeatLast least most items) hs₄
        omega
      · have hset : readSet fuel s₁ = readSet fuel' s₁ :=
          (readSet_readSetItems_fuel fuel).2 (by omega) (by omega)
        refine bind_congr hset fun (set, depth) s₂ hs₂ => bind_congr rfl fun r s₃ hs₃ => hnext _ _ ?_
        have hless := Local.length_lt (.readSet fuel fun _ hs => hs) (ne_nil_of_head? hhead) hs₂
        have hless' := Local.length_le (.primitiveRegex _) hs₃
        omega
      · rw [bind_apply (get_apply _), bind_apply (get_apply _)]
        refine bind_congr rfl fun opening s₂ hs₂ => ?_
        have hopening := Local.length_lt (.readOpening fun _ hs => hs) (ne_nil_of_head? hhead) hs₂
        have hgroup : ∀ wrap t, t.rest.length ≤ s₂.rest.length →
            readGroup fuel branches items s₁.flags wrap t =
              readGroup fuel' branches items s₁.flags wrap t :=
          fun wrap t ht => readGroup_fuel (fun _ _ ht' => hnext _ _ (by omega)) _ _ _ _
        split
        · refine bind_congr rfl fun _ s₃ hs₃ => ?_
          cases hs₃
          exact hnext _ _ hopening
        · refine bind_congr rfl fun _ s₃ hs₃ => ?_
          cases hs₃
          exact hgroup id _ (Nat.le_refl s₂.rest.length)
        · next index => exact hgroup (.group index) _ (Nat.le_refl _)
      · refine bind_congr rfl fun p s₂ hs₂ => bind_congr rfl fun r s₃ hs₃ => hnext _ _ ?_
        obtain ⟨-, hless⟩ := (LocalBut.readPrimitive (P := Any) (k := 0)).reads _ _ _ hs₂
        have hless' := Local.length_le (.primitiveRegex p) hs₃
        have hpos := List.length_pos_iff.2 (ne_nil_of_head? hhead)
        omega

end Gatehouse.Regex.Reader

import Gatehouse.Proofs.Regex.Branches

/-!
# What a text is read as

The reader stops at the end of a text, or at a closing parenthesis that no group in it opened
(`reading_stops`). With a closing behind the text it does the same, unless a comment is open at the
end (`reading_behind`). So in an expression for whole texts, `^(?:` and `)$` around some text, that
text is read as it is read alone, unless it closes the group itself (`reading_of_anchored`).
-/

namespace Gatehouse.Regex

namespace Reader

variable {α β : Type} {s t : State}

/-! ## Where the reader stops -/

/-- The text has ended, or a group has. -/
def State.Stops (t : State) : Prop := t.rest.head? = none ∨ t.rest.head? = some ')'

/-- A step that stops nowhere else. -/
def Stopping (m : Read α) (s : State) : Prop := ∀ a t, m s = some (a, t) → t.Stops

/-- Where the last step stops, the whole does. -/
theorem Stopping.bind {m : Read α} {f : α → Read β}
    (hf : ∀ a s', m s = some (a, s') → Stopping (f a) s') : Stopping (m >>= f) s := by
  intro b t h
  obtain ⟨a, s', hs', ht⟩ := bind_eq_some_iff.1 h
  exact hf a s' hs' b t ht

theorem Stopping.pure (h : s.Stops) (a : α) : Stopping (pure a) s := by
  rintro b t ⟨⟩
  exact h

/-- Branches stop at the end of the text or at a bracket that they did not open. -/
theorem stopping_readBranches (fuel : Nat) (branches : List (Regex × Nat)) (items : List Item) :
    Stopping (readBranches fuel branches items) s := by
  induction fuel generalizing branches items s with
  | zero => exact nofun
  | succ fuel ih =>
      have hrepeat : ∀ {m : Read Unit} {s : State} least most,
          Stopping (m >>= fun _ => repeatLast least most items >>= readBranches fuel branches) s :=
        fun _ _ => .bind fun _ _ _ => .bind fun _ _ _ => ih _ _
      have hgroup : ∀ {s : State} outer wrap,
          Stopping (readGroup fuel branches items outer wrap) s :=
        fun outer wrap => .bind fun _ _ _ => .bind fun _ _ _ => .bind fun _ _ _ =>
          .bind fun _ _ _ => .bind fun _ _ _ => ih _ _
      rw [readBranches]
      refine .bind fun _ s₁ _ => .bind fun o s₂ ho => ?_
      obtain ⟨hhead, rfl⟩ : s₁.rest.head? = o ∧ s₁ = s₂ := Prod.mk.inj (Option.some.inj ho)
      -- all but the first two read on, and stop where what comes last stops
      split
      · exact .pure (Or.inl hhead) _
      · exact .pure (Or.inr hhead) _
      · exact .bind fun _ _ _ => ih _ _
      · exact hrepeat _ _
      · exact hrepeat _ _
      · exact hrepeat _ _
      · exact .bind fun _ _ _ => .bind fun _ _ _ => hrepeat _ _
      · exact .bind fun _ _ _ => .bind fun _ _ _ => ih _ _
      · refine .bind fun _ _ _ => .bind fun opening _ _ => ?_
        split
        · exact .bind fun _ _ _ => ih _ _
        · exact .bind fun _ _ _ => hgroup _ id
        · exact hgroup _ _
      · exact .bind fun _ _ _ => .bind fun _ _ _ => ih _ _

end Reader

/-- What a text is read as: an expression with its depth, and the state where the reader stops. -/
def reading (text : List Char) : Option ((Regex × Nat) × Reader.State) :=
  Reader.readBranches (2 * text.length + 2) [] [] ⟨text, .default, 0, []⟩

/-- More fuel reads no more. -/
theorem reading_fuel {text : List Char} {fuel : Nat} (h : 2 * text.length < fuel) :
    Reader.readBranches fuel [] [] ⟨text, .default, 0, []⟩ = reading text :=
  Reader.readBranches_fuel h (Nat.lt_add_of_pos_right (by decide))

theorem read?_eq_some_iff {text : String} {r : Regex} {names : List (String × Nat)} :
    read? text = some (r, names) ↔ ∃ depth t, reading text.toList = some ((r, depth), t) ∧
      t.rest = [] ∧ depth ≤ Reader.maxDepth ∧ r.weight ≤ maxWeight ∧ t.names = names := by
  have hread : read? text = (reading text.toList).bind fun e =>
      if e.2.rest.isEmpty && e.1.2 ≤ Reader.maxDepth && e.1.1.weight ≤ maxWeight then
        some (e.1.1, e.2.names) else none := rfl
  rw [hread, Option.bind_eq_some_iff]
  constructor
  · rintro ⟨⟨⟨r', depth⟩, t⟩, ht, h⟩
    dsimp only at h
    split at h
    · next hlimits =>
      cases h
      simp only [Bool.and_eq_true, decide_eq_true_eq, List.isEmpty_iff] at hlimits
      exact ⟨depth, t, ht, hlimits.1.1, hlimits.1.2, hlimits.2, rfl⟩
    · cases h
  · rintro ⟨depth, t, ht, hrest, hdepth, hweight, rfl⟩
    refine ⟨_, ht, if_pos ?_⟩
    simp [hrest, hdepth, hweight]

/-! ### With a closing behind -/

section

variable {v u : List Char} {e : Regex × Nat} {t : Reader.State}

theorem local_reading (v : List Char) :
    Reader.Local Reader.Any 0 0 (Reader.readBranches (2 * v.length + 5) [] []) :=
  .readBranches _ _ _

/-- A closing behind the text is left to be read, and changes nothing else. -/
theorem reading_append (hu : Reader.Closing u) : reading (v ++ u) =
    Reader.readBranches (2 * v.length + 5) [] [] (Reader.State.behind ⟨v, .default, 0, []⟩ u) := by
  have hlength := hu.length_le
  exact (reading_fuel (by rw [List.length_append]; omega)).symm

theorem reading_eq (v : List Char) : reading v =
    Reader.readBranches (2 * v.length + 5) [] [] ⟨v, .default, 0, []⟩ :=
  (reading_fuel (Nat.lt_add_of_pos_right (by decide))).symm

/-- What is read without a closing is read with one, which is left over or not looked at. -/
theorem reading_behind (h : reading v = some (e, t)) :
    (∀ u, Reader.Closing u → reading (v ++ u) = some (e, t.behind u)) ∨
      (t.rest = [] ∧ ∀ u, Reader.Closing u → reading (v ++ u) = some (e, t)) := by
  rw [reading_eq] at h
  refine ((local_reading v).forth _ _ _ trivial h).imp (fun hbehind u hu => ?_)
    (And.imp_right fun hlost u hu => ?_)
  · exact (reading_append hu).trans (hbehind u hu)
  · exact (reading_append hu).trans (hlost u hu)

/-- What leaves the whole closing was read without it. -/
theorem reading_of_behind (hu : Reader.Closing u) (h : reading (v ++ u) = some (e, t))
    (hlength : u.length ≤ t.rest.length) : ∃ t', reading v = some (e, t') ∧ t = t'.behind u := by
  rw [reading_append hu] at h
  rw [reading_eq]
  exact ((local_reading v).back _ u _ _ trivial hu h hlength).resolve_right id

theorem reading_suffix (h : reading v = some (e, t)) : t.rest <:+ v := by
  rw [reading_eq] at h
  exact ((local_reading v).reads _ _ _ h).1

theorem reading_stops (h : reading v = some (e, t)) : t.Stops :=
  Reader.stopping_readBranches _ _ _ _ _ h

end

/-! ## Between the ends of the text -/

/-- The expression for a whole text begins a group. -/
theorem reading_anchored (v : List Char) :
    reading ('^' :: '(' :: '?' :: ':' :: (v ++ [')', '$'])) =
      Reader.readGroup (2 * v.length + 12) [] [⟨.place .textStart, 0, false⟩] .default id
        ⟨v ++ [')', '$'], .default, 0, []⟩ := by
  have hfuel : ('^' :: '(' :: '?' :: ':' :: (v ++ [')', '$'])).length = v.length + 6 := by simp
  rw [reading, hfuel]
  rfl

/-- The marks around an expression weigh something too. -/
theorem weight_anchored (r : Regex) :
    (Regex.seq (.seq (.place .textStart) r) (.place .textEnd)).weight = r.weight + 64 := by
  show 32 + r.weight + 32 = r.weight + 64
  omega

/-- The marks read back as the places they stand for, with the expression between them. -/
theorem readGroup_anchored {fuel depth : Nat} {s t : Reader.State} {r : Regex}
    (h : Reader.readBranches (fuel + 2) [] [] s = some ((r, depth), t.behind [')', '$']))
    (ht : t.rest = []) :
    Reader.readGroup (fuel + 2) [] [⟨.place .textStart, 0, false⟩] .default id s =
      some ((.seq (.seq (.place .textStart) r) (.place .textEnd), depth + 2),
        { t with flags := .default }) := by
  obtain ⟨rest, flags, groups, names⟩ := t
  cases ht
  have heval : Reader.readGroup (fuel + 2) [] [⟨.place .textStart, 0, false⟩] .default id s =
      some ((.seq (.seq (.place .textStart) r) (.place .textEnd),
        1 + max (max (max 0 0) (depth + 1)) 0), ⟨[], .default, groups, names⟩) := by
    rw [Reader.readGroup, Reader.bind_apply h]
    rfl
  rw [heval, show 1 + max (max (max 0 0) (depth + 1)) 0 = depth + 2 by omega]

/-- A closing parenthesis is not the last character. -/
theorem length_of_head? {rest v : List Char} (hhead : rest.head? = some ')')
    (hsuffix : rest <:+ v ++ [')', '$']) : 2 ≤ rest.length := by
  match rest, hhead with
  | [c], hhead =>
    obtain ⟨p, hp⟩ := hsuffix
    have hlast := congrArg List.getLast? hp
    simp only [List.getLast?_append, List.getLast?_cons_cons, List.getLast?_singleton,
      Option.some_or, Option.some.injEq] at hlast
    rw [hlast] at hhead
    cases hhead
  | _ :: _ :: r, _ => exact Nat.le_add_left 2 r.length

/-- A text between the ends of the text: what it is read as alone, unless it closes the group that
is put around it. -/
theorem reading_of_anchored {v : List Char} {e : Regex × Nat} {t : Reader.State}
    (h : reading ('^' :: '(' :: '?' :: ':' :: (v ++ [')', '$'])) = some (e, t)) :
    ∃ r depth t', reading v = some ((r, depth), t') ∧
      (t'.rest = [] → (∀ u, Reader.Closing u → reading (v ++ u) = some ((r, depth), t'.behind u)) ∧
        e = (.seq (.seq (.place .textStart) r) (.place .textEnd), depth + 2) ∧
        t = { t' with flags := .default }) := by
  have hu : Reader.Closing [')', '$'] := Or.inr rfl
  have hlength : 2 * (v ++ [')', '$']).length < 2 * v.length + 12 := by simp; omega
  rw [reading_anchored] at h
  obtain ⟨⟨r, depth⟩, s₁, hs₁, hclosed⟩ := Reader.bind_eq_some_iff.1 h
  have hread := (reading_fuel hlength).symm.trans hs₁
  obtain ⟨o, s₂, ho, hclosed⟩ := Reader.bind_eq_some_iff.1 hclosed
  obtain ⟨hhead, rfl⟩ : s₁.rest.head? = o ∧ s₁ = s₂ := Prod.mk.inj (Option.some.inj ho)
  obtain ⟨hclose, -⟩ := Reader.need_bind_eq_some_iff.1 hclosed
  have hless := length_of_head? (hhead.trans (of_decide_eq_true hclose)) (reading_suffix hread)
  obtain ⟨t', ht', rfl⟩ := reading_of_behind hu hread hless
  refine ⟨r, depth, t', ht', fun hnil => ⟨?_, ?_⟩⟩
  · refine (reading_behind ht').resolve_right fun hlost => ?_
    have hstate := (Prod.mk.inj (Option.some.inj ((hlost.2 _ hu).symm.trans hread))).2
    have hrest := congrArg Reader.State.rest hstate
    rw [Reader.State.rest_behind, hnil] at hrest
    cases hrest
  · rw [readGroup_anchored hs₁ hnil] at h
    obtain ⟨rfl, rfl⟩ := Prod.mk.inj (Option.some.inj h)
    exact ⟨rfl, rfl⟩

end Gatehouse.Regex

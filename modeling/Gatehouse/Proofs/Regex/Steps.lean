import Gatehouse.Regex.Reader

/-!
# Reading steps and what stands behind

An expression is also read with something behind it: the closing parenthesis of a group, say. A
reading step is local (`Local`) if that makes no difference to it: it does the same with and without,
as long as it stops before what stands behind.

    rest                `ab|c`        a step    `|c`
    rest with more      `ab|c` `)$`   a step    `|c` `)$`

One thing can be different: in a verbose expression a comment goes on to the end of the line, and what
stands behind is lost in it. Steps are local by the rules below, one for each way to put them together;
the rules count as well how many characters a step reads at least.
-/

namespace Gatehouse.Regex.Reader

variable {α β : Type} {m : Read α} {f : α → Read β} {s t : State} {a : α} {b : β} {u : List Char}

/-! ## Steps on states -/

theorem bind_eq_some_iff :
    (m >>= f) s = some (b, t) ↔ ∃ a s', m s = some (a, s') ∧ f a s' = some (b, t) := by
  show (m s).bind (fun (a, s') => f a s') = some (b, t) ↔ _
  simp only [Option.bind_eq_some_iff, Prod.exists]

theorem failure_apply : (failure : Read α) s = none := rfl

theorem get_apply (s : State) : (get : Read State) s = some (s, s) := rfl

theorem bind_apply (h : m s = some (a, t)) : (m >>= f) s = f a t := by
  show (m s).bind (fun (a, s') => f a s') = _
  rw [h]
  rfl

theorem bind_apply_none (h : m s = none) : (m >>= f) s = none := by
  show (m s).bind (fun (a, s') => f a s') = _
  rw [h]
  rfl

/-- Steps that agree on a state may be exchanged there. -/
theorem bind_congr {m' : Read α} {f' : α → Read β} (hm : m s = m' s)
    (hf : ∀ a s', m s = some (a, s') → f a s' = f' a s') : (m >>= f) s = (m' >>= f') s := by
  show (m s).bind (fun (a, s') => f a s') = (m' s).bind (fun (a, s') => f' a s')
  rw [← hm]
  exact Option.bind_congr fun (a, s') h => hf a s' h

theorem need_bind_eq_some_iff {b : Bool} {f : Unit → Read β} {a : β} :
    (need b >>= f) s = some (a, t) ↔ b = true ∧ f () s = some (a, t) := by
  cases b with
  | true => exact ⟨fun h => ⟨rfl, h⟩, fun h => h.2⟩
  | false => exact ⟨nofun, nofun⟩

theorem need_bind_congr {b : Bool} {f f' : Unit → Read β} (h : f () s = f' () s) :
    (need b >>= f) s = (need b >>= f') s := by
  cases b with
  | true => exact h
  | false => rfl

theorem need_bind_eq_none {b : Bool} {f : Unit → Read β} (h : f () s = none) :
    (need b >>= f) s = none := by
  cases b with
  | true => exact h
  | false => rfl

theorem need_bind_map {b : Bool} {f f' : Unit → Read β} {g : β × State → β × State}
    (h : f' () t = (f () s).map g) : (need b >>= f') t = ((need b >>= f) s).map g := by
  cases b with
  | true => exact h
  | false => rfl

/-- The state with more text behind what is left. -/
def State.behind (s : State) (u : List Char) : State := { s with rest := s.rest ++ u }

@[simp]
theorem State.rest_behind : (s.behind u).rest = s.rest ++ u := rfl

/-- What may stand behind an expression. -/
def Closing (u : List Char) : Prop := u = [')'] ∨ u = [')', '$']

theorem Closing.exists_eq_cons (hu : Closing u) : ∃ v, u = ')' :: v := by
  rcases hu with rfl | rfl
  · exact ⟨[], rfl⟩
  · exact ⟨['$'], rfl⟩

theorem Closing.not_mem (hu : Closing u) {c : Char} (hc : c ≠ ')') (hc' : c ≠ '$') : c ∉ u := by
  rcases hu with rfl | rfl <;> simp [hc, hc']

theorem Closing.length_pos (hu : Closing u) : 0 < u.length := by
  rcases hu with rfl | rfl <;> decide

theorem Closing.length_le (hu : Closing u) : u.length ≤ 2 := by
  rcases hu with rfl | rfl <;> decide

/-- A closing is seen by a look ahead only at the end of the text. -/
theorem Closing.head?_append (hu : Closing u) (r : List Char) :
    (r ++ u).head? = r.head? ∨ (r = [] ∧ (r ++ u).head? = some ')') := by
  cases r with
  | nil =>
      obtain ⟨v, rfl⟩ := hu.exists_eq_cons
      exact Or.inr ⟨rfl, rfl⟩
  | cons c r => exact Or.inl rfl

/-- A step from a state with the property `P` does the same with a closing behind, and with it stops
the same number of characters before the end, unless that leaves fewer than `k` characters before the
closing, or the step ends as `E` says. It reads at least `n` characters. -/
structure LocalBut (E : α → State → Prop) (P : State → Prop) (n k : Nat) (m : Read α) : Prop where
  reads : ∀ s a t, m s = some (a, t) →
    t.rest <:+ s.rest ∧ t.rest.length ≤ s.rest.length - n
  forth : ∀ s a t, P s → m s = some (a, t) →
    (∀ u, Closing u → m (s.behind u) = some (a, t.behind u)) ∨
      (t.rest = [] ∧ ∀ u, Closing u → m (s.behind u) = some (a, t))
  back : ∀ s u a t, P s → Closing u → m (s.behind u) = some (a, t) →
    u.length + k ≤ t.rest.length → (∃ t', m s = some (a, t') ∧ t = t'.behind u) ∨ E a t

/-- A step does the same with a closing behind. -/
abbrev Local (P : State → Prop) (n k : Nat) (m : Read α) : Prop :=
  LocalBut (fun _ _ => False) P n k m

abbrev Any : State → Prop := fun _ => True

namespace LocalBut

variable {E : β → State → Prop} {E' : α → State → Prop} {P P' : State → Prop} {Q : α → State → Prop}
  {n i j k l : Nat}

theorem on (h : LocalBut E' P n k m) (hP : ∀ s, P' s → P s) : LocalBut E' P' n k m :=
  ⟨h.reads, fun s a t hs => h.forth s a t (hP s hs), fun s u a t hs => h.back s u a t (hP s hs)⟩

theorem any (h : LocalBut E' Any n k m) : LocalBut E' P n k m :=
  h.on fun _ _ => trivial

theorem weaken (h : LocalBut E' P n k m) : LocalBut E' P 0 k m :=
  ⟨fun s a t hm => ⟨(h.reads s a t hm).1, (h.reads s a t hm).1.length_le⟩, h.forth, h.back⟩

theorem but (h : Local P n k m) : LocalBut E' P n k m :=
  ⟨h.reads, h.forth, fun s u a t hs hu hm hlength =>
    (h.back s u a t hs hu hm hlength).imp_right False.elim⟩

/-- A step that with a closing behind does exactly what it does without. -/
theorem of_behind (hreads : ∀ s a t, m s = some (a, t) →
      t.rest <:+ s.rest ∧ t.rest.length ≤ s.rest.length - n)
    (hbehind : ∀ s u, P s → Closing u →
      m (s.behind u) = (m s).map fun (a, t) => (a, t.behind u)) : LocalBut E' P n k m where
  reads := hreads
  forth := fun s a t hs h => Or.inl fun u hu => by rw [hbehind s u hs hu, h, Option.map_some]
  back := by
    intro s u a t hs hu h _
    rw [hbehind s u hs hu, Option.map_eq_some_iff] at h
    obtain ⟨⟨a', t'⟩, ht', hpair⟩ := h
    obtain ⟨rfl, rfl⟩ := Prod.mk.inj hpair
    exact Or.inl ⟨t', ht', rfl⟩

/-! ### Putting steps together -/

theorem pure (a : α) : LocalBut E' P 0 k (pure a) := by
  refine .of_behind ?_ fun s u _ _ => rfl
  rintro s b t ⟨⟩
  exact ⟨List.suffix_refl _, Nat.le_refl _⟩

theorem failure : LocalBut E' P n k (failure : Read α) := by
  have hnone : ∀ s a t, (Alternative.failure : Read α) s ≠ some (a, t) := by
    intro s a t h
    rw [failure_apply] at h
    cases h
  exact ⟨fun s a t h => absurd h (hnone s a t), fun s a t _ h => absurd h (hnone s a t),
    fun s u a t _ _ h => absurd h (hnone _ a t)⟩

/-- One step after the other. The first may stop nearer to the closing by as many characters as the
second is sure to read. -/
theorem bind_post (hm : LocalBut E' P i l m) (hf : ∀ a, LocalBut E (Q a) j k (f a))
    (hQ : ∀ s a t, P s → m s = some (a, t) → Q a t)
    (hE : ∀ a s b t, E' a s → f a s = some (b, t) → E b t)
    (hn : n ≤ i + j) (hl : l ≤ k + j) : LocalBut E P n k (m >>= f) where
  reads := by
    intro s b t h
    obtain ⟨a, s', hs', ht⟩ := bind_eq_some_iff.1 h
    obtain ⟨hsuffix, hlength⟩ := hm.reads s a s' hs'
    obtain ⟨hsuffix', hlength'⟩ := (hf a).reads s' b t ht
    exact ⟨hsuffix'.trans hsuffix, by omega⟩
  forth := by
    intro s b t hs h
    obtain ⟨a, s', hs', ht⟩ := bind_eq_some_iff.1 h
    rcases hm.forth s a s' hs hs' with hbehind | ⟨hnil, hlost⟩
    · rcases (hf a).forth s' b t (hQ s a s' hs hs') ht with hbehind' | ⟨hnil', hlost'⟩
      · exact Or.inl fun u hu => bind_eq_some_iff.2 ⟨a, _, hbehind u hu, hbehind' u hu⟩
      · exact Or.inr ⟨hnil', fun u hu => bind_eq_some_iff.2 ⟨a, _, hbehind u hu, hlost' u hu⟩⟩
    · -- what stands behind is lost already
      have hsuffix := ((hf a).reads s' b t ht).1
      rw [hnil, List.suffix_nil] at hsuffix
      exact Or.inr ⟨hsuffix, fun u hu => bind_eq_some_iff.2 ⟨a, s', hlost u hu, ht⟩⟩
  back := by
    intro s u b t hs hu h hlength
    obtain ⟨a, s', hs', ht⟩ := bind_eq_some_iff.1 h
    -- the second step reads so much that the first one stops before the closing
    have hless := ((hf a).reads s' b t ht).2
    have hpos := hu.length_pos
    rcases hm.back s u a s' hs hu hs' (by omega) with ⟨s'', hs'', rfl⟩ | hend
    · rcases (hf a).back s'' u b t (hQ s a s'' hs hs'') hu ht hlength with ⟨t', ht', rfl⟩ | hend'
      · exact Or.inl ⟨t', bind_eq_some_iff.2 ⟨a, s'', hs'', ht'⟩, rfl⟩
      · exact Or.inr hend'
    · exact Or.inr (hE a s' b t hend ht)

/-- Two local steps are local together, if the first one leaves what the second one needs. -/
theorem bind_of (hm : Local P i l m) (hf : ∀ a, LocalBut E (Q a) j k (f a))
    (hQ : ∀ s a t, P s → m s = some (a, t) → Q a t) (hn : n ≤ i + j) (hl : l ≤ k + j) :
    LocalBut E P n k (m >>= f) :=
  bind_post hm hf hQ (fun _ _ _ _ h => h.elim) hn hl

/-- An exception of the first step has to be one of the whole. -/
theorem bind_but (hm : LocalBut E' P i k m) (hf : ∀ a, LocalBut E Any 0 k (f a))
    (hE : ∀ a s b t, E' a s → f a s = some (b, t) → E b t) (hn : n ≤ i) :
    LocalBut E P n k (m >>= f) :=
  bind_post hm hf (fun _ _ _ _ _ => trivial) hE hn (Nat.le_refl _)

theorem bind (hm : Local P i k m) (hf : ∀ a, LocalBut E Any 0 k (f a)) (hn : n ≤ i) :
    LocalBut E P n k (m >>= f) :=
  bind_of hm hf (fun _ _ _ _ _ => trivial) hn (Nat.le_refl _)

/-- Where the second step is sure to read something. -/
theorem bind_reads (hm : Local P i (k + 1) m) (hf : ∀ a, LocalBut E Any 1 k (f a)) (hn : n ≤ i + 1) :
    LocalBut E P n k (m >>= f) :=
  bind_of hm hf (fun _ _ _ _ _ => trivial) hn (Nat.le_refl _)

/-- What depends on the state, but not on what stands behind. -/
theorem ofState {f : State → Read β} (hf : ∀ s, LocalBut E (fun t => P t ∧ t = s) n k (f s))
    (hbehind : ∀ s u, P s → Closing u → f (s.behind u) = f s) :
    LocalBut E P n k (get >>= f) where
  reads s := (hf s).reads s
  forth s b t hs h := by
    refine ((hf s).forth s b t ⟨hs, rfl⟩ h).imp (fun hbehind' u hu => ?_)
      (And.imp_right fun hlost u hu => ?_)
    · show f (s.behind u) (s.behind u) = _
      rw [hbehind s u hs hu]
      exact hbehind' u hu
    · show f (s.behind u) (s.behind u) = _
      rw [hbehind s u hs hu]
      exact hlost u hu
  back s u b t hs hu h hlength := by
    have h : f (s.behind u) (s.behind u) = some (b, t) := h
    rw [hbehind s u hs hu] at h
    exact (hf s).back s u b t ⟨hs, rfl⟩ hu h hlength

/-- A step with as much fuel as characters are left is one with more. -/
theorem of_fuel (p : Nat → Read β) {q : Read β} (hp : ∀ N, LocalBut E P n k (p N))
    (hq : ∀ s N, s.rest.length < N → q s = p N s) : LocalBut E P n k q := by
  have hfuel : ∀ (s : State) u, Closing u → q s = p (s.rest.length + 3) s ∧
      q (s.behind u) = p (s.rest.length + 3) (s.behind u) := by
    intro s u hu
    have hlength := hu.length_le
    refine ⟨hq s _ (by omega), hq _ _ ?_⟩
    rw [State.rest_behind, List.length_append]
    omega
  have hself : ∀ s, q s = p (s.rest.length + 3) s := fun s => (hfuel s _ (Or.inl rfl)).1
  refine ⟨fun s b t h => (hp _).reads s b t (hself s ▸ h), fun s b t hs h => ?_,
    fun s u b t hs hu h hlength => ?_⟩
  · rw [hself] at h
    refine ((hp _).forth s b t hs h).imp (fun hbehind u hu => ?_)
      (And.imp_right fun hlost u hu => ?_)
    · exact (hfuel s u hu).2.trans (hbehind u hu)
    · exact (hfuel s u hu).2.trans (hlost u hu)
  · rw [(hfuel s u hu).2] at h
    rw [hself]
    exact (hp _).back s u b t hs hu h hlength

end LocalBut

/-! ## Single steps -/

section Steps

variable {E : β → State → Prop} {E' : α → State → Prop} {P : State → Prop} {n k : Nat}

theorem current_eq_some_iff {c : Char} :
    current s = some (c, t) ↔ s.rest.head? = some c ∧ t = s := by
  obtain ⟨rest, flags, groups, names⟩ := s
  cases rest with
  | nil => exact ⟨nofun, nofun⟩
  | cons d r =>
      show some (d, _) = some (c, t) ↔ some d = some c ∧ t = _
      simp [eq_comm]

theorem current_eq_none (h : s.rest = []) : current s = none := by
  obtain ⟨rest, flags, groups, names⟩ := s
  cases h
  rfl

theorem ne_nil_of_head? {c : Char} (h : s.rest.head? = some c) : s.rest ≠ [] := by
  rintro hnil
  rw [hnil] at h
  cases h

/-- The next character is the same with a closing behind, unless there is none. -/
theorem LocalBut.current {f : Char → Read β}
    (hf : ∀ c, LocalBut E (fun s => P s ∧ s.rest.head? = some c) n k (f c)) (hnk : 1 ≤ n + k) :
    LocalBut E P n k (current >>= f) where
  reads s b t h := by
    obtain ⟨c, s', hc, ht⟩ := bind_eq_some_iff.1 h
    obtain ⟨-, rfl⟩ := current_eq_some_iff.1 hc
    exact (hf c).reads _ b t ht
  forth s b t hs h := by
    obtain ⟨c, s', hc, ht⟩ := bind_eq_some_iff.1 h
    obtain ⟨hhead, rfl⟩ := current_eq_some_iff.1 hc
    have hcur : ∀ u, Reader.current (s'.behind u) = some (c, s'.behind u) :=
      fun u => current_eq_some_iff.2 ⟨by simp [hhead], rfl⟩
    refine ((hf c).forth s' b t ⟨hs, hhead⟩ ht).imp (fun hbehind u hu => ?_)
      (And.imp_right fun hlost u hu => ?_)
    · exact bind_eq_some_iff.2 ⟨c, _, hcur u, hbehind u hu⟩
    · exact bind_eq_some_iff.2 ⟨c, _, hcur u, hlost u hu⟩
  back s u b t hs hu h hlength := by
    obtain ⟨c, s', hc, ht⟩ := bind_eq_some_iff.1 h
    obtain ⟨hhead, rfl⟩ := current_eq_some_iff.1 hc
    rcases hu.head?_append s.rest with hsame | ⟨hnil, -⟩
    · have hhead' : s.rest.head? = some c := hsame.symm.trans hhead
      refine ((hf c).back s u b t ⟨hs, hhead'⟩ hu ht hlength).imp_left ?_
      rintro ⟨t', ht', rfl⟩
      exact ⟨t', bind_eq_some_iff.2 ⟨c, s, current_eq_some_iff.2 ⟨hhead', rfl⟩, ht'⟩, rfl⟩
    · -- the closing would have been read from
      have hless := ((hf c).reads _ b t ht).2
      have hpos := hu.length_pos
      rw [State.rest_behind, hnil, List.nil_append] at hless
      omega

/-- Looking ahead is the same with a closing behind, unless one sees that instead of the end; what is
done with either has to be the same. -/
theorem LocalBut.look (see : State → Option Char) {m : Read (Option Char)} {f : Option Char → Read β}
    (hm : ∀ s, m s = some (see s, s))
    (hsee : ∀ s u, P s → Closing u →
      see (s.behind u) = see s ∨ (see s = none ∧ see (s.behind u) = some ')'))
    (hf : ∀ o, LocalBut E (fun s => P s ∧ see s = o) n k (f o)) (hend : f (some ')') = f none) :
    LocalBut E P n k (m >>= f) := by
  have hself : ∀ s, (m >>= f) s = f (see s) s := by
    intro s
    show (m s).bind (fun (o, s') => f o s') = _
    rw [hm]
    rfl
  have hbehind : ∀ s u, P s → Closing u → (m >>= f) (s.behind u) = f (see s) (s.behind u) := by
    intro s u hs hu
    rw [hself]
    rcases hsee s u hs hu with hsame | ⟨hnone, hclosing⟩
    · rw [hsame]
    · rw [hclosing, hnone, hend]
  refine ⟨fun s b t h => (hf _).reads s b t (hself s ▸ h), fun s b t hs h => ?_,
    fun s u b t hs hu h hlength => ?_⟩
  · rw [hself] at h
    refine ((hf _).forth s b t ⟨hs, rfl⟩ h).imp (fun h u hu => ?_) (And.imp_right fun h u hu => ?_)
    · exact (hbehind s u hs hu).trans (h u hu)
    · exact (hbehind s u hs hu).trans (h u hu)
  · rw [hbehind s u hs hu] at h
    rw [hself]
    exact (hf _).back s u b t ⟨hs, rfl⟩ hu h hlength

/-- A look ahead is harmless if the closing is treated like the end. -/
theorem LocalBut.peek {f : Option Char → Read β}
    (hf : ∀ o, LocalBut E (fun s => P s ∧ s.rest.head? = o) n k (f o)) (hend : f (some ')') = f none) :
    LocalBut E P n k (peek >>= f) := by
  refine .look (fun s => s.rest.head?) (fun _ => rfl) (fun s u _ hu => ?_) hf hend
  refine (hu.head?_append s.rest).imp_right fun h => ⟨?_, h.2⟩
  rw [h.1]
  rfl

/-- The parenthesis that closes a group is not the one behind, where something is read after it. -/
theorem LocalBut.closing {f : Unit → Read β}
    (hf : LocalBut E (fun s => P s ∧ s.rest.head? = some ')') n k (f ())) (hnk : 1 ≤ n + k) :
    LocalBut E P n k (Reader.peek >>= fun o => Reader.need (o = some ')') >>= f) := by
  have heq : (Reader.peek >>= fun o => Reader.need (o = some ')') >>= f) =
      (Reader.current >>= fun c => if c = ')' then f () else Alternative.failure) := by
    funext s
    obtain ⟨rest, flags, groups, names⟩ := s
    cases rest with
    | nil => rfl
    | cons c r =>
        show (Reader.need (some c = some ')') >>= f) _ = (if c = ')' then f () else _) _
        by_cases hc : c = ')'
        · rw [if_pos hc, hc]
          rfl
        · rw [if_neg hc, decide_eq_false (fun h => hc (Option.some.inj h))]
          rfl
  rw [heq]
  refine LocalBut.current (fun c => ?_) hnk
  split
  · next hc => exact hc ▸ hf
  · exact LocalBut.failure

/-- A change of the state is local if it only drops characters, with a closing behind as without. -/
theorem Local.change {g : State → State} (hrest : ∀ s, (g s).rest <:+ s.rest)
    (hbehind : ∀ s u, P s → Closing u → g (s.behind u) = (g s).behind u) :
    Local P 0 k (modify g) := by
  refine .of_behind ?_ fun s u hs hu => congrArg (fun t => some ((), t)) (hbehind s u hs hu)
  rintro s a t ⟨⟩
  exact ⟨hrest s, (hrest s).length_le⟩

theorem LocalBut.need {f : Unit → Read β} {b : Bool} (hf : b = true → LocalBut E P n k (f ())) :
    LocalBut E P n k (need b >>= f) := by
  cases b with
  | true => exact hf rfl
  | false => exact .failure

/-- The text after the next character. -/
theorem drop_behind {u : List Char} (hs : s.rest ≠ []) : (s.rest ++ u).drop 1 = s.rest.drop 1 ++ u := by
  obtain ⟨c, r, hr⟩ := List.exists_cons_of_ne_nil hs
  rw [hr]
  rfl

theorem Local.bump (hP : ∀ s, P s → s.rest ≠ []) : Local P 1 k bump := by
  refine .of_behind ?_ fun s u hs hu => ?_
  · rintro s a t ⟨⟩
    exact ⟨List.drop_suffix 1 s.rest, Nat.le_of_eq List.length_drop⟩
  · show some ((), { s with rest := (s.rest ++ u).drop 1 }) = _
    rw [drop_behind (hP s hs)]
    rfl

/-! ### Blanks and comments -/

theorem dropVerbose_suffix (inComment : Bool) (r : List Char) :
    dropVerbose inComment r <:+ r := by
  fun_induction dropVerbose inComment r with
  | case1 => exact List.suffix_refl _
  | case2 c r ih => exact ih.trans (List.suffix_cons c r)
  | case3 c r _ ih => exact ih.trans (List.suffix_cons c r)
  | case4 r _ ih => exact ih.trans (List.suffix_cons _ r)
  | case5 => exact List.suffix_refl _

/-- Passing over blanks and comments stops at a closing, unless a comment is open. -/
theorem dropVerbose_append (inComment : Bool) (r : List Char) :
    (∀ u, Closing u → dropVerbose inComment (r ++ u) = dropVerbose inComment r ++ u) ∨
      (dropVerbose inComment r = [] ∧ ∀ u, Closing u → dropVerbose inComment (r ++ u) = []) := by
  fun_induction dropVerbose inComment r with
  | case1 inComment =>
      cases inComment with
      | true => exact Or.inr ⟨rfl, by rintro u (rfl | rfl) <;> rfl⟩
      | false => exact Or.inl (by rintro u (rfl | rfl) <;> rfl)
  | case2 c r ih => exact ih
  | case3 c r hblank ih => simpa [dropVerbose, hblank] using ih
  | case4 r hblank ih => simpa [dropVerbose, hblank] using ih
  | case5 c r hblank hcomment =>
      refine Or.inl fun u _ => ?_
      rw [List.cons_append, dropVerbose, if_neg hblank, if_neg hcomment]

/-- What is left after blanks and comments, where they may be passed over. -/
def State.spaced (s : State) : List Char :=
  if s.flags.verbose then dropVerbose false s.rest else s.rest

theorem State.spaced_suffix (s : State) : s.spaced <:+ s.rest := by
  unfold spaced
  split
  · exact dropVerbose_suffix false s.rest
  · exact List.suffix_refl _

/-- Blanks end before a closing, but a comment goes through it. -/
theorem State.spaced_behind (s : State) :
    (∀ u, Closing u → (s.behind u).spaced = s.spaced ++ u) ∨
      (s.spaced = [] ∧ ∀ u, Closing u → (s.behind u).spaced = []) := by
  unfold spaced
  show (∀ u, _ → (if s.flags.verbose = true then dropVerbose false (s.rest ++ u) else s.rest ++ u) =
    _) ∨ _ ∧ ∀ u, _ → (if s.flags.verbose = true then dropVerbose false (s.rest ++ u) else _) = []
  split
  · exact dropVerbose_append false s.rest
  · exact Or.inl fun u _ => rfl

theorem space_apply (s : State) : Reader.space s = some ((), { s with rest := s.spaced }) := by
  show some ((), if s.flags.verbose then { s with rest := dropVerbose false s.rest } else s) = _
  unfold State.spaced
  split <;> rfl

theorem Local.space : Local P 0 k space := by
  refine ⟨fun s a t h => ?_, fun s a t _ h => ?_, fun s u a t _ hu h hlength => ?_⟩
  · rw [space_apply] at h
    cases h
    exact ⟨s.spaced_suffix, s.spaced_suffix.length_le⟩
  · rw [space_apply] at h
    cases h
    rcases s.spaced_behind with hbehind | ⟨hnil, hlost⟩
    · refine Or.inl fun u hu => ?_
      rw [space_apply, hbehind u hu]
      rfl
    · refine Or.inr ⟨hnil, fun u hu => ?_⟩
      rw [space_apply, hlost u hu, hnil]
      rfl
  · rw [space_apply] at h
    cases h
    rcases s.spaced_behind with hbehind | ⟨-, hlost⟩
    · refine Or.inl ⟨_, space_apply s, ?_⟩
      rw [hbehind u hu]
      rfl
    · have hpos := hu.length_pos
      have hnil : (s.behind u).spaced.length = 0 := congrArg List.length (hlost u hu)
      have hlength : u.length + k ≤ (s.behind u).spaced.length := hlength
      omega

theorem Local.bumpSpace (hP : ∀ s, P s → s.rest ≠ []) : Local P 1 k bumpSpace :=
  .bind (Local.bump hP) (fun _ => Local.space) (Nat.le_refl _)

/-- Past a character that has been seen. -/
theorem Local.bumpNext {c : Char} :
    Local (fun s => P s ∧ s.rest.head? = some c) 1 k Reader.bump :=
  .bump fun _ hs => ne_nil_of_head? hs.2

theorem Local.bumpSpaceNext {c : Char} :
    Local (fun s => P s ∧ s.rest.head? = some c) 1 k Reader.bumpSpace :=
  .bumpSpace fun _ hs => ne_nil_of_head? hs.2

/-- What is left after the next character and what may be passed over then. -/
def State.beyond (s : State) : List Char := { s with rest := s.rest.drop 1 : State }.spaced

theorem bumpSpace_apply (s : State) :
    Reader.bumpSpace s = some ((), { s with rest := s.beyond }) :=
  space_apply { s with rest := s.rest.drop 1 }

/-- Beyond the next character, too, blanks end before a closing and a comment goes through it. -/
theorem State.beyond_behind (hs : s.rest ≠ []) :
    (∀ u, Closing u → (s.behind u).beyond = s.beyond ++ u) ∨
      (s.beyond = [] ∧ ∀ u, Closing u → (s.behind u).beyond = []) := by
  have hdrop : ∀ u, (s.behind u).beyond =
      (({ s with rest := s.rest.drop 1 } : State).behind u).spaced := fun u =>
    congrArg (fun r => ({ s with rest := r } : State).spaced) (drop_behind hs)
  simp only [hdrop]
  exact State.spaced_behind _

/-- The character after the next one. -/
theorem LocalBut.second {f : Option Char → Read β} (hP : ∀ s, P s → s.rest ≠ [])
    (hf : ∀ o, LocalBut E (fun s => P s ∧ (s.rest.drop 1).head? = o) n k (f o))
    (hend : f (some ')') = f none) :
    LocalBut E P n k (MonadState.get >>= fun s : State => f (s.rest.drop 1).head?) := by
  refine .look (m := fun s => some ((s.rest.drop 1).head?, s)) (fun s => (s.rest.drop 1).head?)
    (fun _ => rfl) (fun s u hs hu => ?_) hf hend
  show ((s.rest ++ u).drop 1).head? = _ ∨ _ ∧ ((s.rest ++ u).drop 1).head? = _
  rw [drop_behind (hP s hs)]
  refine (hu.head?_append (s.rest.drop 1)).imp_right fun h => ⟨?_, h.2⟩
  rw [h.1]
  rfl

theorem LocalBut.peekBeyond {f : Option Char → Read β} (hP : ∀ s, P s → s.rest ≠ [])
    (hf : ∀ o, LocalBut E P n k (f o)) (hend : f (some ')') = f none) :
    LocalBut E P n k (peekBeyond >>= f) := by
  refine .look (fun s => s.beyond.head?) (fun _ => rfl) (fun s u hs hu => ?_)
    (fun o => (hf o).on fun s h => h.1) hend
  rcases State.beyond_behind (hP s hs) with hbehind | ⟨hnil, hlost⟩
  · rw [hbehind u hu]
    refine (hu.head?_append _).imp_right fun h => ⟨?_, h.2⟩
    rw [h.1]
    rfl
  · rw [hnil, hlost u hu]
    exact Or.inl rfl

/-! ### What is left -/

/-- A step never gives back what was read. -/
theorem Local.length_le (h : Local Any n 1 m) (hm : m s = some (a, t)) :
    t.rest.length ≤ s.rest.length - n :=
  (h.reads s a t hm).2

theorem Local.length_lt (h : Local (fun s => s.rest ≠ []) 1 1 m) (hs : s.rest ≠ [])
    (hm : m s = some (a, t)) : t.rest.length < s.rest.length := by
  have hless := (h.reads s a t hm).2
  have hpos := List.length_pos_iff.2 hs
  omega

theorem bump_lt {a : Unit} (hs : s.rest ≠ []) (h : Reader.bump s = some (a, t)) :
    t.rest.length < s.rest.length :=
  Local.length_lt (.bump fun _ h => h) hs h

theorem bumpSpace_lt {a : Unit} (hs : s.rest ≠ []) (h : Reader.bumpSpace s = some (a, t)) :
    t.rest.length < s.rest.length :=
  Local.length_lt (.bumpSpace fun _ h => h) hs h

/-! ### Texts that stand next -/

theorem Closing.after?_append (hu : Closing u) {lead : List Char} (hlead : ')' ∉ lead)
    (r : List Char) : Text.after? lead (r ++ u) = (Text.after? lead r).map (· ++ u) := by
  induction lead generalizing r with
  | nil => rfl
  | cons a lead ih =>
      obtain ⟨ha, hlead⟩ := List.ne_and_not_mem_of_not_mem_cons hlead
      cases r with
      | nil =>
          obtain ⟨v, rfl⟩ := hu.exists_eq_cons
          exact if_neg (Ne.symm ha)
      | cons b r =>
          simp only [List.cons_append, Text.after?]
          split
          · exact ih hlead r
          · rfl

theorem Closing.isPrefixOf_append (hu : Closing u) {lead : List Char} (hlead : ')' ∉ lead)
    (r : List Char) : lead.isPrefixOf (r ++ u) = lead.isPrefixOf r := by
  induction lead generalizing r with
  | nil => rfl
  | cons a lead ih =>
      obtain ⟨ha, hlead⟩ := List.ne_and_not_mem_of_not_mem_cons hlead
      cases r with
      | nil =>
          obtain ⟨v, rfl⟩ := hu.exists_eq_cons
          simp [List.isPrefixOf, Ne.symm ha]
      | cons b r => simp [List.isPrefixOf, ih hlead]

theorem Closing.cut?_append (hu : Closing u) {c : Char} (hc : c ≠ ')') (hc' : c ≠ '$')
    (r : List Char) : Text.cut? c (r ++ u) = (Text.cut? c r).map fun (a, b) => (a, b ++ u) := by
  cases hcut : Text.cut? c r with
  | none =>
      have hr := Text.cut?_eq_none_iff.1 hcut
      exact Text.cut?_eq_none_iff.2 (by simp [hr, hu.not_mem hc hc'])
  | some found =>
      obtain ⟨a, b⟩ := found
      obtain ⟨rfl, ha⟩ := Text.cut?_eq_some hcut
      rw [List.append_assoc]
      exact Text.cut?_append ha (b ++ u)

theorem bumpIf_apply (lead : List Char) (s : State) : Reader.bumpIf lead s =
    match Text.after? lead s.rest with
    | some r => some (true, { s with rest := r })
    | none => some (false, s) := by
  have hstep : Reader.bumpIf lead s = (match Text.after? lead s.rest with
    | some r => do modify fun s => { s with rest := r }; return true
    | none => return false : Read Bool) s := rfl
  rw [hstep]
  cases Text.after? lead s.rest <;> rfl

/-- A text without a bracket is passed over alike with a closing behind. -/
theorem Local.bumpIf {lead : List Char} (hlead : ')' ∉ lead) : Local P 0 k (bumpIf lead) := by
  refine .of_behind (fun s a t h => ?_) fun s u _ hu => ?_
  · rw [bumpIf_apply] at h
    cases hafter : Text.after? lead s.rest with
    | none =>
        rw [hafter] at h
        cases h
        exact ⟨List.suffix_refl _, Nat.le_refl _⟩
    | some r =>
        rw [hafter] at h
        cases h
        have hsuffix : r <:+ s.rest := ⟨lead, (Text.after?_eq_some_iff.1 hafter).symm⟩
        exact ⟨hsuffix, hsuffix.length_le⟩
  · rw [bumpIf_apply, bumpIf_apply, State.rest_behind, hu.after?_append hlead]
    cases Text.after? lead s.rest <;> rfl

end Steps

end Gatehouse.Regex.Reader

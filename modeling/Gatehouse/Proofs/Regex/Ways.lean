import Gatehouse.Proofs.Regex.Language

/-!
# What the search finds

The search finds one way to each spot that an expression takes one to, and no others (`follows_run`),
though it leaves out rounds that read nothing and never comes to a spot twice. So an expression
matches a text exactly if it takes one from some spot of it to another (`isMatch_iff`).
-/

namespace Gatehouse.Regex

variable {s t u : Spot} {w : Way} {ws : List Way}

/-! ## Steps of the search -/

/-- One of the ways is at the spot. -/
def Arrives (ws : List Way) (t : Spot) : Prop := ∃ w ∈ ws, w.spot = t

/-- The ways of a step lead where a relation says, and only onwards. -/
structure Follows (step : Way → List Way) (R : Spot → Spot → Prop) : Prop where
  arrives : ∀ w t, Arrives (step w) t ↔ R w.spot t
  onward : ∀ s t, R s t → Onward s t

/-- A way is kept if it is the first one to its spot. -/
def keepFirst (found : List Nat × List Way) (w : Way) : List Nat × List Way :=
  if found.1.contains w.left then found else (w.left :: found.1, w :: found.2)

/-- The first way to each spot is kept by going through the ways once. -/
theorem distinct_eq (ws : List Way) :
    Way.distinct ws = (ws.foldl keepFirst ([], [])).2.reverse := rfl

theorem mem_keepFirst {found : List Nat × List Way} {v : Way} :
    v ∈ (keepFirst found w).2 → v ∈ found.2 ∨ v = w := by
  unfold keepFirst
  split
  · exact Or.inl
  · exact fun h => (List.mem_cons.1 h).symm

theorem left_mem_keepFirst {found : List Nat × List Way} {l : Nat} :
    l ∈ (keepFirst found w).1 ↔ l ∈ found.1 ∨ l = w.left := by
  unfold keepFirst
  split
  · next hw =>
    refine ⟨Or.inl, fun h => h.elim id ?_⟩
    rintro rfl
    exact List.contains_iff_mem.1 hw
  · exact List.mem_cons.trans Or.comm

theorem exists_mem_keepFirst {found : List Nat × List Way}
    (hfound : ∀ l ∈ found.1, ∃ v ∈ found.2, v.left = l) :
    ∀ l ∈ (keepFirst found w).1, ∃ v ∈ (keepFirst found w).2, v.left = l := by
  intro l hl
  unfold keepFirst at hl ⊢
  split at hl
  · next hw =>
    rw [if_pos hw]
    exact hfound l hl
  · next hw =>
    rw [if_neg hw]
    rcases List.mem_cons.1 hl with rfl | hl
    · exact ⟨w, List.mem_cons_self, rfl⟩
    · obtain ⟨v, hv, hleft⟩ := hfound l hl
      exact ⟨v, List.mem_cons_of_mem w hv, hleft⟩

theorem mem_of_mem_foldl_keepFirst {found : List Nat × List Way}
    (h : w ∈ (ws.foldl keepFirst found).2) : w ∈ found.2 ∨ w ∈ ws := by
  induction ws generalizing found with
  | nil => exact Or.inl h
  | cons v ws ih =>
      rcases ih h with hfound | hws
      · rcases mem_keepFirst hfound with hfound | rfl
        · exact Or.inl hfound
        · exact Or.inr List.mem_cons_self
      · exact Or.inr (List.mem_cons_of_mem v hws)

/-- Each spot that is reached is still reached by a way that was kept. -/
theorem exists_mem_foldl_keepFirst {found : List Nat × List Way}
    (hfound : ∀ l ∈ found.1, ∃ v ∈ found.2, v.left = l)
    (hw : w.left ∈ found.1 ∨ w ∈ ws) : ∃ v ∈ (ws.foldl keepFirst found).2, v.left = w.left := by
  induction ws generalizing found with
  | nil => exact hfound _ (hw.resolve_right List.not_mem_nil)
  | cons v ws ih =>
      refine ih (exists_mem_keepFirst hfound) ?_
      rw [left_mem_keepFirst, or_assoc]
      exact hw.imp_right fun hw => (List.mem_cons.1 hw).imp_left (congrArg Way.left)

/-- Of ways in one text, the first to each spot arrive where all of them do. -/
theorem arrives_distinct {text : List Char} (htext : ∀ w ∈ ws, w.spot.text = text) :
    Arrives (Way.distinct ws) t ↔ Arrives ws t := by
  have hsub : ∀ w ∈ (ws.foldl keepFirst ([], [])).2, w ∈ ws :=
    fun w hw => (mem_of_mem_foldl_keepFirst hw).resolve_left List.not_mem_nil
  simp only [Arrives, distinct_eq, List.mem_reverse]
  constructor
  · rintro ⟨w, hw, rfl⟩
    exact ⟨w, hsub w hw, rfl⟩
  · rintro ⟨w, hw, rfl⟩
    obtain ⟨v, hv, hleft⟩ : ∃ v ∈ (ws.foldl keepFirst ([], [])).2, v.left = w.left :=
      exists_mem_foldl_keepFirst nofun (Or.inr hw)
    exact ⟨v, hv, Spot.eq_of_left ((htext v (hsub v hv)).trans (htext w hw).symm) hleft⟩

namespace Follows

variable {f g : Way → List Way} {R S : Spot → Spot → Prop} {greedy : Bool}

theorem congr (h : Follows f R) (hRS : ∀ s t, R s t ↔ S s t) : Follows f S :=
  ⟨fun w t => (h.arrives w t).trans (hRS _ _), fun s t hst => h.onward s t ((hRS s t).2 hst)⟩

theorem of_mem (h : Follows f R) {v : Way} (hv : v ∈ f w) : R w.spot v.spot :=
  (h.arrives w v.spot).1 ⟨v, hv, rfl⟩

/-- Staying where one is. -/
theorem stay : Follows (fun w => [w]) fun s t => t = s :=
  ⟨fun w t => by simp [Arrives, eq_comm], fun s _ h => h ▸ Onward.refl s⟩

/-- Two sets of ways follow either relation. -/
theorem append (hf : Follows f R) (hg : Follows g S) :
    Follows (fun w => f w ++ g w) fun s t => R s t ∨ S s t where
  arrives w t := by
    simp only [← hf.arrives, ← hg.arrives, Arrives, List.mem_append, or_and_right, exists_or]
  onward s t h := h.elim (hf.onward s t) (hg.onward s t)

/-- Ways after ways follow one relation after the other. -/
theorem flatMap (hf : Follows f R) (hg : Follows g S) :
    Follows (fun w => (f w).flatMap g) fun s t => ∃ u, R s u ∧ S u t where
  arrives w t := by
    simp only [Arrives, List.mem_flatMap]
    constructor
    · rintro ⟨v, ⟨u, hu, hv⟩, rfl⟩
      exact ⟨u.spot, hf.of_mem hu, hg.of_mem hv⟩
    · rintro ⟨_, hs, ht⟩
      obtain ⟨u, hu, rfl⟩ := (hf.arrives w _).2 hs
      obtain ⟨v, hv, rfl⟩ := (hg.arrives u t).2 ht
      exact ⟨v, ⟨u, hu, hv⟩, rfl⟩
  onward s t h := by
    obtain ⟨u, hu, ht⟩ := h
    exact (hf.onward s u hu).trans (hg.onward u t ht)

/-- To keep the first way to each spot leaves out no spot. -/
theorem distinct (hf : Follows f R) : Follows (fun w => Way.distinct (f w)) R where
  arrives w t := by
    rw [← hf.arrives]
    exact arrives_distinct fun v hv => (hf.onward _ _ (hf.of_mem hv)).1
  onward := hf.onward

theorem times (hf : Follows f R) (n : Nat) : Follows (times f n) (Rounds R n) := by
  induction n with
  | zero => exact stay
  | succ n ih => exact (ih.flatMap hf).distinct

/-- Some rounds, at most so many. -/
theorem atMost (hf : Follows f R) (n : Nat) :
    Follows (atMost f greedy n) fun s t => ∃ m ≤ n, Rounds R m s t := by
  induction n with
  | zero => exact stay.congr fun s t => by simp [Rounds]
  | succ n ih =>
      have hmore : ∀ s t, (∃ m ≤ n + 1, Rounds R m s t) ↔
          (∃ u, R s u ∧ ∃ m ≤ n, Rounds R m u t) ∨ t = s := by
        intro s t
        constructor
        · rintro ⟨m, hm, h⟩
          cases m with
          | zero => exact Or.inr h
          | succ m =>
              obtain ⟨u, hu, ht⟩ := rounds_succ.1 h
              exact Or.inl ⟨u, hu, m, Nat.le_of_succ_le_succ hm, ht⟩
        · rintro (⟨u, hu, m, hm, ht⟩ | rfl)
          · exact ⟨m + 1, Nat.succ_le_succ hm, rounds_succ.2 ⟨u, hu, ht⟩⟩
          · exact ⟨0, Nat.zero_le _, rfl⟩
      cases greedy with
      | true =>
          exact ((hf.flatMap ih).append stay).distinct.congr fun s t => (hmore s t).symm
      | false =>
          exact (stay.append (hf.flatMap ih)).distinct.congr fun s t =>
            or_comm.trans (hmore s t).symm

end Follows

/-! ### Rounds without end -/

section Rounds

variable {step : Way → List Way} {R : Spot → Spot → Prop} {greedy : Bool}

/-- Whatever the seen spots of a text lead to is seen, as far as fewer characters than a bound are
left. -/
def Closed (R : Spot → Spot → Prop) (text : List Char) (bound : Nat) (seen : List Nat) : Prop :=
  ∀ s t : Spot, s.text = text → s.left ∈ seen → s.left < bound → Gains R s t → t.left ∈ seen

/-- What the search from some ways adds to what was found before. -/
structure Explored (R : Spot → Spot → Prop) (ws : List Way) (found found' : List Nat × List Way) :
    Prop where
  added : ∃ new, found'.2 = new ++ found.2 ∧
    (∀ v ∈ new, ∃ w ∈ ws, Relation.ReflTransGen (Gains R) w.spot v.spot) ∧
    ∀ l, l ∈ found'.1 ↔ l ∈ found.1 ∨ ∃ v ∈ new, v.left = l
  started : ∀ w ∈ ws, w.left ∈ found'.1
  closed : ∀ text bound, (∀ w ∈ ws, w.spot.text = text ∧ w.left < bound) →
    Closed R text bound found.1 → Closed R text bound found'.1

theorem Explored.nil (found : List Nat × List Way) : Explored R [] found found where
  added := ⟨[], rfl, nofun, by simp⟩
  started := nofun
  closed _ _ _ h := h

theorem Explored.cons {found found' found'' : List Nat × List Way}
    (hw : Explored R [w] found found') (hws : Explored R ws found' found'') :
    Explored R (w :: ws) found found'' := by
  obtain ⟨new, hnew, hreach, hseen⟩ := hw.added
  obtain ⟨new', hnew', hreach', hseen'⟩ := hws.added
  refine ⟨⟨new' ++ new, by rw [hnew', hnew, List.append_assoc], fun v hv => ?_, fun l => ?_⟩, ?_, ?_⟩
  · rcases List.mem_append.1 hv with hv | hv
    · obtain ⟨u, hu, huv⟩ := hreach' v hv
      exact ⟨u, List.mem_cons_of_mem w hu, huv⟩
    · obtain ⟨u, hu, huv⟩ := hreach v hv
      exact ⟨u, List.mem_cons.2 (Or.inl (List.mem_singleton.1 hu)), huv⟩
  · simp only [hseen', hseen, List.mem_append, or_and_right, exists_or]
    rw [or_assoc, or_comm (a := ∃ v, v ∈ new ∧ _)]
  · intro v hv
    rcases List.mem_cons.1 hv with rfl | hv
    · exact (hseen' _).2 (Or.inl (hw.started v (List.mem_singleton_self v)))
    · exact hws.started v hv
  · intro text bound htext hclosed
    refine hws.closed text bound (fun v hv => htext v (List.mem_cons_of_mem w hv))
      (hw.closed text bound (fun v hv => ?_) hclosed)
    rw [List.mem_singleton.1 hv]
    exact htext w List.mem_cons_self

theorem left_le_of_gains (h : Relation.ReflTransGen (Gains R) s t) : t.left ≤ s.left := by
  induction h with
  | refl => exact Nat.le_refl _
  | tail _ ht ih => exact Nat.le_trans (Nat.le_of_lt ht.2) ih

/-- A spot that is new is explored by exploring where it leads to; it is itself found before or
after. -/
theorem Explored.visit (h : Follows step R) {found found' : List Nat × List Way} {a b : List Way}
    (hab : ∀ v, v = w ↔ v ∈ a ∨ v ∈ b)
    (hfurther : Explored R ((step w).filter fun v => v.left < w.left)
      (w.left :: found.1, a ++ found.2) found') :
    Explored R [w] found (found'.1, b ++ found'.2) := by
  obtain ⟨new, hnew, hreach, hseen⟩ := hfurther.added
  have hgains : ∀ v ∈ (step w).filter fun v => v.left < w.left, Gains R w.spot v.spot := by
    intro v hv
    obtain ⟨hv, hleft⟩ := List.mem_filter.1 hv
    exact ⟨h.of_mem hv, of_decide_eq_true hleft⟩
  have hleft : ∀ v ∈ new, v.left < w.left := by
    intro v hv
    obtain ⟨u, hu, huv⟩ := hreach v hv
    exact Nat.lt_of_le_of_lt (left_le_of_gains huv) (hgains u hu).2
  have hmem : ∀ v, v ∈ b ++ (new ++ a) ↔ v = w ∨ v ∈ new := by
    intro v
    rw [hab, List.mem_append, List.mem_append, or_comm, or_assoc, or_comm]
  -- added: the spot itself and what its steps lead to
  refine ⟨⟨b ++ (new ++ a), by simp [hnew], fun v hv => ⟨w, List.mem_singleton_self w, ?_⟩,
    fun l => ?_⟩, ?_, ?_⟩
  · rcases (hmem v).1 hv with rfl | hv
    · exact .refl
    · obtain ⟨u, hu, huv⟩ := hreach v hv
      exact .head (hgains u hu) huv
  · simp only [hseen, hmem, List.mem_cons, or_and_right, exists_or, exists_eq_left, or_assoc,
      eq_comm (a := l)]
    exact or_left_comm
  · intro v hv
    rw [List.mem_singleton.1 hv]
    exact (hseen _).2 (Or.inl List.mem_cons_self)
  · intro text bound htext hclosed s t hs hsleft hbound hst
    obtain ⟨hw, hwbound⟩ := htext w (List.mem_singleton_self w)
    -- a spot that was seen is this one, or was seen before, or is new and farther on
    rcases (hseen _).1 hsleft with hsleft | ⟨v, hv, hvleft⟩
    · rcases List.mem_cons.1 hsleft with hsleft | hsleft
      · obtain rfl := Spot.eq_of_left (hs.trans hw.symm) hsleft
        obtain ⟨v, hv, rfl⟩ := (h.arrives w t).2 hst.1
        exact hfurther.started v (List.mem_filter.2 ⟨hv, decide_eq_true hst.2⟩)
      · exact (hseen _).2 (Or.inl (List.mem_cons_of_mem _ (hclosed s t hs hsleft hbound hst)))
    · have hslt : s.left < w.left := hvleft ▸ hleft v hv
      refine hfurther.closed text w.left (fun v hv => ⟨?_, (hgains v hv).2⟩) ?_ s t hs hsleft hslt hst
      · exact ((h.onward _ _ (hgains v hv).1).1).trans hw
      · intro s t hs hsleft hslt hst
        have hfound := (List.mem_cons.1 hsleft).resolve_left (Nat.ne_of_lt hslt)
        exact List.mem_cons_of_mem _ (hclosed s t hs hfound (Nat.lt_trans hslt hwbound) hst)

/-- By induction on the fuel: all spots that rounds lead to are explored. -/
theorem explored_rounds (h : Follows step R) {fuel : Nat} (hfuel : w.left < fuel)
    (found : List Nat × List Way) : Explored R [w] found (rounds step greedy fuel found w) := by
  induction fuel generalizing w found with
  | zero => exact absurd hfuel (Nat.not_lt_zero _)
  | succ fuel ih =>
      -- the ways that a way leads to are explored one after the other
      have hfold : ∀ (vs : List Way) (found : List Nat × List Way), (∀ v ∈ vs, v.left < fuel) →
          Explored R vs found (vs.foldl (rounds step greedy fuel) found) := by
        intro vs
        induction vs with
        | nil => exact fun found _ => .nil found
        | cons v vs ihvs =>
            intro found hvs
            exact (ih (hvs v List.mem_cons_self) found).cons
              (ihvs _ fun u hu => hvs u (List.mem_cons_of_mem v hu))
      have hless : ∀ v ∈ (step w).filter fun v => v.left < w.left, v.left < fuel := fun v hv =>
        Nat.lt_of_lt_of_le (of_decide_eq_true (List.mem_filter.1 hv).2) (Nat.le_of_lt_succ hfuel)
      obtain ⟨seen, out⟩ := found
      rw [rounds]
      by_cases hw : w.left ∈ seen
      · rw [if_pos (List.contains_iff_mem.2 hw)]
        refine ⟨⟨[], rfl, nofun, by simp⟩, fun v hv => ?_, fun _ _ _ h => h⟩
        rw [List.mem_singleton.1 hv]
        exact hw
      · rw [if_neg fun hseen => hw (List.contains_iff_mem.1 hseen)]
        cases greedy with
        | true => exact .visit h (a := []) (b := [w]) (by simp) (hfold _ (w.left :: seen, out) hless)
        | false =>
            exact .visit h (a := [w]) (b := []) (by simp) (hfold _ (w.left :: seen, w :: out) hless)

theorem onward_of_gains (h : Follows step R) (hst : Relation.ReflTransGen (Gains R) s t) :
    Onward s t := by
  induction hst with
  | refl => exact Onward.refl s
  | tail _ ht ih => exact ih.trans (h.onward _ _ ht.1)

/-- The search without end comes to all that rounds that read something lead to. -/
theorem follows_anyRounds (h : Follows step R) :
    Follows (anyRounds step greedy) (Relation.ReflTransGen (Gains R)) where
  onward s t hst := onward_of_gains h hst
  arrives w t := by
    have hexplored : Explored R [w] ([], []) (rounds step greedy (w.left + 1) ([], []) w) :=
      explored_rounds h (Nat.lt_succ_self w.left) ([], [])
    obtain ⟨new, hnew, hreach, hseen⟩ := hexplored.added
    simp only [Arrives, anyRounds, List.mem_reverse, hnew, List.append_nil]
    constructor
    · rintro ⟨v, hv, rfl⟩
      obtain ⟨u, hu, huv⟩ := hreach v hv
      rwa [List.mem_singleton.1 hu] at huv
    · intro hst
      have hclosed := hexplored.closed w.spot.text (w.left + 1)
        (fun v hv => List.mem_singleton.1 hv ▸ ⟨rfl, Nat.lt_succ_self _⟩) nofun
      -- along the rounds every spot is seen
      have hleft : t.left ∈ (rounds step greedy (w.left + 1) ([], []) w).1 := by
        induction hst with
        | refl => exact hexplored.started w (List.mem_singleton_self w)
        | tail hsu hut ih =>
            exact hclosed _ _ (onward_of_gains h hsu).1 ih
              (Nat.lt_succ_of_le (left_le_of_gains hsu)) hut
      obtain ⟨v, hv, hvleft⟩ := ((hseen _).1 hleft).resolve_left List.not_mem_nil
      obtain ⟨u, hu, huv⟩ := hreach v hv
      rw [List.mem_singleton.1 hu] at huv
      have htext := (onward_of_gains h huv).1.trans (onward_of_gains h hst).1.symm
      exact ⟨v, hv, Spot.eq_of_left htext hvleft⟩

/-- At least one round, then as many as there are. -/
theorem follows_someRounds (h : Follows step R) :
    Follows (someRounds step greedy) fun s t => ∃ n, Rounds R (n + 1) s t where
  onward s t hst := by
    obtain ⟨n, hst⟩ := hst
    exact onward_of_rounds h.onward hst
  arrives w t := by
    have hany : Follows (anyRounds step greedy) (Relation.ReflTransGen (Gains R)) :=
      follows_anyRounds h
    rw [exists_rounds_succ_iff h.onward]
    simp only [someRounds, Arrives, List.mem_flatMap, afterRound]
    constructor
    · rintro ⟨v, ⟨u, hu, hv⟩, rfl⟩
      have hround := h.of_mem hu
      split at hv
      · next hleft =>
        rw [List.mem_singleton.1 hv]
        have huw := Spot.eq_of_left (h.onward _ _ hround).1 hleft
        exact Or.inl ⟨huw ▸ hround, huw⟩
      · next hleft =>
        have hgains : Gains R w.spot u.spot :=
          ⟨hround, Nat.lt_of_le_of_ne (h.onward _ _ hround).2 hleft⟩
        exact Or.inr ⟨u.spot, hgains, hany.of_mem hv⟩
    · rintro (⟨hround, rfl⟩ | ⟨_, ⟨hround, hleft⟩, hmore⟩)
      · obtain ⟨u, hu, huw⟩ := (h.arrives w _).2 hround
        refine ⟨u, ⟨u, hu, ?_⟩, huw⟩
        rw [if_pos (show u.left = w.left from congrArg Spot.left huw)]
        exact List.mem_singleton_self u
      · obtain ⟨u, hu, rfl⟩ := (h.arrives w _).2 hround
        obtain ⟨v, hv, rfl⟩ := (hany.arrives u t).2 hmore
        refine ⟨v, ⟨u, hu, ?_⟩, rfl⟩
        rwa [if_neg (show u.left ≠ w.left from Nat.ne_of_lt hleft)]

/-- A repetition with an upper bound. -/
theorem follows_bounded (h : Follows step R) (least m : Nat) :
    Follows (fun w => Way.distinct ((times step least w).flatMap (atMost step greedy (m - least))))
      fun s t => ∃ n, least ≤ n ∧ n ≤ max least m ∧ Rounds R n s t := by
  refine ((h.times least).flatMap (h.atMost (m - least))).distinct.congr fun s t => ?_
  constructor
  · rintro ⟨u, hu, k, hk, ht⟩
    exact ⟨least + k, by omega, by omega, rounds_add.2 ⟨u, hu, ht⟩⟩
  · rintro ⟨n, hleast, hmost, h⟩
    obtain ⟨k, rfl⟩ := Nat.exists_eq_add_of_le hleast
    obtain ⟨u, hu, ht⟩ := rounds_add.1 h
    exact ⟨u, hu, k, by omega, ht⟩

/-- A repetition without one: the last round asked for is the first of those without end. -/
theorem follows_unbounded (h : Follows step R) (least : Nat) :
    Follows (fun w =>
      if least = 0 then
        Way.distinct (if greedy then someRounds step greedy w ++ [w] else w :: someRounds step greedy w)
      else Way.distinct ((times step (least - 1) w).flatMap (someRounds step greedy)))
      fun s t => ∃ n, least ≤ n ∧ Rounds R n s t := by
  have hsome : Follows (someRounds step greedy) fun s t => ∃ n, Rounds R (n + 1) s t :=
    follows_someRounds h
  -- without a round to make, staying is one way more
  cases least with
  | zero =>
      have hany : ∀ s t, (∃ n, Rounds R (n + 1) s t) ∨ t = s ↔ ∃ n, 0 ≤ n ∧ Rounds R n s t := by
        intro s t
        constructor
        · rintro (⟨n, h⟩ | h)
          · exact ⟨n + 1, Nat.zero_le _, h⟩
          · exact ⟨0, Nat.le_refl _, h⟩
        · rintro ⟨n, -, h⟩
          cases n with
          | zero => exact Or.inr h
          | succ n => exact Or.inl ⟨n, h⟩
      cases greedy with
      | true => exact (hsome.append .stay).distinct.congr hany
      | false => exact (Follows.stay.append hsome).distinct.congr fun s t => or_comm.trans (hany s t)
  | succ least =>
      refine ((h.times least).flatMap hsome).distinct.congr fun s t => ?_
      constructor
      · rintro ⟨u, hu, n, ht⟩
        exact ⟨least + (n + 1), by omega, rounds_add.2 ⟨u, hu, ht⟩⟩
      · rintro ⟨n, hleast, h⟩
        obtain ⟨k, rfl⟩ := Nat.exists_eq_add_of_le hleast
        rw [show least + 1 + k = least + (k + 1) by omega] at h
        obtain ⟨u, hu, ht⟩ := rounds_add.1 h
        exact ⟨u, hu, k, ht⟩

end Rounds

/-- **The search finds the language**: a way to each spot that the expression can take one to, and no
other way. -/
theorem follows_run (r : Regex) : Follows (run r) (Takes r) := by
  induction r with
  | empty => exact .stay
  | chars set =>
      refine ⟨fun w t => ?_, fun s t => onward_of_takes⟩
      obtain ⟨⟨b, a⟩, groups⟩ := w
      cases a with
      | nil => simp [run, Arrives, Takes]
      | cons c r =>
          by_cases hc : set.contains c = true
          · simp only [run, if_pos hc, Takes, Arrives, List.mem_singleton, exists_eq_left]
            constructor
            · rintro rfl
              exact ⟨b, c, r, hc, rfl, rfl⟩
            · rintro ⟨_, _, _, -, hs, rfl⟩
              cases hs
              rfl
          · simp only [run, if_neg hc, Takes, Arrives, List.not_mem_nil, false_and, exists_false,
              false_iff]
            rintro ⟨_, _, _, hset, hs, -⟩
            cases hs
            exact hc hset
  | place p =>
      refine ⟨fun w t => ?_, fun s t => onward_of_takes⟩
      rw [run, Takes]
      split
      · next hp => simp [Arrives, hp, eq_comm]
      · next hp => simp [Arrives, hp]
  | seq a b iha ihb => exact (iha.flatMap ihb).distinct
  | alt a b iha ihb => exact (iha.append ihb).distinct
  | group index r ih =>
      refine ⟨fun w t => ?_, ih.onward⟩
      -- what a group has read plays no part
      rw [Takes, ← ih.arrives]
      constructor
      · rintro ⟨_, hclose, rfl⟩
        obtain ⟨v, hv, rfl⟩ := List.mem_map.1 hclose
        exact ⟨v, hv, rfl⟩
      · rintro ⟨v, hv, rfl⟩
        exact ⟨Way.close index w v, List.mem_map_of_mem hv, rfl⟩
  | repeated least most greedy r ih =>
      cases most with
      | some m => exact (follows_bounded ih least m).congr fun s t => by simp [Takes]
      | none => exact (follows_unbounded ih least).congr fun s t => by simp [Takes]

/-! ## Matching -/

theorem mem_onwards {b a : List Char} : s ∈ Spot.onwards b a ↔ Onward ⟨b, a⟩ s := by
  induction a generalizing b with
  | nil =>
      rw [Spot.onwards, List.mem_singleton]
      constructor
      · rintro rfl
        exact Onward.refl _
      · rintro ⟨htext, hleft⟩
        exact Spot.eq_of_left htext (Nat.le_antisymm hleft (Nat.zero_le _))
  | cons c r ih =>
      have hnext : Onward ⟨b, c :: r⟩ ⟨c :: b, r⟩ := ⟨by simp [Spot.text], Nat.le_succ _⟩
      rw [Spot.onwards, List.mem_cons, ih]
      constructor
      · rintro (rfl | h)
        · exact Onward.refl _
        · exact hnext.trans h
      · rintro ⟨htext, hleft⟩
        rcases Nat.lt_or_eq_of_le hleft with hlt | heq
        · exact Or.inr ⟨htext.trans hnext.1.symm, Nat.le_of_lt_succ hlt⟩
        · exact Or.inl (Spot.eq_of_left htext heq)

/-- An expression matches somewhere in a text if it takes one from some spot to another. -/
theorem isMatch_iff {r : Regex} {text : String} :
    r.isMatch text = true ↔ ∃ s t, s.text = text.toList ∧ Takes r s t := by
  have hrun : ∀ s, ((run r ⟨s, []⟩).head?).isSome ↔ ∃ t, Takes r s t := by
    intro s
    rw [List.isSome_head?]
    constructor
    · intro h
      obtain ⟨w, hw⟩ := List.exists_mem_of_ne_nil _ h
      exact ⟨w.spot, (follows_run r).of_mem hw⟩
    · rintro ⟨t, ht⟩
      obtain ⟨w, hw, -⟩ := ((follows_run r).arrives ⟨s, []⟩ t).2 ht
      exact List.ne_nil_of_mem hw
  rw [isMatch, findFrom?, List.findSome?_isSome_iff]
  simp only [Option.isSome_map, hrun, Spot.start, mem_onwards]
  constructor
  · rintro ⟨s, ⟨htext, -⟩, t, ht⟩
    exact ⟨s, t, htext, ht⟩
  · rintro ⟨s, t, htext, ht⟩
    refine ⟨s, ⟨htext, ?_⟩, t, ht⟩
    have hlength := congrArg List.length htext
    rw [Spot.text, List.length_append] at hlength
    exact Nat.le_trans (Nat.le_add_left _ _) (Nat.le_of_eq hlength)

/-- **Between the ends of the text** an expression matches what is in its language. -/
theorem isMatch_between_ends_iff {r : Regex} {text : String} :
    isMatch (.seq (.seq (.place .textStart) r) (.place .textEnd)) text = true ↔ r.Spells text := by
  rw [isMatch_iff, Spells]
  simp only [Takes, Place.holds, List.isEmpty_iff]
  constructor
  · rintro ⟨⟨b, a⟩, t, htext, ⟨b', a'⟩, ⟨u, ⟨rfl, rfl⟩, ht⟩, rfl, rfl⟩
    obtain rfl : a = text.toList := htext
    have hend : b' = text.toList.reverse := by
      have htext' : b'.reverse ++ [] = text.toList := (onward_of_takes ht).1
      rw [← htext', List.append_nil, List.reverse_reverse]
    rwa [← hend]
  · intro h
    exact ⟨.start text.toList, _, rfl, _, ⟨_, ⟨rfl, rfl⟩, h⟩, rfl, rfl⟩

end Gatehouse.Regex

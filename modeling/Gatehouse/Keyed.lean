/-!
# Keyed lists

Lists of pairs in the strict order of their keys, so with one value for each key. `put` adds or
replaces a value and keeps the order. Its look-up laws hold of any list; that look-ups determine
the list (`ext`) needs the order.
-/

namespace Gatehouse.Keyed

/-- The keys are in strict order. -/
def Ordered (l : List (String × α)) : Prop := l.Pairwise fun a b => a.1 < b.1

/-- Put a value under a key, in place of the value that the key has already. -/
def put (k : String) (v : α) : List (String × α) → List (String × α)
  | [] => [(k, v)]
  | (k', v') :: r =>
    if k < k' then (k, v) :: (k', v') :: r
    else if k' < k then (k', v') :: put k v r
    else (k, v) :: r

/-- The pairs in the order of their keys, of equal keys the last one. -/
def ofList (l : List (String × α)) : List (String × α) :=
  l.foldl (fun acc (k, v) => put k v acc) []

def erase (k : String) (l : List (String × α)) : List (String × α) := l.filter fun e => e.1 != k

theorem ordered_nil : Ordered ([] : List (String × α)) := List.Pairwise.nil

private theorem eq_of_not_lt {a b : String} (h : ¬a < b) (h' : ¬b < a) : a = b :=
  String.le_antisymm (String.not_lt.1 h') (String.not_lt.1 h)

/-! ### Look-ups -/

theorem lookup_put_self (k : String) (v : α) (l : List (String × α)) :
    (put k v l).lookup k = some v := by
  induction l with
  | nil => simp [put]
  | cons e r ih =>
    obtain ⟨k', v'⟩ := e
    rw [put]
    split
    · simp
    · split
      · next h =>
        have : (k == k') = false := by
          simpa using fun he : k = k' => String.lt_irrefl k (he ▸ h)
        simp [List.lookup_cons, this, ih]
      · simp

theorem lookup_put_ne {k q : String} (h : q ≠ k) (v : α) (l : List (String × α)) :
    (put k v l).lookup q = l.lookup q := by
  have hq : (q == k) = false := by simpa using h
  induction l with
  | nil => simp [put, List.lookup_cons, hq]
  | cons e r ih =>
    obtain ⟨k', v'⟩ := e
    rw [put]
    split
    · simp [List.lookup_cons, hq]
    · split
      · simp only [List.lookup_cons]
        split <;> simp_all
      · next h1 h2 =>
        have : k = k' := eq_of_not_lt h1 h2
        subst this
        simp [List.lookup_cons, hq]

theorem lookup_put (k q : String) (v : α) (l : List (String × α)) :
    (put k v l).lookup q = if q = k then some v else l.lookup q := by
  split
  · next h => rw [h, lookup_put_self]
  · next h => exact lookup_put_ne h v l

/-- Of the pairs of a key the last one counts. -/
theorem lookup_ofList (l : List (String × α)) (k : String) :
    (ofList l).lookup k = l.reverse.lookup k := by
  suffices h : ∀ acc : List (String × α),
      (l.foldl (fun acc e => put e.1 e.2 acc) acc).lookup k =
        (l.reverse.lookup k).or (acc.lookup k) by
    have hnil := h []
    rwa [List.lookup_nil, Option.or_none] at hnil
  intro acc
  induction l generalizing acc with
  | nil => rfl
  | cons e l ih =>
    obtain ⟨k', v⟩ := e
    rw [List.foldl_cons, ih, lookup_put, List.reverse_cons, List.lookup_append, Option.or_assoc,
      List.lookup_cons, List.lookup_nil]
    by_cases hk : k = k'
    · simp [hk]
    · simp [hk, beq_false_of_ne hk]

theorem lookup_filter_key (p : String → Bool) (q : String) (l : List (String × α)) :
    (l.filter fun e => p e.1).lookup q = if p q then l.lookup q else none := by
  induction l with
  | nil => simp
  | cons e r ih =>
    obtain ⟨k, v⟩ := e
    by_cases hk : p k
    · rw [List.filter_cons_of_pos (by simpa using hk)]
      simp only [List.lookup_cons]
      split
      · next he =>
        rw [beq_iff_eq] at he
        simp [he, hk]
      · exact ih
    · rw [List.filter_cons_of_neg (by simpa using hk), ih]
      split
      · next hq =>
        have : (q == k) = false := by simpa using fun he : q = k => hk (he ▸ hq)
        simp [List.lookup_cons, this]
      · rfl

theorem lookup_map (f : α → β) (q : String) (l : List (String × α)) :
    (l.map fun e => (e.1, f e.2)).lookup q = (l.lookup q).map f := by
  induction l with
  | nil => rfl
  | cons e r ih =>
    obtain ⟨k, v⟩ := e
    simp only [List.map_cons, List.lookup_cons]
    split
    · rfl
    · exact ih

theorem lookup_erase (k q : String) (l : List (String × α)) :
    (erase k l).lookup q = if q = k then none else l.lookup q := by
  rw [erase, lookup_filter_key (fun s => s != k) q l]
  by_cases h : q = k <;> simp [h]

/-- A keyed list without a key in front of it is without that key. -/
theorem lookup_eq_none_of_lt {q : String} {l : List (String × α)} (h : ∀ e ∈ l, q < e.1) :
    l.lookup q = none := by
  induction l with
  | nil => rfl
  | cons e r ih =>
    obtain ⟨k, v⟩ := e
    have hlt : q < k := h (k, v) List.mem_cons_self
    have hq : (q == k) = false := by
      simpa using fun he : q = k => String.lt_irrefl k (he ▸ hlt)
    simp [List.lookup_cons, hq, ih fun e he => h e (List.mem_cons_of_mem _ he)]

theorem mem_of_lookup {q : String} {v : α} {l : List (String × α)} (h : l.lookup q = some v) :
    (q, v) ∈ l := by
  induction l with
  | nil => simp at h
  | cons e r ih =>
    obtain ⟨k, w⟩ := e
    simp only [List.lookup_cons] at h
    split at h
    · next he =>
      rw [beq_iff_eq] at he
      cases h
      simp [he]
    · exact List.mem_cons_of_mem _ (ih h)

theorem Ordered.nodup_keys {l : List (String × α)} (h : Ordered l) : (l.map Prod.fst).Nodup := by
  refine List.pairwise_map.2 (h.imp fun hlt he => ?_)
  exact String.lt_irrefl _ (he ▸ hlt)

theorem lookup_of_mem {q : String} {v : α} {l : List (String × α)}
    (hn : (l.map Prod.fst).Nodup) (h : (q, v) ∈ l) : l.lookup q = some v := by
  induction l with
  | nil => simp at h
  | cons e r ih =>
    obtain ⟨k, w⟩ := e
    rw [List.map_cons, List.nodup_cons] at hn
    rcases List.mem_cons.1 h with he | he
    · cases he
      simp
    · have hq : (q == k) = false := by
        rw [beq_eq_false_iff_ne]
        rintro rfl
        exact hn.1 (List.mem_map.2 ⟨_, he, rfl⟩)
      simp [List.lookup_cons, hq, ih hn.2 he]

theorem lookup_eq_some_iff {q : String} {v : α} {l : List (String × α)} (ho : Ordered l) :
    l.lookup q = some v ↔ (q, v) ∈ l :=
  ⟨mem_of_lookup, lookup_of_mem ho.nodup_keys⟩

/-- The order makes no difference if the keys are different. -/
theorem lookup_reverse {l : List (String × α)} (hn : (l.map Prod.fst).Nodup) (q : String) :
    l.reverse.lookup q = l.lookup q := by
  have hreverse : (l.reverse.map Prod.fst).Nodup := by
    rw [List.map_reverse]
    exact List.pairwise_reverse.2 (hn.imp Ne.symm)
  apply Option.ext
  intro v
  constructor
  · intro h
    exact lookup_of_mem hn (List.mem_reverse.1 (mem_of_lookup h))
  · intro h
    exact lookup_of_mem hreverse (List.mem_reverse.2 (mem_of_lookup h))

/-! ### The order -/

theorem mem_put {k : String} {v : α} {e : String × α} {l : List (String × α)}
    (h : e ∈ put k v l) : e = (k, v) ∨ e ∈ l := by
  induction l with
  | nil => exact Or.inl (by simpa [put] using h)
  | cons e' r ih =>
    obtain ⟨k', v'⟩ := e'
    rw [put] at h
    split at h
    · exact List.mem_cons.1 h
    · split at h
      · rcases List.mem_cons.1 h with rfl | h
        · exact Or.inr List.mem_cons_self
        · exact (ih h).imp_right (List.mem_cons_of_mem _)
      · exact (List.mem_cons.1 h).imp_right (List.mem_cons_of_mem _)

theorem Ordered.put {l : List (String × α)} (h : Ordered l) (k : String) (v : α) :
    Ordered (Keyed.put k v l) := by
  induction l with
  | nil => exact List.pairwise_singleton _ _
  | cons e r ih =>
    obtain ⟨k', v'⟩ := e
    have hr := List.pairwise_cons.1 h
    rw [Keyed.put]
    split
    · next hk =>
      refine List.pairwise_cons.2 ⟨fun e he => ?_, h⟩
      rcases List.mem_cons.1 he with rfl | he
      · exact hk
      · exact String.lt_trans hk (hr.1 e he)
    · split
      · next hk =>
        refine List.pairwise_cons.2 ⟨fun e he => ?_, ih hr.2⟩
        rcases mem_put he with rfl | he
        · exact hk
        · exact hr.1 e he
      · next h1 h2 =>
        have : k = k' := eq_of_not_lt h1 h2
        subst this
        exact List.pairwise_cons.2 ⟨hr.1, hr.2⟩

theorem Ordered.filter {l : List (String × α)} (h : Ordered l) (p : String × α → Bool) :
    Ordered (l.filter p) := List.Pairwise.filter p h

theorem Ordered.erase {l : List (String × α)} (h : Ordered l) (k : String) :
    Ordered (Keyed.erase k l) := h.filter _

private theorem ordered_foldl_put (l : List (String × α)) {acc : List (String × α)}
    (h : Ordered acc) : Ordered (l.foldl (fun acc (k, v) => put k v acc) acc) := by
  induction l generalizing acc with
  | nil => exact h
  | cons e r ih => exact ih (h.put e.1 e.2)

theorem ordered_ofList (l : List (String × α)) : Ordered (ofList l) :=
  ordered_foldl_put l ordered_nil

private theorem mem_foldl_put {e : String × α} {l acc : List (String × α)}
    (h : e ∈ l.foldl (fun acc (k, v) => put k v acc) acc) : e ∈ acc ∨ e ∈ l := by
  induction l generalizing acc with
  | nil => exact Or.inl h
  | cons e' r ih =>
    rcases ih h with hacc | hr
    · exact (mem_put hacc).elim (fun he => Or.inr (he ▸ List.mem_cons_self)) Or.inl
    · exact Or.inr (List.mem_cons_of_mem _ hr)

theorem mem_of_mem_ofList {e : String × α} {l : List (String × α)} (h : e ∈ ofList l) : e ∈ l :=
  (mem_foldl_put h).resolve_left List.not_mem_nil

/-- Keyed lists with the same look-ups are the same. -/
theorem ext {l m : List (String × α)} (hl : Ordered l) (hm : Ordered m)
    (h : ∀ k, l.lookup k = m.lookup k) : l = m := by
  induction l generalizing m with
  | nil =>
    cases m with
    | nil => rfl
    | cons e r =>
      obtain ⟨k, v⟩ := e
      simpa using h k
  | cons e r ih =>
    obtain ⟨k, v⟩ := e
    cases m with
    | nil => simpa [List.lookup_cons] using h k
    | cons e' r' =>
      obtain ⟨k', v'⟩ := e'
      have hr := List.pairwise_cons.1 hl
      have hr' := List.pairwise_cons.1 hm
      have hk : k = k' := by
        refine eq_of_not_lt (fun hlt => ?_) (fun hlt => ?_)
        · have hn : ((k', v') :: r').lookup k = none :=
            lookup_eq_none_of_lt fun e he => by
              rcases List.mem_cons.1 he with rfl | he
              · exact hlt
              · exact String.lt_trans hlt (hr'.1 e he)
          rw [← h k] at hn
          simp at hn
        · have hn : ((k, v) :: r).lookup k' = none :=
            lookup_eq_none_of_lt fun e he => by
              rcases List.mem_cons.1 he with rfl | he
              · exact hlt
              · exact String.lt_trans hlt (hr.1 e he)
          rw [h k'] at hn
          simp at hn
      subst hk
      have hv : v = v' := by simpa [List.lookup_cons] using h k
      subst hv
      congr 1
      refine ih hr.2 hr'.2 fun q => ?_
      by_cases hq : q = k
      · subst hq
        rw [lookup_eq_none_of_lt hr.1, lookup_eq_none_of_lt hr'.1]
      · have : (q == k) = false := by simpa using hq
        simpa [List.lookup_cons, this] using h q

end Gatehouse.Keyed

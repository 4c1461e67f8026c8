import Gatehouse.Catalog.Index

/-!
# The order of an owner's entries

`Index.inOrder` sorts entries by their sort numbers and leaves alone the order of those with the
same number. Two facts say all of it, and each is named: the result is `Sorted`, and it has the
same entries of every sort number in the same order, the same `level`s. By `eq_inOrder_iff` no
other list has both, which gives the two facts that an index lives on:

* **Narrowing** (`filter_inOrder`): leaving entries out and sorting may be done in either order.
* **Placing** (`place_inOrder`): putting one more entry into its place in a sorted list is the
  same as sorting with that entry at the end.
-/

namespace Gatehouse.Index

variable [Owned α]

/-- The sort numbers never fall along the list. -/
def Sorted (l : List α) : Prop := l.Pairwise fun x y => Owned.sort x ≤ Owned.sort y

/-- The entries of one sort number, in their order. -/
def level (k : Int) (l : List α) : List α := l.filter fun x => Owned.sort x = k

/-! ### Levels -/

theorem mem_level {k : Int} {x : α} {l : List α} : x ∈ level k l ↔ x ∈ l ∧ Owned.sort x = k := by
  simp [level]

theorem level_append (k : Int) (l m : List α) : level k (l ++ m) = level k l ++ level k m :=
  List.filter_append ..

theorem level_filter (k : Int) (p : α → Bool) (l : List α) :
    level k (l.filter p) = (level k l).filter p := by
  rw [level, level, List.filter_filter, List.filter_filter]
  exact List.filter_congr fun x _ => Bool.and_comm _ _

theorem level_level (k : Int) (l : List α) : level k (level k l) = level k l :=
  List.filter_eq_self.2 fun _ hx => decide_eq_true (mem_level.1 hx).2

/-- Entries that all sort behind a number have none of it. -/
theorem level_eq_nil {k : Int} {l : List α} (h : ∀ x ∈ l, k < Owned.sort x) : level k l = [] := by
  rw [level, List.filter_eq_nil_iff]
  intro x hx
  have := h x hx
  simp only [decide_eq_true_eq]
  omega

/-- **Sorted lists are determined by their levels.** The heads agree because each of them is the
first of its level, and the lower one of the two levels has to occur in the other list. -/
theorem Sorted.ext {l m : List α} (hl : Sorted l) (hm : Sorted m)
    (h : ∀ k, level k l = level k m) : l = m := by
  have hmem : ∀ x, x ∈ l ↔ x ∈ m := by
    intro x
    have hx := congrArg (x ∈ ·) (h (Owned.sort x))
    simpa [mem_level] using hx
  induction l generalizing m with
  | nil => exact (List.eq_nil_iff_forall_not_mem.2 fun x hx => by simpa using (hmem x).2 hx).symm
  | cons x l ih =>
      cases m with
      | nil => simpa using (hmem x).1 List.mem_cons_self
      | cons y m =>
          have hl' := List.pairwise_cons.1 hl
          have hm' := List.pairwise_cons.1 hm
          -- each head stands somewhere in the other list, so neither is lower than the other
          have hyx : Owned.sort y ≤ Owned.sort x := by
            rcases List.mem_cons.1 ((hmem x).1 List.mem_cons_self) with he | hx
            · exact he ▸ Int.le_refl _
            · exact hm'.1 x hx
          have hxy : Owned.sort x ≤ Owned.sort y := by
            rcases List.mem_cons.1 ((hmem y).2 List.mem_cons_self) with he | hy
            · exact he ▸ Int.le_refl _
            · exact hl'.1 y hy
          have hk : Owned.sort y = Owned.sort x := by omega
          have he : x = y := by
            have hlevel := h (Owned.sort x)
            rw [level, level, List.filter_cons_of_pos (by simp),
              List.filter_cons_of_pos (by simp [hk])] at hlevel
            exact (List.cons.inj hlevel).1
          subst he
          have htail : ∀ k, level k l = level k m := by
            intro k
            have hlevel := h k
            simp only [level, List.filter_cons] at hlevel ⊢
            split at hlevel
            · exact (List.cons.inj hlevel).2
            · exact hlevel
          congr 1
          refine ih hl'.2 hm'.2 htail fun z => ?_
          have hz := congrArg (z ∈ ·) (htail (Owned.sort z))
          simpa [mem_level] using hz

/-! ### Sorting -/

private theorem le_trans_sort (x y z : α) :
    decide (Owned.sort x ≤ Owned.sort y) = true → decide (Owned.sort y ≤ Owned.sort z) = true →
      decide (Owned.sort x ≤ Owned.sort z) = true := by
  simp only [decide_eq_true_eq]
  exact Int.le_trans

private theorem le_total_sort (x y : α) :
    (decide (Owned.sort x ≤ Owned.sort y) || decide (Owned.sort y ≤ Owned.sort x)) = true := by
  simp only [Bool.or_eq_true, decide_eq_true_eq]
  exact Int.le_total _ _

theorem sorted_inOrder (l : List α) : Sorted (inOrder l) := by
  have h := List.pairwise_mergeSort le_trans_sort le_total_sort l
  exact h.imp fun hxy => of_decide_eq_true hxy

/-- Sorting leaves every level as it is: a level is sorted already, so it survives as a sublist,
and the sorted list has no more entries of that number than the list itself. -/
theorem level_inOrder (k : Int) (l : List α) : level k (inOrder l) = level k l := by
  have hconst : (level k l).Pairwise fun x y => decide (Owned.sort x ≤ Owned.sort y) = true := by
    refine List.Pairwise.imp_of_mem (fun {x y} hx hy _ => ?_)
      (List.pairwise_of_forall fun _ _ => trivial)
    have hxy : Owned.sort x = Owned.sort y := (mem_level.1 hx).2.trans (mem_level.1 hy).2.symm
    exact decide_eq_true (Int.le_of_eq hxy)
  have hsub : (level k l).Sublist (inOrder l) :=
    List.sublist_mergeSort le_trans_sort le_total_sort hconst List.filter_sublist
  have hsub' : (level k l).Sublist (level k (inOrder l)) := by
    have := hsub.filter fun x => decide (Owned.sort x = k)
    rwa [← level, ← level, level_level] at this
  have hperm : (level k (inOrder l)).Perm (level k l) := (List.mergeSort_perm l _).filter _
  exact (hsub'.eq_of_length hperm.length_eq.symm).symm

/-- What sorting is, without sorting. -/
theorem eq_inOrder_iff {l m : List α} :
    m = inOrder l ↔ Sorted m ∧ ∀ k, level k m = level k l := by
  constructor
  · rintro rfl
    exact ⟨sorted_inOrder l, fun k => level_inOrder k l⟩
  · rintro ⟨hm, h⟩
    exact hm.ext (sorted_inOrder l) fun k => (h k).trans (level_inOrder k l).symm

@[simp] theorem mem_inOrder {x : α} {l : List α} : x ∈ inOrder l ↔ x ∈ l := List.mem_mergeSort

@[simp] theorem inOrder_nil : inOrder ([] : List α) = [] := List.mergeSort_nil

/-- A stable sort may be exchanged with a filter. -/
theorem filter_inOrder (p : α → Bool) (l : List α) :
    (inOrder l).filter p = inOrder (l.filter p) := by
  refine eq_inOrder_iff.2 ⟨(sorted_inOrder l).filter p, fun k => ?_⟩
  rw [level_filter, level_inOrder, level_filter]

/-! ### Placing -/

theorem mem_place {x z : α} {l : List α} (h : z ∈ place x l) : z = x ∨ z ∈ l := by
  induction l with
  | nil => simpa [place] using h
  | cons y l ih =>
      rw [place] at h
      split at h
      · rcases List.mem_cons.1 h with rfl | h
        · exact Or.inr List.mem_cons_self
        · exact (ih h).imp_right (List.mem_cons_of_mem y)
      · exact List.mem_cons.1 h

theorem Sorted.place {l : List α} (h : Sorted l) (x : α) : Sorted (Index.place x l) := by
  induction l with
  | nil => exact List.pairwise_singleton _ _
  | cons y l ih =>
      have hy := List.pairwise_cons.1 h
      rw [Index.place]
      split
      · next hle =>
          refine List.pairwise_cons.2 ⟨fun z hz => ?_, ih hy.2⟩
          rcases mem_place hz with rfl | hz
          · exact hle
          · exact hy.1 z hz
      · next hlt =>
          refine List.pairwise_cons.2 ⟨fun z hz => ?_, h⟩
          rcases List.mem_cons.1 hz with rfl | hz
          · omega
          · have := hy.1 z hz
            omega

/-- In its own level a placed entry comes last. -/
theorem level_place {l : List α} (h : Sorted l) (k : Int) (x : α) :
    level k (place x l) = level k (l ++ [x]) := by
  induction l with
  | nil => rfl
  | cons y l ih =>
      have hy := List.pairwise_cons.1 h
      rw [place]
      split
      · have hl := ih hy.2
        simp only [level, List.cons_append, List.filter_cons] at hl ⊢
        rw [hl]
      · next hlt =>
          rw [level_append]
          by_cases hx : Owned.sort x = k
          · -- everything from `y` on sorts behind `x`, so the level is `[x]` on both sides
            have hnil : level k (y :: l) = [] := by
              refine level_eq_nil fun z hz => ?_
              rcases List.mem_cons.1 hz with rfl | hz
              · omega
              · have := hy.1 z hz
                omega
            rw [hnil, level, List.filter_cons_of_pos (by simpa using hx), ← level, hnil]
            simp [level, hx]
          · rw [level, List.filter_cons_of_neg (by simpa using hx), ← level]
            simp [level, hx]

/-- To place an entry behind its equals is what a stable sort does with the last entry. -/
theorem place_inOrder (x : α) (l : List α) : place x (inOrder l) = inOrder (l ++ [x]) := by
  refine eq_inOrder_iff.2 ⟨(sorted_inOrder l).place x, fun k => ?_⟩
  rw [level_place (sorted_inOrder l), level_append, level_inOrder, level_append]

end Gatehouse.Index

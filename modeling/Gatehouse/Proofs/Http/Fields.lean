import Gatehouse.Http.Headers

/-!
# The values of a name

Header fields are looked at by name. Where a field is taken out the last one takes its place, so the
names are in another order afterwards, but each name that is still there has the values it had:

    without host      host: a      accept: b, c      x-id: 1
                      x-id: 1      accept: b, c

**The values of a name stay as they are, in their order, if others are taken out**
(`valuesOf_without`).
-/

namespace Gatehouse.Http.Headers

/-! ## In a list of pairs -/

section Pairs

variable {name : String} {fields : List (String × String)}

/-- The values of a name, in order. -/
def valuesOf (name : String) (fields : List (String × String)) : List String :=
  (fields.filter fun f => f.1 == name).map Prod.snd

/-- The list of pairs answers with the first value of a name. -/
theorem lookup_eq_head? : fields.lookup name = (valuesOf name fields).head? := by
  induction fields with
  | nil => rfl
  | cons f fields ih =>
      obtain ⟨k, v⟩ := f
      by_cases hk : name = k
      · simp [valuesOf, hk]
      · have hskip : valuesOf name ((k, v) :: fields) = valuesOf name fields := by
          simp [valuesOf, Ne.symm hk]
        rw [hskip, ← ih, List.lookup_cons, beq_false_of_ne hk]

theorem valuesOf_append (left right : List (String × String)) :
    valuesOf name (left ++ right) = valuesOf name left ++ valuesOf name right := by
  rw [valuesOf, List.filter_append, List.map_append]
  rfl

theorem valuesOf_reverse : valuesOf name fields.reverse = (valuesOf name fields).reverse := by
  rw [valuesOf, List.filter_reverse, List.map_reverse, valuesOf]

theorem valuesOf_filter (p : String → Bool) :
    valuesOf name (fields.filter fun f => p f.2) = (valuesOf name fields).filter p := by
  rw [valuesOf, valuesOf, List.filter_map, List.filter_filter, List.filter_filter]
  congr 2
  funext f
  exact Bool.and_comm _ _

theorem mem_valuesOf {value : String} : value ∈ valuesOf name fields ↔ (name, value) ∈ fields := by
  simp [valuesOf]

end Pairs

/-! ## In the fields of a request or an answer -/

variable {l : List Field} {f : Field} {h : Headers} {name q : String}

/-- No name has two fields, so a search for a name finds its only field. -/
theorem find?_eq_some_iff : h.find? name = some f ↔ f ∈ h.entries ∧ f.name = name := by
  obtain ⟨l, hl⟩ := h
  show (l.find? fun e => e.name == name) = some f ↔ f ∈ l ∧ f.name = name
  constructor
  · intro hf
    exact ⟨List.mem_of_find?_eq_some hf, by simpa using List.find?_some hf⟩
  · rintro ⟨hmem, rfl⟩
    induction l with
    | nil => cases hmem
    | cons e r ih =>
        obtain ⟨hfresh, hr⟩ := List.nodup_cons.1 hl
        rcases List.mem_cons.1 hmem with rfl | hmem
        · exact List.find?_cons_of_pos (by simp)
        · have hne : e.name ≠ f.name := by
            intro he
            exact hfresh (he ▸ List.mem_map_of_mem hmem)
          rw [List.find?_cons_of_neg (by simpa using hne)]
          exact ih hr hmem

/-- The values of a name are those of its field, since there is no other one of that name. -/
theorem valuesOf_fields (h : Headers) (name : String) :
    valuesOf name h.fields = ((h.find? name).map Field.values).getD [] := by
  obtain ⟨l, hl⟩ := h
  show valuesOf name (l.flatMap _) = ((l.find? _).map Field.values).getD []
  induction l with
  | nil => rfl
  | cons e r ih =>
      obtain ⟨hfresh, hr⟩ := List.nodup_cons.1 hl
      rw [List.flatMap_cons, valuesOf_append, ih hr]
      by_cases he : e.name = name
      · subst he
        have hnone : (r.find? fun f => f.name == e.name) = none := by
          rw [List.find?_eq_none]
          intro f hf hname
          exact hfresh (by simpa using ⟨f, hf, by simpa using hname⟩)
        have hown : valuesOf e.name (e.values.map fun v => (e.name, v)) = e.values := by
          simp [valuesOf, List.filter_map, Function.comp_def]
        rw [hnone, List.find?_cons_of_pos (by simp), hown]
        exact List.append_nil _
      · have hother : valuesOf name (e.values.map fun v => (e.name, v)) = [] := by
          simp [valuesOf, List.filter_map, Function.comp_def, he]
        rw [List.find?_cons_of_neg (by simpa using he), hother, List.nil_append]

/-- Stages read the first value of a name. -/
theorem first?_eq (h : Headers) (name : String) :
    h.first? name = (valuesOf (Text.lowerAscii name) h.fields).head? := by
  rw [first?, valuesOf_fields]
  cases h.find? (Text.lowerAscii name) <;> rfl

/-! ## Taking fields out -/

/-- Taking a field out and filling its place with the last one loses no other field. -/
theorem mem_vacate (hl : (l.map Field.name).Nodup) :
    f ∈ vacate name l ↔ f ∈ l ∧ f.name ≠ name := by
  rw [(perm_vacate name l).mem_iff]
  induction l with
  | nil => simp
  | cons e r ih =>
      obtain ⟨hfresh, hr⟩ := List.nodup_cons.1 hl
      -- the names differ, so the first field of the name is the only one
      by_cases he : e.name = name
      · have hothers : ∀ f ∈ r, f.name ≠ name := by
          rintro f hf rfl
          exact hfresh (he ▸ List.mem_map_of_mem hf)
        rw [List.eraseP_cons_of_pos (by simpa using he)]
        constructor
        · intro hf
          exact ⟨List.mem_cons_of_mem e hf, hothers f hf⟩
        · rintro ⟨hf, hne⟩
          rcases List.mem_cons.1 hf with rfl | hf
          · exact absurd he hne
          · exact hf
      · rw [List.eraseP_cons_of_neg (by simpa using he), List.mem_cons, List.mem_cons, ih hr]
        constructor
        · rintro (rfl | ⟨hf, hne⟩)
          · exact ⟨Or.inl rfl, he⟩
          · exact ⟨Or.inr hf, hne⟩
        · rintro ⟨rfl | hf, hne⟩
          · exact Or.inl rfl
          · exact Or.inr ⟨hf, hne⟩

theorem find?_remove (h : Headers) (name q : String) :
    (h.remove name).find? q = if q = name then none else h.find? q := by
  apply Option.ext
  intro f
  have hmem : f ∈ (h.remove name).entries ↔ f ∈ h.entries ∧ f.name ≠ name := mem_vacate h.distinct
  rw [find?_eq_some_iff, hmem]
  split
  · next hq =>
      simp only [hq, reduceCtorEq, iff_false]
      exact fun hf => hf.1.2 hf.2
  · next hq =>
      rw [find?_eq_some_iff]
      constructor
      · rintro ⟨⟨hf, -⟩, rfl⟩
        exact ⟨hf, rfl⟩
      · rintro ⟨hf, rfl⟩
        exact ⟨⟨hf, hq⟩, rfl⟩

/-- A header that is removed is gone with all its values, and all other names keep theirs in order.
-/
theorem valuesOf_remove (h : Headers) (name q : String) :
    valuesOf q (h.remove name).fields = if q = name then [] else valuesOf q h.fields := by
  rw [valuesOf_fields, valuesOf_fields, find?_remove]
  split <;> rfl

/-- **What is left** when some names are taken out: all other names with the values they had. -/
theorem valuesOf_without (h : Headers) (names : List String) (q : String) :
    valuesOf q (h.without names).fields = if q ∈ names then [] else valuesOf q h.fields := by
  induction names generalizing h with
  | nil => simp [without]
  | cons name names ih =>
      have hstep : h.without (name :: names) = (h.remove name).without names := rfl
      rw [hstep, ih, valuesOf_remove]
      by_cases hq : q = name
      · simp [hq]
      · simp [hq]

theorem mem_without {names : List String} {f : String × String} :
    f ∈ (h.without names).fields ↔ f ∈ h.fields ∧ f.1 ∉ names := by
  obtain ⟨q, value⟩ := f
  rw [← mem_valuesOf, valuesOf_without, ← mem_valuesOf]
  split
  · next hq => simp [hq]
  · next hq => simp [hq]

end Gatehouse.Http.Headers

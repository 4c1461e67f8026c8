import Gatehouse.Json.Decode
import Gatehouse.Outcome

/-!
# What records are read from

A record is decoded in two passes, the first of which only collects values under the names of
fields. For fields without a second name the passes come to this: **each field is read from the
value that stands for it** (`build_of_record`), which is the member of its name or, where an array
stands for the record, the element in its place (`valueFor?`).
-/

namespace Gatehouse.Json.Decoder

/-! ## The first pass -/

/-- The value that stands for a field of a record whose fields have the given names. -/
def valueFor? (names : List String) (name : String) : Json → Option Json
  | .obj entries => entries.lookup name
  | .arr items => items[names.idxOf name]?
  | _ => none

def namesOf (fields : List Field) : List String := fields.map Field.name

/-- No field has a second name. -/
def Plain (fields : List Field) : Prop := ∀ f ∈ fields, f.aliases = []

/-- A name that no field has besides another one. -/
def Sole (fields : List Field) (name : String) : Prop :=
  ∀ f ∈ fields, ∀ key, f.accepts key = true → (f.name = name ↔ key = name)

/-- A name that no field shares, not even as an alias, belongs to one field only. -/
theorem sole_of_aliases {fields : List Field} {name : String}
    (h : ∀ f ∈ fields, name ∉ f.aliases ∧ (f.name = name → f.aliases = [])) : Sole fields name := by
  intro f hf key haccepts
  obtain ⟨hother, hown⟩ := h f hf
  rw [Field.accepts, Bool.or_eq_true, beq_iff_eq, List.contains_iff_mem] at haccepts
  rcases haccepts with rfl | hkey
  · rfl
  · constructor
    · intro hname
      rw [hown hname] at hkey
      cases hkey
    · rintro rfl
      exact absurd hkey hother

theorem Plain.sole {fields : List Field} (h : Plain fields) (name : String) :
    Sole fields name := by
  apply sole_of_aliases
  intro f hf
  rw [h f hf]
  exact ⟨List.not_mem_nil, fun _ => rfl⟩

/-- The key that is a name of a field is known. -/
theorem not_mem_of_find?_eq_none {fields : List Field} {key : String}
    (h : fields.find? (·.accepts key) = none) : key ∉ namesOf fields := by
  rw [namesOf, List.mem_map]
  rintro ⟨f, hf, rfl⟩
  exact List.find?_eq_none.1 h f hf (by simp [Field.accepts])

@[simp] theorem plain_optional (name : String) (d : Decoder α) (default : α) :
    Plain (optional name d default []).fields := by
  intro f hf
  rw [List.mem_singleton.1 hf]

@[simp] theorem plain_map {f : α → β} {r : Record α} : Plain (f <$> r).fields ↔ Plain r.fields :=
  Iff.rfl

@[simp] theorem plain_seq {r : Record (α → β)} {q : Record α} :
    Plain (r <*> q).fields ↔ Plain r.fields ∧ Plain q.fields := List.forall_mem_append

/-- The first pass over an object finds the members that have the name of a field. -/
theorem lookup_scan {fields : List Field} {name : String} (h : Sole fields name)
    (hname : name ∈ namesOf fields) {found entries out : List (String × Json)}
    (hscan : scan fields found entries = .ok out) :
    out.lookup name = (found.lookup name).or (entries.lookup name) := by
  induction entries generalizing found with
  | nil =>
      obtain rfl := Except.ok.inj hscan
      simp
  | cons e r ih =>
      obtain ⟨k, v⟩ := e
      rw [scan] at hscan
      split at hscan
      · next hnone =>
          have hne : (name == k) = false := by
            rw [beq_eq_false_iff_ne]
            rintro rfl
            exact not_mem_of_find?_eq_none hnone hname
          rw [ih hscan, List.lookup_cons, hne]
      · next f hf =>
          -- a member that some field accepts is this one exactly if it has the name
          have hsole : f.name = name ↔ k = name :=
            h f (List.mem_of_find?_eq_some hf) k <|
              List.find?_some (p := fun f : Field => f.accepts k) hf
          split at hscan
          · cases hscan
          · next hnew =>
              obtain ⟨-, -, hrest⟩ := exists_of_bind hscan
              rw [ih hrest, List.lookup_cons, List.lookup_cons]
              by_cases hk : k = name
              · obtain rfl := hsole.2 hk
                rw [hk, Option.not_isSome_iff_eq_none.1 hnew]
                simp
              · rw [beq_eq_false_iff_ne.2 (Ne.symm hk),
                  beq_eq_false_iff_ne.2 fun hf => hk (hsole.1 hf.symm)]

theorem eq_nil_of_align_nil {typeName : String} {fields all : List Field} {every : List Json}
    {i : Nat} {out : List (String × Json)}
    (halign : align.go typeName all every i fields [] = .ok out) : out = [] := by
  induction fields generalizing i with
  | nil => exact (Except.ok.inj halign).symm
  | cons f fs ih =>
      rw [align.go] at halign
      split at halign
      · cases halign
      · exact ih halign

/-- The first pass over an array finds the elements in the places of the fields. -/
theorem lookup_align {typeName : String} {fields all : List Field} {items every : List Json}
    {i : Nat} {out : List (String × Json)}
    (halign : align.go typeName all every i fields items = .ok out) {name : String}
    (hname : name ∈ namesOf fields) : out.lookup name = items[(namesOf fields).idxOf name]? := by
  induction fields generalizing items i out with
  | nil => cases hname
  | cons f fs ih =>
      cases items with
      | nil =>
          rw [eq_nil_of_align_nil halign]
          simp
      | cons v r =>
          rw [align.go] at halign
          obtain ⟨-, -, halign⟩ := exists_of_bind halign
          obtain ⟨rest, hrest, hout⟩ := exists_of_bind halign
          obtain rfl := Except.ok.inj hout
          rw [namesOf, List.map_cons, ← namesOf, List.lookup_cons, List.idxOf_cons]
          by_cases hk : name = f.name
          · simp [hk]
          · have hmem : name ∈ namesOf fs := (List.mem_cons.1 hname).resolve_left hk
            rw [beq_eq_false_iff_ne.2 hk, beq_eq_false_iff_ne.2 (Ne.symm hk)]
            exact ih hrest hmem

/-! ## The second pass -/

/-- What is read for a field that may be absent. -/
def Reads (d : Decoder α) (default : α) (raw? : Option Json) (x : α) : Prop :=
  match raw? with
  | some raw => d raw = .ok x
  | none => x = default

/-- A value is read in at most one way. -/
theorem Reads.unique {d : Decoder α} {default : α} {raw? : Option Json} {x y : α}
    (hx : Reads d default raw? x) (hy : Reads d default raw? y) : x = y := by
  cases raw? with
  | none => exact hx.trans hy.symm
  | some raw => exact Except.ok.inj (hx.symm.trans hy)

theorem reads_of_optional {name : String} {d : Decoder α} {default x : α} {aliases : List String}
    {found : List (String × Json)} (h : (optional name d default aliases).build found = .ok x) :
    Reads d default (found.lookup name) x := by
  simp only [optional] at h
  split at h
  · next hlookup => rw [hlookup]; exact h
  · next hlookup => rw [hlookup]; exact (Except.ok.inj h).symm

theorem eq_str_of_string {v : Json} {t : String} (h : string v = .ok t) : v = .str t := by
  cases v with
  | str s => rw [Except.ok.inj h]
  | null | bool | int | float | arr | obj => cases h

theorem exists_of_required {name : String} {d : Decoder α} {x : α} {aliases : List String}
    {found : List (String × Json)} (h : (required name d aliases).build found = .ok x) :
    ∃ v, found.lookup name = some v ∧ d v = .ok x := by
  simp only [required] at h
  split at h
  · next v hlookup => exact ⟨v, hlookup, h⟩
  · cases h

theorem exists_of_build_map {f : α → β} {r : Record α} {found : List (String × Json)} {y : β}
    (h : (f <$> r).build found = .ok y) : ∃ x, r.build found = .ok x ∧ f x = y :=
  exists_of_map h

theorem exists_of_build_seq {r : Record (α → β)} {q : Record α} {found : List (String × Json)}
    {y : β} (h : (r <*> q).build found = .ok y) :
    ∃ f x, r.build found = .ok f ∧ q.build found = .ok x ∧ f x = y := by
  obtain ⟨f, hf, h⟩ := exists_of_bind h
  obtain ⟨x, hx, h⟩ := exists_of_bind h
  exact ⟨f, x, hf, hx, Except.ok.inj h⟩

/-- **Records**: a record is built from fields each of which is read from what stands for it. -/
theorem build_of_record {typeName : String} {r : Record α} {names : List String}
    (h : Plain r.fields) (hnames : namesOf r.fields = names) {v : Json} {x : α}
    (hx : record typeName r v = .ok x) :
    ∃ found, r.build found = .ok x ∧
      ∀ {β : Type} {name : String} {d : Decoder β} {default y : β}, name ∈ names →
        (optional name d default []).build found = .ok y →
          Reads d default (valueFor? names name v) y := by
  subst hnames
  cases v with
  | obj entries =>
      obtain ⟨found, hscan, hbuild⟩ := exists_of_bind hx
      refine ⟨found, hbuild, fun hname hy => ?_⟩
      have hlookup := lookup_scan (h.sole _) hname hscan
      rw [List.lookup_nil, Option.none_or] at hlookup
      rw [valueFor?, ← hlookup]
      exact reads_of_optional hy
  | arr items =>
      obtain ⟨found, halign, hbuild⟩ := exists_of_bind hx
      refine ⟨found, hbuild, fun hname hy => ?_⟩
      rw [valueFor?, ← lookup_align halign hname]
      exact reads_of_optional hy
  | null | bool _ | int _ | float _ | str _ => cases hx

end Gatehouse.Json.Decoder

import Gatehouse.Text.Basic

/-!
# Header fields

One field for each name, with all values of the name in the order they were added. A name that is
new comes last. Where a field is taken out the last one takes its place, so values of one name keep
their order but names do not.
-/

namespace Gatehouse.Http

/-- A header field and its values. There is at least one. -/
structure Field where
  /-- In lower case. -/
  name : String
  first : String
  more : List String
deriving DecidableEq, Repr, Inhabited

def Field.values (f : Field) : List String := f.first :: f.more

/-- Header fields, one for each name. -/
structure Headers where
  entries : List Field
  distinct : (entries.map Field.name).Nodup
deriving DecidableEq, Repr

namespace Headers

def empty : Headers := ⟨[], List.nodup_nil⟩

instance : Inhabited Headers := ⟨empty⟩

/-- All names with their values, one after the other. -/
def fields (h : Headers) : List (String × String) :=
  h.entries.flatMap fun f => f.values.map fun v => (f.name, v)

/-- The field of a name that is in lower case. -/
def find? (h : Headers) (name : String) : Option Field := h.entries.find? fun f => f.name == name

/-! ### Adding -/

/-- Add a value to the field of its name, or at the end. -/
def extend (name value : String) : List Field → List Field
  | [] => [⟨name, value, []⟩]
  | f :: r =>
    if f.name = name then { f with more := f.more ++ [value] } :: r else f :: extend name value r

theorem names_extend (name value : String) (l : List Field) :
    (extend name value l).map Field.name =
      if name ∈ l.map Field.name then l.map Field.name else l.map Field.name ++ [name] := by
  induction l with
  | nil => rfl
  | cons f r ih =>
    rw [extend]
    by_cases hf : f.name = name
    · simp [hf]
    · rw [if_neg hf, List.map_cons, ih, List.map_cons]
      simp only [List.mem_cons, Ne.symm hf, false_or]
      split <;> rfl

theorem nodup_extend (name value : String) {l : List Field} (h : (l.map Field.name).Nodup) :
    ((extend name value l).map Field.name).Nodup := by
  rw [names_extend]
  split
  · exact h
  · next hnew =>
    refine List.nodup_append.2 ⟨h, List.pairwise_singleton _ _, fun a ha b hb => ?_⟩
    rintro rfl
    exact hnew (List.mem_singleton.1 hb ▸ ha)

def add (h : Headers) (name value : String) : Headers :=
  ⟨extend (Text.lowerAscii name) value h.entries, nodup_extend _ _ h.distinct⟩

def ofList (fields : List (String × String)) : Headers :=
  fields.foldl (fun h f => h.add f.1 f.2) empty

/-! ### Taking out -/

/-- Take the field of a name out. The last one takes its place. -/
def vacate (name : String) : List Field → List Field
  | [] => []
  | f :: r =>
    if f.name = name then
      match r.getLast? with
      | some last => last :: r.dropLast
      | none => []
    else f :: vacate name r

/-- The others are still there. -/
theorem perm_vacate (name : String) (l : List Field) :
    (vacate name l).Perm (l.eraseP fun f => f.name == name) := by
  induction l with
  | nil => exact .refl _
  | cons f r ih =>
    rw [vacate]
    by_cases hf : f.name = name
    · rw [if_pos hf, List.eraseP_cons_of_pos (by simpa using hf)]
      cases hlast : r.getLast? with
      | none => exact .of_eq (List.getLast?_eq_none_iff.1 hlast).symm
      | some last =>
        obtain ⟨front, rfl⟩ := List.getLast?_eq_some_iff.1 hlast
        show (last :: (front ++ [last]).dropLast).Perm (front ++ [last])
        rw [List.dropLast_concat]
        exact (List.perm_append_singleton last front).symm
    · rw [if_neg hf, List.eraseP_cons_of_neg (by simpa using hf)]
      exact ih.cons f

theorem nodup_vacate (name : String) {l : List Field} (h : (l.map Field.name).Nodup) :
    ((vacate name l).map Field.name).Nodup := by
  have hperm := (perm_vacate name l).map Field.name
  exact hperm.nodup_iff.2 (h.sublist (List.eraseP_sublist.map Field.name))

def remove (h : Headers) (name : String) : Headers :=
  ⟨vacate name h.entries, nodup_vacate name h.distinct⟩

/-- The fields without those of some names, which are taken out one after the other. -/
def without (h : Headers) (names : List String) : Headers := names.foldl remove h

/-! ### Reading -/

/-- Whether a value can be read as text: visible ASCII, spaces and tabs. -/
def isReadable (value : String) : Bool :=
  value.toList.all fun c => (0x20 ≤ c.toNat && c.toNat < 0x7F) || c == '\t'

/-- The first value of a name, whether it can be read or not. -/
def first? (h : Headers) (name : String) : Option String :=
  (h.find? (Text.lowerAscii name)).map Field.first

/-- The first value of a name if it can be read. -/
def read? (h : Headers) (name : String) : Option String := (h.first? name).filter isReadable

end Headers

end Gatehouse.Http

import Gatehouse.Keyed

/-!
# Tables

Finite maps with text keys. The entries are held in the order of their keys, so two tables that
answer every look-up alike are equal (`Table.ext`), whatever was done to them before.
-/

namespace Gatehouse

/-- A finite map with text keys. -/
structure Table (α : Type u) where
  entries : List (String × α)
  ordered : Keyed.Ordered entries

namespace Table

def empty : Table α := ⟨[], Keyed.ordered_nil⟩

instance : Inhabited (Table α) := ⟨empty⟩

instance : EmptyCollection (Table α) := ⟨empty⟩

instance [Repr α] : Repr (Table α) := ⟨fun t n => reprPrec t.entries n⟩

def get? (t : Table α) (k : String) : Option α := t.entries.lookup k

def contains (t : Table α) (k : String) : Bool := (t.get? k).isSome

def insert (t : Table α) (k : String) (v : α) : Table α :=
  ⟨Keyed.put k v t.entries, t.ordered.put k v⟩

def erase (t : Table α) (k : String) : Table α :=
  ⟨Keyed.erase k t.entries, t.ordered.erase k⟩

def filter (t : Table α) (p : String → α → Bool) : Table α :=
  ⟨t.entries.filter fun e => p e.1 e.2, t.ordered.filter _⟩

def map (t : Table α) (f : α → β) : Table β :=
  ⟨t.entries.map fun e => (e.1, f e.2),
    by simpa only [Keyed.Ordered, List.pairwise_map] using t.ordered⟩

/-- The table of a list of pairs, of equal keys the last one. -/
def ofList (l : List (String × α)) : Table α := ⟨Keyed.ofList l, Keyed.ordered_ofList l⟩

def size (t : Table α) : Nat := t.entries.length

def keys (t : Table α) : List String := t.entries.map Prod.fst

def values (t : Table α) : List α := t.entries.map Prod.snd

@[ext] theorem ext {t u : Table α} (h : ∀ k, t.get? k = u.get? k) : t = u := by
  cases t
  cases u
  congr 1
  exact Keyed.ext ‹_› ‹_› h

@[simp] theorem get?_empty (k : String) : (empty : Table α).get? k = none := rfl

theorem get?_insert (t : Table α) (k q : String) (v : α) :
    (t.insert k v).get? q = if q = k then some v else t.get? q := Keyed.lookup_put k q v t.entries

theorem get?_erase (t : Table α) (k q : String) :
    (t.erase k).get? q = if q = k then none else t.get? q := Keyed.lookup_erase k q t.entries

@[simp] theorem get?_map (t : Table α) (f : α → β) (k : String) :
    (t.map f).get? k = (t.get? k).map f := Keyed.lookup_map f k t.entries

theorem get?_eq_some_iff {t : Table α} {k : String} {v : α} :
    t.get? k = some v ↔ (k, v) ∈ t.entries := Keyed.lookup_eq_some_iff t.ordered

theorem get?_filter (t : Table α) (p : String → α → Bool) (k : String) :
    (t.filter p).get? k = (t.get? k).filter (p k) := by
  apply Option.ext
  intro v
  rw [get?_eq_some_iff, Option.filter_eq_some_iff, get?_eq_some_iff]
  exact List.mem_filter

theorem insert_insert (t : Table α) (k : String) (v w : α) :
    (t.insert k v).insert k w = t.insert k w := by
  apply ext
  intro r
  simp only [get?_insert]
  split <;> rfl

theorem erase_erase (t : Table α) (k : String) : (t.erase k).erase k = t.erase k := by
  apply ext
  intro r
  simp only [get?_erase]
  split <;> rfl

theorem filter_filter (t : Table α) (p : String → α → Bool) :
    (t.filter p).filter p = t.filter p := by
  apply ext
  intro r
  simp only [get?_filter, Option.filter_filter, Bool.and_self]

theorem insert_comm (t : Table α) {k q : String} (h : k ≠ q) (v w : α) :
    (t.insert k v).insert q w = (t.insert q w).insert k v := by
  apply ext
  intro r
  simp only [get?_insert]
  by_cases hk : r = k
  · simp [hk, h]
  · simp [hk]

theorem erase_insert (t : Table α) {k q : String} (h : k ≠ q) (v : α) :
    (t.insert k v).erase q = (t.erase q).insert k v := by
  apply ext
  intro r
  simp only [get?_insert, get?_erase]
  by_cases hk : r = k
  · simp [hk, h]
  · simp [hk]

theorem erase_comm (t : Table α) (k q : String) : (t.erase k).erase q = (t.erase q).erase k := by
  apply ext
  intro r
  simp only [get?_erase]
  split <;> split <;> rfl

theorem filter_comm (t : Table α) (p q : String → α → Bool) :
    (t.filter p).filter q = (t.filter q).filter p := by
  apply ext
  intro r
  simp only [get?_filter, Option.filter_filter, Bool.and_comm]

/-- What a table made of a list finds is the last pair of the key. -/
theorem get?_ofList (l : List (String × α)) (k : String) :
    (ofList l).get? k = l.reverse.lookup k := Keyed.lookup_ofList l k

/-- What a table made of some values under their keys finds is the last value with the key. -/
theorem get?_ofList_map (key : α → String) (l : List α) (k : String) :
    (ofList (l.map fun x => (key x, x))).get? k = l.reverse.find? fun x => key x == k := by
  rw [get?_ofList, ← List.map_reverse]
  induction l.reverse with
  | nil => rfl
  | cons x l ih => rw [List.map_cons, List.lookup_cons, List.find?_cons, ih, BEq.comm]

/-- What a list's table finds is in the list. -/
theorem mem_of_get?_ofList {l : List (String × α)} {k : String} {v : α}
    (h : (ofList l).get? k = some v) : (k, v) ∈ l :=
  Keyed.mem_of_mem_ofList (get?_eq_some_iff.1 h)

theorem mem_keys_iff {t : Table α} {k : String} : k ∈ t.keys ↔ ∃ v, t.get? k = some v := by
  simp [keys, get?_eq_some_iff]

theorem mem_values_iff {t : Table α} {v : α} : v ∈ t.values ↔ ∃ k, t.get? k = some v := by
  simp [values, get?_eq_some_iff]

theorem nodup_keys (t : Table α) : t.keys.Nodup := t.ordered.nodup_keys

/-- A table has as many entries as there are different keys with a value. -/
theorem size_eq_length {t : Table α} {ks : List String} (hks : ks.Nodup)
    (h : ∀ k, k ∈ ks ↔ ∃ v, t.get? k = some v) : t.size = ks.length := by
  have hperm : t.keys.Perm ks :=
    (List.perm_ext_iff_of_nodup t.nodup_keys hks).2 fun k => mem_keys_iff.trans (h k).symm
  rw [← hperm.length_eq, keys, List.length_map, size]

end Table

end Gatehouse

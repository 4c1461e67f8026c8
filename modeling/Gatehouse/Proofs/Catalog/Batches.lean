import Gatehouse.Proofs.Catalog.Determined

/-!
# Batches

A group can be replaced by a batch, or its entries can be written one after the other. A batch is
put together in another way than single entries are written: it is gathered first and sorted at the
end. Where the group is empty **both come to the same** (`Stands.foldl_put`), except for services,
which are found by two names.

The stages hear the same as well. There is nothing to drop (`dropped_eq_nil`), and what is said of
a written entry does not depend on the rest of its group (`written_congr`).
-/

namespace Gatehouse

open Ledger

/-! ## Tables and indexes -/

namespace Table

theorem eq_empty_of_size {t : Table α} (h : t.size = 0) : t = empty := by
  obtain ⟨entries, ordered⟩ := t
  obtain rfl : entries = [] := List.length_eq_zero_iff.1 h
  rfl

private theorem entries_foldl_insert (l : List (String × α)) (t : Table α) :
    (l.foldl (fun t e => t.insert e.1 e.2) t).entries =
      l.foldl (fun acc e => Keyed.put e.1 e.2 acc) t.entries := by
  induction l generalizing t with
  | nil => rfl
  | cons e l ih => exact ih (t.insert e.1 e.2)

/-- The table of a list has its pairs written one after the other. -/
theorem ofList_eq (l : List (String × α)) :
    ofList l = l.foldl (fun t e => t.insert e.1 e.2) empty := by
  have hentries := entries_foldl_insert l empty
  generalize l.foldl (fun t e => t.insert e.1 e.2) empty = t at hentries
  obtain ⟨entries, ordered⟩ := t
  subst hentries
  rfl

end Table

namespace Index

variable [Owned α] {ix : Index α} {l : List α}

/-- One write after the other keeps an index in step with its ledger. -/
theorem Holds.insertAll (h : Holds inOrder ix l) (items : List α) :
    Holds inOrder (items.foldl Index.insert ix) (items.foldl write l) := by
  induction items generalizing ix l with
  | nil => exact h
  | cons x items ih => exact ih (h.insert x)

theorem Tidy.insertAll (h : ix.Tidy) (items : List α) :
    (items.foldl Index.insert ix).Tidy := by
  induction items generalizing ix with
  | nil => exact h
  | cons x items ih => exact ih (h.insert x)

/-- **The index of a batch** is what writing its entries one after the other comes to. -/
theorem ofList_eq (items : List α) : ofList items = items.foldl Index.insert empty := by
  have hsingle := (holds_empty (inOrder : List α → List α) inOrder_nil).insertAll items
  exact Ledger.eq_of_alike (holds_ofList items) hsingle (tidy_ofList items)
    (tidy_empty.insertAll items) (.refl _)

/-- An index without entries is the empty one. -/
theorem Holds.eq_empty (h : Holds inOrder ix l) (ht : ix.Tidy) (hsize : ix.size = 0) :
    ix = empty := by
  rw [h.size_eq] at hsize
  obtain rfl := List.length_eq_zero_iff.1 hsize
  exact Ledger.eq_of_alike h (holds_empty inOrder inOrder_nil) ht tidy_empty (.refl _)

end Index

/-! ## Catalogues -/

/-! What the parts of a catalogue take of an entry. -/

namespace Item

def descriptor? : Item → Option (String × Descriptor)
  | .descriptor d => some (d.name, d)
  | _ => none

def selector? : Item → Option Selector
  | .selector s => some s
  | _ => none

def rule? : Item → Option Rule
  | .rule r => some r
  | _ => none

def credential? : Item → Option (String × Credential)
  | .credential a => some (a.key, a)
  | _ => none

end Item

namespace Catalog

variable {c : Catalog} {L : Ledgers} {group : Group}

/-- Writing entries of a group changes one part of a catalogue again and again. `whole` is the
catalogue with that part, `read` is what the part takes of an entry. -/
theorem foldl_put_eq (whole : β → Catalog) (read : Item → Option α) (change : β → α → β)
    (hput : ∀ part item, item.group = group →
      ∃ x, read item = some x ∧ (whole part).put item = whole (change part x))
    {items : List Item} (hitems : ∀ item ∈ items, item.group = group) (part : β) :
    items.foldl put (whole part) = whole ((items.filterMap read).foldl change part) := by
  induction items generalizing part with
  | nil => rfl
  | cons item items ih =>
      obtain ⟨x, hread, hitem⟩ := hput part item (hitems item List.mem_cons_self)
      rw [List.foldl_cons, List.filterMap_cons_some hread, List.foldl_cons, hitem,
        ih fun i hi => hitems i (List.mem_cons_of_mem item hi)]

/-- **An empty group** may be filled by a batch or entry by entry. -/
theorem Stands.foldl_put (h : Stands c L) (hgroup : group ≠ .metaData) (hempty : c.size group = 0)
    {items : List Item} (hitems : ∀ item ∈ items, item.group = group) :
    items.foldl put c = c.replaceAll group items := by
  -- in each group but that of the services a batch is an upsert of each entry into nothing
  cases group with
  | plugin =>
      have hnone : c.descriptors = .empty := Table.eq_empty_of_size hempty
      have hfilled := foldl_put_eq (fun t => { c with descriptors := t }) Item.descriptor?
        (fun t e => t.insert e.1 e.2) (fun t item hkind => by
          cases item <;> cases hkind
          exact ⟨_, rfl, rfl⟩) hitems c.descriptors
      rw [hnone, ← Table.ofList_eq, ← hnone] at hfilled
      exact hfilled
  | selector =>
      have hnone : c.selectors = .empty := h.keeps.selectors.eq_empty h.tidySelectors hempty
      have hfilled := foldl_put_eq (fun ix => { c with selectors := ix }) Item.selector?
        Index.insert (fun ix item hkind => by
          cases item <;> cases hkind
          exact ⟨_, rfl, rfl⟩) hitems c.selectors
      rw [hnone, ← Index.ofList_eq, ← hnone] at hfilled
      exact hfilled
  | rule =>
      have hnone : c.rules = .empty := h.keeps.rules.eq_empty h.tidyRules hempty
      have hfilled := foldl_put_eq (fun ix => { c with rules := ix }) Item.rule?
        Index.insert (fun ix item hkind => by
          cases item <;> cases hkind
          exact ⟨_, rfl, rfl⟩) hitems c.rules
      rw [hnone, ← Index.ofList_eq, ← hnone] at hfilled
      exact hfilled
  | metaData => exact absurd rfl hgroup
  | appAuth =>
      have hnone : c.credentials = .empty := Table.eq_empty_of_size hempty
      have hfilled := foldl_put_eq (fun t => { c with credentials := t }) Item.credential?
        (fun t e => t.insert e.1 e.2) (fun t item hkind => by
          cases item <;> cases hkind
          exact ⟨_, rfl, rfl⟩) hitems c.credentials
      rw [hnone, ← Table.ofList_eq, ← hnone] at hfilled
      exact hfilled

theorem selectors_put {item : Item} (h : item.group ≠ .selector) :
    (c.put item).selectors = c.selectors := by
  cases item with
  | selector s => exact absurd rfl h
  | descriptor _ | rule _ | service _ | credential _ => rfl

end Catalog

/-! ## Messages -/

namespace Feed

variable {c d : Catalog} {group : Group}

theorem values_eq_nil {t : Table α} (h : t.size = 0) : t.values = [] := by
  rw [Table.eq_empty_of_size h]
  rfl

/-- Where there is nothing, nothing is dropped. -/
theorem dropped_eq_nil (hempty : c.size group = 0) (coming : List Item) :
    dropped c group coming = [] := by
  cases group with
  | plugin =>
      have hnone : c.descriptors.values = [] := values_eq_nil hempty
      simp [dropped, hnone]
  | selector =>
      have hnone : c.selectors.byId.values = [] := values_eq_nil hempty
      simp [dropped, hnone]
  | rule =>
      have hnone : c.rules.byId.values = [] := values_eq_nil hempty
      simp [dropped, hnone]
  | metaData | appAuth => rfl

/-- What is said of a written entry takes at most the selectors to know. -/
theorem written_congr {item : Item} (h : item.group = .rule → c.selectors = d.selectors) :
    written c item = written d item := by
  cases item with
  | rule r => simp only [written, aboutRule, stageOfRule?, h rfl]
  | descriptor _ | selector _ | service _ | credential _ => rfl

end Feed

end Gatehouse

import Gatehouse.Catalog.Feed
import Gatehouse.Proofs.Catalog.Edits

/-!
# What determines a catalogue

An index lists no owner of nothing (`Index.Tidy`), however it was made, so it is determined by its
answers (`Index.eq_of_answers`). These can be read off the ledger that it holds, and of the order of
a ledger they show only as much as the lists of owners do (`Ledger.Alike`).

A catalogue that was made by edits is tidy and holds its ledgers (`Catalog.Stands`). **It is
determined by its ledgers and its tables** (`Catalog.Stands.eq_of_alike`), so an equation between
catalogues is one between ledgers, where an edit is a line. What an event of the feed does to a
catalogue is an edit too, or nothing (`Feed.catalog_apply`).
-/

namespace Gatehouse

open Ledger

/-! ## Indexes -/

namespace Index

/-- No owner of nothing is listed. -/
def Tidy (ix : Index α) : Prop := ∀ owner, ix.byOwner.get? owner ≠ some []

/-- What an index lists for an owner, in terms of its answer. -/
theorem Tidy.get?_byOwner {ix : Index α} (h : ix.Tidy) (owner : String) :
    ix.byOwner.get? owner = if ix.under owner = [] then none else some (ix.under owner) := by
  have hlist := h owner
  rw [under]
  cases hget : ix.byOwner.get? owner with
  | none => rfl
  | some list =>
      rw [hget] at hlist
      rw [Option.getD_some, if_neg fun hnil => hlist (congrArg some hnil)]

/-- **An index is determined by its answers.** -/
theorem eq_of_answers {ix ix' : Index α} (h : ix.Tidy) (h' : ix'.Tidy)
    (hget : ∀ id, ix.get? id = ix'.get? id) (hunder : ∀ owner, ix.under owner = ix'.under owner) :
    ix = ix' := by
  have hbyId : ix.byId = ix'.byId := Table.ext hget
  have hbyOwner : ix.byOwner = ix'.byOwner := by
    apply Table.ext
    intro owner
    rw [h.get?_byOwner, h'.get?_byOwner, hunder]
  cases ix
  cases ix'
  rw [Index.mk.injEq]
  exact ⟨hbyId, hbyOwner⟩

/-! ### Being tidy -/

theorem tidy_empty : (empty : Index α).Tidy := by
  intro owner h
  cases h

/-- No owner keeps an empty list. -/
theorem setUnder_ne_nil {lists : Table (List α)} (h : ∀ owner, lists.get? owner ≠ some [])
    (owner p : String) (list : List α) : (setUnder lists owner list).get? p ≠ some [] := by
  rw [setUnder]
  split
  · rw [Table.get?_erase]
    split
    · simp
    · exact h p
  · next hlist =>
      rw [Table.get?_insert]
      split
      · intro hnil
        rw [Option.some.inj hnil] at hlist
        exact hlist rfl
      · exact h p

/-- An owner that is given entries owns something. -/
theorem Tidy.give {ix : Index α} (h : ix.Tidy) (byId : Table α) (owner : String) {list : List α}
    (hlist : list ≠ []) : (⟨byId, ix.byOwner.insert owner list⟩ : Index α).Tidy := by
  intro p
  show (ix.byOwner.insert owner list).get? p ≠ some []
  rw [Table.get?_insert]
  split
  · exact fun hnil => hlist (Option.some.inj hnil)
  · exact h p

variable [Owned α]

theorem Tidy.erase {ix : Index α} (h : ix.Tidy) (id : String) : (ix.erase id).Tidy := by
  intro owner
  rw [Index.erase]
  split
  · exact h owner
  · exact setUnder_ne_nil h _ owner _

theorem place_ne_nil (x : α) (l : List α) : place x l ≠ [] := by
  cases l with
  | nil => exact List.cons_ne_nil x []
  | cons y l =>
      rw [place]
      split
      · exact List.cons_ne_nil _ _
      · exact List.cons_ne_nil _ _

theorem Tidy.insert {ix : Index α} (h : ix.Tidy) (x : α) : (ix.insert x).Tidy :=
  (h.erase (Owned.id x)).give _ _ (place_ne_nil x _)

theorem Tidy.gather {ix : Index α} (h : ix.Tidy) (x : α) : (ix.gather x).Tidy :=
  (h.erase (Owned.id x)).give _ _ (List.append_ne_nil_of_right_ne_nil _ (List.cons_ne_nil x []))

theorem tidy_ofList (items : List α) : (ofList items).Tidy := by
  have hgathered : ∀ ix : Index α, ix.Tidy → (items.foldl Index.gather ix).Tidy := by
    induction items with
    | nil => exact fun _ h => h
    | cons x items ih => exact fun ix h => ih _ (h.gather x)
  intro owner
  have howner := hgathered empty tidy_empty owner
  rw [ofList, Table.get?_map]
  cases hget : (items.foldl Index.gather empty).byOwner.get? owner with
  | none => simp
  | some list =>
      intro hnil
      have hsame : list = [] := by
        have hlength : (inOrder list).length = list.length := List.length_mergeSort list
        rw [Option.map_some] at hnil
        rw [Option.some.inj hnil] at hlength
        exact List.length_eq_zero_iff.1 hlength.symm
      rw [hget, hsame] at howner
      exact howner rfl

theorem Tidy.eraseOwner {ix : Index α} (h : ix.Tidy) (owner : String) :
    (ix.eraseOwner owner).Tidy := by
  intro p
  rw [Index.eraseOwner, Table.get?_erase]
  split
  · simp
  · exact h p

end Index

/-! ## Ledgers -/

namespace Ledger

variable [Owned α]

/-- Ledgers that an index cannot tell apart: they have the same entries, and for every owner in the
same order. -/
structure Alike (l m : List α) : Prop where
  mem_iff : ∀ x, x ∈ l ↔ x ∈ m
  inOrder_eq : ∀ owner, Index.inOrder (ownedBy owner l) = Index.inOrder (ownedBy owner m)

theorem Alike.refl (l : List α) : Alike l l := ⟨fun _ => Iff.rfl, fun _ => rfl⟩

/-- **An index is determined by its ledger.** -/
theorem eq_of_alike {ix ix' : Index α} {l m : List α} (h : Index.Holds Index.inOrder ix l)
    (h' : Index.Holds Index.inOrder ix' m) (ht : ix.Tidy) (ht' : ix'.Tidy) (halike : Alike l m) :
    ix = ix' := by
  apply Index.eq_of_answers ht ht'
  · intro id
    apply Option.ext
    intro x
    rw [h.get?_iff, h'.get?_iff, halike.mem_iff]
  · intro owner
    rw [h.under_eq, h'.under_eq, halike.inOrder_eq]

end Ledger

/-! ## Catalogues -/

namespace Catalog

/-- A catalogue holds its ledgers and lists no owner of nothing. -/
structure Stands (c : Catalog) (L : Ledgers) : Prop where
  keeps : c.Keeps L
  tidySelectors : c.selectors.Tidy
  tidyRules : c.rules.Tidy

theorem stands_empty : Stands .empty .empty := ⟨keeps_empty, Index.tidy_empty, Index.tidy_empty⟩

/-- An edit takes catalogue and ledgers the same way. -/
theorem Stands.edit {c : Catalog} {L : Ledgers} (h : Stands c L) (e : Edit) :
    Stands (c.edit e) (L.edit e) := by
  -- only two groups are indexed, and a deleted selector touches both
  refine ⟨h.keeps.edit e, ?_, ?_⟩
  · cases e with
    | replaceAll group items =>
        cases group with
        | selector => exact Index.tidy_ofList _
        | plugin | rule | metaData | appAuth => exact h.tidySelectors
    | put item =>
        cases item with
        | selector s => exact h.tidySelectors.insert s
        | descriptor _ | rule _ | service _ | credential _ => exact h.tidySelectors
    | delete group key =>
        cases group with
        | selector => exact h.tidySelectors.erase key
        | plugin | rule | metaData | appAuth => exact h.tidySelectors
  · cases e with
    | replaceAll group items =>
        cases group with
        | rule => exact Index.tidy_ofList _
        | plugin | selector | metaData | appAuth => exact h.tidyRules
    | put item =>
        cases item with
        | rule r => exact h.tidyRules.insert r
        | descriptor _ | selector _ | service _ | credential _ => exact h.tidyRules
    | delete group key =>
        cases group with
        | rule => exact h.tidyRules.erase key
        | selector =>
            show (if c.holds .selector key then c.rules.eraseOwner key else c.rules).Tidy
            split
            · exact h.tidyRules.eraseOwner key
            · exact h.tidyRules
        | plugin | metaData | appAuth => exact h.tidyRules

/-- Hence so does any run of edits, by induction on it. -/
theorem Stands.editAll {c : Catalog} {L : Ledgers} (h : Stands c L) (edits : List Edit) :
    Stands (c.editAll edits) (L.editAll edits) := by
  induction edits generalizing c L with
  | nil => exact h
  | cons e edits ih => exact ih (h.edit e)

/-- The groups of a catalogue that are kept in tables. -/
structure Tables where
  descriptors : Table Descriptor
  services : Table Service
  credentials : Table Credential

def tables (c : Catalog) : Tables := ⟨c.descriptors, c.services, c.credentials⟩

/-- **A catalogue is determined** by its tables and its ledgers, up to what the ledgers show. -/
theorem Stands.eq_of_alike {c d : Catalog} {L M : Ledgers} (h : Stands c L) (h' : Stands d M)
    (htables : c.tables = d.tables) (hselectors : Alike L.selectors M.selectors)
    (hrules : Alike L.rules M.rules) : c = d := by
  have hs : c.selectors = d.selectors :=
    Ledger.eq_of_alike h.keeps.selectors h'.keeps.selectors h.tidySelectors h'.tidySelectors
      hselectors
  have hr : c.rules = d.rules :=
    Ledger.eq_of_alike h.keeps.rules h'.keeps.rules h.tidyRules h'.tidyRules hrules
  obtain ⟨descriptors, selectors, rules, services, credentials⟩ := c
  obtain ⟨rfl, rfl, rfl⟩ := Tables.mk.inj htables
  obtain rfl := hs
  obtain rfl := hr
  rfl

/-- The ledgers and the plain tables say all about a catalogue, the indices included. -/
theorem Stands.eq {c d : Catalog} {L : Ledgers} (h : Stands c L) (h' : Stands d L)
    (htables : c.tables = d.tables) : c = d :=
  h.eq_of_alike h' htables (.refl _) (.refl _)

end Catalog

/-! ## Events of the feed -/

namespace Feed

/-- What an event does to a catalogue. A malformed entry does nothing. -/
def Event.edit? : Event → Option Catalog.Edit
  | .replaceAll group raw => some (.replaceAll group (Item.parseAll group raw))
  | .put group raw => (Item.parse group raw).toOption.map .put
  | .delete group key => some (.delete group key)

/-- Of an event only its edit matters to the catalogue. -/
theorem catalog_apply (c : Catalog) (e : Event) :
    (apply c e).catalog = (e.edit?.map c.edit).getD c := by
  cases e with
  | replaceAll group raw => rfl
  | put group raw =>
      rw [apply, Event.edit?]
      cases Item.parse group raw <;> rfl
  | delete group key => rfl

/-- A full synchronisation dismisses what it drops before it tells of what it brings. -/
theorem messages_replaceAll (c : Catalog) (group : Group) (raw : List Json) :
    (apply c (.replaceAll group raw)).messages = dropped c group (Item.parseAll group raw) ++
      (Item.parseAll group raw).flatMap
        (written (apply c (.replaceAll group raw)).catalog) := rfl

end Feed

end Gatehouse

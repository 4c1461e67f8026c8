import Gatehouse.Proofs.Catalog.Determined

/-!
# Repeated events

An edit that is made twice in a row does what it does when it is made once (`Stands.edit_edit`). In
the ledgers and the tables this can be seen line by line.

The stages hear of what is written every time, and of what is gone only once, so **what an event
says the second time is the end of what it said the first time** (`messages_again`).
-/

namespace Gatehouse

/-! ## Ledgers -/

namespace Ledger

variable [Owned α]

theorem strike_strike (id : String) (l : List α) : strike id (strike id l) = strike id l := by
  simp [strike, List.filter_filter]

/-- An entry that is written once more stays where it is. -/
theorem write_again (l : List α) (x : α) : write (write l x) x = write l x := by
  have hx : strike (Owned.id x) [x] = [] := by simp [strike]
  rw [write, write, strike_append, strike_strike, hx, List.append_nil]

end Ledger

open Ledger

/-- An edit that is repeated leaves the ledgers as they are. -/
theorem Ledgers.edit_edit (L : Ledgers) (e : Catalog.Edit) : (L.edit e).edit e = L.edit e := by
  cases e with
  | replaceAll group items => cases group <;> rfl
  | put item =>
      cases item with
      | selector s => simp only [edit, write_again]
      | rule r => simp only [edit, write_again]
      | descriptor _ | service _ | credential _ => rfl
  | delete group key =>
      cases group with
      | selector =>
          by_cases hthere : L.selectors.any fun s => s.id == key
          · -- the first deletion takes the selector away, so the second one finds nothing
            have hgone : ¬ (strike key L.selectors).any fun s => s.id == key := by
              simp [strike, Owned.id]
            have hstruck : L.edit (.delete .selector key) =
                ⟨strike key L.selectors, strikeOwner key L.rules⟩ := if_pos hthere
            rw [hstruck]
            exact if_neg hgone
          · have hsame : L.edit (.delete .selector key) = L := if_neg hthere
            rw [hsame, hsame]
      | rule => simp only [edit, strike_strike]
      | plugin | metaData | appAuth => rfl

/-! ## Catalogues -/

namespace Catalog

theorem putService_again (services : Table Service) (s : Service) :
    putService (putService services s) s = putService services s := by
  apply Table.ext
  intro q
  simp only [putService, Table.get?_insert, Table.get?_filter]
  by_cases hs : q = s.path
  · simp [hs]
  · simp only [if_neg hs, Option.filter_filter, Bool.and_self]

theorem tables_edit_edit (c : Catalog) (e : Edit) :
    ((c.edit e).edit e).tables = (c.edit e).tables := by
  cases e with
  | replaceAll group items => cases group <;> rfl
  | put item =>
      cases item with
      | descriptor d => simp only [edit, put, tables, Table.insert_insert]
      | service s => simp only [edit, put, tables, putService_again]
      | credential a => simp only [edit, put, tables, Table.insert_insert]
      | selector _ | rule _ => rfl
  | delete group key =>
      cases group with
      | plugin => simp only [edit, delete, tables, Table.erase_erase]
      | metaData => simp only [edit, delete, tables, Table.filter_filter]
      | appAuth => simp only [edit, delete, tables, Table.erase_erase]
      | selector | rule => rfl

/-- **A repeated edit** changes nothing more. -/
theorem Stands.edit_edit {c : Catalog} {L : Ledgers} (h : Stands c L) (e : Edit) :
    (c.edit e).edit e = c.edit e := by
  have htwice := (h.edit e).edit e
  rw [Ledgers.edit_edit] at htwice
  exact htwice.eq (h.edit e) (tables_edit_edit c e)

/-! ### What a batch leaves -/

theorem mem_of_get?_index [Owned α] {items : List α} {id : String} {x : α}
    (h : (Index.ofList items).get? id = some x) : x ∈ items := by
  rw [Index.get?_ofList] at h
  exact (List.mem_filter.1 (List.mem_of_getLast? h)).1

/-- What a group holds after a batch is in the batch. -/
theorem mem_of_get?_replaceAll {c : Catalog} {group : Group} {items : List Item} {key : String}
    {item : Item} (h : (c.replaceAll group items).get? group key = some item) : item ∈ items := by
  cases group with
  | plugin =>
      obtain ⟨d, hd, rfl⟩ := Option.map_eq_some_iff.1 h
      obtain ⟨item, hitem, hfound⟩ := List.mem_filterMap.1 (Table.mem_of_get?_ofList hd)
      split at hfound <;> cases hfound
      exact hitem
  | selector =>
      obtain ⟨s, hs, rfl⟩ := Option.map_eq_some_iff.1 h
      obtain ⟨item, hitem, hfound⟩ := List.mem_filterMap.1 (mem_of_get?_index hs)
      split at hfound <;> cases hfound
      exact hitem
  | rule =>
      obtain ⟨r, hr, rfl⟩ := Option.map_eq_some_iff.1 h
      obtain ⟨item, hitem, hfound⟩ := List.mem_filterMap.1 (mem_of_get?_index hr)
      split at hfound <;> cases hfound
      exact hitem
  | metaData =>
      obtain ⟨s, hs, rfl⟩ := Option.map_eq_some_iff.1 h
      obtain ⟨item, hitem, hfound⟩ := List.mem_filterMap.1 (Table.mem_of_get?_ofList hs)
      split at hfound <;> cases hfound
      exact hitem
  | appAuth =>
      obtain ⟨a, ha, rfl⟩ := Option.map_eq_some_iff.1 h
      obtain ⟨item, hitem, hfound⟩ := List.mem_filterMap.1 (Table.mem_of_get?_ofList ha)
      split at hfound <;> cases hfound
      exact hitem

end Catalog

/-! ## Events -/

namespace Feed

variable {c : Catalog} {L : Ledgers}

/-- An entry of a batch stays where the batch comes in. -/
private theorem stays_of_get? {group : Group} {items : List Item} {key : String} {item : Item}
    (h : (c.replaceAll group items).get? group key = some item) :
    ¬ (!items.any fun i => i.key == item.key) = true := by
  have hany : (items.any fun i => i.key == item.key) = true :=
    List.any_eq_true.2 ⟨item, Catalog.mem_of_get?_replaceAll h, beq_self_eq_true _⟩
  simp only [hany, Bool.not_true, Bool.false_eq_true, not_false_eq_true]

/-- After a batch there is nothing but the batch. -/
theorem dropped_replaceAll (c : Catalog) (group : Group) (items : List Item) :
    dropped (c.replaceAll group items) group items = [] := by
  cases group with
  | plugin =>
      rw [dropped, List.map_eq_nil_iff, List.filter_eq_nil_iff]
      intro d hd
      obtain ⟨k, hk⟩ := Table.mem_values_iff.1 hd
      have hheld : (c.replaceAll .plugin items).get? .plugin k = some (.descriptor d) :=
        congrArg (Option.map Item.descriptor) hk
      exact stays_of_get? hheld
  | selector =>
      rw [dropped, List.map_eq_nil_iff, List.filter_eq_nil_iff]
      intro s hs
      obtain ⟨k, hk⟩ := Table.mem_values_iff.1 hs
      have hheld : (c.replaceAll .selector items).get? .selector k = some (.selector s) :=
        congrArg (Option.map Item.selector) hk
      exact stays_of_get? hheld
  | rule =>
      have hstay : ((c.replaceAll .rule items).rules.byId.values.filter fun r =>
          !items.any fun i => i.key == r.id) = [] := by
        rw [List.filter_eq_nil_iff]
        intro r hr
        obtain ⟨k, hk⟩ := Table.mem_values_iff.1 hr
        have hheld : (c.replaceAll .rule items).get? .rule k = some (.rule r) :=
          congrArg (Option.map Item.rule) hk
        exact stays_of_get? hheld
      exact congrArg (List.flatMap _) hstay
  | metaData | appAuth => rfl

/-- After a deletion there is nothing to delete. -/
theorem deleted_delete (c : Catalog) (group : Group) (key : String) :
    deleted (c.delete group key) group key = [] := by
  cases group with
  | plugin => simp [deleted, Catalog.delete, Table.get?_erase]
  | selector => simp [deleted, Catalog.delete, Index.get?_erase]
  | rule => simp [deleted, Catalog.delete, Index.get?_erase]
  | metaData | appAuth => rfl

/-- One event twice leaves the catalogue that the event leaves once. -/
theorem catalog_apply_apply (h : c.Stands L) (e : Event) :
    (apply (apply c e).catalog e).catalog = (apply c e).catalog := by
  rw [catalog_apply, catalog_apply]
  cases e.edit? with
  | none => rfl
  | some d => exact h.edit_edit d

/-- **What an event says the second time** is the end of what it said the first time. -/
theorem messages_again (h : c.Stands L) (e : Event) :
    ∃ gone, (apply c e).messages = gone ++ (apply (apply c e).catalog e).messages := by
  have hsame := catalog_apply_apply h e
  cases e with
  | replaceAll group raw =>
      refine ⟨dropped c group (Item.parseAll group raw), ?_⟩
      have hnone : dropped (apply c (.replaceAll group raw)).catalog group
          (Item.parseAll group raw) = [] := dropped_replaceAll c group _
      rw [messages_replaceAll, messages_replaceAll, hsame, hnone, List.nil_append]
  | put group raw =>
      refine ⟨[], ?_⟩
      rw [List.nil_append]
      cases hitem : Item.parse group raw with
      | error f => simp only [apply, hitem]
      | ok item =>
          simp only [apply, hitem] at hsame ⊢
          rw [hsame]
  | delete group key =>
      refine ⟨(apply c (.delete group key)).messages, ?_⟩
      have hnone : (apply (apply c (.delete group key)).catalog (.delete group key)).messages =
          [] := deleted_delete c group key
      rw [hnone, List.append_nil]

end Feed

end Gatehouse

import Gatehouse.Catalog.Basic
import Gatehouse.Proofs.Catalog.Ledger

/-!
# The catalogue as two ledgers

The catalogue is changed by edits: a group is replaced, an entry is written, an entry is deleted.
`Ledgers` keeps its selectors and its rules as plain lists in the order of their last write, and
`Ledgers.edit` says in a line each what an edit does to them.

**Agreement** (`editAll_agrees`): after any edits at all the catalogue gives the answers of its
ledgers. The lists of a stage and of a selector are the ledger's entries in stable order, look-ups
by id find the entry of the ledger, and the sizes are the lengths. One edit keeps the agreement of
each index (`Keeps.edit`); the rest is induction on the edits.
-/

namespace Gatehouse

open Ledger Index

/-- A change to the catalogue. -/
inductive Catalog.Edit where
  | replaceAll (group : Group) (items : List Item)
  | put (item : Item)
  | delete (group : Group) (key : String)

namespace Catalog

def edit (c : Catalog) : Edit → Catalog
  | .replaceAll group items => c.replaceAll group items
  | .put item => c.put item
  | .delete group key => c.delete group key

def editAll (c : Catalog) (edits : List Edit) : Catalog := edits.foldl edit c

end Catalog

def selectorsAmong (items : List Item) : List Selector :=
  items.filterMap fun
    | .selector s => some s
    | _ => none

def rulesAmong (items : List Item) : List Rule :=
  items.filterMap fun
    | .rule r => some r
    | _ => none

/-- Selectors and rules in the order in which they were last written. -/
structure Ledgers where
  selectors : List Selector
  rules : List Rule

namespace Ledgers

def empty : Ledgers := ⟨[], []⟩

/-- The ledgers after an edit. A batch is written into an empty ledger one entry after the other,
and a selector that is there takes its rules along when it is deleted. -/
def edit (L : Ledgers) : Catalog.Edit → Ledgers
  | .replaceAll .selector items => { L with selectors := (selectorsAmong items).foldl write [] }
  | .replaceAll .rule items => { L with rules := (rulesAmong items).foldl write [] }
  | .replaceAll _ _ => L
  | .put (.selector s) => { L with selectors := write L.selectors s }
  | .put (.rule r) => { L with rules := write L.rules r }
  | .put _ => L
  | .delete .selector key =>
    if L.selectors.any fun s => s.id == key then
      ⟨strike key L.selectors, strikeOwner key L.rules⟩
    else L
  | .delete .rule key => { L with rules := strike key L.rules }
  | .delete _ _ => L

def editAll (L : Ledgers) (edits : List Catalog.Edit) : Ledgers := edits.foldl edit L

end Ledgers

namespace Catalog

/-! ### One edit -/

/-- Each index of the catalogue holds its ledger. -/
structure Keeps (c : Catalog) (L : Ledgers) : Prop where
  selectors : Holds inOrder c.selectors L.selectors
  rules : Holds inOrder c.rules L.rules

theorem keeps_empty : Keeps .empty .empty :=
  ⟨holds_empty inOrder inOrder_nil, holds_empty inOrder inOrder_nil⟩

/-- Whether a selector is there to be deleted is the same question on both sides. -/
theorem Keeps.holds_selector {c : Catalog} {L : Ledgers} (h : Keeps c L) (key : String) :
    c.holds .selector key = L.selectors.any fun s => s.id == key := by
  rw [Bool.eq_iff_iff, List.any_eq_true, holds, Option.isSome_iff_exists]
  refine exists_congr fun s => ?_
  rw [h.selectors.get?_iff, beq_iff_eq]
  exact Iff.rfl

theorem Keeps.replaceAll {c : Catalog} {L : Ledgers} (h : Keeps c L) (group : Group)
    (items : List Item) : Keeps (c.replaceAll group items) (L.edit (.replaceAll group items)) := by
  cases group with
  | selector => exact ⟨holds_ofList (selectorsAmong items), h.rules⟩
  | rule => exact ⟨h.selectors, holds_ofList (rulesAmong items)⟩
  | plugin | metaData | appAuth => exact ⟨h.selectors, h.rules⟩

theorem Keeps.put {c : Catalog} {L : Ledgers} (h : Keeps c L) (item : Item) :
    Keeps (c.put item) (L.edit (.put item)) := by
  cases item with
  | selector s => exact ⟨h.selectors.insert s, h.rules⟩
  | rule r => exact ⟨h.selectors, h.rules.insert r⟩
  | descriptor _ | service _ | credential _ => exact ⟨h.selectors, h.rules⟩

/-- The rules of a deleted selector go by their owner, not one by one. -/
theorem Keeps.deleteSelector {c : Catalog} {L : Ledgers} (h : Keeps c L) (key : String) :
    Keeps (c.delete .selector key) (L.edit (.delete .selector key)) := by
  have hselectors := h.selectors.erase narrowing_inOrder key
  rw [Ledgers.edit, ← h.holds_selector key]
  rw [delete]
  by_cases hk : c.holds .selector key = true
  · rw [if_pos hk, if_pos hk]
    exact ⟨hselectors, h.rules.eraseOwner key⟩
  · rw [if_neg hk, if_neg hk]
    have habsent : ∀ s ∈ L.selectors, s.id ≠ key := by
      rw [h.holds_selector key, List.any_eq_true] at hk
      exact fun s hs he => hk ⟨s, hs, beq_iff_eq.2 he⟩
    rw [strike_of_absent habsent] at hselectors
    exact ⟨hselectors, h.rules⟩

theorem Keeps.delete {c : Catalog} {L : Ledgers} (h : Keeps c L) (group : Group) (key : String) :
    Keeps (c.delete group key) (L.edit (.delete group key)) := by
  cases group with
  | selector => exact h.deleteSelector key
  | rule => exact ⟨h.selectors, h.rules.erase narrowing_inOrder key⟩
  | plugin | metaData | appAuth => exact ⟨h.selectors, h.rules⟩

theorem Keeps.edit {c : Catalog} {L : Ledgers} (h : Keeps c L) (e : Edit) :
    Keeps (c.edit e) (L.edit e) := by
  cases e with
  | replaceAll group items => exact h.replaceAll group items
  | put item => exact h.put item
  | delete group key => exact h.delete group key

/-! ### All edits -/

/-- By induction on the edits: what one edit keeps is kept by all of them. -/
theorem Keeps.editAll {c : Catalog} {L : Ledgers} (h : Keeps c L) (edits : List Edit) :
    Keeps (c.editAll edits) (L.editAll edits) := by
  induction edits generalizing c L with
  | nil => exact h
  | cons e edits ih => exact ih (h.edit e)

/-- The answers of the catalogue are those of its ledgers. -/
structure Agrees (c : Catalog) (L : Ledgers) : Prop where
  selectorsOf : ∀ stage, c.selectorsOf stage =
    (L.selectors.filter fun s => s.stage == stage).mergeSort fun s t => s.sort ≤ t.sort
  rulesUnder : ∀ selectorId, c.rules.under selectorId =
    (L.rules.filter fun r => r.selectorId == selectorId).mergeSort fun r t => r.sort ≤ t.sort
  getSelector : ∀ id, c.get? .selector id =
    (L.selectors.find? fun s => s.id == id).map Item.selector
  getRule : ∀ id, c.get? .rule id = (L.rules.find? fun r => r.id == id).map Item.rule
  sizeSelector : c.size .selector = L.selectors.length
  sizeRule : c.size .rule = L.rules.length
  /-- Each id was last written once. -/
  selectorIds : (L.selectors.map Selector.id).Nodup
  ruleIds : (L.rules.map Rule.id).Nodup

theorem Keeps.agrees {c : Catalog} {L : Ledgers} (h : Keeps c L) : Agrees c L where
  selectorsOf stage := h.selectors.under_eq stage
  rulesUnder selectorId := h.rules.under_eq selectorId
  getSelector id := congrArg (Option.map Item.selector) (h.selectors.get?_eq_find? id)
  getRule id := congrArg (Option.map Item.rule) (h.rules.get?_eq_find? id)
  sizeSelector := h.selectors.size_eq
  sizeRule := h.rules.size_eq
  selectorIds := h.selectors.nodup
  ruleIds := h.rules.nodup

/-- **Agreement.** Whatever the edits were, the catalogue answers as its ledgers do. -/
theorem editAll_agrees (edits : List Edit) :
    Agrees (Catalog.empty.editAll edits) (Ledgers.empty.editAll edits) :=
  (keeps_empty.editAll edits).agrees

end Catalog

end Gatehouse

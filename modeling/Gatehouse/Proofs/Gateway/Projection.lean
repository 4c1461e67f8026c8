import Gatehouse.Proofs.Gateway.Notes

/-!
# What a gateway has for one selector

An event of the feed is told to the stages as a list of messages. Read for one id they come down to
the notes about that id: of the entries that are written only those with the id count
(`hears_written`), of those that are dropped at most one has it (`hears_dropped`), and a deletion
is heard if it is a deletion of the id (`hears_deleted`). With what the event does to the catalogue
this makes the **projection** onto one id, `entry_apply` for an event and `entry_changeAll` for all
changes. So what a gateway has for an id is told by the notes about it in the history
(`entry_follow`).
-/

namespace Gatehouse.Gateway

open Feed Entry

/-! ## Messages that nobody hears -/

/-- A message that says nothing about any selector. -/
def Silent (m : Message) : Prop :=
  match m.notice with
  | .selectorPut _ | .selectorGone _ => False
  | _ => True

theorem Silent.addressed {m : Message} (h : Silent m) : Addressed m := by
  obtain ⟨stage, notice⟩ := m
  cases notice <;> first | exact h.elim | exact trivial

theorem hears_of_silent {m : Message} (h : Silent m) (id : String)
    (before : Option (List Backend)) : hears id before m = before := by
  obtain ⟨stage, notice⟩ := m
  cases notice <;> first | exact h.elim | rfl

/-- Messages that nobody hears may be left out. -/
theorem foldl_hears_of_silent {ms : List Message} (h : ∀ m ∈ ms, Silent m) (id : String)
    (before : Option (List Backend)) : ms.foldl (hears id) before = before := by
  induction ms with
  | nil => rfl
  | cons m ms ih =>
      rw [List.foldl_cons, hears_of_silent (h m List.mem_cons_self)]
      exact ih fun m' hm' => h m' (List.mem_cons_of_mem m hm')

theorem silent_aboutRule {c : Catalog} {r : Rule} (notice : Rule → Notice)
    (hn : ∀ stage r, Silent ⟨stage, notice r⟩) : ∀ m ∈ aboutRule c r notice, Silent m := by
  intro m hm
  obtain ⟨stage, -, rfl⟩ := List.mem_map.1 hm
  exact hn stage r

/-! ## Entries that are written -/

theorem silent_written {c : Catalog} {item : Item} (h : item.group ≠ .selector) :
    ∀ m ∈ written c item, Silent m := by
  intro m hm
  cases item with
  | descriptor d =>
      obtain rfl := List.mem_singleton.1 hm
      exact trivial
  | selector s => exact absurd rfl h
  | rule r => exact silent_aboutRule .rulePut (fun _ _ => trivial) m hm
  | service _ | credential _ => cases hm

/-- What is written is told to the stage that it is written for. -/
theorem addressed_written (c : Catalog) (item : Item) : ∀ m ∈ written c item, Addressed m := by
  intro m hm
  by_cases h : item.group = .selector
  · cases item with
    | selector s =>
        obtain rfl := List.mem_singleton.1 hm
        exact rfl
    | descriptor _ | rule _ | service _ | credential _ => cases h
  · exact (silent_written h m hm).addressed

/-- Of the entries that are written only the selectors with the id are heard. -/
theorem hears_written (c : Catalog) (id : String) (items : List Item)
    (before : Option (List Backend)) :
    (items.flatMap (written c)).foldl (hears id) before =
      ((selectorsAmong items).filter fun s => s.id == id).foldl
        (fun l s => heardWritten s l) before := by
  induction items generalizing before with
  | nil => rfl
  | cons item items ih =>
      rw [List.flatMap_cons, List.foldl_append, ih]
      by_cases h : item.group = .selector
      · cases item with
        | selector s =>
            have hcons : selectorsAmong (.selector s :: items) = s :: selectorsAmong items := rfl
            rw [hcons]
            by_cases hs : s.id = id
            · rw [List.filter_cons_of_pos (by simpa using hs), List.foldl_cons]
              simp [written, hears, hs]
            · rw [List.filter_cons_of_neg (by simpa using hs)]
              simp [written, hears, hs]
        | descriptor _ | rule _ | service _ | credential _ => cases h
      · rw [foldl_hears_of_silent (silent_written h)]
        cases item with
        | selector s => exact absurd rfl h
        | descriptor _ | rule _ | service _ | credential _ => rfl

/-! ## Entries that are dropped -/

theorem silent_dropped {c : Catalog} {group : Group} {items : List Item}
    (h : group ≠ .selector) : ∀ m ∈ dropped c group items, Silent m := by
  intro m hm
  cases group with
  | plugin =>
      obtain ⟨d, -, rfl⟩ := List.mem_map.1 hm
      exact trivial
  | selector => exact absurd rfl h
  | rule =>
      obtain ⟨r, -, hm⟩ := List.mem_flatMap.1 hm
      exact silent_aboutRule .ruleGone (fun _ _ => trivial) m hm
  | metaData | appAuth => cases hm

/-- What is dropped is told to the stage that it was held for. -/
theorem addressed_dropped (c : Catalog) (group : Group) (items : List Item) :
    ∀ m ∈ dropped c group items, Addressed m := by
  intro m hm
  by_cases h : group = .selector
  · subst h
    obtain ⟨s, -, rfl⟩ := List.mem_map.1 hm
    exact rfl
  · exact (silent_dropped h m hm).addressed

/-- Selectors are gone. It is heard if one of them has the id and names backends, and it does not
matter how often. -/
theorem hears_gone (id : String) (ss : List Selector) (before : Option (List Backend)) :
    (ss.map fun s => (⟨s.stage, .selectorGone s⟩ : Message)).foldl (hears id) before =
      if ss.any fun s => s.id == id && s.stage == balanceStage then none else before := by
  induction ss generalizing before with
  | nil => rfl
  | cons s ss ih =>
      have hfirst : hears id before ⟨s.stage, .selectorGone s⟩ =
          if s.id == id && s.stage == balanceStage then none else before := by
        by_cases hid : s.id = id <;> simp [hears, heardGone, hid]
      rw [List.map_cons, List.foldl_cons, ih, hfirst, List.any_cons]
      cases s.id == id && s.stage == balanceStage <;> simp

/-- Whether a selector of the id is dropped is a question about that id alone. -/
theorem hears_dropped {c : Catalog} (hc : c.Kept) (id : String) (items : List Item)
    (before : Option (List Backend)) :
    (dropped c .selector items).foldl (hears id) before =
      if items.any fun i => i.key == id then before
      else heardGone (c.selectors.get? id) before := by
  -- the selectors of a kept catalogue have the ids that they are held under
  have hmem : ∀ s : Selector, s ∈ c.selectors.byId.values ∧ s.id = id ↔
      c.selectors.get? id = some s := by
    intro s
    rw [Table.mem_values_iff]
    constructor
    · rintro ⟨⟨k, hk⟩, hs⟩
      rw [← hs, hc.id_of_get? hk]
      exact hk
    · exact fun hs => ⟨⟨id, hs⟩, hc.id_of_get? hs⟩
  have hany : ((c.selectors.byId.values.filter fun s => !items.any fun i => i.key == s.id).any
      fun s => s.id == id && s.stage == balanceStage) = true ↔
      (items.any fun i => i.key == id) = false ∧
        ∃ s, c.selectors.get? id = some s ∧ s.stage = balanceStage := by
    simp only [List.any_eq_true, List.mem_filter, Bool.and_eq_true, beq_iff_eq,
      Bool.not_eq_true']
    constructor
    · rintro ⟨s, ⟨hs, hgone⟩, hid, hstage⟩
      exact ⟨hid ▸ hgone, s, (hmem s).1 ⟨hs, hid⟩, hstage⟩
    · rintro ⟨hgone, s, hs, hstage⟩
      obtain ⟨hs, hid⟩ := (hmem s).2 hs
      exact ⟨s, ⟨hs, hid.symm ▸ hgone⟩, hid, hstage⟩
  rw [dropped, hears_gone]
  by_cases hstays : (items.any fun i => i.key == id) = true
  · rw [if_pos hstays, if_neg]
    rw [hany, hstays]
    exact fun h => absurd h.1 (by simp)
  · rw [if_neg hstays]
    rw [Bool.not_eq_true] at hstays
    cases hget : c.selectors.get? id with
    | none =>
        rw [if_neg (by rw [hany, hget]; simp)]
        rfl
    | some s =>
        by_cases hstage : s.stage = balanceStage
        · rw [if_pos (hany.2 ⟨hstays, s, hget, hstage⟩), heardGone, if_pos hstage]
        · rw [if_neg (by rw [hany, hget]; simp [hstage]), heardGone, if_neg hstage]

/-! ## Entries that are deleted -/

theorem silent_deleted {c : Catalog} {group : Group} {key : String} (h : group ≠ .selector) :
    ∀ m ∈ deleted c group key, Silent m := by
  intro m hm
  cases group with
  | plugin =>
      obtain ⟨d, -, rfl⟩ := List.mem_map.1 hm
      exact trivial
  | selector => exact absurd rfl h
  | rule =>
      obtain ⟨r, -, hm⟩ := List.mem_flatMap.1 hm
      exact silent_aboutRule .ruleGone (fun _ _ => trivial) m hm
  | metaData | appAuth => cases hm

/-- The messages about the rules of a selector come first, and none of them is about a selector. -/
theorem deleted_selector_eq (c : Catalog) (key : String) :
    ∃ ms, (∀ m ∈ ms, Silent m) ∧ deleted c .selector key =
      ms ++ (c.selectors.get? key).toList.map fun s => ⟨s.stage, .selectorGone s⟩ := by
  rw [deleted]
  cases c.selectors.get? key with
  | none => exact ⟨[], by simp, rfl⟩
  | some s =>
      refine ⟨(c.rulesOf s).map fun r => ⟨s.stage, .ruleGone r⟩, fun m hm => ?_, rfl⟩
      obtain ⟨r, -, rfl⟩ := List.mem_map.1 hm
      exact trivial

theorem addressed_deleted (c : Catalog) (group : Group) (key : String) :
    ∀ m ∈ deleted c group key, Addressed m := by
  intro m hm
  by_cases h : group = .selector
  · subst h
    obtain ⟨ms, hms, heq⟩ := deleted_selector_eq c key
    rw [heq, List.mem_append] at hm
    rcases hm with hm | hm
    · exact (hms m hm).addressed
    · obtain ⟨s, -, rfl⟩ := List.mem_map.1 hm
      exact rfl
  · exact (silent_deleted h m hm).addressed

/-- Only a deletion of the id itself is heard. -/
theorem hears_deleted {c : Catalog} (hc : c.Kept) (id key : String)
    (before : Option (List Backend)) :
    (deleted c .selector key).foldl (hears id) before =
      if key = id then heardGone (c.selectors.get? id) before else before := by
  obtain ⟨ms, hms, heq⟩ := deleted_selector_eq c key
  rw [heq, List.foldl_append, foldl_hears_of_silent hms]
  cases hget : c.selectors.get? key with
  | none =>
      by_cases hk : key = id
      · rw [if_pos hk, ← hk, hget]
        rfl
      · rw [if_neg hk]
        rfl
  | some s =>
      have hid := hc.id_of_get? hget
      by_cases hk : key = id
      · rw [if_pos hk, ← hk, hget]
        simp [hears, hid]
      · rw [if_neg hk]
        simp [hears, hid, hk]

/-! ## The projection -/

/-- All messages of an event have the right address. -/
theorem addressed_apply (c : Catalog) (e : Event) : ∀ m ∈ (apply c e).messages, Addressed m := by
  cases e with
  | replaceAll group raw =>
      intro m hm
      rcases List.mem_append.1 hm with hm | hm
      · exact addressed_dropped _ _ _ m hm
      · obtain ⟨item, -, hm⟩ := List.mem_flatMap.1 hm
        exact addressed_written _ item m hm
  | put group raw =>
      rw [apply]
      split
      · simp
      · exact addressed_written _ _
  | delete group key => exact addressed_deleted c group key

/-- What an event does to an id, by the catalogue it makes and the messages it sends. -/
theorem entry_apply_eq (s : State) (e : Event) (id : String) :
    (s.apply e).entry id =
      ⟨(apply s.catalog e).catalog.selectors.get? id,
        (apply s.catalog e).messages.foldl (hears id) (s.pool.lists.get? id)⟩ := by
  rw [State.entry, State.catalog_apply, State.apply,
    get?_lists_foldl_tell id _ (addressed_apply s.catalog e)]

/-- A batch of selectors has an entry with the key if it has a selector of the id. -/
theorem any_key_eq {items : List Item} (h : ∀ i ∈ items, i.group = .selector) (id : String) :
    (items.any fun i => i.key == id) = (selectorsAmong items).any fun s => s.id == id := by
  induction items with
  | nil => rfl
  | cons item items ih =>
      have ih := ih fun i hi => h i (List.mem_cons_of_mem item hi)
      have hitem := h item List.mem_cons_self
      cases item with
      | selector s =>
          have hcons : selectorsAmong (.selector s :: items) = s :: selectorsAmong items := rfl
          rw [hcons, List.any_cons, List.any_cons, ih]
          rfl
      | descriptor _ | rule _ | service _ | credential _ => cases hitem

theorem entry_replaceSelectors {s : State} (hs : s.catalog.Kept) (raw : List Json) (id : String) :
    (s.apply (.replaceAll .selector raw)).entry id =
      (s.entry id).noteAll (Change.notes id (.event (.replaceAll .selector raw))) := by
  have hitems : ∀ i ∈ Item.parseAll .selector raw, i.group = .selector :=
    fun i hi => Item.group_of_mem_parseAll hi
  have hget := Index.get?_ofList (selectorsAmong (Item.parseAll .selector raw)) id
  have hmessages := hears_written
    (s.catalog.replaceAll .selector (Item.parseAll .selector raw)) id (Item.parseAll .selector raw)
    ((dropped s.catalog .selector (Item.parseAll .selector raw)).foldl (hears id)
      (s.pool.lists.get? id))
  rw [← List.foldl_append, hears_dropped hs, any_key_eq hitems] at hmessages
  have hentry : (s.apply (.replaceAll .selector raw)).entry id = ⟨_, _⟩ :=
    (entry_apply_eq s _ id).trans (Entry.ext hget hmessages)
  rw [hentry, Change.notes, Note.ofBatch]
  cases hbatch : (selectorsAmong (Item.parseAll .selector raw)).filter fun t => t.id == id with
  | nil =>
      have hany : ((selectorsAmong (Item.parseAll .selector raw)).any fun t => t.id == id) =
          false := by
        rw [List.any_eq_false]
        exact List.filter_eq_nil_iff.1 hbatch
      rw [hany]
      rfl
  | cons t ts =>
      have hany : ((selectorsAmong (Item.parseAll .selector raw)).any fun t => t.id == id) =
          true := by
        have ht : t ∈ (selectorsAmong (Item.parseAll .selector raw)).filter fun t => t.id == id :=
          hbatch ▸ List.mem_cons_self
        exact List.any_eq_true.2 ⟨t, List.mem_filter.1 ht⟩
      show _ = (s.entry id).noteAll ((t :: ts).map .wrote)
      rw [hany, noteAll_wrote]
      rfl

/-- Full synchronisations of other groups tell no selector anything. -/
theorem entry_replaceOthers (s : State) {group : Group} (hgroup : group ≠ .selector)
    (raw : List Json) (id : String) :
    (s.apply (.replaceAll group raw)).entry id = s.entry id := by
  have hselectors : (apply s.catalog (.replaceAll group raw)).catalog.selectors =
      s.catalog.selectors := by
    cases group <;> first | exact absurd rfl hgroup | rfl
  have hsilent : ∀ m ∈ (apply s.catalog (.replaceAll group raw)).messages, Silent m := by
    intro m hm
    rcases List.mem_append.1 hm with hm | hm
    · exact silent_dropped hgroup m hm
    · obtain ⟨item, hitem, hm⟩ := List.mem_flatMap.1 hm
      refine silent_written ?_ m hm
      rw [Item.group_of_mem_parseAll hitem]
      exact hgroup
  rw [entry_apply_eq, hselectors, foldl_hears_of_silent hsilent]
  rfl

theorem entry_put (s : State) (group : Group) (raw : Json) (id : String) :
    (s.apply (.put group raw)).entry id =
      (s.entry id).noteAll (Change.notes id (.event (.put group raw))) := by
  rw [entry_apply_eq, apply, Change.notes]
  cases hparse : Item.parse group raw with
  | error f => rfl
  | ok item =>
      by_cases hitem : item.group = .selector
      · cases item with
        | selector sel =>
            have hget := Index.get?_insert s.catalog.selectors sel id
            simp only [Catalog.put, hget, written, List.foldl_cons, List.foldl_nil, hears]
            by_cases hid : sel.id = id
            · rw [if_pos hid, if_pos hid, if_pos (show id = Owned.id sel from hid.symm)]
              rfl
            · rw [if_neg hid, if_neg hid, if_neg (show ¬ id = Owned.id sel from Ne.symm hid)]
              rfl
        | descriptor _ | rule _ | service _ | credential _ => cases hitem
      · rw [foldl_hears_of_silent (silent_written hitem)]
        cases item with
        | selector sel => exact absurd rfl hitem
        | descriptor _ | rule _ | service _ | credential _ => rfl

/-- A deletion of the selector itself is all that an entry hears of deletions. -/
theorem entry_delete {s : State} (hs : s.catalog.Kept) (group : Group) (key id : String) :
    (s.apply (.delete group key)).entry id =
      (s.entry id).noteAll (Change.notes id (.event (.delete group key))) := by
  rw [entry_apply_eq]
  by_cases hgroup : group = .selector
  · subst hgroup
    have hget := Index.get?_erase s.catalog.selectors key id
    simp only [apply, Catalog.delete, hget, hears_deleted hs, Change.notes]
    by_cases hid : key = id
    · rw [if_pos hid, if_pos hid, if_pos hid.symm]
      rfl
    · rw [if_neg hid, if_neg hid, if_neg (Ne.symm hid)]
      rfl
  · rw [apply, foldl_hears_of_silent (silent_deleted hgroup)]
    cases group <;> first | exact absurd rfl hgroup | rfl

/-- **One event**, seen from one id. -/
theorem entry_apply {s : State} (hs : s.catalog.Kept) (e : Event) (id : String) :
    (s.apply e).entry id = (s.entry id).noteAll (Change.notes id (.event e)) := by
  cases e with
  | replaceAll group raw =>
      by_cases hgroup : group = .selector
      · subst hgroup
        exact entry_replaceSelectors hs raw id
      · rw [entry_replaceOthers s hgroup raw id]
        cases group <;> first | exact absurd rfl hgroup | rfl
  | put group raw => exact entry_put s group raw id
  | delete group key => exact entry_delete hs group key id

/-- A change adds its notes to an entry, and does nothing else to it. -/
theorem entry_change {s : State} (hs : s.catalog.Kept) (c : Change) (id : String) :
    (s.change c).entry id = (s.entry id).noteAll (c.notes id) := by
  cases c with
  | event e => exact entry_apply hs e id
  | report url healthy =>
      have hget := Balance.Pool.get?_lists_report s.pool url healthy id
      exact congrArg (Entry.mk _) hget

/-- **All changes**, seen from one id. -/
theorem entry_changeAll {s : State} (hs : s.catalog.Kept) (cs : List Change) (id : String) :
    (s.changeAll cs).entry id = (s.entry id).noteAll (notes id cs) := by
  induction cs generalizing s with
  | nil => rfl
  | cons c cs ih =>
      have hnotes : notes id (c :: cs) = c.notes id ++ notes id cs := List.flatMap_cons
      rw [State.changeAll, List.foldl_cons, ← State.changeAll, ih (State.kept_change hs c),
        entry_change hs, hnotes, noteAll_append]

/-- What a gateway has for an id is told by the notes about it in the history. -/
theorem entry_follow {b : Blueprint} {g : Gateway} (h : build b = .ok g) (cs : List Change)
    (id : String) :
    (g.follow cs).state.entry id = Entry.blank.noteAll (notes id (g.history cs)) := by
  obtain ⟨s, hs, hg⟩ := state_follow h cs
  rw [hg, entry_changeAll (hs.catalog ▸ Catalog.kept_empty), hs.entry_eq]

theorem get?_selectors_follow {b : Blueprint} {g : Gateway} (h : build b = .ok g)
    (cs : List Change) (id : String) :
    (g.follow cs).state.catalog.selectors.get? id =
      (Entry.blank.noteAll (notes id (g.history cs))).selector :=
  congrArg Entry.selector (entry_follow h cs id)

theorem get?_lists_follow {b : Blueprint} {g : Gateway} (h : build b = .ok g)
    (cs : List Change) (id : String) :
    (g.follow cs).state.pool.lists.get? id =
      (Entry.blank.noteAll (notes id (g.history cs))).backends :=
  congrArg Entry.backends (entry_follow h cs id)

end Gatehouse.Gateway

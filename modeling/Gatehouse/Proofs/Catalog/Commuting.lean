import Gatehouse.Proofs.Catalog.Determined

/-!
# Changes in either order

Events that write or delete one entry of a group each, and that concern different names, may come in
either order (`Catalog.edit_comm`), with one exception. Where an owner's entries sort alike it is
the order of arrival that counts, so of two entries of one owner with one sort number the one that
was written last stands behind the other (`Index.inOrder_concat_tied`):

    write x, write y    front ++ x :: y :: back
    write y, write x    front ++ y :: x :: back

**In either order** (`apply_either_way`): the catalogues give the same answers to everything, and in
the exceptional case to everything but this list.
-/

namespace Gatehouse

open Ledger

/-! ## Names and ties -/

/-- The names that an entry goes by: its key, and the id of a service. -/
def Item.names : Item → List String
  | .service s => [s.path, s.id]
  | item => [item.key]

theorem Item.key_mem_names (item : Item) : item.key ∈ item.names := by
  cases item <;> exact List.mem_cons_self

/-- Two entries have one owner and sort alike. -/
def Item.Ties : Item → Item → Prop
  | .selector s, .selector t => s.stage = t.stage ∧ s.sort = t.sort
  | .rule r, .rule q => r.selectorId = q.selectorId ∧ r.sort = q.sort
  | _, _ => False

instance : DecidableRel Item.Ties := fun item item' =>
  match item, item' with
  | .selector s, .selector t => inferInstanceAs (Decidable (s.stage = t.stage ∧ s.sort = t.sort))
  | .rule r, .rule q => inferInstanceAs (Decidable (r.selectorId = q.selectorId ∧ r.sort = q.sort))
  | .descriptor _, _ | .service _, _ | .credential _, _ => .isFalse id
  | .selector _, .descriptor _ | .selector _, .rule _ | .selector _, .service _
  | .selector _, .credential _ => .isFalse id
  | .rule _, .descriptor _ | .rule _, .selector _ | .rule _, .service _ | .rule _, .credential _ =>
    .isFalse id

namespace Catalog.Edit

/-- The edit writes or deletes one entry of a group. -/
def Single (group : Group) : Edit → Prop
  | .replaceAll _ _ => False
  | .put item => item.group = group
  | .delete g _ => g = group

/-- The names that an edit of one entry concerns. -/
def names : Edit → List String
  | .replaceAll _ _ => []
  | .put item => item.names
  | .delete _ key => [key]

/-- The entry that an edit writes. -/
def item? : Edit → Option Item
  | .put item => some item
  | .replaceAll _ _ | .delete _ _ => none

theorem eq_put {e : Edit} {item : Item} (h : item ∈ e.item?) : e = .put item := by
  cases e with
  | put item' => exact congrArg put (Option.some.inj h)
  | replaceAll _ _ | delete _ _ => cases h

end Catalog.Edit

/-! ## Ledgers -/

namespace Ledger

/-- Two entries may change places where no more than one of them is looked at. -/
private theorem filter_swap {p : α → Bool} {x y : α} (h : ¬ (p x = true ∧ p y = true)) :
    [x, y].filter p = [y, x].filter p := by
  by_cases hx : p x = true
  · have hy : ¬ p y = true := fun hy => h ⟨hx, hy⟩
    simp [hx, hy]
  · simp [hx, List.filter_cons]

variable [Owned α]

theorem strike_comm (id id' : String) (l : List α) :
    strike id (strike id' l) = strike id' (strike id l) := by
  rw [strike, strike, List.filter_filter]
  rw [strike, strike, List.filter_filter]
  exact List.filter_congr fun x _ => Bool.and_comm _ _

theorem strikeOwner_comm (owner owner' : String) (l : List α) :
    strikeOwner owner (strikeOwner owner' l) = strikeOwner owner' (strikeOwner owner l) := by
  rw [strikeOwner, strikeOwner, List.filter_filter]
  rw [strikeOwner, strikeOwner, List.filter_filter]
  exact List.filter_congr fun x _ => Bool.and_comm _ _

theorem strike_singleton {id : String} {x : α} (h : Owned.id x ≠ id) : strike id [x] = [x] :=
  strike_of_absent fun _ hy => by rwa [List.mem_singleton.1 hy]

/-- A write and a removal of different ids may come in either order. -/
theorem strike_write {id : String} {x : α} (h : Owned.id x ≠ id) (l : List α) :
    strike id (write l x) = write (strike id l) x := by
  rw [write, strike_append, strike_singleton h, strike_comm, write]

/-- Two entries that are written one after the other stand at the end. -/
theorem write_write {x y : α} (h : Owned.id x ≠ Owned.id y) (l : List α) :
    write (write l x) y = strike (Owned.id y) (strike (Owned.id x) l) ++ [x, y] := by
  rw [write, write, strike_append, strike_singleton h, List.append_assoc]
  rfl

/-- Whether an id is in a ledger does not depend on what happens to another one. -/
theorem any_strike {id id' : String} (h : id ≠ id') (l : List α) :
    (strike id' l).any (fun x => Owned.id x == id) = l.any fun x => Owned.id x == id := by
  rw [Bool.eq_iff_iff, List.any_eq_true, List.any_eq_true]
  refine exists_congr fun x => ?_
  rw [mem_strike, beq_iff_eq]
  exact ⟨fun hx => ⟨hx.1.1, hx.2⟩, fun hx => ⟨⟨hx.1, hx.2 ▸ h⟩, hx.2⟩⟩

theorem any_write {id : String} {x : α} (h : Owned.id x ≠ id) (l : List α) :
    (write l x).any (fun y => Owned.id y == id) = l.any fun y => Owned.id y == id := by
  rw [write, List.any_append, any_strike h.symm]
  simp [h]

/-- Two entries at the end may change places, unless they have one owner and sort alike. -/
theorem alike_swap {x y : α} (h : ¬ (Owned.owner x = Owned.owner y ∧ Owned.sort x = Owned.sort y))
    (l : List α) : Alike (l ++ [x, y]) (l ++ [y, x]) := by
  constructor
  · intro z
    simp only [List.mem_append, List.mem_cons, List.not_mem_nil, or_false]
    exact or_congr_right or_comm
  · intro owner
    apply (Index.sorted_inOrder _).ext (Index.sorted_inOrder _)
    intro k
    rw [Index.level_inOrder, Index.level_inOrder, ownedBy_append, ownedBy_append,
      Index.level_append, Index.level_append, Index.level, Index.level, Index.level]
    congr 1
    rw [ownedBy, ownedBy, List.filter_filter, List.filter_filter]
    -- at most one of the two is an entry of this owner with this number
    apply filter_swap
    simp only [Bool.and_eq_true, decide_eq_true_eq, beq_iff_eq]
    rintro ⟨⟨hxk, hx⟩, hyk, hy⟩
    exact h ⟨hx.trans hy.symm, hxk.trans hyk.symm⟩

end Ledger

/-! ## Entries that sort alike -/

namespace Index

variable [Owned α]

/-- An entry is placed between those that sort before it or alike and those that sort behind. -/
theorem place_eq {l : List α} (h : Sorted l) (x : α) :
    place x l = (l.filter fun y => decide (Owned.sort y ≤ Owned.sort x)) ++
      x :: l.filter fun y => decide (Owned.sort x < Owned.sort y) := by
  induction l with
  | nil => rfl
  | cons y l ih =>
      have hy := List.pairwise_cons.1 h
      rw [place]
      split
      · next hle =>
          rw [List.filter_cons_of_pos (by simpa using hle),
            List.filter_cons_of_neg (by simpa using hle), ih hy.2]
          rfl
      · next hlt =>
          have hbehind : ∀ z ∈ y :: l, Owned.sort x < Owned.sort z := by
            intro z hz
            rcases List.mem_cons.1 hz with rfl | hz
            · omega
            · have := hy.1 z hz
              omega
          rw [List.filter_eq_nil_iff.2 fun z hz => by simpa using hbehind z hz,
            List.filter_eq_self.2 fun z hz => by simpa using hbehind z hz]
          rfl

/-- **Entries that sort alike** and are written last stand next to each other, as they came. -/
theorem inOrder_concat_tied {x y : α} (h : Owned.sort x = Owned.sort y) (l : List α) :
    inOrder (l ++ [x, y]) =
      ((inOrder l).filter fun z => decide (Owned.sort z ≤ Owned.sort x)) ++
        x :: y :: (inOrder l).filter fun z => decide (Owned.sort x < Owned.sort z) := by
  have hcut : l ++ [x, y] = (l ++ [x]) ++ [y] := by simp
  have hplaced := place_eq (sorted_inOrder l) x
  rw [hcut, ← place_inOrder, place_eq (sorted_inOrder _), ← place_inOrder, hplaced, ← h,
    List.filter_append, List.filter_append, List.filter_cons_of_pos (by simp),
    List.filter_cons_of_neg (by simp), List.filter_filter, List.filter_filter, List.filter_filter,
    List.filter_filter]
  -- what stands before `x` stays there, and so does what stands behind
  have hnone : ((inOrder l).filter fun z => decide (Owned.sort z ≤ Owned.sort x) &&
      decide (Owned.sort x < Owned.sort z)) = [] := by
    rw [List.filter_eq_nil_iff]
    intro z _
    simp
  have hnone' : ((inOrder l).filter fun z => decide (Owned.sort x < Owned.sort z) &&
      decide (Owned.sort z ≤ Owned.sort x)) = [] := by
    simpa only [Bool.and_comm] using hnone
  simp only [Bool.and_self, hnone, hnone', List.nil_append, List.append_assoc, List.cons_append]

/-- Two entries stand next to each other, and in the other list they have changed places. -/
def Exchanged (x y : α) (l m : List α) : Prop :=
  ∃ front back, l = front ++ x :: y :: back ∧ m = front ++ y :: x :: back

/-- Two indexes are the same but for the list of one owner, in which two entries have changed
places. -/
structure Swapped (x y : α) (ix ix' : Index α) : Prop where
  get? : ∀ id, ix.get? id = ix'.get? id
  size : ix.size = ix'.size
  under : ∀ owner, ix.under owner = ix'.under owner ∨
    (owner = Owned.owner x ∧ Exchanged x y (ix.under owner) (ix'.under owner))

variable {ix ix' : Index α} {l : List α} {x y : α}

/-- Entries that tie stand in the order in which they came, and nothing else tells of it. -/
theorem swapped_of_holds (h : Holds inOrder ix (l ++ [x, y]))
    (h' : Holds inOrder ix' (l ++ [y, x])) (howner : Owned.owner x = Owned.owner y)
    (hsort : Owned.sort x = Owned.sort y) : Swapped x y ix ix' where
  get? id := by
    apply Option.ext
    intro z
    rw [h.get?_iff, h'.get?_iff]
    simp only [List.mem_append, List.mem_cons, List.not_mem_nil, or_false]
    exact and_congr_left' (or_congr_right or_comm)
  size := by
    rw [h.size_eq, h'.size_eq, List.length_append, List.length_append]
    rfl
  under owner := by
    rw [h.under_eq, h'.under_eq, ownedBy_append, ownedBy_append]
    by_cases ho : Owned.owner x = owner
    · have hxy : ownedBy owner [x, y] = [x, y] := by simp [ownedBy, ho, ← howner]
      have hyx : ownedBy owner [y, x] = [y, x] := by simp [ownedBy, ho, ← howner]
      rw [hxy, hyx, inOrder_concat_tied hsort, inOrder_concat_tied hsort.symm, hsort]
      exact Or.inr ⟨ho.symm, _, _, rfl, rfl⟩
    · have hxy : ownedBy owner [x, y] = [] := by simp [ownedBy, ho, ← howner]
      have hyx : ownedBy owner [y, x] = [] := by simp [ownedBy, ho, ← howner]
      rw [hxy, hyx]
      exact Or.inl rfl

/-- **Entries that tie** have changed places when they are written in the other order. -/
theorem Holds.swapped (h : Holds inOrder ix l) (hne : Owned.id x ≠ Owned.id y)
    (howner : Owned.owner x = Owned.owner y) (hsort : Owned.sort x = Owned.sort y) :
    Swapped x y ((ix.insert x).insert y) ((ix.insert y).insert x) := by
  have hxy := (h.insert x).insert y
  have hyx := (h.insert y).insert x
  rw [write_write hne] at hxy
  rw [write_write hne.symm, strike_comm] at hyx
  exact swapped_of_holds hxy hyx howner hsort

end Index

/-! ## Edits of one entry -/

/-- Services that share neither path nor id do not displace each other. -/
theorem Catalog.putService_comm (services : Table Service) {s s' : Service}
    (hpath : s.path ≠ s'.path) (hid : s.id ≠ s'.id) :
    putService (putService services s) s' = putService (putService services s') s := by
  apply Table.ext
  intro q
  simp only [putService, Table.get?_insert, Table.get?_filter]
  by_cases hs : q = s.path
  · subst hs
    simp [hpath, hid]
  · by_cases hs' : q = s'.path
    · subst hs'
      simp [hs, Ne.symm hid, Option.filter]
    · simp only [if_neg hs, if_neg hs', Option.filter_filter, Bool.and_comm]

theorem Catalog.putService_filter (services : Table Service) {key : String} {s : Service}
    (hpath : s.path ≠ key) (hid : s.id ≠ key) :
    (putService services s).filter (fun path s => !namesService key path s) =
      putService (services.filter fun path s => !namesService key path s) s := by
  apply Table.ext
  intro q
  simp only [putService, Table.get?_insert, Table.get?_filter]
  by_cases hs : q = s.path
  · subst hs
    simp [namesService, hpath, hid]
  · simp only [if_neg hs, Option.filter_filter, Bool.and_comm]

namespace Ledgers

/-- A deletion strikes the selector, whether it is there or not. -/
theorem selectors_delete (L : Ledgers) (key : String) :
    (L.edit (.delete .selector key)).selectors = strike key L.selectors := by
  rw [edit]
  split
  · rfl
  · next habsent =>
      refine (strike_of_absent fun s hs he => habsent ?_).symm
      exact List.any_eq_true.2 ⟨s, hs, beq_iff_eq.2 he⟩

theorem rules_delete (L : Ledgers) (key : String) :
    (L.edit (.delete .selector key)).rules =
      if L.selectors.any fun s => s.id == key then strikeOwner key L.rules else L.rules := by
  rw [edit]
  split <;> rfl

end Ledgers

namespace Catalog

variable {c : Catalog} {L : Ledgers} {group : Group}

/-- Writes that share no name and do not tie may come in either order. -/
theorem put_comm (h : Stands c L) {item item' : Item} (hgroup : item.group = item'.group)
    (hnames : ∀ n ∈ item.names, n ∉ item'.names) (hties : ¬ item.Ties item') :
    (c.put item).put item' = (c.put item').put item := by
  have hkey : item.key ≠ item'.key :=
    fun he => hnames item.key item.key_mem_names (he ▸ item'.key_mem_names)
  have hc := (h.edit (.put item)).edit (.put item')
  have hd := (h.edit (.put item')).edit (.put item)
  cases item with
  | descriptor d =>
      cases item' with
      | descriptor d' =>
          have hne : d.name ≠ d'.name := hkey
          simp only [put, Table.insert_comm c.descriptors hne]
      | selector _ | rule _ | service _ | credential _ => cases hgroup
  | selector s =>
      cases item' with
      | selector t =>
          have hne : Owned.id s ≠ Owned.id t := hkey
          refine hc.eq_of_alike hd rfl ?_ (.refl _)
          -- both end with the two selectors, and lists of owners do not show which one is last
          show Alike (write (write L.selectors s) t) (write (write L.selectors t) s)
          rw [write_write hne, write_write hne.symm, strike_comm]
          exact alike_swap (x := s) (y := t) hties _
      | descriptor _ | rule _ | service _ | credential _ => cases hgroup
  | rule r =>
      cases item' with
      | rule q =>
          have hne : Owned.id r ≠ Owned.id q := hkey
          refine hc.eq_of_alike hd rfl (.refl _) ?_
          show Alike (write (write L.rules r) q) (write (write L.rules q) r)
          rw [write_write hne, write_write hne.symm, strike_comm]
          exact alike_swap (x := r) (y := q) hties _
      | descriptor _ | selector _ | service _ | credential _ => cases hgroup
  | service s =>
      cases item' with
      | service s' =>
          have hid := hnames s.id (by simp [Item.names])
          simp only [Item.names, List.mem_cons, not_or] at hid
          simp only [put, putService_comm c.services hkey hid.2.1]
      | descriptor _ | selector _ | rule _ | credential _ => cases hgroup
  | credential a =>
      cases item' with
      | credential a' =>
          have hne : a.key ≠ a'.key := hkey
          simp only [put, Table.insert_comm c.credentials hne]
      | descriptor _ | selector _ | rule _ | service _ => cases hgroup

/-- A write and a deletion that does not name the entry may come in either order. -/
theorem delete_put (h : Stands c L) {item : Item} {key : String} (hnames : key ∉ item.names) :
    (c.put item).delete item.group key = (c.delete item.group key).put item := by
  have hkey : item.key ≠ key := fun he => hnames (he ▸ item.key_mem_names)
  have hc := (h.edit (.put item)).edit (.delete item.group key)
  have hd := (h.edit (.delete item.group key)).edit (.put item)
  cases item with
  | descriptor d =>
      have hne : d.name ≠ key := hkey
      simp only [put, delete, Item.group, Table.erase_insert c.descriptors hne]
  | selector s =>
      have hne : Owned.id s ≠ key := hkey
      -- a deleted selector takes its rules along, so both ledgers are compared
      refine hc.eq_of_alike hd rfl ?_ ?_
      · have hsame : strike key (write L.selectors s) = write (strike key L.selectors) s :=
          strike_write hne L.selectors
        show Alike ((L.edit (.put (.selector s))).edit (.delete .selector key)).selectors
          (write (L.edit (.delete .selector key)).selectors s)
        rw [Ledgers.selectors_delete, Ledgers.selectors_delete, ← hsame]
        exact .refl _
      · show Alike ((L.edit (.put (.selector s))).edit (.delete .selector key)).rules
          (L.edit (.delete .selector key)).rules
        have hsame : (write L.selectors s).any (fun t => t.id == key) =
            L.selectors.any fun t => t.id == key := any_write hne L.selectors
        rw [Ledgers.rules_delete, Ledgers.rules_delete]
        simp only [Ledgers.edit, hsame]
        exact .refl _
  | rule r =>
      have hne : Owned.id r ≠ key := hkey
      have hsame : strike key (write L.rules r) = write (strike key L.rules) r :=
        strike_write hne L.rules
      refine hc.eq_of_alike hd rfl (.refl _) ?_
      show Alike (strike key (write L.rules r)) (write (strike key L.rules) r)
      rw [hsame]
      exact .refl _
  | service s =>
      simp only [Item.names, List.mem_cons, List.not_mem_nil, or_false, not_or] at hnames
      simp only [put, delete, Item.group, putService_filter c.services hkey (Ne.symm hnames.2)]
  | credential a =>
      have hne : a.key ≠ key := hkey
      simp only [put, delete, Item.group, Table.erase_insert c.credentials hne]

/-- Deletions of different keys may come in either order. -/
theorem delete_comm (h : Stands c L) {key key' : String} (hne : key ≠ key') :
    (c.delete group key).delete group key' = (c.delete group key').delete group key := by
  have hc := (h.edit (.delete group key)).edit (.delete group key')
  have hd := (h.edit (.delete group key')).edit (.delete group key)
  cases group with
  | plugin => simp only [delete, Table.erase_comm c.descriptors key key']
  | selector =>
      refine hc.eq_of_alike hd rfl ?_ ?_
      · rw [Ledgers.selectors_delete, Ledgers.selectors_delete, Ledgers.selectors_delete,
          Ledgers.selectors_delete, strike_comm]
        exact .refl _
      · have hany : (strike key L.selectors).any (fun s => s.id == key') =
            L.selectors.any fun s => s.id == key' := any_strike hne.symm L.selectors
        have hany' : (strike key' L.selectors).any (fun s => s.id == key) =
            L.selectors.any fun s => s.id == key := any_strike hne L.selectors
        simp only [Ledgers.rules_delete, Ledgers.selectors_delete, hany, hany']
        split <;> split
        · rw [strikeOwner_comm]
          exact .refl _
        -- if one of the two is not there, its rules stay in either order
        all_goals exact .refl _
  | rule =>
      refine hc.eq_of_alike hd rfl (.refl _) ?_
      show Alike (strike key' (strike key L.rules)) (strike key (strike key' L.rules))
      rw [strike_comm]
      exact .refl _
  | metaData => simp only [delete, Table.filter_comm c.services]
  | appAuth => simp only [delete, Table.erase_comm c.credentials key key']

/-- **Edits of one entry each** that concern different names may be made in either order, unless
they write entries that tie. -/
theorem edit_comm (h : Stands c L) {e e' : Edit} (hsingle : e.Single group)
    (hsingle' : e'.Single group) (hnames : ∀ n ∈ e.names, n ∉ e'.names)
    (hties : ∀ item ∈ e.item?, ∀ item' ∈ e'.item?, ¬ item.Ties item') :
    (c.edit e).edit e' = (c.edit e').edit e := by
  cases e with
  | replaceAll _ _ => exact hsingle.elim
  | put item =>
      cases e' with
      | replaceAll _ _ => exact hsingle'.elim
      | put item' =>
          exact put_comm h (Eq.trans hsingle (Eq.symm hsingle')) hnames (hties item rfl item' rfl)
      | delete g key =>
          obtain rfl : g = item.group := Eq.trans hsingle' (Eq.symm hsingle)
          exact delete_put h fun hmem => hnames key hmem List.mem_cons_self
  | delete g key =>
      obtain rfl : g = group := hsingle
      cases e' with
      | replaceAll _ _ => exact hsingle'.elim
      | put item' =>
          obtain rfl : item'.group = g := hsingle'
          exact (delete_put h (hnames key List.mem_cons_self)).symm
      | delete g' key' =>
          obtain rfl : g' = g := hsingle'
          exact delete_comm h fun he => hnames key List.mem_cons_self (he ▸ List.mem_cons_self)

/-- Two catalogues are the same but for one list, in which two entries have changed places. -/
structure SameButFor (item item' : Item) (c d : Catalog) : Prop where
  get? : ∀ group key, c.get? group key = d.get? group key
  size : ∀ group, c.size group = d.size group
  selectorsOf : ∀ stage, c.selectorsOf stage = d.selectorsOf stage ∨
    ∃ s t, item = .selector s ∧ item' = .selector t ∧ stage = s.stage ∧
      Index.Exchanged s t (c.selectorsOf stage) (d.selectorsOf stage)
  rulesUnder : ∀ selectorId, c.rules.under selectorId = d.rules.under selectorId ∨
    ∃ r q, item = .rule r ∧ item' = .rule q ∧ selectorId = r.selectorId ∧
      Index.Exchanged r q (c.rules.under selectorId) (d.rules.under selectorId)

/-- **Writes of entries that tie** leave them in the order in which they came. -/
theorem put_tied (h : Stands c L) {item item' : Item} (hkey : item.key ≠ item'.key)
    (hties : item.Ties item') :
    SameButFor item item' ((c.put item).put item') ((c.put item').put item) := by
  -- only selectors and rules can tie
  cases item with
  | selector s =>
      cases item' with
      | selector t =>
          have hswapped : Index.Swapped s t ((c.selectors.insert s).insert t)
              ((c.selectors.insert t).insert s) := h.keeps.selectors.swapped hkey hties.1 hties.2
          refine ⟨fun group key => ?_, fun group => ?_, fun stage => ?_, fun _ => Or.inl rfl⟩
          · cases group with
            | selector => exact congrArg (Option.map Item.selector) (hswapped.get? key)
            | plugin | rule | metaData | appAuth => rfl
          · cases group with
            | selector => exact hswapped.size
            | plugin | rule | metaData | appAuth => rfl
          · exact (hswapped.under stage).imp_right fun hlists =>
              ⟨s, t, rfl, rfl, hlists.1, hlists.2⟩
      | descriptor _ | rule _ | service _ | credential _ => exact hties.elim
  | rule r =>
      cases item' with
      | rule q =>
          have hswapped : Index.Swapped r q ((c.rules.insert r).insert q)
              ((c.rules.insert q).insert r) := h.keeps.rules.swapped hkey hties.1 hties.2
          refine ⟨fun group key => ?_, fun group => ?_, fun _ => Or.inl rfl, fun selectorId => ?_⟩
          · cases group with
            | rule => exact congrArg (Option.map Item.rule) (hswapped.get? key)
            | plugin | selector | metaData | appAuth => rfl
          · cases group with
            | rule => exact hswapped.size
            | plugin | selector | metaData | appAuth => rfl
          · exact (hswapped.under selectorId).imp_right fun hlists =>
              ⟨r, q, rfl, rfl, hlists.1, hlists.2⟩
      | descriptor _ | selector _ | service _ | credential _ => exact hties.elim
  | descriptor _ | service _ | credential _ => exact hties.elim

/-- The answers of a catalogue, and what requests fall under by them. -/
structure SameAnswers (c d : Catalog) : Prop where
  get? : ∀ group key, c.get? group key = d.get? group key
  size : ∀ group, c.size group = d.size group
  selectorsOf : ∀ stage, c.selectorsOf stage = d.selectorsOf stage
  rulesUnder : ∀ selectorId, c.rules.under selectorId = d.rules.under selectorId
  resolve : ∀ policy stage a, c.resolve policy stage a = d.resolve policy stage a

theorem SameAnswers.of_eq {c d : Catalog} (h : c = d) : SameAnswers c d := by
  subst h
  exact ⟨fun _ _ => rfl, fun _ => rfl, fun _ => rfl, fun _ => rfl, fun _ _ _ => rfl⟩

end Catalog

/-! ## Events -/

namespace Feed

def after (c : Catalog) (e : Event) : Catalog := (apply c e).catalog

namespace Event

/-- The event writes or deletes one entry of a group. -/
def Single (group : Group) : Event → Prop
  | .replaceAll _ _ => False
  | .put g _ => g = group
  | .delete g _ => g = group

/-- The names that an event of one entry concerns. A malformed entry has none. -/
def names (e : Event) : List String := (e.edit?.map Catalog.Edit.names).getD []

def item? (e : Event) : Option Item := e.edit?.bind Catalog.Edit.item?

/-- An event of one entry is an edit of one entry. -/
theorem Single.edit {group : Group} {e : Event} (h : e.Single group) {d : Catalog.Edit}
    (hd : e.edit? = some d) : d.Single group := by
  cases e with
  | replaceAll _ _ => exact h.elim
  | put g raw =>
      obtain ⟨item, hitem, rfl⟩ := Option.map_eq_some_iff.1 hd
      obtain rfl : g = group := h
      exact Item.group_of_parse (ok_of_toOption hitem)
  | delete g key =>
      obtain rfl := Option.some.inj hd
      exact h

end Event

/-- A selector that looks at every request is delivered. -/
def putOpen (id : String) (sort : Int) : Event :=
  .put .selector (.obj [("enabled", .bool true), ("id", .str id), ("pluginName", .str "divide"),
    ("sort", .int sort), ("type", .str "full_flow")])

end Feed

end Gatehouse

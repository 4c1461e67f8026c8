import Gatehouse.Proofs.Catalog.Order

/-!
# Indexes as ledgers

A ledger is the plain list of the entries of an index in the order in which they were last written.
Writing an entry strikes the one with its id and adds the new one at the end; nothing else is kept,
so everything an index answers can be read off its ledger. `Index.Holds arrange ix l` says that it
is: by id, and for every owner the owner's entries of the ledger as `arrange` orders them.

An index answers in the order of sort numbers, `arrange := inOrder`. While a batch is gathered it
is not sorted yet, `arrange := id`. Both leave entries out and arrange in either order
(`Narrowing`), which is all that striking needs, so each operation is treated once for both.

* **Writing**: `Holds.insert`, `Holds.gather` and, for a batch, `holds_ofList`.
* **Striking**: `Holds.erase` by id, `Holds.eraseOwner` by owner.
-/

namespace Gatehouse

/-! ## Ledgers -/

namespace Ledger

variable [Owned α]

/-- Strike the entry of an id. -/
def strike (id : String) (l : List α) : List α := l.filter fun e => Owned.id e != id

def strikeOwner (owner : String) (l : List α) : List α := l.filter fun e => Owned.owner e != owner

/-- Write an entry at the end, in place of the one with its id. -/
def write (l : List α) (x : α) : List α := strike (Owned.id x) l ++ [x]

def ownedBy (owner : String) (l : List α) : List α := l.filter fun e => Owned.owner e == owner

theorem mem_strike {id : String} {x : α} {l : List α} :
    x ∈ strike id l ↔ x ∈ l ∧ Owned.id x ≠ id := by
  simp [strike]

theorem mem_strikeOwner {owner : String} {x : α} {l : List α} :
    x ∈ strikeOwner owner l ↔ x ∈ l ∧ Owned.owner x ≠ owner := by
  simp [strikeOwner]

theorem mem_ownedBy {owner : String} {x : α} {l : List α} :
    x ∈ ownedBy owner l ↔ x ∈ l ∧ Owned.owner x = owner := by
  simp [ownedBy]

theorem strike_of_absent {id : String} {l : List α} (h : ∀ x ∈ l, Owned.id x ≠ id) :
    strike id l = l :=
  List.filter_eq_self.2 fun x hx => by simpa using h x hx

theorem strike_append (id : String) (l m : List α) :
    strike id (l ++ m) = strike id l ++ strike id m := List.filter_append ..

/-- Removals and the look at one owner may be exchanged. -/
theorem ownedBy_strike (owner id : String) (l : List α) :
    ownedBy owner (strike id l) = (ownedBy owner l).filter fun e => Owned.id e != id := by
  rw [ownedBy, strike, ownedBy, List.filter_filter, List.filter_filter]
  exact List.filter_congr fun x _ => Bool.and_comm _ _

/-- Striking an id is not seen by owners that have no entry of that id. -/
theorem ownedBy_strike_of_absent {owner id : String} {l : List α}
    (h : ∀ x ∈ l, Owned.id x = id → Owned.owner x ≠ owner) :
    ownedBy owner (strike id l) = ownedBy owner l := by
  rw [ownedBy_strike, List.filter_eq_self]
  intro x hx
  have hx := mem_ownedBy.1 hx
  simpa using fun he => h x hx.1 he hx.2

theorem ownedBy_strikeOwner_self (owner : String) (l : List α) :
    ownedBy owner (strikeOwner owner l) = [] := by
  rw [ownedBy, List.filter_eq_nil_iff]
  intro x hx
  simpa using (mem_strikeOwner.1 hx).2

theorem ownedBy_strikeOwner_of_ne {owner other : String} (h : other ≠ owner) (l : List α) :
    ownedBy other (strikeOwner owner l) = ownedBy other l := by
  rw [ownedBy, strikeOwner, ownedBy, List.filter_filter]
  refine List.filter_congr fun x _ => ?_
  by_cases hx : Owned.owner x = other <;> simp [hx, h]

theorem ownedBy_append (owner : String) (l m : List α) :
    ownedBy owner (l ++ m) = ownedBy owner l ++ ownedBy owner m := List.filter_append ..

end Ledger

open Ledger

namespace Index

/-! ## What an index holds -/

/-- Leaving entries out and arranging may be done in either order. -/
def Narrowing (arrange : List α → List α) : Prop :=
  ∀ (p : α → Bool) (l : List α), (arrange l).filter p = arrange (l.filter p)

theorem narrowing_id : Narrowing (id : List α → List α) := fun _ _ => rfl

variable [Owned α]

theorem narrowing_inOrder : Narrowing (inOrder : List α → List α) := filter_inOrder

/-- The index answers as the ledger says. -/
structure Holds (arrange : List α → List α) (ix : Index α) (l : List α) : Prop where
  /-- No two entries of the ledger have one id. -/
  nodup : (l.map Owned.id).Nodup
  get?_iff : ∀ id x, ix.get? id = some x ↔ x ∈ l ∧ Owned.id x = id
  under_eq : ∀ owner, ix.under owner = arrange (ownedBy owner l)

variable {arrange : List α → List α} {ix : Index α} {l : List α}

theorem Holds.id_of_get? (h : Holds arrange ix l) {id : String} {x : α}
    (hx : ix.get? id = some x) : Owned.id x = id := ((h.get?_iff id x).1 hx).2

theorem Holds.get?_eq_none_iff (h : Holds arrange ix l) {id : String} :
    ix.get? id = none ↔ ∀ x ∈ l, Owned.id x ≠ id := by
  rw [Option.eq_none_iff_forall_ne_some]
  constructor
  · exact fun hn x hx he => hn x ((h.get?_iff id x).2 ⟨hx, he⟩)
  · exact fun hn x hx => hn x ((h.get?_iff id x).1 hx).1 ((h.get?_iff id x).1 hx).2

/-- Two entries of the ledger with one id are the same entry. -/
theorem Holds.eq_of_id (h : Holds arrange ix l) {x y : α} (hx : x ∈ l) (hy : y ∈ l)
    (he : Owned.id x = Owned.id y) : x = y := by
  have hgx := (h.get?_iff (Owned.id y) x).2 ⟨hx, he⟩
  have hgy := (h.get?_iff (Owned.id y) y).2 ⟨hy, rfl⟩
  exact Option.some.inj (hgx.symm.trans hgy)

/-- A look-up by id is a search through the ledger. -/
theorem Holds.get?_eq_find? (h : Holds arrange ix l) (id : String) :
    ix.get? id = l.find? fun x => Owned.id x == id := by
  cases hfind : l.find? fun x => Owned.id x == id with
  | none =>
      rw [h.get?_eq_none_iff]
      intro x hx
      simpa using List.find?_eq_none.1 hfind x hx
  | some x =>
      rw [h.get?_iff]
      exact ⟨List.mem_of_find?_eq_some hfind, by simpa using List.find?_some hfind⟩

/-- No entry is held twice, so an index is as large as its ledger. -/
theorem Holds.size_eq (h : Holds arrange ix l) : ix.size = l.length := by
  rw [← List.length_map Owned.id]
  refine Table.size_eq_length h.nodup fun id => ?_
  rw [List.mem_map]
  exact exists_congr fun x => (h.get?_iff id x).symm

theorem holds_empty (arrange : List α → List α) (h : arrange [] = []) :
    Holds arrange (empty : Index α) [] where
  nodup := List.nodup_nil
  get?_iff := by simp [empty, get?]
  under_eq := by simp [empty, under, ownedBy, h]

/-! ### Striking -/

/-- Only the list of the owner that the entry had is touched. -/
theorem Holds.under_erase (hn : Narrowing arrange) (h : Holds arrange ix l) (id p : String) :
    (ix.erase id).under p = arrange (ownedBy p (strike id l)) := by
  rw [Index.erase]
  split
  · next hnone =>
      rw [strike_of_absent (h.get?_eq_none_iff.1 hnone)]
      exact h.under_eq p
  · next old hold =>
      have hmem := (h.get?_iff id old).1 hold
      rw [under, under_setUnder]
      split
      · next hp =>
          rw [hp, h.under_eq, hn, ownedBy_strike]
      · next hp =>
          rw [ownedBy_strike_of_absent fun x hx he hxp => ?_]
          · exact h.under_eq p
          · -- an entry of this id is `old`, which has another owner
            rw [h.eq_of_id hx hmem.1 (he.trans hmem.2.symm)] at hxp
            exact hp hxp.symm

/-- **Striking an id.** -/
theorem Holds.erase (hn : Narrowing arrange) (h : Holds arrange ix l) (id : String) :
    Holds arrange (ix.erase id) (strike id l) := by
  refine ⟨(List.filter_sublist.map Owned.id).nodup h.nodup, fun k x => ?_, h.under_erase hn id⟩
  rw [get?_erase, mem_strike]
  split
  · next hk =>
      subst hk
      simp
  · next hk =>
      rw [h.get?_iff]
      exact ⟨fun hx => ⟨⟨hx.1, hx.2 ▸ hk⟩, hx.2⟩, fun hx => ⟨hx.1.1, hx.2⟩⟩

private theorem get?_foldl_erase (es : List α) (t : Table α) (k : String) :
    (es.foldl (fun t e => t.erase (Owned.id e)) t).get? k =
      if k ∈ es.map Owned.id then none else t.get? k := by
  induction es generalizing t with
  | nil => rfl
  | cons e es ih =>
      rw [List.foldl_cons, ih, Table.get?_erase, List.map_cons]
      by_cases hk : k = Owned.id e
      · simp [hk]
      · simp [hk]

/-- **Striking an owner.** -/
theorem Holds.eraseOwner (h : Holds inOrder ix l) (owner : String) :
    Holds inOrder (ix.eraseOwner owner) (strikeOwner owner l) := by
  have hids : ∀ k, k ∈ (ix.under owner).map Owned.id ↔
      ∃ x, (x ∈ l ∧ Owned.owner x = owner) ∧ Owned.id x = k := by
    intro k
    rw [h.under_eq, List.mem_map]
    simp only [mem_inOrder, mem_ownedBy]
  refine ⟨(List.filter_sublist.map Owned.id).nodup h.nodup, fun k x => ?_, fun p => ?_⟩
  · have hx := h.get?_iff k x
    rw [get?] at hx ⊢
    rw [Index.eraseOwner, get?_foldl_erase, mem_strikeOwner]
    split
    · next hk =>
        obtain ⟨y, ⟨hy, hyo⟩, hyk⟩ := (hids k).1 hk
        simp only [reduceCtorEq, false_iff]
        rintro ⟨⟨hxl, hxo⟩, hxk⟩
        exact hxo (h.eq_of_id hxl hy (hxk.trans hyk.symm) ▸ hyo)
    · next hk =>
        rw [hx]
        refine ⟨fun hx => ⟨⟨hx.1, fun ho => hk ((hids k).2 ⟨x, ⟨hx.1, ho⟩, hx.2⟩)⟩, hx.2⟩, ?_⟩
        exact fun hx => ⟨hx.1.1, hx.2⟩
  · rw [Index.eraseOwner, under, Table.get?_erase]
    split
    · next hp =>
        rw [hp, ownedBy_strikeOwner_self, inOrder_nil]
        rfl
    · next hp =>
        rw [ownedBy_strikeOwner_of_ne hp]
        exact h.under_eq p

theorem Holds.get?_eraseOwner (h : Holds inOrder ix l) (owner id : String) :
    (ix.eraseOwner owner).get? id = (ix.get? id).filter fun x => Owned.owner x != owner := by
  apply Option.ext
  intro x
  rw [(h.eraseOwner owner).get?_iff, Option.filter_eq_some_iff, h.get?_iff, mem_strikeOwner,
    bne_iff_ne]
  exact and_right_comm

/-! ### Writing -/

/-- An entry with a new id, put behind the ledger. -/
theorem Holds.add (h : Holds arrange ix l) {x : α} (hx : ∀ y ∈ l, Owned.id y ≠ Owned.id x)
    {list : List α} (hlist : list = arrange (ownedBy (Owned.owner x) l ++ [x])) :
    Holds arrange
      { byId := ix.byId.insert (Owned.id x) x
        byOwner := ix.byOwner.insert (Owned.owner x) list } (l ++ [x]) := by
  -- ids are told apart, then look-ups by id, then lists of owners
  refine ⟨?_, fun k y => ?_, fun p => ?_⟩
  · rw [List.map_append, List.nodup_append]
    refine ⟨h.nodup, List.pairwise_singleton _ _, fun k hk k' hk' => ?_⟩
    obtain ⟨y, hy, rfl⟩ := List.mem_map.1 hk
    obtain rfl := List.mem_singleton.1 hk'
    exact hx y hy
  · have hy := h.get?_iff k y
    rw [get?] at hy ⊢
    rw [Table.get?_insert, List.mem_append, List.mem_singleton]
    split
    · next hk =>
        subst hk
        constructor
        · intro he
          obtain rfl := Option.some.inj he
          exact ⟨Or.inr rfl, rfl⟩
        · rintro ⟨hyl | rfl, hye⟩
          · exact absurd hye (hx y hyl)
          · rfl
    · next hk =>
        rw [hy]
        constructor
        · exact fun hy => ⟨Or.inl hy.1, hy.2⟩
        · rintro ⟨hyl | rfl, hye⟩
          · exact ⟨hyl, hye⟩
          · exact absurd hye.symm hk
  · rw [under, Table.get?_insert, ownedBy_append]
    split
    · next hp =>
        subst hp
        simp [hlist, ownedBy]
    · next hp =>
        have hpx : ownedBy p [x] = [] := by simp [ownedBy, Ne.symm hp]
        rw [hpx, List.append_nil]
        exact h.under_eq p

private theorem ne_of_mem_strike {x y : α} (hy : y ∈ strike (Owned.id x) l) :
    Owned.id y ≠ Owned.id x := (mem_strike.1 hy).2

/-- **Writing one entry** puts it behind all entries of its owner that sort before it or alike. -/
theorem Holds.insert (h : Holds inOrder ix l) (x : α) :
    Holds inOrder (ix.insert x) (write l x) := by
  have hrest := h.erase narrowing_inOrder (Owned.id x)
  refine hrest.add (fun y hy => ne_of_mem_strike hy) ?_
  rw [hrest.under_eq, place_inOrder]

theorem Holds.gather (h : Holds id ix l) (x : α) : Holds id (ix.gather x) (write l x) := by
  have hrest := h.erase narrowing_id (Owned.id x)
  refine hrest.add (fun y hy => ne_of_mem_strike hy) ?_
  rw [hrest.under_eq]
  rfl

/-- A batch is taken in entry by entry. -/
private theorem Holds.gatherAll (items : List α) {ix : Index α} {l : List α}
    (h : Holds id ix l) : Holds id (items.foldl Index.gather ix) (items.foldl write l) := by
  induction items generalizing ix l with
  | nil => exact h
  | cons x items ih => exact ih (h.gather x)

/-- **Writing a batch** is writing its entries one after the other into an empty ledger. -/
theorem holds_ofList (items : List α) : Holds inOrder (ofList items) (items.foldl write []) := by
  have h := Holds.gatherAll items (holds_empty (id : List α → List α) rfl)
  refine ⟨h.nodup, h.get?_iff, fun p => ?_⟩
  have hp := h.under_eq p
  rw [under] at hp
  rw [ofList, under, Table.get?_map]
  cases hget : (items.foldl Index.gather empty).byOwner.get? p with
  | none =>
      rw [hget] at hp
      rw [← show [] = ownedBy p (items.foldl write []) from hp, inOrder_nil]
      rfl
  | some list =>
      rw [hget] at hp
      rw [← show list = ownedBy p (items.foldl write []) from hp]
      rfl

end Index

end Gatehouse

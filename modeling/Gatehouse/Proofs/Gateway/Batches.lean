import Gatehouse.Proofs.Catalog.Batches
import Gatehouse.Proofs.Gateway.Reached

/-!
# Snapshots

A group can be delivered as a snapshot or entry by entry. Entry by entry the stages are told after
every single write, and the chain is put in order every time; with a snapshot they are told when all
is written, and the chain is put in order once:

    snapshot          write all, tell all, put in order
    entry by entry    write x, tell x, put in order, write y, tell y, put in order, …

For a group that is empty **both lead to the same gateway** (`configure_replaceAll`), except for
services. Catalogues were compared before (`Catalog.Stands.foldl_put`); here it is the messages that
are moved behind the writes (`State.foldl_write`).
-/

namespace Gatehouse.Gateway

open Feed

variable {group : Group}

namespace State

/-- The state after an entry is written and told of. -/
def write (s : State) (item : Item) : State :=
  (written (s.catalog.put item) item).foldl tell { s with catalog := s.catalog.put item }

/-- Items that cannot be read leave no trace. -/
theorem apply_put (s : State) (group : Group) (raw : Json) :
    s.apply (.put group raw) = (Item.parse group raw).toOption.elim s s.write := by
  rw [State.apply, Feed.apply]
  cases Item.parse group raw <;> rfl

/-- Malformed entries are passed over one by one. -/
theorem foldl_apply_put (s : State) (group : Group) (raws : List Json) :
    (raws.map (Event.put group)).foldl State.apply s =
      (Item.parseAll group raws).foldl write s := by
  induction raws generalizing s with
  | nil => rfl
  | cons raw raws ih =>
      rw [List.map_cons, List.foldl_cons, ih, apply_put, Item.parseAll_cons, List.foldl_append]
      cases (Item.parse group raw).toOption <;> rfl

/-- **The messages may wait** until all is written. What they say can be read off any catalogue with
the right selectors. -/
theorem foldl_write {items : List Item} (hitems : ∀ item ∈ items, item.group = group)
    {c : Catalog} (s : State) (hc : group = .rule → c.selectors = s.catalog.selectors) :
    items.foldl write s = { s with
      catalog := items.foldl Catalog.put s.catalog
      pool := (items.flatMap (written c)).foldl heardByPool s.pool
      buckets := (items.flatMap (written c)).foldl heardByBuckets s.buckets } := by
  induction items generalizing s with
  | nil => rfl
  | cons item items ih =>
      have hgroup := hitems item List.mem_cons_self
      -- what is told of a rule depends on the selectors, and rules do not change these
      have hselectors : group = .rule → c.selectors = (s.catalog.put item).selectors := by
        intro hrule
        rw [hc hrule, Catalog.selectors_put (by simp [hgroup, hrule])]
      have hwritten : written (s.catalog.put item) item = written c item :=
        written_congr fun hrule => (hselectors (hgroup ▸ hrule)).symm
      have hnext : s.write item = { s with
          catalog := s.catalog.put item
          pool := (written c item).foldl heardByPool s.pool
          buckets := (written c item).foldl heardByBuckets s.buckets } := by
        rw [write, hwritten, foldl_tell]
      rw [List.foldl_cons, hnext,
        ih (fun i hi => hitems i (List.mem_cons_of_mem item hi)) _ hselectors]
      simp only [List.flatMap_cons, List.foldl_append, List.foldl_cons]

/-- A full synchronisation of an empty group is one upsert after the other. -/
theorem apply_replaceAll {s : State} {L : Ledgers} (h : s.catalog.Stands L)
    (hgroup : group ≠ .metaData) (hempty : s.catalog.size group = 0) (raws : List Json) :
    s.apply (.replaceAll group raws) = (raws.map (Event.put group)).foldl State.apply s := by
  have hitems : ∀ item ∈ Item.parseAll group raws, item.group = group :=
    fun item hitem => Item.group_of_mem_parseAll hitem
  have hfilled := h.foldl_put hgroup hempty hitems
  have hselectors : group = .rule →
      (s.catalog.replaceAll group (Item.parseAll group raws)).selectors = s.catalog.selectors := by
    rintro rfl
    rfl
  have hmessages : (Feed.apply s.catalog (.replaceAll group raws)).messages =
      (Item.parseAll group raws).flatMap
        (written (s.catalog.replaceAll group (Item.parseAll group raws))) := by
    rw [messages_replaceAll, dropped_eq_nil hempty, List.nil_append]
    rfl
  rw [foldl_apply_put, foldl_write hitems s hselectors, hfilled, apply_eq, hmessages]
  rfl

end State

/-! ## Gateways -/

/-- One event after the other may be gathered: the chain is put in order once, at the end. -/
theorem Settled.foldl_configure {g : Gateway} (h : Settled g) (es : List Event) :
    es.foldl Gateway.configure g = { g with
      state := es.foldl State.apply g.state
      lineup := g.lineup.reorder (es.foldl State.apply g.state).catalog.descriptors } := by
  induction es generalizing g with
  | nil =>
      show g = { g with lineup := g.lineup.reorder g.state.catalog.descriptors }
      rw [h.inStep]
  | cons e es ih =>
      rw [List.foldl_cons, ih (h.configure e), h.configure_eq]
      rfl

/-- **A snapshot** of a group that is empty leads where its entries lead one by one. -/
theorem configure_replaceAll {g : Gateway} (h : Reached g) (hgroup : group ≠ .metaData)
    (hempty : g.state.catalog.size group = 0) (raws : List Json) :
    g.configure (.replaceAll group raws) =
      raws.foldl (fun g raw => g.configure (.put group raw)) g := by
  have hsettled := h.settled
  obtain ⟨L, hL⟩ := hsettled.stands
  rw [← List.foldl_map, hsettled.foldl_configure, hsettled.configure_eq,
    State.apply_replaceAll hL hgroup hempty]

/-- Selectors of which one comes again, for another stage, and an entry that is malformed. -/
def moving : List Json :=
  [.obj [("handle", .arr [.obj [("url", .str "a")]]), ("id", .str "s"),
      ("pluginName", .str "divide")],
    .obj [("id", .str "t"), ("pluginName", .str "rewrite"), ("sort", .int 1)],
    .null,
    .obj [("id", .str "s"), ("pluginName", .str "rewrite")]]

theorem configure_replaceAll_moving :
    Reached unset ∧ unset.state.catalog.size .selector = 0 ∧
      unset.configure (.replaceAll .selector moving) =
        moving.foldl (fun g raw => g.configure (.put .selector raw)) unset ∧
      ((unset.configure (.replaceAll .selector moving)).state.catalog.selectorsOf "rewrite").map
        Selector.id = ["s", "t"] ∧
      ((unset.configure (.replaceAll .selector moving)).state.pool.of "s").length = 1 := by
  have hreached : Reached unset := (stock_unset []).reached
  have hempty : unset.state.catalog.size .selector = 0 := by decide +kernel
  have hsame := configure_replaceAll hreached (by decide) hempty moving
  refine ⟨hreached, hempty, hsame, ?_, ?_⟩
  · rw [hsame]
    decide +kernel
  · rw [hsame]
    decide +kernel

end Gatehouse.Gateway

import Gatehouse.Gateway.Build
import Gatehouse.Proofs.Catalog.Edits
import Gatehouse.Outcome

/-!
# Changes that reach a gateway

Between requests a gateway is changed by events of the feed and by reports about the health of
addresses. The data that comes with the settings is delivered by events too, so all that a gateway
was ever told is one list of changes, its `history`, which starts from a state without
configuration:

    initial state ──deliveries of the settings──▶ built gateway ──changes──▶ gateway

`state_follow` is that picture as an equation. The catalogue on the way is always one that holds
its ledgers (`kept_changeAll`).
-/

namespace Gatehouse

/-! ## Events of the feed as edits -/

/-- A catalogue that holds ledgers, as every catalogue does that was made by edits. -/
def Catalog.Kept (c : Catalog) : Prop := ∃ L, c.Keeps L

theorem Catalog.Kept.id_of_get? {c : Catalog} (h : c.Kept) {id : String} {s : Selector}
    (hs : c.selectors.get? id = some s) : s.id = id := by
  obtain ⟨L, hL⟩ := h
  exact hL.selectors.id_of_get? hs

theorem Catalog.kept_empty : Catalog.empty.Kept := ⟨_, keeps_empty⟩

/-- An event changes the catalogue by an edit or not at all. -/
theorem Catalog.Kept.apply {c : Catalog} (h : c.Kept) (e : Feed.Event) :
    (Feed.apply c e).catalog.Kept := by
  obtain ⟨L, hL⟩ := h
  cases e with
  | replaceAll group raw => exact ⟨_, hL.replaceAll group (Item.parseAll group raw)⟩
  | put group raw =>
      rw [Feed.apply]
      split
      · exact ⟨L, hL⟩
      · exact ⟨_, hL.put _⟩
  | delete group key => exact ⟨_, hL.delete group key⟩

namespace Gateway

/-! ## Changes -/

/-- What reaches a gateway from outside, requests apart. -/
inductive Change where
  | event (e : Feed.Event)
  | report (url : String) (healthy : Bool)

def Change.toAction : Change → Action
  | .event e => .configure e
  | .report url healthy => .report url healthy

def follow (g : Gateway) (cs : List Change) : Gateway := g.runAll (cs.map Change.toAction)

namespace State

def change (s : State) : Change → State
  | .event e => s.apply e
  | .report url healthy => { s with pool := s.pool.report url healthy }

def changeAll (s : State) (cs : List Change) : State := cs.foldl change s

theorem changeAll_append (s : State) (cs ds : List Change) :
    s.changeAll (cs ++ ds) = (s.changeAll cs).changeAll ds := List.foldl_append

/-! ### The catalogue -/

/-- A message is for a stage; the catalogue is not touched by it. -/
@[simp] theorem catalog_tell (s : State) (m : Feed.Message) : (s.tell m).catalog = s.catalog := by
  rw [tell]
  split
  · rfl
  · split <;> rfl

@[simp] theorem catalog_foldl_tell (ms : List Feed.Message) (s : State) :
    (ms.foldl tell s).catalog = s.catalog := by
  induction ms generalizing s with
  | nil => rfl
  | cons m ms ih => rw [List.foldl_cons, ih, catalog_tell]

@[simp] theorem catalog_apply (s : State) (e : Feed.Event) :
    (s.apply e).catalog = (Feed.apply s.catalog e).catalog := by
  rw [apply, catalog_foldl_tell]

/-- A change keeps that what is held under an id has the id. -/
theorem kept_change {s : State} (h : s.catalog.Kept) (c : Change) :
    (s.change c).catalog.Kept := by
  cases c with
  | event e =>
      rw [change, catalog_apply]
      exact h.apply e
  | report url healthy => exact h

theorem kept_changeAll {s : State} (h : s.catalog.Kept) (cs : List Change) :
    (s.changeAll cs).catalog.Kept := by
  induction cs generalizing s with
  | nil => exact h
  | cons c cs ih => exact ih (kept_change h c)

end State

/-! ### Histories -/

/-- Of a gateway that follows changes only the state matters. -/
theorem state_follow_eq (g : Gateway) (cs : List Change) :
    (g.follow cs).state = g.state.changeAll cs := by
  induction cs generalizing g with
  | nil => rfl
  | cons c cs ih =>
      have hstep : (g.step c.toAction).state = g.state.change c := by cases c <;> rfl
      rw [follow, List.map_cons, runAll, List.foldl_cons, ← runAll, ← follow, ih, hstep]
      rfl

/-- The events that deliver the data of the settings. -/
def deliveries (data : StaticData) : List Change :=
  Group.all.map fun group => .event (.replaceAll group (data.of group))

/-- The data that comes with the settings is a run of full synchronisations. -/
theorem deliver_eq_follow (g : Gateway) (data : StaticData) :
    g.deliver data = g.follow (deliveries data) := by
  rw [deliver, follow, runAll, deliveries, List.map_map, List.foldl_map]
  rfl

theorem settings_follow (g : Gateway) (cs : List Change) :
    (g.follow cs).settings = g.settings := by
  induction cs generalizing g with
  | nil => rfl
  | cons c cs ih =>
      have hstep : (g.step c.toAction).settings = g.settings := by cases c <;> rfl
      rw [follow, List.map_cons, runAll, List.foldl_cons, ← runAll, ← follow, ih, hstep]

/-- A state in which nothing is configured. -/
structure State.Blank (s : State) : Prop where
  catalog : s.catalog = .empty
  lists : s.pool.lists = .empty

/-- A gateway is built by delivering the data of its settings to a blank one. -/
theorem exists_blank_of_build {b : Blueprint} {g : Gateway} (h : build b = .ok g) :
    ∃ s : State, s.Blank ∧ g.state = s.changeAll (deliveries g.settings.data) := by
  obtain ⟨providers, -, h⟩ := exists_of_bind h
  obtain ⟨settings, -, h⟩ := exists_of_bind h
  obtain ⟨registered, -, h⟩ := exists_of_bind h
  obtain rfl := Except.ok.inj h
  refine ⟨.initial Balance.Strategy.all b.line b.now, ⟨rfl, rfl⟩, ?_⟩
  rw [deliver_eq_follow, settings_follow, state_follow_eq]

/-- All that a gateway was told since it was blank, when it was built and then changed. -/
def history (g : Gateway) (cs : List Change) : List Change := deliveries g.settings.data ++ cs

/-- **The state of a gateway is its history.** -/
theorem state_follow {b : Blueprint} {g : Gateway} (h : build b = .ok g) (cs : List Change) :
    ∃ s : State, s.Blank ∧ (g.follow cs).state = s.changeAll (g.history cs) := by
  obtain ⟨s, hs, hg⟩ := exists_blank_of_build h
  exact ⟨s, hs, by rw [state_follow_eq, hg, history, State.changeAll_append]⟩

/-- What a gateway without settings and without further stages is built from. -/
def Blueprint.bare : Blueprint := ⟨.empty, ⟨.empty⟩, [], none, .ofAnswers fun _ => default, 0⟩

/-- A bare gateway can be built, and its history is that of its changes. -/
theorem exists_build_bare :
    ∃ g, build .bare = .ok g ∧ ∀ cs, g.history cs = deliveries .empty ++ cs := by
  refine ⟨_, rfl, fun cs => ?_⟩
  rw [history, deliver_eq_follow, settings_follow]
  rfl

end Gateway

end Gatehouse

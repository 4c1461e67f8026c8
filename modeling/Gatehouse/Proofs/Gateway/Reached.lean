import Gatehouse.Proofs.Catalog.Determined
import Gatehouse.Proofs.Gateway.Attempts

/-!
# Gateways that come about

A gateway is built and then goes through actions of all kinds (`Reached`). Further stages may be
anything that leaves the catalogue alone; the built-in stages do, so `Stock` gateways are among
these.

Two things are true of every such gateway (`Reached.settled`): its catalogue holds its ledgers, and
the placements in its line-up are those of the descriptors. The second makes the order of the chain
a matter of the state alone: **an event changes the state, and the line-up follows**
(`Settled.configure_eq`). Of the state, the parts that hear messages change apart from each other
(`State.apply_eq`).
-/

namespace Gatehouse.Gateway

open Chain

/-! ## Stages and the catalogue -/

/-- A stage that leaves the catalogue alone. -/
def SparesCatalog (st : Stage State) : Prop :=
  ∀ moment s x, (st.run moment s x).state.catalog = s.catalog

theorem sparesCatalog_of_mem {u : Setup} {st : Stage State} (h : st ∈ u.stages) :
    SparesCatalog st := fun moment s x => (leaves_of_mem h moment s x).catalog

/-- A run of stages that spare the catalogue spares it as well. -/
theorem catalog_run {stages : List (Stage State)} (h : ∀ st ∈ stages, SparesCatalog st)
    (moment : Moment) (s : State) (x : Exchange) :
    (run moment stages s x).state.catalog = s.catalog := by
  induction stages generalizing s x with
  | nil => rfl
  | cons st rest ih =>
      have hst := h st List.mem_cons_self moment s x
      have hrest := ih fun st' hmem => h st' (List.mem_cons_of_mem st hmem)
      rw [run]
      split
      · exact hrest s x
      · dsimp only
        cases (st.run moment s x).verdict with
        | proceed => exact (hrest _ _).trans hst
        | respond _ | fail _ | collapse => exact hst

/-! ## Reached gateways -/

/-- An action that registers a stage only if that leaves the catalogue alone. -/
def Action.SparesCatalog : Action → Prop
  | .register st => Gateway.SparesCatalog st
  | _ => True

/-- A gateway as it was built, and after everything that has happened to it since. -/
inductive Reached : Gateway → Prop
  | built {b : Blueprint} {g : Gateway} (h : build b = .ok g)
      (hspares : ∀ st ∈ g.lineup.registered, SparesCatalog st) : Reached g
  | after {g : Gateway} {a : Action} (h : Reached g) (ha : a.SparesCatalog) : Reached (g.step a)

theorem Stock.reached {u : Setup} {g : Gateway} (h : Stock u g) : Reached g := by
  induction h with
  | @built b g h hregistry hextra hu =>
      have hstock : Stock u g := .built h hregistry hextra hu
      exact .built h fun st hst => sparesCatalog_of_mem (hstock.registered ▸ hst)
  | @after g a _ ha ih =>
      refine ih.after ?_
      cases a with
      | configure _ | report _ _ | handle _ _ => exact trivial
      | register _ => exact ha.elim

variable {g : Gateway}

/-- Only stages that spare the catalogue are ever registered. -/
theorem Reached.sparesCatalog (h : Reached g) : ∀ st ∈ g.lineup.registered, SparesCatalog st := by
  induction h with
  | built _ hspares => exact hspares
  | @after g a _ ha ih =>
      cases a with
      | configure e =>
          show ∀ st ∈ (g.configure e).lineup.registered, _
          rw [registered_configure]
          exact ih
      | report _ _ | handle _ _ => exact ih
      | register s =>
          intro st hst
          rcases List.mem_append.1 hst with hold | hnew
          · exact ih st (List.mem_filter.1 hold).1
          · obtain rfl := List.mem_singleton.1 hnew
            exact ha

/-- What is true of a gateway between actions. -/
structure Settled (g : Gateway) : Prop where
  /-- The catalogue holds its ledgers. -/
  stands : ∃ L, g.state.catalog.Stands L
  /-- To put the chain in order anew changes nothing. -/
  inStep : g.lineup.reorder g.state.catalog.descriptors = g.lineup

/-! ## Events -/

/-- Only events that put the chain in order anew change the descriptors. -/
theorem descriptors_apply {c : Catalog} {e : Feed.Event} (h : ¬ (Feed.apply c e).reorders = true) :
    (Feed.apply c e).catalog.descriptors = c.descriptors := by
  cases e with
  | replaceAll group raw =>
      cases group with
      | plugin => exact absurd rfl h
      | selector | rule | metaData | appAuth => rfl
  | put group raw =>
      rw [Feed.apply] at h ⊢
      cases hitem : Item.parse group raw with
      | error f => rfl
      | ok item =>
          have hgroup : item.group = group := Item.group_of_parse hitem
          rw [hitem] at h
          cases item with
          | descriptor d => exact absurd (beq_iff_eq.2 hgroup.symm) h
          | selector _ | rule _ | service _ | credential _ => rfl
  | delete group key =>
      cases group with
      | plugin => exact absurd rfl h
      | selector | rule | metaData | appAuth => rfl

/-- **An event changes the state**, and the line-up follows the descriptors. -/
theorem Settled.configure_eq (h : Settled g) (e : Feed.Event) :
    g.configure e = { g with
      state := g.state.apply e
      lineup := g.lineup.reorder (g.state.apply e).catalog.descriptors } := by
  rw [configure]
  simp only [State.catalog_apply]
  split
  · rfl
  · -- the chain is not put in order, and it need not be
    next hkeeps => rw [descriptors_apply hkeeps, h.inStep]

theorem Settled.configure (h : Settled g) (e : Feed.Event) : Settled (g.configure e) := by
  obtain ⟨L, hL⟩ := h.stands
  rw [h.configure_eq]
  refine ⟨?_, rfl⟩
  show ∃ M, (g.state.apply e).catalog.Stands M
  rw [State.catalog_apply, Feed.catalog_apply]
  cases e.edit? with
  | none => exact ⟨L, hL⟩
  | some d => exact ⟨_, hL.edit d⟩

/-- Whatever happens between two actions, the catalogue holds its ledgers and the chain is in step.
-/
theorem Settled.step (h : Settled g) (hspares : ∀ st ∈ g.lineup.registered, SparesCatalog st)
    (a : Action) : Settled (g.step a) := by
  cases a with
  | configure e => exact h.configure e
  | report url healthy => exact ⟨h.stands, h.inStep⟩
  | register st => exact ⟨h.stands, congrArg (Lineup.add · st) h.inStep⟩
  | handle moment r =>
      have hcatalog : (g.handle moment r).state.catalog = g.state.catalog :=
        catalog_run (fun st hst => hspares st (g.lineup.mem_registered_of_mem_active hst)) _ _ _
      constructor
      · show ∃ L, (g.handle moment r).state.catalog.Stands L
        rw [hcatalog]
        exact h.stands
      · show g.lineup.reorder (g.handle moment r).state.catalog.descriptors = g.lineup
        rw [hcatalog]
        exact h.inStep

theorem Settled.deliver (h : Settled g) (data : StaticData) : Settled (g.deliver data) := by
  rw [Gateway.deliver]
  induction Group.all generalizing g with
  | nil => exact h
  | cons group groups ih => exact ih (h.configure _)

theorem settled_of_build {b : Blueprint} (h : build b = .ok g) : Settled g := by
  obtain ⟨providers, -, h⟩ := exists_of_bind h
  obtain ⟨settings, -, h⟩ := exists_of_bind h
  obtain ⟨made, -, h⟩ := exists_of_bind h
  obtain rfl := Except.ok.inj h
  exact Settled.deliver ⟨⟨_, Catalog.stands_empty⟩, rfl⟩ _

/-- **Every gateway that comes about is settled.** -/
theorem Reached.settled (h : Reached g) : Settled g := by
  induction h with
  | built h _ => exact settled_of_build h
  | @after g a h _ ih => exact ih.step h.sparesCatalog a

/-! ## Who hears what -/

def heardByPool (p : Balance.Pool) (m : Feed.Message) : Balance.Pool :=
  if m.stage = balanceStage then tellPool p m.notice else p

def heardByBuckets (bs : Throttle.Buckets) (m : Feed.Message) : Throttle.Buckets :=
  if m.stage = throttleStage then tellBuckets bs m.notice else bs

namespace State

/-- Of the shared state a message reaches the pool and the buckets only. -/
theorem tell_eq (s : State) (m : Feed.Message) :
    s.tell m = { s with
      pool := heardByPool s.pool m
      buckets := heardByBuckets s.buckets m } := by
  rw [tell, heardByPool, heardByBuckets]
  by_cases hpool : m.stage = balanceStage
  · have hbuckets : m.stage ≠ throttleStage := by
      rw [hpool]
      decide
    rw [if_pos hpool, if_pos hpool, if_neg hbuckets]
  · rw [if_neg hpool, if_neg hpool]
    split <;> rfl

theorem foldl_tell (ms : List Feed.Message) (s : State) :
    ms.foldl tell s = { s with
      pool := ms.foldl heardByPool s.pool
      buckets := ms.foldl heardByBuckets s.buckets } := by
  induction ms generalizing s with
  | nil => rfl
  | cons m ms ih => rw [List.foldl_cons, ih, tell_eq, List.foldl_cons, List.foldl_cons]

/-- **The parts of the state change apart from each other**: the catalogue by the event, the pool
and the buckets by what they hear of it. -/
theorem apply_eq (s : State) (e : Feed.Event) :
    s.apply e = { s with
      catalog := (Feed.apply s.catalog e).catalog
      pool := (Feed.apply s.catalog e).messages.foldl heardByPool s.pool
      buckets := (Feed.apply s.catalog e).messages.foldl heardByBuckets s.buckets } :=
  foldl_tell _ _

end State

end Gatehouse.Gateway

import Gatehouse.Proofs.Gateway.Reached

/-!
# The order of the chain

A line-up holds the stages that were registered, a copy of the placements, taken when it was put in
order last, and the stages that take part, as they were arranged then. Events of the feed change the descriptors, registrations change the stages, and they
come in any order:

    descriptors ──put in order──▶ placements ──┐
                                               ├──▶ active stages
    registrations ─────────────▶ registered ───┘

Where a chain follows its catalogue from the start (`Attached`), the copy is never behind. So **the
order of the chain is no matter of history** (`arranged_of_attached`): it is the registered stages
without the disabled ones, in the order of the places that the present descriptors give them.
-/

namespace Gatehouse

namespace Chain

/-! ## Places -/

variable {σ : Type}

/-- The place of a stage: that in its descriptor, and its own if there is no descriptor. -/
def placeUnder (ds : Table Descriptor) (st : Stage σ) : Int :=
  ((ds.get? st.name).map Descriptor.sort).getD st.order

/-- Whether the descriptor of a stage takes it out of the chain. -/
def disabledBy (ds : Table Descriptor) (st : Stage σ) : Bool :=
  (ds.get? st.name).any fun d => !d.enabled

/-- Stages as descriptors arrange them: by place, then by name, and else as they were. -/
def inLine (ds : Table Descriptor) (stages : List (Stage σ)) : List (Stage σ) :=
  (stages.filter fun st => !disabledBy ds st).mergeSort fun a b =>
    decide (placeUnder ds a < placeUnder ds b) ||
      (placeUnder ds a == placeUnder ds b && decide (a.name ≤ b.name))

/-- Without its descriptor a stage stands where it was made to stand. -/
theorem placeUnder_erase_self (ds : Table Descriptor) (st : Stage σ) :
    placeUnder (ds.erase st.name) st = st.order := by
  simp [placeUnder, Table.get?_erase]

/-- A stage without a descriptor is not disabled. -/
theorem disabledBy_erase_self (ds : Table Descriptor) (st : Stage σ) :
    disabledBy (ds.erase st.name) st = false := by
  simp [disabledBy, Table.get?_erase]

/-- The order of a stage is its own unless a descriptor says otherwise. -/
theorem Lineup.place?_reorder (l : Lineup σ) (ds : Table Descriptor) (st : Stage σ) :
    place? (l.reorder ds).placements st =
      if disabledBy ds st then none else some (placeUnder ds st) := by
  rw [place?, reorder, rebuild, Table.get?_map, disabledBy, placeUnder]
  cases ds.get? st.name with
  | none => rfl
  | some d => cases hd : d.enabled <;> simp [hd]

/-- **Put in order**, a line-up is in the order of the descriptors. -/
theorem Lineup.active_reorder (l : Lineup σ) (ds : Table Descriptor) :
    (l.reorder ds).active = inLine ds l.registered := by
  have hplaced : ((l.reorder ds).registered.filterMap fun st =>
      (place? (l.reorder ds).placements st).map fun n => (n, st)) =
      (l.registered.filter fun st => !disabledBy ds st).map fun st => (placeUnder ds st, st) := by
    rw [← List.filterMap_eq_map, List.filterMap_filter]
    refine List.filterMap_congr fun st _ => ?_
    rw [place?_reorder]
    cases disabledBy ds st <;> rfl
  -- to sort stages with their places written beside them is to sort the stages
  have hsort : (inLine ds l.registered).map (fun st => (placeUnder ds st, st)) =
      ((l.registered.filter fun st => !disabledBy ds st).map
        fun st => (placeUnder ds st, st)).mergeSort comesFirst :=
    List.map_mergeSort fun _ _ _ _ => rfl
  rw [(l.reorder ds).upToDate, arrange, hplaced, ← hsort, List.map_map]
  exact List.map_id _

end Chain

namespace Gateway

open Chain

variable {g : Gateway}

/-! ## Chains that follow their catalogue -/

/-- A gateway whose chain has followed the catalogue since there was nothing in it: after events of
the feed and registrations, in any order. -/
inductive Attached : Gateway → Prop
  | fresh {g : Gateway} (hcatalog : g.state.catalog = .empty)
      (hplacements : g.lineup.placements = .empty) : Attached g
  | configure {g : Gateway} (h : Attached g) (e : Feed.Event) : Attached (g.configure e)
  | register {g : Gateway} (h : Attached g) (st : Stage State) : Attached (g.register st)

theorem Attached.deliver (h : Attached g) (data : StaticData) : Attached (g.deliver data) := by
  rw [Gateway.deliver]
  induction Group.all generalizing g with
  | nil => exact h
  | cons group groups ih => exact ih (h.configure _)

/-- Gateways are built like this. -/
theorem attached_of_build {b : Blueprint} (h : build b = .ok g) : Attached g := by
  obtain ⟨providers, -, h⟩ := exists_of_bind h
  obtain ⟨settings, -, h⟩ := exists_of_bind h
  obtain ⟨made, -, h⟩ := exists_of_bind h
  obtain rfl := Except.ok.inj h
  exact (Attached.fresh rfl rfl).deliver _

/-- **One step**: the placements are those of the present descriptors. Events that leave the chain
alone leave the descriptors alone, too. -/
theorem Attached.inStep (h : Attached g) :
    g.lineup.reorder g.state.catalog.descriptors = g.lineup := by
  induction h with
  | @fresh g hcatalog hplacements =>
      apply Lineup.ext
      · rfl
      · rw [hcatalog, hplacements]
        rfl
  | @configure g h e ih =>
      unfold Gateway.configure
      dsimp only
      split
      · rfl
      · next hkeeps => rw [State.catalog_apply, descriptors_apply hkeeps, ih]
  | register h st ih => exact congrArg (Lineup.add · st) ih

/-- What is active is what the descriptors of the catalogue say, stage by stage. -/
theorem Attached.active_eq (h : Attached g) :
    g.lineup.active = inLine g.state.catalog.descriptors g.lineup.registered := by
  rw [← Lineup.active_reorder, h.inStep]

theorem Attached.names_eq (h : Attached g) : g.lineup.names =
    (inLine g.state.catalog.descriptors g.lineup.registered).map Stage.name := by
  rw [Lineup.names, h.active_eq]

/-! ## No matter of history -/

/-- The order of a chain is that of its stages and descriptors. -/
structure Arranged (g : Gateway) : Prop where
  names : g.lineup.names =
    (inLine g.state.catalog.descriptors g.lineup.registered).map Stage.name
  /-- Whatever else has happened to another chain, with the same stages and descriptors it is the
  same chain. -/
  determined : ∀ g', Attached g' → g'.lineup.registered = g.lineup.registered →
    g'.state.catalog.descriptors = g.state.catalog.descriptors → g'.lineup.active = g.lineup.active
  /-- A stage whose descriptor is deleted has its own place again. -/
  deleted : ∀ st : Stage State, ∃ ds,
    (g.configure (.delete .plugin st.name)).lineup.names =
      (inLine ds g.lineup.registered).map Stage.name ∧
    (∀ other : Stage State, other.name ≠ st.name → placeUnder ds other =
        placeUnder g.state.catalog.descriptors other ∧
      disabledBy ds other = disabledBy g.state.catalog.descriptors other) ∧
    placeUnder ds st = st.order ∧ disabledBy ds st = false
  /-- A stage that comes late is placed by the descriptors that were there before it. -/
  added : ∀ st, (g.register st).lineup.names =
    (inLine g.state.catalog.descriptors
      ((g.lineup.registered.filter fun old => old.name != st.name) ++ [st])).map Stage.name

/-- **The order of the chain** is no matter of history. -/
theorem arranged_of_attached (h : Attached g) : Arranged g where
  names := h.names_eq
  determined g' h' hregistered hdescriptors := by
    rw [h.active_eq, h'.active_eq, hregistered, hdescriptors]
  deleted st := by
    refine ⟨g.state.catalog.descriptors.erase st.name, ?_, ?_, placeUnder_erase_self _ st,
      disabledBy_erase_self _ st⟩
    · have hnames := (h.configure (.delete .plugin st.name)).names_eq
      rw [registered_configure] at hnames
      rw [hnames]
      have hcatalog : (g.configure (.delete .plugin st.name)).state.catalog =
          g.state.catalog.delete .plugin st.name := State.catalog_apply _ _
      rw [hcatalog]
      rfl
    · intro other hother
      simp [placeUnder, disabledBy, Table.get?_erase, hother]
  added st := (h.register st).names_eq

/-- A stage that comes first by its own order. -/
def audit : Stage State := ⟨"audit", 0, fun _ => false, fun _ s x => conclude .proceed s x⟩

/-- The stage is registered when its descriptor is there already, next to an entry that is malformed
and a descriptor that takes another stage out. -/
def audited : Gateway :=
  ((unset.configure (.replaceAll .plugin
    [.obj [("enabled", .bool true), ("name", .str "audit"), ("sort", .int 500)], .null,
      .obj [("enabled", .bool false), ("name", .str "sign")]])).register audit)

theorem arranged_of_attached_audited : Attached audited ∧ Arranged audited ∧
    audited.lineup.names = ["global", "rate_limiter", "rewrite", "divide", "uri", "web_client",
      "response", "audit"] := by
  have hattached : Attached audited :=
    ((attached_of_build (b := .bare) rfl).configure _).register audit
  refine ⟨hattached, arranged_of_attached hattached, ?_⟩
  rw [Lineup.names, Lineup.active_eq_filter _ (by decide +kernel)]
  decide +kernel

end Gateway

end Gatehouse

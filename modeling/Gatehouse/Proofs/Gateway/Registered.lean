import Gatehouse.Proofs.Gateway.Changes
import Gatehouse.Proofs.Json.Records

/-!
# What registered stages are made from

A registered stage is made while the gateway is built, from the configuration that the data of the
settings has for its name. The data is delivered to the catalogue afterwards. Both take the
configuration from one list of items, and by different rules:

    items of the name           handed to the maker      held by the catalogue
    {config 1}                  1                        1
    {config 1}, {config 2}      1                        2
    {config 1, malformed}       1                        nothing
    [.., config 1]              nothing                  1

What a maker is handed is said by what building a gateway makes of other makers (`Hands`): it
depends on the maker at that value alone, and fails if the maker does there. **The value that is
handed over is the one that is held, exactly if the first item that gives the name and the last
descriptor of the name have the same configuration** (`hands_held_iff`), as they do where one
well-formed object alone gives the name (`hands_held_of_single`).
-/

namespace Gatehouse

theorem Table.keys_insert_of_mem {t : Table α} {k : String} (h : k ∈ t.keys) (v : α) :
    (t.insert k v).keys = t.keys := by
  have hkeys : ∀ u : Table α, (u.map fun _ => ()).keys = u.keys := by
    intro u
    rw [keys, map, List.map_map]
    rfl
  obtain ⟨w, hw⟩ := mem_keys_iff.1 h
  rw [← hkeys, ← hkeys t]
  congr 1
  ext q
  rw [get?_map, get?_map, get?_insert]
  split
  · next hq => rw [hq, hw]; rfl
  · rfl

namespace Gateway

open Chain

/-! ## Sequences of makers -/

section Sequences

variable {f f' : α → Except ε β} {l : List α} {a : α} {e : ε}

theorem exists_of_mapM {bs : List β} (h : l.mapM f = .ok bs) : ∀ x ∈ l, ∃ b, f x = .ok b := by
  induction l generalizing bs with
  | nil => simp
  | cons x l ih =>
      rw [List.mapM_cons] at h
      obtain ⟨b, hb, h⟩ := exists_of_bind h
      obtain ⟨bs, hbs, -⟩ := exists_of_bind h
      exact List.forall_mem_cons.2 ⟨⟨b, hb⟩, ih hbs⟩

/-- A sequence in which one element fails fails as this element does. -/
theorem mapM_eq_error (ha : a ∈ l) (hfail : f a = .error e)
    (hothers : ∀ x ∈ l, x ≠ a → ∃ b, f x = .ok b) : l.mapM f = .error e := by
  induction l with
  | nil => cases ha
  | cons x l ih =>
      rw [List.mapM_cons]
      by_cases hx : x = a
      · rw [hx, hfail]
        rfl
      · obtain ⟨b, hb⟩ := hothers x List.mem_cons_self hx
        have hmem : a ∈ l := (List.mem_cons.1 ha).resolve_left (Ne.symm hx)
        rw [hb, ih hmem fun y hy => hothers y (List.mem_cons_of_mem _ hy)]
        rfl

end Sequences

/-! ## Other makers -/

/-- What is built from settings and the stages that were made. -/
def Blueprint.assemble (b : Blueprint) (settings : Settings) (registered : List (Stage State)) :
    Gateway :=
  let verifier := b.verifier.getD (.credentials Stages.Sign.defaultMaxDelay)
  let bare : Gateway :=
    { settings := settings
      lineup := .ofStages ((Setup.ofSettings settings verifier).stages ++ registered ++ b.extra)
      state := .initial Balance.Strategy.all b.line b.now }
  bare.deliver settings.data

/-- The stages that a registry makes for the data of the settings. -/
def Registry.createAll (r : Registry) (data : StaticData) : Except Fault (List (Stage State)) :=
  r.names.mapM fun name => r.create name (configOf data name)

/-- The blueprint in which the stages of a name are made in another way. -/
def Blueprint.remake (b : Blueprint) (name : String)
    (make : Json → Except Fault (Stage State)) : Blueprint :=
  { b with registry := ⟨b.registry.makers.insert name make⟩ }

/-- A value is handed to the maker of a name: what is built depends on the maker at this value
alone, and nothing is built if the maker fails there. -/
structure Hands (b : Blueprint) (name : String) (config : Json) : Prop where
  only : ∀ make make', make config = make' config →
    build (b.remake name make) = build (b.remake name make')
  fails : ∀ make f, make config = .error f → build (b.remake name make) = .error (.gateway f)

variable {b : Blueprint} {g : Gateway} {name : String}

theorem build_of_settings {providers : List Settings.Provider} {settings : Settings}
    (hproviders : b.sources.providers = .ok providers)
    (hsettings : Settings.ofProviders providers = .ok settings) :
    build b = ((b.registry.createAll settings.data).mapError .gateway).map
      (b.assemble settings) := by
  rw [build, hproviders]
  show ((Settings.ofProviders providers).mapError BuildFault.config >>= _) = _
  rw [hsettings]
  show ((b.registry.createAll settings.data).mapError BuildFault.gateway >>= _) = _
  cases b.registry.createAll settings.data with
  | error f => rfl
  | ok registered => rfl

/-- Other makers are given the same settings to build from. -/
theorem exists_settings_of_build (h : build b = .ok g) : ∃ settings registered,
    b.registry.createAll settings.data = .ok registered ∧ g = b.assemble settings registered ∧
      ∀ name make, build (b.remake name make) =
        (((b.remake name make).registry.createAll settings.data).mapError .gateway).map
          (b.assemble settings) := by
  obtain ⟨providers, hproviders, h⟩ := exists_of_bind h
  obtain ⟨settings, hsettings, h⟩ := exists_of_bind h
  obtain ⟨registered, hregistered, h⟩ := exists_of_bind h
  refine ⟨settings, registered, ok_of_mapError hregistered, (Except.ok.inj h).symm, ?_⟩
  intro name make
  exact build_of_settings (b := b.remake name make) (ok_of_mapError hproviders)
    (ok_of_mapError hsettings)

theorem settings_assemble (settings : Settings) (registered : List (Stage State)) :
    (b.assemble settings registered).settings = settings := by
  rw [Blueprint.assemble, deliver_eq_follow, settings_follow]

theorem names_remake (hname : name ∈ b.registry.names)
    (make : Json → Except Fault (Stage State)) :
    (b.remake name make).registry.names = b.registry.names :=
  Table.keys_insert_of_mem hname make

/-- To make one stage in another way leaves the others as they were made. -/
theorem create_remake (make : Json → Except Fault (Stage State)) (other : String) (config : Json) :
    (b.remake name make).registry.create other config =
      if other = name then make config else b.registry.create other config := by
  rw [Registry.create, Blueprint.remake, Table.get?_insert]
  by_cases hother : other = name
  · rw [if_pos hother, if_pos hother]
  · rw [if_neg hother, if_neg hother, Registry.create]

/-- The stages that are made in another way. -/
theorem createAll_remake (hname : name ∈ b.registry.names)
    (make : Json → Except Fault (Stage State)) (data : StaticData) :
    (b.remake name make).registry.createAll data = b.registry.names.mapM fun other =>
      if other = name then make (configOf data name)
      else b.registry.create other (configOf data other) := by
  rw [Registry.createAll, names_remake hname]
  congr 1
  funext other
  rw [create_remake]
  split
  · next hother => rw [hother]
  · rfl

/-- The maker of a name is handed the configuration that the data has for the name. -/
theorem hands_configOf (h : build b = .ok g) (hname : name ∈ b.registry.names) :
    Hands b name (configOf g.settings.data name) := by
  obtain ⟨settings, registered, hmade, rfl, hbuild⟩ := exists_settings_of_build h
  rw [settings_assemble]
  constructor
  · intro make make' hsame
    rw [hbuild, hbuild, createAll_remake hname, createAll_remake hname, hsame]
  · intro make f hfail
    have hall : (b.remake name make).registry.createAll settings.data = .error f := by
      rw [createAll_remake hname]
      apply mapM_eq_error hname
      · rw [if_pos rfl, hfail]
      · intro other hother hne
        rw [if_neg hne]
        exact exists_of_mapM hmade other hother
    rw [hbuild, hall]
    rfl

/-- No more than one value is handed over. -/
theorem Hands.unique {c d : Json} (hc : Hands b name c) (hd : Hands b name d) : c = d := by
  apply Classical.byContradiction
  intro hne
  classical
  -- a maker that fails at one value alone
  let make (fault : Fault) (v : Json) : Except Fault (Stage State) :=
    if v = c then .error (.stage name "") else .error fault
  have h₁ := hc.fails (make (.other "")) _ (if_pos rfl)
  have h₂ := hd.fails (make (.other "")) _ (if_neg (Ne.symm hne))
  rw [h₁] at h₂
  cases h₂

/-! ## What is held -/

/-- The descriptors among some items. -/
def descriptorsRead (raws : List Json) : List Descriptor :=
  raws.filterMap fun raw => (Descriptor.decode raw).toOption

/-- The configuration that a gateway holds for a stage. -/
def heldConfig (g : Gateway) (name : String) : Json :=
  ((g.state.catalog.descriptors.get? name).bind Descriptor.config).getD .null

theorem descriptors_replaceAll (c : Catalog) (raws : List Json) :
    (c.replaceAll .plugin (Item.parseAll .plugin raws)).descriptors =
      .ofList ((descriptorsRead raws).map fun d => (d.name, d)) := by
  show Table.ofList _ = Table.ofList _
  congr 1
  rw [descriptorsRead, Item.parseAll, List.filterMap_filterMap, List.map_filterMap]
  congr 1
  funext raw
  rw [Item.parse]
  cases Descriptor.decode raw with
  | error e => rfl
  | ok d => rfl

/-- The catalogue holds the last descriptor of a name. -/
theorem get?_descriptors_of_build (h : build b = .ok g) (name : String) :
    g.state.catalog.descriptors.get? name =
      (descriptorsRead g.settings.data.descriptors).reverse.find? fun d => d.name == name := by
  obtain ⟨s, -, hstate⟩ := exists_blank_of_build h
  have hcatalog : g.state.catalog.descriptors =
      (s.catalog.replaceAll .plugin
        (Item.parseAll .plugin g.settings.data.descriptors)).descriptors := by
    rw [hstate]
    simp only [deliveries, Group.all, List.map_cons, List.map_nil, State.changeAll, List.foldl_cons,
      List.foldl_nil, State.change, State.catalog_apply]
    rfl
  rw [hcatalog, descriptors_replaceAll, Table.get?_ofList_map Descriptor.name]

/-! ## Both together -/

/-- The first item that gives a name. -/
def firstGiven? (raws : List Json) (name : String) : Option Json :=
  raws.find? fun raw => (raw.get? "name").bind Json.asString? == some name

/-- The last descriptor of a name. -/
def lastRead? (raws : List Json) (name : String) : Option Descriptor :=
  (descriptorsRead raws).reverse.find? fun d => d.name == name

/-- What a gateway holds for a stage is what the last well-formed descriptor says. -/
theorem heldConfig_of_build (h : build b = .ok g) (name : String) :
    g.heldConfig name =
      ((lastRead? g.settings.data.descriptors name).bind Descriptor.config).getD .null := by
  rw [heldConfig, get?_descriptors_of_build h, lastRead?]

/-- A descriptor that is read from an object has the name and the configuration that are members
of it. -/
theorem members_of_descriptor {fields : List (String × Json)} {d : Descriptor}
    (h : Descriptor.decode (.obj fields) = .ok d) :
    fields.lookup "name" = some (.str d.name) ∧
      d.config.getD .null = (fields.lookup "config").getD .null := by
  obtain ⟨found, hscan, hbuild⟩ := exists_of_bind h
  have hlookup : ∀ k, k = "name" ∨ k = "config" → found.lookup k = fields.lookup k := by
    intro k hk
    rw [Json.Decoder.lookup_scan ?_ ?_ hscan, List.lookup_nil, Option.none_or]
    · -- "sort" has a second name, which is neither of the two
      apply Json.Decoder.sole_of_aliases
      rcases hk with rfl | rfl <;> decide
    · show k ∈ ["id", "name", "sort", "enabled", "config"]
      rcases hk with rfl | rfl <;> decide
  -- the fields are taken off from the last one to the first
  obtain ⟨make₄, config, h₄, hconfig, rfl⟩ := Json.Decoder.exists_of_build_seq hbuild
  obtain ⟨make₃, enabled, h₃, -, rfl⟩ := Json.Decoder.exists_of_build_seq h₄
  obtain ⟨make₂, sort, h₂, -, rfl⟩ := Json.Decoder.exists_of_build_seq h₃
  obtain ⟨make₁, name, h₁, hname, rfl⟩ := Json.Decoder.exists_of_build_seq h₂
  obtain ⟨id, -, rfl⟩ := Json.Decoder.exists_of_build_map h₁
  constructor
  · obtain ⟨v, hv, hstring⟩ := Json.Decoder.exists_of_required hname
    rw [← hlookup "name" (Or.inl rfl), hv, Json.Decoder.eq_str_of_string hstring]
  · have hreads := Json.Decoder.reads_of_optional hconfig
    rw [hlookup "config" (Or.inr rfl)] at hreads
    cases hmember : fields.lookup "config" with
    | none =>
        rw [hmember] at hreads
        obtain rfl : config = none := hreads
        rfl
    | some v =>
        rw [hmember] at hreads
        cases v
        all_goals
          obtain rfl := Except.ok.inj hreads
          rfl

/-- An item is the only one of a list that gives a name, or is read to have it. -/
structure Single (raws : List Json) (name : String) (item : Json) : Prop where
  mem : item ∈ raws
  given : ∀ raw ∈ raws, raw.get? "name" = some (.str name) → raw = item
  read : ∀ raw ∈ raws, ∀ d, Descriptor.decode raw = .ok d → d.name = name → raw = item

variable {raws : List Json} {item : Json} {d : Descriptor}

/-- A descriptor that is alone with its name is the first one given. -/
theorem Single.firstGiven?_eq (h : Single raws name item)
    (hitem : item.get? "name" = some (.str name)) : firstGiven? raws name = some item := by
  cases hfind : firstGiven? raws name with
  | none =>
      have hnone := List.find?_eq_none.1 hfind item h.mem
      rw [hitem] at hnone
      simp [Json.asString?] at hnone
  | some raw =>
      have hraw : (raw.get? "name").bind Json.asString? = some name := by
        simpa using List.find?_some hfind
      obtain ⟨v, hv, hstring⟩ := Option.bind_eq_some_iff.1 hraw
      cases v with
      | str t =>
          rw [Option.some.inj hstring] at hv
          rw [h.given raw (List.mem_of_find?_eq_some hfind) hv]
      | null | bool | int | float | arr | obj => cases hstring

/-- A descriptor that is alone with its name is the last one that can be read. -/
theorem Single.lastRead?_eq (h : Single raws name item) (hd : Descriptor.decode item = .ok d)
    (hname : d.name = name) : lastRead? raws name = some d := by
  cases hfind : lastRead? raws name with
  | none =>
      have hmem : d ∈ descriptorsRead raws := List.mem_filterMap.2 ⟨item, h.mem, by rw [hd]; rfl⟩
      have hnone := List.find?_eq_none.1 hfind d (List.mem_reverse.2 hmem)
      simp [hname] at hnone
  | some d' =>
      have hname' : d'.name = name := by simpa using List.find?_some hfind
      obtain ⟨raw, hraw, hread⟩ := List.mem_filterMap.1 <|
        List.mem_reverse.1 (List.mem_of_find?_eq_some hfind)
      have hd' : Descriptor.decode raw = .ok d' := ok_of_toOption hread
      rw [h.read raw hraw d' hd' hname', hd] at hd'
      rw [Except.ok.inj hd']

/-- A registered stage is made from what is held for it, if one object alone gives its name and is
well-formed. -/
theorem hands_held_of_single (h : build b = .ok g) (hname : name ∈ b.registry.names)
    {fields : List (String × Json)}
    (hsingle : Single g.settings.data.descriptors name (.obj fields))
    (hd : Descriptor.decode (.obj fields) = .ok d) (hdname : d.name = name) :
    Hands b name (g.heldConfig name) := by
  obtain ⟨hgiven, hconfig⟩ := members_of_descriptor hd
  rw [hdname] at hgiven
  have hhanded : Hands b name (configOf g.settings.data name) := hands_configOf h hname
  have hfirst : configOf g.settings.data name = (fields.lookup "config").getD .null := by
    show ((firstGiven? _ name).bind (Json.get? "config")).getD .null = _
    rw [hsingle.firstGiven?_eq hgiven]
    rfl
  rw [heldConfig_of_build h, hsingle.lastRead?_eq hd hdname]
  rw [hfirst, ← hconfig] at hhanded
  exact hhanded

/-- **Registered stages** are made from the configuration that the gateway holds for their name,
exactly if the first item that gives the name and the last descriptor of the name have the same
configuration, which is null where there is none. -/
theorem hands_held_iff (h : build b = .ok g) (hname : name ∈ b.registry.names) :
    Hands b name (g.heldConfig name) ↔
      ((firstGiven? g.settings.data.descriptors name).bind (Json.get? "config")).getD .null =
        ((lastRead? g.settings.data.descriptors name).bind Descriptor.config).getD .null := by
  have hhanded : Hands b name (configOf g.settings.data name) := hands_configOf h hname
  rw [← heldConfig_of_build h]
  constructor
  · intro hhands
    exact hhanded.unique hhands
  · intro hsame
    rw [← hsame]
    exact hhanded

/-- A descriptor of a stage, as it is delivered. -/
def stampItem (config : Json) : Json :=
  .obj [("config", config), ("enabled", .bool true), ("name", .str "stamp"), ("sort", .int 15)]

/-- A stage that is made from nothing. -/
def stamp : Stage State := ⟨"stamp", 15, fun _ => false, fun _ s x => conclude .proceed s x⟩

/-- A registered stage has two descriptors in the settings. -/
def stampedTwice : Blueprint :=
  { Blueprint.bare with
    sources := { Settings.Sources.empty with
      whole := some [.ofTree "json" (.obj [("gateway", .obj [("data", .obj [("plugins",
        .arr [stampItem (.int 3), stampItem (.int 25)])])])])] }
    registry := ⟨Table.empty.insert "stamp" fun _ => .ok stamp⟩ }

theorem exists_build_stampedTwice : ∃ g, build stampedTwice = .ok g ∧
    g.settings.data.descriptors = [stampItem (.int 3), stampItem (.int 25)] := by
  refine ⟨_, rfl, ?_⟩
  rw [deliver_eq_follow, settings_follow]
  rfl

/-- The stage is made from the first descriptor, and the second one is held. -/
theorem hands_held_iff_stampedTwice : ∃ g, build stampedTwice = .ok g ∧
    "stamp" ∈ stampedTwice.registry.names ∧
    ¬ Hands stampedTwice "stamp" (g.heldConfig "stamp") := by
  obtain ⟨g, hg, hraws⟩ := exists_build_stampedTwice
  have hname : "stamp" ∈ stampedTwice.registry.names := by decide
  refine ⟨g, hg, hname, ?_⟩
  rw [hands_held_iff hg hname, hraws]
  have hfirst : ((firstGiven? [stampItem (.int 3), stampItem (.int 25)] "stamp").bind
      (Json.get? "config")).getD .null = .int 3 := rfl
  have hlast : ((lastRead? [stampItem (.int 3), stampItem (.int 25)] "stamp").bind
      Descriptor.config).getD .null = .int 25 := rfl
  rw [hfirst, hlast]
  simp

theorem not_hands_held : ¬ ∀ (b : Blueprint) (g : Gateway) (name : String), build b = .ok g →
    name ∈ b.registry.names → Hands b name (g.heldConfig name) := by
  intro hall
  obtain ⟨g, hg, hraws⟩ := exists_build_stampedTwice
  have hname : "stamp" ∈ stampedTwice.registry.names := by decide
  have hhanded := hands_configOf hg hname
  have hsame := hhanded.unique (hall stampedTwice g "stamp" hg hname)
  rw [heldConfig_of_build hg, configOf, hraws] at hsame
  have hthree : (Json.int 3) = .int 25 := hsame
  simp at hthree

end Gateway

end Gatehouse

import Gatehouse.Catalog.Basic
import Gatehouse.Item.Format

/-!
# The feed

Configuration arrives as events with entries in their delivered form. Malformed entries are passed
over, the rest goes into the catalogue, and the stages concerned are told: each notice is addressed
to the stage that an entry belongs to. A rule belongs to the stage it names, else to the stage of
its selector.
-/

namespace Gatehouse.Feed

inductive Event where
  | replaceAll (group : Group) (raw : List Json)
  | put (group : Group) (raw : Json)
  | delete (group : Group) (key : String)
deriving Inhabited, Repr

/-- What a stage is told. -/
inductive Notice where
  | descriptorPut (d : Descriptor)
  | descriptorGone (d : Descriptor)
  | selectorPut (s : Selector)
  | selectorGone (s : Selector)
  | rulePut (r : Rule)
  | ruleGone (r : Rule)
deriving Inhabited, Repr

structure Message where
  stage : String
  notice : Notice
deriving Inhabited, Repr

/-- What comes of an event. -/
structure Outcome where
  catalog : Catalog
  messages : List Message
  /-- Whether the chain has to be put in order anew. -/
  reorders : Bool

def stageOfRule? (c : Catalog) (r : Rule) : Option String :=
  if r.stage.isEmpty then (c.selectors.get? r.selectorId).map Selector.stage else some r.stage

def aboutRule (c : Catalog) (r : Rule) (notice : Rule → Notice) : List Message :=
  (stageOfRule? c r).toList.map fun stage => ⟨stage, notice r⟩

/-- What is told about an entry that was written. -/
def written (c : Catalog) : Item → List Message
  | .descriptor d => [⟨d.name, .descriptorPut d⟩]
  | .selector s => [⟨s.stage, .selectorPut s⟩]
  | .rule r => aboutRule c r .rulePut
  | .service _ => []
  | .credential _ => []

/-- What is told about the entries of a group that are not among those to come. -/
def dropped (c : Catalog) (group : Group) (coming : List Item) : List Message :=
  let stays (key : String) : Bool := coming.any fun i => i.key == key
  match group with
  | .plugin =>
    (c.descriptors.values.filter fun d => !stays d.name).map fun d => ⟨d.name, .descriptorGone d⟩
  | .selector =>
    (c.selectors.byId.values.filter fun s => !stays s.id).map fun s => ⟨s.stage, .selectorGone s⟩
  | .rule =>
    (c.rules.byId.values.filter fun r => !stays r.id).flatMap fun r => aboutRule c r .ruleGone
  | .metaData => []
  | .appAuth => []

/-- What is told about what is deleted under a key. The rules of a selector go with it, and the
stage of the selector is told of them. -/
def deleted (c : Catalog) (group : Group) (key : String) : List Message :=
  match group with
  | .plugin => (c.descriptors.get? key).toList.map fun d => ⟨d.name, .descriptorGone d⟩
  | .selector =>
    match c.selectors.get? key with
    | none => []
    | some s =>
      ((c.rulesOf s).map fun r => ⟨s.stage, .ruleGone r⟩) ++ [⟨s.stage, .selectorGone s⟩]
  | .rule => (c.rules.get? key).toList.flatMap fun r => aboutRule c r .ruleGone
  | .metaData => []
  | .appAuth => []

def apply (c : Catalog) : Event → Outcome
  | .replaceAll group raw =>
    let items := raw.filterMap fun v => (Item.parse group v).toOption
    let after := c.replaceAll group items
    { catalog := after
      messages := dropped c group items ++ items.flatMap (written after)
      reorders := group == .plugin }
  | .put group raw =>
    match Item.parse group raw with
    | .error _ => { catalog := c, messages := [], reorders := false }
    | .ok item =>
      let after := c.put item
      { catalog := after, messages := written after item, reorders := group == .plugin }
  | .delete group key =>
    { catalog := c.delete group key
      messages := deleted c group key
      reorders := group == .plugin }

end Gatehouse.Feed

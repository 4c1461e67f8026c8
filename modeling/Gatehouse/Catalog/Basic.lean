import Gatehouse.Catalog.Index
import Gatehouse.Item.Basic
import Gatehouse.Match.Resolve

/-!
# The catalogue

The latest entries of all five groups. A group is replaced as a whole (`replaceAll`), or one of
its entries is written (`put`) or removed (`delete`). Services are found by path but belong to
their id: writing one takes its id away from the path it had. Removing a selector removes its
rules with it.
-/

namespace Gatehouse

instance : Owned Selector := ⟨Selector.id, Selector.stage, Selector.sort⟩

instance : Owned Rule := ⟨Rule.id, Rule.selectorId, Rule.sort⟩

structure Catalog where
  /-- By the name of the stage. -/
  descriptors : Table Descriptor
  selectors : Index Selector
  rules : Index Rule
  /-- By path. -/
  services : Table Service
  /-- By key. -/
  credentials : Table Credential
deriving Inhabited

namespace Catalog

def empty : Catalog := ⟨.empty, .empty, .empty, .empty, .empty⟩

/-! ### Looking up -/

def get? (c : Catalog) (group : Group) (key : String) : Option Item :=
  match group with
  | .plugin => (c.descriptors.get? key).map .descriptor
  | .selector => (c.selectors.get? key).map .selector
  | .rule => (c.rules.get? key).map .rule
  | .metaData => (c.services.get? key).map .service
  | .appAuth => (c.credentials.get? key).map .credential

def size (c : Catalog) : Group → Nat
  | .plugin => c.descriptors.size
  | .selector => c.selectors.size
  | .rule => c.rules.size
  | .metaData => c.services.size
  | .appAuth => c.credentials.size

/-- The selectors of a stage in order, disabled ones included. -/
def selectorsOf (c : Catalog) (stage : String) : List Selector := c.selectors.under stage

/-- The rules of a selector in order, disabled ones included. -/
def rulesOf (c : Catalog) (s : Selector) : List Rule := c.rules.under s.id

def resolve (c : Catalog) (policy : Match.Fallthrough) (stage : String) (a : Http.Attributes) :
    Match.Resolution :=
  Match.resolve policy (c.selectorsOf stage) c.rulesOf a

/-! ### Changing -/

/-- Replace a group. Items of other groups are passed over. -/
def replaceAll (c : Catalog) (group : Group) (items : List Item) : Catalog :=
  match group with
  | .plugin =>
    { c with descriptors := .ofList (items.filterMap fun
        | .descriptor d => some (d.name, d)
        | _ => none) }
  | .selector =>
    { c with selectors := .ofList (items.filterMap fun
        | .selector s => some s
        | _ => none) }
  | .rule =>
    { c with rules := .ofList (items.filterMap fun
        | .rule r => some r
        | _ => none) }
  | .metaData =>
    { c with services := .ofList (items.filterMap fun
        | .service s => some (s.path, s)
        | _ => none) }
  | .appAuth =>
    { c with credentials := .ofList (items.filterMap fun
        | .credential a => some (a.key, a)
        | _ => none) }

/-- Write a service under its path, and under no other if it has an id. -/
def putService (services : Table Service) (s : Service) : Table Service :=
  (services.filter fun _ old => s.id.isEmpty || old.id != s.id).insert s.path s

/-- Write an entry, in place of the one it stands for. -/
def put (c : Catalog) : Item → Catalog
  | .descriptor d => { c with descriptors := c.descriptors.insert d.name d }
  | .selector s => { c with selectors := c.selectors.insert s }
  | .rule r => { c with rules := c.rules.insert r }
  | .service s => { c with services := putService c.services s }
  | .credential a => { c with credentials := c.credentials.insert a.key a }

/-- Whether a deletion names a service: by its path or by its id. -/
def namesService (key path : String) (s : Service) : Bool := path == key || s.id == key

/-- Whether there is anything to delete under a key. -/
def holds (c : Catalog) (group : Group) (key : String) : Bool :=
  match group with
  | .plugin => c.descriptors.contains key
  | .selector => (c.selectors.get? key).isSome
  | .rule => (c.rules.get? key).isSome
  | .metaData => c.services.entries.any fun (path, s) => namesService key path s
  | .appAuth => c.credentials.contains key

def delete (c : Catalog) (group : Group) (key : String) : Catalog :=
  match group with
  | .plugin => { c with descriptors := c.descriptors.erase key }
  | .selector =>
    { c with
      selectors := c.selectors.erase key
      rules := if c.holds .selector key then c.rules.eraseOwner key else c.rules }
  | .rule => { c with rules := c.rules.erase key }
  | .metaData => { c with services := c.services.filter fun path s => !namesService key path s }
  | .appAuth => { c with credentials := c.credentials.erase key }

end Catalog

end Gatehouse

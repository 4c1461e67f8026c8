import Gatehouse.Group
import Gatehouse.Match.Condition

/-!
# Items of configuration

The five kinds of entry that configuration consists of. A handle is a piece of JSON text that
only the stage it is meant for understands.
-/

namespace Gatehouse

/-- What is configured for a stage: its place in the chain, and settings of its own. -/
structure Descriptor where
  id : String
  name : String
  sort : Int
  enabled : Bool
  config : Option Json
deriving Repr, Inhabited

/-- Whether a selector looks at its conditions. -/
inductive Selector.Scope where
  /-- Every request. -/
  | fullFlow
  /-- The requests that satisfy the conditions. -/
  | custom
deriving DecidableEq, Repr, Inhabited

/-- The requests that a stage handles in one way. -/
structure Selector where
  id : String
  stage : String
  name : String
  mode : Match.Mode
  scope : Selector.Scope
  sort : Int
  enabled : Bool
  /-- Whether the next selector may be tried when no rule of this one matches. -/
  continued : Bool
  conditions : List Match.Condition
  handle : Option String
deriving DecidableEq, Repr, Inhabited

/-- How a stage treats some of the requests of a selector. -/
structure Rule where
  id : String
  selectorId : String
  stage : String
  name : String
  mode : Match.Mode
  sort : Int
  enabled : Bool
  conditions : List Match.Condition
  handle : Option String
deriving DecidableEq, Repr, Inhabited

/-- A registered service method, found by the path it is called under. -/
structure Service where
  id : String
  appName : String
  contextPath : Option String
  path : String
  rpcType : String
  serviceName : String
  methodName : String
  enabled : Bool
deriving DecidableEq, Repr, Inhabited

/-- What an application signs its requests with. -/
structure Credential where
  key : String
  secret : String
  enabled : Bool
  /-- Whether only the listed paths may be called. -/
  restricted : Bool
  paths : List String
deriving DecidableEq, Repr, Inhabited

inductive Item where
  | descriptor (d : Descriptor)
  | selector (s : Selector)
  | rule (r : Rule)
  | service (s : Service)
  | credential (c : Credential)
deriving Repr, Inhabited

namespace Item

def group : Item → Group
  | descriptor _ => .plugin
  | selector _ => .selector
  | rule _ => .rule
  | service _ => .metaData
  | credential _ => .appAuth

/-- The key under which an entry is held and deleted. -/
def key : Item → String
  | descriptor d => d.name
  | selector s => s.id
  | rule r => r.id
  | service s => s.path
  | credential c => c.key

end Item

/-- Whether a request falls under an enabled selector. -/
def Selector.accepts (s : Selector) (a : Http.Attributes) : Bool :=
  s.enabled && match s.scope with
    | .fullFlow => true
    | .custom => s.mode.holds s.conditions a

/-- Whether a request falls under an enabled rule. -/
def Rule.accepts (r : Rule) (a : Http.Attributes) : Bool :=
  r.enabled && r.mode.holds r.conditions a

end Gatehouse

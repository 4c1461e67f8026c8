/-!
# Groups of configuration

Configuration arrives in five groups, each with items of its own kind.
-/

namespace Gatehouse

inductive Group where
  | plugin
  | selector
  | rule
  | metaData
  | appAuth
deriving DecidableEq, Repr, Inhabited

namespace Group

/-- The name of a group on the wire and in messages. -/
def label : Group → String
  | plugin => "PLUGIN"
  | selector => "SELECTOR"
  | rule => "RULE"
  | metaData => "META_DATA"
  | appAuth => "APP_AUTH"

/-- All groups, in the order in which data is loaded. -/
def all : List Group := [plugin, selector, rule, metaData, appAuth]

def ofLabel? (s : String) : Option Group := all.find? fun g => g.label == s

theorem ofLabel?_label (g : Group) : ofLabel? g.label = some g := by cases g <;> decide

end Group

end Gatehouse

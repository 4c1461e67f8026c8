import Gatehouse.Http.Attributes
import Gatehouse.Json.Decode
import Gatehouse.Match.Operator
import Gatehouse.Unicode.Lower

/-!
# Conditions

A condition reads one attribute of a request and compares it. An attribute that is absent
satisfies no operator. Several conditions are combined by a mode.
-/

namespace Gatehouse.Match

/-- Where a condition reads its value. -/
inductive Source where
  | uri
  | query
  | header
  | host
  | ip
  | cookie
  | method
deriving DecidableEq, Repr, Inhabited

inductive Mode where
  | all
  | any
deriving DecidableEq, Repr, Inhabited

namespace Source

def label : Source → String
  | uri => "uri"
  | query => "query"
  | header => "header"
  | host => "host"
  | ip => "ip"
  | cookie => "cookie"
  | method => "method"

def read? (s : Source) (name : String) (a : Http.Attributes) : Option String :=
  match s with
  | uri => some a.path
  | query => a.query.lookup name
  | header => a.headers.lookup (Unicode.lower name)
  | host => a.host
  | ip => a.ip
  | cookie => a.cookies.lookup name
  | method => some a.method

def decode : Json.Decoder Source :=
  .variant ([uri, query, header, host, ip, cookie, method].map fun s => (s.label, s))

end Source

namespace Mode

def label : Mode → String
  | all => "and"
  | any => "or"

def decode : Json.Decoder Mode := .variant ([all, any].map fun m => (m.label, m))

end Mode

/-- A comparison of one attribute with a value. -/
structure Condition where
  source : Source
  operator : String
  name : String
  value : String
deriving DecidableEq, Repr, Inhabited

namespace Condition

def read? (c : Condition) (a : Http.Attributes) : Option String := c.source.read? c.name a

def holds (c : Condition) (a : Http.Attributes) : Bool :=
  match c.read? a with
  | some actual => (Operator.compile c.operator c.value).isMatch actual
  | none => false

open Json.Decoder in
def decode : Json.Decoder Condition :=
  record "ConditionData" <|
    Condition.mk <$> required "paramType" Source.decode []
      <*> required "operator" string []
      <*> optional "paramName" string "" []
      <*> optional "paramValue" string "" []

def encode (c : Condition) : Json :=
  .obj [("operator", .str c.operator), ("paramName", .str c.name),
    ("paramType", .str c.source.label), ("paramValue", .str c.value)]

end Condition

/-- Whether a request satisfies the conditions, all of them or any of them. -/
def Mode.holds (m : Mode) (cs : List Condition) (a : Http.Attributes) : Bool :=
  match m with
  | .all => cs.all (·.holds a)
  | .any => cs.any (·.holds a)

end Gatehouse.Match

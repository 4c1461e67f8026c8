import Gatehouse.Backend
import Gatehouse.Http.Request
import Gatehouse.Http.Response
import Gatehouse.Item.Basic
import Gatehouse.Rpc

/-!
# Exchanges

A request on its way through the chain, with what the stages have found out about it and, once the
call was made, the answer of the backend.
-/

namespace Gatehouse

inductive CallResult where
  | success
  | error
deriving DecidableEq, Repr, Inhabited

def CallResult.label : CallResult → String
  | success => "success"
  | error => "error"

/-- What stages have found out about a request. -/
structure Context where
  rpc : Rpc
  path : String
  /-- The path to ask the backend for. -/
  realUrl : String
  contextPath : Option String
  module : Option String
  method : Option String
  appKey : Option String
  sign : Option String
  timestamp : Option String
  service : Option Service
  /-- The selector and the rule that a stage found last. -/
  selectorId : Option String
  ruleId : Option String
  backend : Option Backend
  /-- Scheme and address of the backend. -/
  domain : Option String
  /-- The whole URL to call. -/
  target : Option String
  /-- The path after substitution. -/
  reshaped : Option String
  /-- In milliseconds. -/
  timeout : Option Nat
  retry : Option Nat
  result : Option CallResult
  /-- How long the call took, in milliseconds, once there was one. -/
  callTime : Option Nat
  /-- Notes that stages leave for later ones. -/
  notes : List (String × Json)
deriving Repr, Inhabited

/-- The context of a request that no stage has seen. -/
def Context.ofPath (path : String) : Context where
  rpc := .http
  path := path
  realUrl := path
  contextPath := none
  module := none
  method := none
  appKey := none
  sign := none
  timestamp := none
  service := none
  selectorId := none
  ruleId := none
  backend := none
  domain := none
  target := none
  reshaped := none
  timeout := none
  retry := none
  result := none
  callTime := none
  notes := []

/-- A request with its context and the answer of the backend. -/
structure Exchange where
  request : Http.Request
  context : Context
  answer : Option Http.Response
deriving Repr, Inhabited

namespace Exchange

def ofRequest (r : Http.Request) : Exchange := ⟨r, .ofPath r.path, none⟩

/-- The address of the client, empty if it is not known. -/
def client (x : Exchange) : String := x.request.clientIp.getD ""

end Exchange

end Gatehouse

import Gatehouse.Chain.Stage
import Gatehouse.Gateway.State

/-!
# Classifying requests

The first stage finds out what kind of call a request is. A service registered for the path
decides, then a request to upgrade to a web socket, then a header, and all else is plain HTTP. Then
the stage fills in what the kind implies, and the parts of a signature.
-/

namespace Gatehouse.Stages

open Chain Gateway

namespace Classify

/-- The header that names the kind of call. -/
def kindHeader : String := "rpc_type"

def byHeaders (r : Http.Request) : Rpc :=
  match r.header? "upgrade" with
  | some upgrade =>
    if Text.eqIgnoringCase upgrade "websocket" then .webSocket else byKindHeader
  | none => byKindHeader
where
  /-- The kind that one header names. -/
  byKindHeader : Rpc := ((r.header? kindHeader).bind Rpc.ofLabel?).getD .http

/-- The enabled service that a path belongs to, with its kind. -/
def service? (services : Table Service) (path : String) : Option (Rpc × Service) :=
  ((services.get? path).filter Service.enabled).bind fun s =>
    (Rpc.ofLabel? s.rpcType).map fun kind => (kind, s)

/-- The kind of a request, with the service that decided it. -/
def kindOf (services : Table Service) (r : Http.Request) : Rpc × Option Service :=
  match service? services r.path with
  | some (kind, s) => (kind, some s)
  | none => (byHeaders r, none)

/-- The path below a context path. A path that is not below it stays as it is. -/
def below (contextPath path : String) : String :=
  if contextPath.isEmpty then path
  else
    match Text.after? contextPath.toList path.toList with
    | some [] => "/"
    | some ('/' :: rest) => String.ofList ('/' :: rest)
    | _ => path

/-- What the kind of a call implies for its context. -/
def decorate (kind : Rpc) (service : Option Service) (c : Context) : Context :=
  match kind with
  | .http | .springCloud | .webSocket =>
    { c with
      rpc := kind
      realUrl := c.path
      module := some ("divide-" ++ kind.label)
      method := some c.path }
  | .dubbo | .sofa | .tars | .motan | .grpc =>
    match service with
    | none => { c with rpc := kind, realUrl := c.path }
    | some s =>
      { c with
        rpc := kind
        realUrl := below (s.contextPath.getD "") c.path
        contextPath := s.contextPath
        module := some s.appName
        method := some s.methodName }

def context (services : Table Service) (r : Http.Request) (c : Context) : Context :=
  let (kind, service) := kindOf services r
  { decorate kind service
      { c with
        path := r.path
        appKey := r.header? "appKey"
        sign := r.header? "sign"
        timestamp := r.header? "timestamp" } with
    service := service }

end Classify

/-- The stage that classifies requests. -/
def classify : Stage State where
  name := "global"
  order := 10
  skips _ := false
  run _ s x := conclude .proceed s (withContext x (Classify.context s.catalog.services x.request))

end Gatehouse.Stages

import Gatehouse.Fault

/-!
# Kinds of remote calls

The kinds of call that a request can stand for. Only plain HTTP is passed on by the gateway
itself.
-/

namespace Gatehouse

/-- The kinds of remote call. -/
inductive Rpc where
  | http
  | springCloud
  | dubbo
  | sofa
  | tars
  | motan
  | grpc
  | webSocket
deriving DecidableEq, Repr, Inhabited

namespace Rpc

def label : Rpc → String
  | http => "http"
  | springCloud => "springCloud"
  | dubbo => "dubbo"
  | sofa => "sofa"
  | tars => "tars"
  | motan => "motan"
  | grpc => "grpc"
  | webSocket => "websocket"

def all : List Rpc := [http, springCloud, dubbo, sofa, tars, motan, grpc, webSocket]

def ofLabel? (s : String) : Option Rpc := all.find? fun r => r.label == s

/-- The kind of a name; a name of no kind is a fault. -/
def parse (s : String) : Except Fault Rpc :=
  match ofLabel? s with
  | some r => .ok r
  | none => .error (.config ("unknown rpc type: " ++ s))

/-- Whether requests of the kind are passed on as they are. -/
def isPlainHttp (r : Rpc) : Bool := r == http

theorem ofLabel?_label (r : Rpc) : ofLabel? r.label = some r := by cases r <;> decide

end Rpc

end Gatehouse

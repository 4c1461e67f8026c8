import Gatehouse.Chain.Stage
import Gatehouse.Gateway.State

/-!
# Answers

The last stage takes the headers that concern one connection only out of the backend's answer.
Without an answer it reports an error.
-/

namespace Gatehouse.Stages

open Chain Gateway

namespace Answer

/-- The headers that concern one connection only. -/
def hopByHop : List String :=
  ["connection", "keep-alive", "proxy-authenticate", "proxy-authorization", "te", "trailer",
    "transfer-encoding", "upgrade"]

/-- An answer without the headers that concern one connection only. -/
def strip (r : Http.Response) : Http.Response := { r with headers := r.headers.without hopByHop }

/-- The answer where the backend gave none. -/
def missing (kind : Rpc) : Http.Response :=
  if kind.isPlainHttp then .error 500 "service result error"
  else .error 501 ("rpc type '" ++ kind.label ++ "' is not supported")

end Answer

/-- The stage that finishes answers. -/
def answer : Stage State where
  name := "response"
  order := 420
  skips _ := false
  run _ s x :=
    match x.answer with
    | some r => conclude .proceed s { x with answer := some (Answer.strip r) }
    | none => conclude (.respond (Answer.missing x.context.rpc)) s x

end Gatehouse.Stages

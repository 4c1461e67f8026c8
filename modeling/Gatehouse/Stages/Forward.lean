import Gatehouse.Chain.Stage
import Gatehouse.Gateway.State
import Gatehouse.Settings.HttpClient

/-!
# Passing requests on

The call to the backend, with its retries. All attempts are alike. For retries the body has to be
read to its end and kept, and this may fail; either way the request has given its body away.
-/

namespace Gatehouse.Stages

open Chain Gateway

namespace Forward

/-- How long the answer may take, in milliseconds. -/
def timeout (settings : HttpClientSettings) (c : Context) : Nat :=
  max (c.timeout.getD settings.timeout) 1

def retries (settings : HttpClientSettings) (c : Context) : Nat := c.retry.getD settings.retry

/-- Where the attempts take their bodies from: bytes that are kept, or a stream that is passed on. -/
inductive Supply where
  | kept (bytes : List UInt8)
  | streamed (body : Http.Body)

/-- The body of the attempt of a number. A stream is gone after the first one. -/
def Supply.bodyOf : Supply → Nat → Http.Body
  | kept bytes, _ => ⟨bytes, none⟩
  | streamed body, 0 => body
  | streamed _, _ + 1 => .empty

/-- A body is kept only if there may be a second attempt. Fails if it cannot be. -/
def supply (settings : HttpClientSettings) (x : Exchange) : Except String Supply :=
  if retries settings x.context = 0 then .ok (.streamed x.request.body)
  else (x.request.body.collect settings.bufferLimit).map .kept

def unkept (reason : String) : Fault := .other ("cannot buffer request body: " ++ reason)

def call (settings : HttpClientSettings) (url : String) (x : Exchange) (supply : Supply)
    (line : Call.Line) : Call.Ending Http.Response × Call.Line :=
  Call.withRetries settings.retryPolicy (retries settings x.context)
    (fun n line => line.send x.request.method url (x.request.headers.without ["host"])
      (supply.bodyOf n) (timeout settings x.context))
    Call.Line.wait line

def isSuccess (status : Nat) : Bool := 200 ≤ status && status < 300

def giveBody (x : Exchange) : Exchange := { x with request := { x.request with body := .empty } }

end Forward

/-- The stage that passes requests on. -/
def forward (settings : HttpClientSettings) : Stage State where
  name := "web_client"
  order := 220
  skips x := !x.context.rpc.isPlainHttp
  run _ s x :=
    match x.context.target with
    | none => conclude (.respond (.error 500 "cannot find the upstream url")) s x
    | some url =>
      match Forward.supply settings x with
      | .error reason => conclude (.fail (Forward.unkept reason)) s (Forward.giveBody x)
      | .ok supply =>
        let (ending, line) := Forward.call settings url x supply s.line
        -- the clock of the line shows what this call has taken
        let spent := line.waited - s.line.waited
        let s := { s with line := line }
        let x := Forward.giveBody x
        let noted (r : CallResult) : Exchange :=
          withContext x fun c => { c with callTime := some spent, result := some r }
        match ending with
        | .answered response =>
          let x := noted (if Forward.isSuccess response.status then .success else .error)
          conclude .proceed s { x with answer := some response }
        | .failed f => conclude (.fail f) s (noted .error)
        | .broken => conclude .collapse s x

end Gatehouse.Stages

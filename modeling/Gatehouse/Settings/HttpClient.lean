import Gatehouse.Call.Retry
import Gatehouse.Json.Decode

/-!
# Settings of outgoing calls

Times are in milliseconds. A rule may override the timeout and the number of retries.
-/

namespace Gatehouse

structure HttpClientSettings where
  timeout : Nat
  /-- How long connecting may take. -/
  connectTimeout : Nat
  retry : Nat
  backoffBase : Nat
  backoffMax : Nat
  /-- The longest body, in bytes, that is kept for retries. -/
  bufferLimit : Nat
deriving DecidableEq, Repr, Inhabited

namespace HttpClientSettings

open Json.Decoder

def default : HttpClientSettings where
  timeout := 3000
  connectTimeout := 1000
  retry := 0
  backoffBase := 200
  backoffMax := 20000
  bufferLimit := 5 * 1024 * 1024

def decode : Json.Decoder HttpClientSettings :=
  record "HttpClientSettings" <|
    HttpClientSettings.mk <$> optional "timeout_ms" (unsigned 64) default.timeout []
      <*> optional "connect_timeout_ms" (unsigned 64) default.connectTimeout []
      <*> optional "retry" (unsigned 32) default.retry []
      <*> optional "backoff_base_ms" (unsigned 64) default.backoffBase []
      <*> optional "backoff_max_ms" (unsigned 64) default.backoffMax []
      <*> optional "buffer_limit" size default.bufferLimit []

def encode (s : HttpClientSettings) : Json :=
  .obj [("backoff_base_ms", .int s.backoffBase), ("backoff_max_ms", .int s.backoffMax),
    ("buffer_limit", .int s.bufferLimit), ("connect_timeout_ms", .int s.connectTimeout),
    ("retry", .int s.retry), ("timeout_ms", .int s.timeout)]

def retryPolicy (s : HttpClientSettings) : Call.RetryPolicy :=
  .ofWaits s.backoffBase s.backoffMax

/-- How long connecting may take in a call with a timeout. -/
def connectBudget (s : HttpClientSettings) (timeout : Nat) : Nat :=
  min (max s.connectTimeout 1) timeout

end HttpClientSettings

end Gatehouse

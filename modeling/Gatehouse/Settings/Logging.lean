import Gatehouse.Http.Address
import Gatehouse.Http.Headers
import Gatehouse.Json.Decode
import Gatehouse.Unicode.Lower

/-!
# Logging settings

How the gateway logs, and what it notes about a request when it arrives: above all the id under
which the request can be followed, taken from a header of the request or given anew.
-/

namespace Gatehouse

structure LoggingSettings where
  structured : Bool
  format : String
  level : String
  includeLocation : Bool
  includeThreadId : Bool
  propagateTraceId : Bool
  traceIdHeader : String
  staticFields : List (String × String)
deriving DecidableEq, Repr, Inhabited

namespace LoggingSettings

open Json.Decoder

def default : LoggingSettings where
  structured := false
  format := "terminal"
  level := "info"
  includeLocation := true
  includeThreadId := true
  propagateTraceId := true
  traceIdHeader := "X-Trace-ID"
  staticFields := []

def decode : Json.Decoder LoggingSettings :=
  record "LoggingConfig" <|
    LoggingSettings.mk <$> optional "structured" bool default.structured []
      <*> optional "format" string default.format []
      <*> optional "level" string default.level []
      <*> optional "include_location" bool default.includeLocation []
      <*> optional "include_thread_id" bool default.includeThreadId []
      <*> optional "propagate_trace_id" bool default.propagateTraceId []
      <*> optional "trace_id_header" string default.traceIdHeader []
      <*> optional "static_fields" (dictionary string) default.staticFields []

def encode (s : LoggingSettings) : Json :=
  .obj [("format", .str s.format), ("include_location", .bool s.includeLocation),
    ("include_thread_id", .bool s.includeThreadId), ("level", .str s.level),
    ("propagate_trace_id", .bool s.propagateTraceId),
    ("static_fields", Json.ofFields (s.staticFields.map fun (k, v) => (k, .str v))),
    ("structured", .bool s.structured), ("trace_id_header", .str s.traceIdHeader)]

/-- The least severity that is logged, from `TRACE` to `OFF`; an unknown level is `INFO`. -/
def threshold (s : LoggingSettings) : String :=
  match Unicode.lower s.level with
  | "trace" => "TRACE"
  | "debug" => "DEBUG"
  | "warn" => "WARN"
  | "error" | "critical" => "ERROR"
  | "off" => "OFF"
  | _ => "INFO"

def structuredLevel (s : LoggingSettings) : String :=
  match Unicode.lower s.level with
  | "trace" => "TRACE"
  | "debug" => "DEBUG"
  | "warn" => "WARNING"
  | "error" => "ERROR"
  | "critical" => "CRITICAL"
  | _ => "INFO"

def isJson (s : LoggingSettings) : Bool := Unicode.lower s.format == "json"

def sortedFields (s : LoggingSettings) : List (String × String) := Keyed.ofList s.staticFields

end LoggingSettings

/-- What is noted about a request when it arrives. -/
structure RequestNote where
  traceId : String
  method : String
  path : String
  remote : String
  userAgent : String
deriving DecidableEq, Repr, Inhabited

namespace RequestNote

def isHeaderName (s : String) : Bool :=
  !s.isEmpty && s.toList.all fun c =>
    c.isAlphanum || ['!', '#', '$', '%', '&', '\'', '*', '+', '-', '.', '^', '_', '\x60', '|',
      '~'].contains c

/-- The note of a request. `minted` is the id that is given where the request brings none. -/
def start (s : LoggingSettings) (minted method path : String) (headers : Http.Headers)
    (remote : Option Http.Address) : RequestNote where
  traceId :=
    let given := (headers.read? s.traceIdHeader).filter fun v => !v.isEmpty
    if s.propagateTraceId then given.getD minted else minted
  method := method
  path := path
  remote := (remote.map Http.Address.toText).getD "unknown"
  userAgent := (headers.read? "user-agent").getD "unknown"

/-- The header that passes the id on, if it can be one. -/
def traceHeader? (s : LoggingSettings) (note : RequestNote) : Option (String × String) :=
  if isHeaderName s.traceIdHeader && Http.Headers.isReadable note.traceId then
    some (Text.lowerAscii s.traceIdHeader, note.traceId)
  else none

end RequestNote

end Gatehouse

import Gatehouse.Match.Resolve
import Gatehouse.Settings.HttpClient
import Gatehouse.Settings.Logging
import Gatehouse.Settings.Provider

/-!
# The settings of the gateway

All that the gateway is set up with. The settings of the listener are looked up one by one; all
others come in tables, and a table is taken from one provider as a whole.
-/

namespace Gatehouse

open Json.Decoder

structure ListenerSettings where
  host : String
  number : Nat
  /-- The number for questions about health. -/
  healthNumber : Nat
deriving DecidableEq, Repr, Inhabited

/-- How the gateway probes backends. Times are in milliseconds. -/
structure HealthSettings where
  enabled : Bool
  interval : Nat
  timeout : Nat
deriving DecidableEq, Repr, Inhabited

/-- Configuration that comes with the settings, item by item as it is. -/
structure StaticData where
  descriptors : List Json
  selectors : List Json
  rules : List Json
  services : List Json
  credentials : List Json
deriving Repr, Inhabited

structure Settings where
  listener : ListenerSettings
  logging : LoggingSettings
  client : HttpClientSettings
  policy : Match.Fallthrough
  health : HealthSettings
  data : StaticData
deriving Inhabited

namespace HealthSettings

def default : HealthSettings := ⟨false, 10000, 3000⟩

def decode : Json.Decoder HealthSettings :=
  record "HealthCheckSettings" <|
    HealthSettings.mk <$> optional "enabled" bool default.enabled []
      <*> optional "interval_ms" (unsigned 64) default.interval []
      <*> optional "timeout_ms" (unsigned 64) default.timeout []

def encode (s : HealthSettings) : Json :=
  .obj [("enabled", .bool s.enabled), ("interval_ms", .int s.interval),
    ("timeout_ms", .int s.timeout)]

end HealthSettings

namespace StaticData

def empty : StaticData := ⟨[], [], [], [], []⟩

def decode : Json.Decoder StaticData :=
  record "StaticData" <|
    StaticData.mk <$> optional "plugins" (list any) [] []
      <*> optional "selectors" (list any) [] []
      <*> optional "rules" (list any) [] []
      <*> optional "meta_data" (list any) [] []
      <*> optional "app_auth" (list any) [] []

def encode (d : StaticData) : Json :=
  .obj [("app_auth", .arr d.credentials), ("meta_data", .arr d.services),
    ("plugins", .arr d.descriptors), ("rules", .arr d.rules), ("selectors", .arr d.selectors)]

def isEmpty (d : StaticData) : Bool :=
  d.descriptors.isEmpty && d.selectors.isEmpty && d.rules.isEmpty && d.services.isEmpty &&
    d.credentials.isEmpty

def of (d : StaticData) : Group → List Json
  | .plugin => d.descriptors
  | .selector => d.selectors
  | .rule => d.rules
  | .metaData => d.services
  | .appAuth => d.credentials

end StaticData

namespace ListenerSettings

def default : ListenerSettings := ⟨"127.0.0.1", 9195, 8081⟩

def encode (s : ListenerSettings) : Json :=
  .obj [("health_port", .int s.healthNumber), ("host", .str s.host), ("port", .int s.number)]

end ListenerSettings

namespace Settings

def default : Settings := ⟨.default, .default, .default, .firstMatch, .default, .empty⟩

/-- The table of the matcher, which holds the policy. -/
def decodeMatcher : Json.Decoder Match.Fallthrough :=
  record "MatcherSettings" (id <$> optional "fallthrough" Match.Fallthrough.decode .firstMatch [])

def encodeMatcher (p : Match.Fallthrough) : Json := .obj [("fallthrough", .str p.label)]

def listenerOf (ps : List Provider) : Except ConfigFault ListenerSettings := do
  let host ← getD ps string "server.host" ListenerSettings.default.host
  let number ← getD ps (unsigned 16) "server.port" ListenerSettings.default.number
  let healthNumber ←
    getD ps (unsigned 16) "server.health_port" ListenerSettings.default.healthNumber
  pure ⟨host, number, healthNumber⟩

/-- All settings, as the providers have them. -/
def ofProviders (ps : List Provider) : Except ConfigFault Settings := do
  -- the first table that cannot be read decides the fault
  let listener ← listenerOf ps
  let logging ← getD ps LoggingSettings.decode "gateway.logging" .default
  let client ← getD ps HttpClientSettings.decode "gateway.http_client" .default
  let policy ← getD ps decodeMatcher "gateway.matcher" .firstMatch
  let health ← getD ps HealthSettings.decode "gateway.health_check" .default
  let data ← getD ps StaticData.decode "gateway.data" .empty
  pure ⟨listener, logging, client, policy, health, data⟩

end Settings

end Gatehouse

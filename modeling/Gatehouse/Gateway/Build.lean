import Gatehouse.Gateway.Basic
import Gatehouse.Settings.Sources

/-!
# Building gateways

A gateway is built from its settings. Besides the built-in stages it has those that are registered
by name, made from the configuration in their descriptors, and then further ones. The data that
comes with the settings is delivered group by group, selectors before the rules that belong to
them.
-/

namespace Gatehouse.Gateway

open Chain

/-- Why a gateway cannot be built. -/
inductive BuildFault where
  | config (f : ConfigFault)
  | gateway (f : Fault)
  | io (message : String)
  | other (message : String)
deriving DecidableEq, Repr, Inhabited

def BuildFault.message : BuildFault → String
  | config f => "configuration error: " ++ f.message
  | gateway f => "gateway error: " ++ f.message
  | io m => "IO error: " ++ m
  | other m => m

/-- How stages of certain names are made from their configuration. -/
structure Registry where
  makers : Table (Json → Except Fault (Stage State))

namespace Registry

def names (r : Registry) : List String := r.makers.keys

def create (r : Registry) (name : String) (config : Json) : Except Fault (Stage State) :=
  match r.makers.get? name with
  | some make => make config
  | none => .error (.stage name "no plugin registered under this name")

end Registry

/-- The configuration that the data has for a stage: that of the first descriptor of its name. -/
def configOf (data : StaticData) (name : String) : Json :=
  let descriptor? :=
    data.descriptors.find? fun d => (d.get? "name").bind Json.asString? == some name
  (descriptor?.bind fun d => d.get? "config").getD .null

/-- What a gateway is built from. -/
structure Blueprint where
  sources : Settings.Sources
  registry : Registry
  /-- Further stages. -/
  extra : List (Stage State)
  /-- Who decides on signed requests, if not the credentials in the catalogue. -/
  verifier : Option Stages.Sign.Verifier
  line : Call.Line
  /-- The time, in nanoseconds. -/
  now : Nat

def deliver (g : Gateway) (data : StaticData) : Gateway :=
  Group.all.foldl (fun g group => g.configure (.replaceAll group (data.of group))) g

def build (b : Blueprint) : Except BuildFault Gateway := do
  let providers ← b.sources.providers.mapError .config
  let settings ← (Settings.ofProviders providers).mapError .config
  let registered ← (b.registry.names.mapM fun name =>
    b.registry.create name (configOf settings.data name)).mapError .gateway
  let verifier := b.verifier.getD (.credentials Stages.Sign.defaultMaxDelay)
  let stages := (Setup.ofSettings settings verifier).stages ++ registered ++ b.extra
  let bare : Gateway :=
    { settings := settings
      lineup := .ofStages stages
      state := .initial Balance.Strategy.all b.line b.now }
  pure (bare.deliver settings.data)

end Gatehouse.Gateway

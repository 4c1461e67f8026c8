import Gatehouse.Proofs.Json.Records
import Gatehouse.Settings.Basic
import Gatehouse.Settings.Environment

/-!
# Single settings in tables

Most settings can be asked for in two ways, by their own key and in the table that they belong to:

    gateway.http_client.timeout_ms        gateway.http_client ──▶ timeout_ms

The settings of the gateway are read in the second way alone (`reads_ofProviders`), and from the
table of one provider: the last one that knows the key of the table. So the two ways agree exactly
where that table says of a setting what the providers say of its own key (`agrees_iff`). They do if
one tree decides on both (`read_of_tree`). But a provider that knows single settings and no table,
like the environment, changes nothing at all (`ofProviders_concat`).
-/

namespace Gatehouse.Settings

open Json.Decoder

/-! ## Look-ups that succeed -/

/-- A value that was had for a key was known to some provider and could be decoded. -/
theorem find?_of_get? {ps : List Provider} {d : Json.Decoder α} {key : String} {x : α}
    (h : get? ps d key = .ok (some x)) : ∃ v, find? ps key = some (.ok v) ∧ d v = .ok x := by
  rw [get?] at h
  split at h
  · cases h
  · cases h
  · next v hfind =>
      obtain ⟨y, hy, hyx⟩ := exists_of_map h
      obtain rfl := Option.some.inj hyx
      exact ⟨v, hfind, ok_of_mapError hy⟩

/-- A value is the default only where no provider knows the key. -/
theorem find?_of_getD {ps : List Provider} {d : Json.Decoder α} {key : String} {default x : α}
    (h : getD ps d key default = .ok x) :
    (find? ps key = none ∧ x = default) ∨ ∃ v, find? ps key = some (.ok v) ∧ d v = .ok x := by
  obtain ⟨y, hget, hy⟩ := exists_of_map h
  cases y with
  | some y =>
      obtain rfl : y = x := hy
      exact Or.inr (find?_of_get? hget)
  | none =>
      refine Or.inl ⟨?_, hy.symm⟩
      rw [get?] at hget
      split at hget
      · assumption
      · cases hget
      · obtain ⟨z, -, hz⟩ := exists_of_map hget
        cases hz

/-! ## Leaves -/

/-- A setting that belongs to a table. -/
inductive Leaf where
  | timeout | connectTimeout | retry | backoffBase | backoffMax | bufferLimit
  | fallthrough
  | enabled | interval | probeTimeout
deriving DecidableEq, Repr

namespace Leaf

def table : Leaf → String
  | timeout | connectTimeout | retry | backoffBase | backoffMax | bufferLimit =>
    "gateway.http_client"
  | fallthrough => "gateway.matcher"
  | enabled | interval | probeTimeout => "gateway.health_check"

def names : Leaf → List String
  | timeout | connectTimeout | retry | backoffBase | backoffMax | bufferLimit =>
    ["timeout_ms", "connect_timeout_ms", "retry", "backoff_base_ms", "backoff_max_ms",
      "buffer_limit"]
  | fallthrough => ["fallthrough"]
  | enabled | interval | probeTimeout => ["enabled", "interval_ms", "timeout_ms"]

def name : Leaf → String
  | timeout | probeTimeout => "timeout_ms"
  | connectTimeout => "connect_timeout_ms"
  | retry => "retry"
  | backoffBase => "backoff_base_ms"
  | backoffMax => "backoff_max_ms"
  | bufferLimit => "buffer_limit"
  | fallthrough => "fallthrough"
  | enabled => "enabled"
  | interval => "interval_ms"

def key (ℓ : Leaf) : String := ℓ.table ++ "." ++ ℓ.name

def Value : Leaf → Type
  | timeout | connectTimeout | retry | backoffBase | backoffMax | bufferLimit => Nat
  | fallthrough => Match.Fallthrough
  | enabled => Bool
  | interval | probeTimeout => Nat

def decoder : (ℓ : Leaf) → Json.Decoder ℓ.Value
  | timeout | connectTimeout | backoffBase | backoffMax => unsigned 64
  | retry => unsigned 32
  | bufferLimit => size
  | fallthrough => Match.Fallthrough.decode
  | enabled => bool
  | interval | probeTimeout => unsigned 64

/-- The setting where nothing is given. -/
def default : (ℓ : Leaf) → ℓ.Value
  | timeout => HttpClientSettings.default.timeout
  | connectTimeout => HttpClientSettings.default.connectTimeout
  | retry => HttpClientSettings.default.retry
  | backoffBase => HttpClientSettings.default.backoffBase
  | backoffMax => HttpClientSettings.default.backoffMax
  | bufferLimit => HttpClientSettings.default.bufferLimit
  | fallthrough => Match.Fallthrough.firstMatch
  | enabled => HealthSettings.default.enabled
  | interval => HealthSettings.default.interval
  | probeTimeout => HealthSettings.default.timeout

def read (s : Settings) : (ℓ : Leaf) → ℓ.Value
  | timeout => s.client.timeout
  | connectTimeout => s.client.connectTimeout
  | retry => s.client.retry
  | backoffBase => s.client.backoffBase
  | backoffMax => s.client.backoffMax
  | bufferLimit => s.client.bufferLimit
  | fallthrough => s.policy
  | enabled => s.health.enabled
  | interval => s.health.interval
  | probeTimeout => s.health.timeout

/-- What the table says of the setting. -/
def inTable? (ps : List Provider) (ℓ : Leaf) : Option Json :=
  match find? ps ℓ.table with
  | some (.ok v) => valueFor? ℓ.names ℓ.name v
  | _ => none

end Leaf

/-! ## Tables -/

section Tables

variable {s : Settings} {ℓ : Leaf} {v : Json}

/-- The settings of the client are those of its table, leaf by leaf. -/
theorem reads_client (h : HttpClientSettings.decode v = .ok s.client)
    (hℓ : ℓ.table = "gateway.http_client") :
    Reads ℓ.decoder ℓ.default (valueFor? ℓ.names ℓ.name v) (ℓ.read s) := by
  obtain ⟨found, h₆, hreads⟩ :=
    build_of_record (by simp) (show namesOf _ = Leaf.timeout.names from rfl) h
  obtain ⟨f₅, bufferLimit, h₅, hbufferLimit, hs⟩ := exists_of_build_seq h₆
  obtain ⟨f₄, backoffMax, h₄, hbackoffMax, rfl⟩ := exists_of_build_seq h₅
  obtain ⟨f₃, backoffBase, h₃, hbackoffBase, rfl⟩ := exists_of_build_seq h₄
  obtain ⟨f₂, retry, h₂, hretry, rfl⟩ := exists_of_build_seq h₃
  obtain ⟨f₁, connectTimeout, h₁, hconnectTimeout, rfl⟩ := exists_of_build_seq h₂
  obtain ⟨timeout, htimeout, rfl⟩ := exists_of_build_map h₁
  obtain ⟨listener, logging, client, policy, health, data⟩ := s
  obtain rfl : _ = client := hs
  cases ℓ with
  | timeout => exact hreads (by decide) htimeout
  | connectTimeout => exact hreads (by decide) hconnectTimeout
  | retry => exact hreads (by decide) hretry
  | backoffBase => exact hreads (by decide) hbackoffBase
  | backoffMax => exact hreads (by decide) hbackoffMax
  | bufferLimit => exact hreads (by decide) hbufferLimit
  | fallthrough | enabled | interval | probeTimeout => exact absurd hℓ (by decide)

theorem reads_matcher (h : decodeMatcher v = .ok s.policy) (hℓ : ℓ.table = "gateway.matcher") :
    Reads ℓ.decoder ℓ.default (valueFor? ℓ.names ℓ.name v) (ℓ.read s) := by
  obtain ⟨found, h₁, hreads⟩ :=
    build_of_record (by simp) (show namesOf _ = Leaf.fallthrough.names from rfl) h
  obtain ⟨policy, hpolicy, hs⟩ := exists_of_build_map h₁
  obtain rfl : policy = s.policy := hs
  cases ℓ with
  | fallthrough => exact hreads (by decide) hpolicy
  | _ => exact absurd hℓ (by decide)

theorem reads_health (h : HealthSettings.decode v = .ok s.health)
    (hℓ : ℓ.table = "gateway.health_check") :
    Reads ℓ.decoder ℓ.default (valueFor? ℓ.names ℓ.name v) (ℓ.read s) := by
  obtain ⟨found, h₃, hreads⟩ :=
    build_of_record (by simp) (show namesOf _ = Leaf.enabled.names from rfl) h
  obtain ⟨f₂, timeout, h₂, htimeout, hs⟩ := exists_of_build_seq h₃
  obtain ⟨f₁, interval, h₁, hinterval, rfl⟩ := exists_of_build_seq h₂
  obtain ⟨enabled, henabled, rfl⟩ := exists_of_build_map h₁
  obtain ⟨listener, logging, client, policy, health, data⟩ := s
  obtain rfl : _ = health := hs
  cases ℓ with
  | enabled => exact hreads (by decide) henabled
  | interval => exact hreads (by decide) hinterval
  | probeTimeout => exact hreads (by decide) htimeout
  | _ => exact absurd hℓ (by decide)

/-- A setting is read from its table, if the table is there and the setting is read from it. -/
theorem reads_of_table {ps : List Provider} {d : Json.Decoder α} {default x : α}
    (h : getD ps d ℓ.table default = .ok x) (hdefault : x = default → ℓ.read s = ℓ.default)
    (hreads : ∀ v, d v = .ok x →
      Reads ℓ.decoder ℓ.default (valueFor? ℓ.names ℓ.name v) (ℓ.read s)) :
    Reads ℓ.decoder ℓ.default (ℓ.inTable? ps) (ℓ.read s) := by
  rw [Leaf.inTable?]
  rcases find?_of_getD h with ⟨hnone, hx⟩ | ⟨v, hfind, hv⟩
  · rw [hnone]
    exact hdefault hx
  · rw [hfind]
    exact hreads v hv

end Tables

/-- **Tables**: every setting is read from the table that it belongs to. -/
theorem reads_ofProviders {ps : List Provider} {s : Settings} (h : ofProviders ps = .ok s)
    (ℓ : Leaf) : Reads ℓ.decoder ℓ.default (ℓ.inTable? ps) (ℓ.read s) := by
  obtain ⟨listener, -, h⟩ := exists_of_bind h
  obtain ⟨logging, -, h⟩ := exists_of_bind h
  obtain ⟨client, hclient, h⟩ := exists_of_bind h
  obtain ⟨policy, hpolicy, h⟩ := exists_of_bind h
  obtain ⟨health, hhealth, h⟩ := exists_of_bind h
  obtain ⟨data, -, h⟩ := exists_of_bind h
  obtain rfl := Except.ok.inj h
  cases ℓ with
  | timeout | connectTimeout | retry | backoffBase | backoffMax | bufferLimit =>
      refine reads_of_table hclient ?_ fun v hv => reads_client hv rfl
      rintro rfl
      rfl
  | fallthrough => exact reads_of_table hpolicy id fun v hv => reads_matcher hv rfl
  | enabled | interval | probeTimeout =>
      refine reads_of_table hhealth ?_ fun v hv => reads_health hv rfl
      rintro rfl
      rfl

/-! ## The two ways -/

/-- **Agreement**: a setting has the value of its own key exactly where its table gives it that
value. -/
theorem agrees_iff {ps : List Provider} {s : Settings} (h : ofProviders ps = .ok s) (ℓ : Leaf) :
    (∀ x, get? ps ℓ.decoder ℓ.key = .ok (some x) → ℓ.read s = x) ↔
      ∀ x, get? ps ℓ.decoder ℓ.key = .ok (some x) →
        Reads ℓ.decoder ℓ.default (ℓ.inTable? ps) x := by
  have hreads := reads_ofProviders h ℓ
  refine forall_congr' fun x => imp_congr_right fun _ => ⟨?_, hreads.unique⟩
  rintro rfl
  exact hreads

/-- A file with a timeout of three seconds. -/
def timeoutFile : Provider :=
  .ofTree "json" (.obj [("gateway", .obj [("http_client", .obj [("timeout_ms", .int 3000)])])])

/-- A variable that asks for five seconds. -/
def timeoutVariable : Provider :=
  Environment.provider Environment.defaultLead
    [("VIREO_GATEWAY__HTTP_CLIENT__TIMEOUT_MS", "5000")]

theorem agrees_iff_timeoutFile : ∃ s, ofProviders [timeoutFile] = .ok s ∧
    ∀ x, get? [timeoutFile] Leaf.timeout.decoder Leaf.timeout.key = .ok (some x) →
      Leaf.timeout.read s = x := by
  have hsome : (ofProviders [timeoutFile]).toOption.isSome = true := by decide +kernel
  obtain ⟨s, hs⟩ := Option.isSome_iff_exists.1 hsome
  have hs := ok_of_toOption hs
  refine ⟨s, hs, (agrees_iff hs .timeout).2 fun x hget => ?_⟩
  have hkey : get? [timeoutFile] (unsigned 64) Leaf.timeout.key = .ok (some 3000) :=
    ok_of_toOption (by decide +kernel)
  obtain rfl : (3000 : Nat) = x := Option.some.inj (Except.ok.inj (hkey.symm.trans hget))
  rfl

/-- The variable does not override the file. -/
theorem not_overrides :
    ¬ ∀ (ps : List Provider) (s : Settings) (ℓ : Leaf) (x : ℓ.Value), ofProviders ps = .ok s →
      get? ps ℓ.decoder ℓ.key = .ok (some x) → ℓ.read s = x := by
  intro hall
  have htimeout : (ofProviders [timeoutFile, timeoutVariable]).toOption.map
      (fun s => s.client.timeout) = some 3000 := by decide +kernel
  obtain ⟨s, hs, hread⟩ := Option.map_eq_some_iff.1 htimeout
  have hkey : get? [timeoutFile, timeoutVariable] (unsigned 64) Leaf.timeout.key =
      .ok (some 5000) := ok_of_toOption (by decide +kernel)
  have hfive : s.client.timeout = 5000 := hall _ s .timeout _ (ok_of_toOption hs) hkey
  rw [hread] at hfive
  exact absurd hfive (by decide)

/-- The dotted key of a leaf is that of its table with the name behind it. -/
theorem splitString_key (ℓ : Leaf) :
    Text.splitString '.' ℓ.key = Text.splitString '.' ℓ.table ++ [ℓ.name] := by
  cases ℓ <;> decide +kernel

/-- A setting in a tree is in the table of the tree. -/
theorem walk?_key (root : Json) (ℓ : Leaf) :
    Provider.walk? root ℓ.key = (Provider.walk? root ℓ.table).bind (Json.get? ℓ.name) := by
  rw [Provider.walk?, splitString_key, Json.walk?_concat, Provider.walk?]

/-- The two ways agree if one tree decides on the setting and on its table. -/
theorem read_of_tree {before after : List Provider} {root : Json} {name : String} {s : Settings}
    {ℓ : Leaf} {x : ℓ.Value}
    (hknown : (Provider.walk? root ℓ.key).isSome)
    (hkey : ∀ p ∈ after, p.lookup? ℓ.key = none) (htable : ∀ p ∈ after, p.lookup? ℓ.table = none)
    (hget : get? (before ++ .ofTree name root :: after) ℓ.decoder ℓ.key = .ok (some x))
    (h : ofProviders (before ++ .ofTree name root :: after) = .ok s) : ℓ.read s = x := by
  obtain ⟨raw, hfind, hraw⟩ := find?_of_get? hget
  rw [find?_eq_lookup? (by simpa [Provider.ofTree] using hknown) hkey] at hfind
  have hwalk : Provider.walk? root ℓ.key = some raw := by simpa [Provider.ofTree] using hfind
  rw [walk?_key, Option.bind_eq_some_iff] at hwalk
  obtain ⟨t, ht, htold⟩ := hwalk
  have hlookup : (Provider.ofTree name root).lookup? ℓ.table = some (.ok t) := by
    simp [Provider.ofTree, ht]
  have hfound : find? (before ++ .ofTree name root :: after) ℓ.table = _ :=
    find?_eq_lookup? (by rw [hlookup]; rfl) htable
  have hraw? : ℓ.inTable? (before ++ .ofTree name root :: after) = some raw := by
    rw [Leaf.inTable?, hfound, hlookup]
    cases t with
    | obj entries => exact htold
    | null | bool _ | int _ | float _ | str _ | arr _ => cases htold
  have hreads := reads_ofProviders h ℓ
  rw [hraw?] at hreads
  exact hreads.unique hraw

/-- The keys that the settings are looked up under. -/
def keys : List String :=
  ["server.host", "server.port", "server.health_port", "gateway.logging", "gateway.http_client",
    "gateway.matcher", "gateway.health_check", "gateway.data"]

/-- **Overriding**: a provider that knows none of these keys changes nothing, whatever settings it
knows. -/
theorem ofProviders_concat {ps : List Provider} {p : Provider}
    (h : ∀ key ∈ keys, p.lookup? key = none) : ofProviders (ps ++ [p]) = ofProviders ps := by
  have hgetD : ∀ {α : Type} (d : Json.Decoder α) (key : String) (default : α), key ∈ keys →
      getD (ps ++ [p]) d key default = getD ps d key default := by
    intro α d key default hkey
    have hnone : find? [p] key = none := find?_eq_none_iff.2 (by simpa using h key hkey)
    rw [getD, get?, find?_append, hnone, Option.none_or, ← get?, ← getD]
  simp only [ofProviders, listenerOf]
  rw [hgetD _ _ _ (by decide), hgetD _ _ _ (by decide), hgetD _ _ _ (by decide),
    hgetD _ _ _ (by decide), hgetD _ _ _ (by decide), hgetD _ _ _ (by decide),
    hgetD _ _ _ (by decide), hgetD _ _ _ (by decide)]

end Gatehouse.Settings

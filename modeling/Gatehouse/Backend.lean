import Gatehouse.Json.Decode
import Gatehouse.Number.Binary64
import Gatehouse.Text.Basic

/-!
# Backends

One instance of a service. While it warms up its weight grows with the time since it started,
computed in doubles as weight times the share of the warm-up that has passed; it never falls below
one.
-/

namespace Gatehouse

/-- One instance of a service. -/
structure Backend where
  url : String
  scheme : String
  weight : Nat
  healthy : Bool
  /-- When it started, in milliseconds since 1970; 0 if unknown. -/
  started : Nat
  /-- How long it warms up, in milliseconds. -/
  warmup : Nat
deriving DecidableEq, Repr, Inhabited

namespace Backend

/-- The text that stands between a scheme and an address. -/
def schemeMark : List Char := [':', '/', '/']

/-- The scheme and address that requests go to. -/
def domain (b : Backend) : String :=
  if Text.occursIn schemeMark b.url.toList then b.url else b.scheme ++ b.url

/-- `weight` times the share `uptime / warmup`, in doubles, without its fraction. -/
def rampedWeight (uptime warmup weight : Nat) : Nat :=
  let product := do
    let share ← (Number.Binary64.ofNat uptime).div? (Number.Binary64.ofNat warmup)
    share.mul? (Number.Binary64.ofNat weight)
  (product.getD (.zero false)).truncate

/-- The weight that counts at a time. -/
def effectiveWeight (b : Backend) (now : Nat) : Nat :=
  if b.weight = 0 ∨ b.warmup = 0 ∨ b.started = 0 then b.weight
  else
    let uptime := now - b.started
    if b.warmup ≤ uptime then b.weight
    else min (max (rampedWeight uptime b.warmup b.weight) 1) b.weight

theorem effectiveWeight_le (b : Backend) (now : Nat) : b.effectiveWeight now ≤ b.weight := by
  unfold effectiveWeight
  split
  · exact Nat.le_refl _
  · simp only
    split
    · exact Nat.le_refl _
    · exact Nat.min_le_right _ _

theorem effectiveWeight_eq_zero_iff (b : Backend) (now : Nat) :
    b.effectiveWeight now = 0 ↔ b.weight = 0 := by
  unfold effectiveWeight
  split
  · exact Iff.rfl
  · next h =>
    simp only
    split
    · exact Iff.rfl
    · omega

open Json.Decoder in
/-- Backends as they are delivered; the address may come under a longer name. -/
def decode : Json.Decoder Backend :=
  record "Upstream" <|
    Backend.mk <$> required "url" string ["upstreamUrl"]
      <*> optional "protocol" string "http://" []
      <*> optional "weight" (unsigned 32) 50 []
      <*> optional "status" bool true []
      <*> optional "timestamp" (unsigned 64) 0 []
      <*> optional "warmup" (unsigned 64) 0 []

def encode (b : Backend) : Json :=
  .obj [("protocol", .str b.scheme), ("status", .bool b.healthy), ("timestamp", .int b.started),
    ("url", .str b.url), ("warmup", .int b.warmup), ("weight", .int b.weight)]

end Backend

end Gatehouse

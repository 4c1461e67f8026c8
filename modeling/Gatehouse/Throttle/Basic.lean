import Gatehouse.Item.Format
import Gatehouse.Moment
import Gatehouse.Table
import Gatehouse.Throttle.Bucket

/-!
# The throttle

One bucket for each rule, or one for each client of a rule, made when it is first needed. A bucket
whose rule has another rate or capacity by now is made anew. When a rule changes or goes, its
buckets go with it. From time to time full buckets are dropped: a new one would be the same.
-/

namespace Gatehouse.Throttle

open Json.Decoder
open Number (Counting)

variable {α : Type} [Counting α]

inductive Sharing where
  /-- All requests of the rule. -/
  | everyone
  /-- The requests of one client. -/
  | client
deriving DecidableEq, Repr, Inhabited

def Sharing.label : Sharing → String
  | everyone => "WHOLE_KEY_RESOLVER"
  | client => "REMOTE_ADDRESS_KEY_RESOLVER"

/-- Kinds of sharing by their names, long and short ones. -/
def Sharing.decode : Json.Decoder Sharing :=
  variant [(everyone.label, .everyone), ("whole", .everyone), (client.label, .client),
    ("remote_address", .client)]

structure Limit where
  /-- Tokens gained each second. -/
  rate : Number.Binary64
  capacity : Number.Binary64
  sharing : Sharing
deriving DecidableEq, Repr, Inhabited

namespace Limit

/-- One request each second. -/
def default : Limit := ⟨.ofNat 1, .ofNat 1, .everyone⟩

def decode : Json.Decoder Limit :=
  record "Limit" <|
    Limit.mk <$> optional "replenishRate" float default.rate ["replenish_rate"]
      <*> optional "burstCapacity" float default.capacity ["burst_capacity"]
      <*> optional "keyResolver" Sharing.decode default.sharing ["keyResolverName", "key_resolver"]

def encode (l : Limit) : Json :=
  .obj [("burstCapacity", .float l.capacity), ("keyResolver", .str l.sharing.label),
    ("replenishRate", .float l.rate)]

def bucket (l : Limit) (now : Nat) : Bucket α :=
  .full (Counting.ofBinary64 l.rate) (Counting.ofBinary64 l.capacity) now

/-- Whether a bucket is good for the limit. -/
def allows (l : Limit) (b : Bucket α) : Bool :=
  b.isFor (Counting.ofBinary64 l.rate) (Counting.ofBinary64 l.capacity)

/-- The bucket that requests of a rule share, by name. -/
def bucketName (l : Limit) (rule client : String) : String :=
  match l.sharing with
  | .everyone => rule
  | .client => rule ++ ":" ++ client

end Limit

structure Buckets (α : Type := Number.Binary64) where
  table : Table (Bucket α)
  /-- When full buckets were last dropped, in nanoseconds. -/
  swept : Nat
deriving Inhabited

namespace Buckets

/-- How long full buckets are kept, in nanoseconds. -/
def sweepAfter : Nat := 30 * Number.nanosPerSecond

def empty (now : Nat) : Buckets α := ⟨.empty, now⟩

def sweep (bs : Buckets α) (now : Nat) : Buckets α :=
  ⟨(bs.table.map fun b => b.refill now).filter fun _ b => !b.isFull, now⟩

def sweepIfDue (bs : Buckets α) (now : Nat) : Buckets α :=
  if now - bs.swept < sweepAfter then bs else bs.sweep now

/-- The bucket of a name, made anew if there is none for the limit. -/
def bucketFor (bs : Buckets α) (name : String) (l : Limit) (now : Nat) : Bucket α :=
  match bs.table.get? name with
  | some b => if l.allows b then b else l.bucket now
  | none => l.bucket now

def take (bs : Buckets α) (name : String) (l : Limit) (now : Nat) : Bool × Buckets α :=
  -- the sweep comes first, so a full bucket of this name may be made anew
  let bs := bs.sweepIfDue now
  let (taken, b) := (bs.bucketFor name l now).take now
  (taken, { bs with table := bs.table.insert name b })

/-- Whether a request of a rule is admitted. -/
def grant (bs : Buckets α) (rule : Rule) (client : String) (now : Nat) :
    Except ConfigFault Bool × Buckets α :=
  match parseHandle Limit.decode .default rule.handle with
  | .error e => (.error e, bs)
  | .ok l =>
    let (taken, bs) := bs.take (l.bucketName rule.id client) l now
    (.ok taken, bs)

/-- Whether the bucket of a name belongs to a rule. -/
def belongsTo (name rule : String) : Bool :=
  name == rule || (Text.after? (rule ++ ":").toList name.toList).isSome

def drop (bs : Buckets α) (rule : String) : Buckets α :=
  { bs with table := bs.table.filter fun name _ => !belongsTo name rule }

end Buckets

end Gatehouse.Throttle

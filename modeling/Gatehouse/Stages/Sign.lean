import Gatehouse.Chain.Stage
import Gatehouse.Gateway.State
import Gatehouse.Text.Decimal

/-!
# Signed requests

Requests under a rule of this stage have to bring credentials: an application key that is
registered and enabled, a signature, and a time that is near the present one. An application may be
restricted to some paths.
-/

namespace Gatehouse.Stages

open Chain Gateway

namespace Sign

inductive Refusal where
  | incomplete
  | invalidTimestamp (text : String)
  /-- The time differs by more than so many milliseconds. -/
  | outsideWindow (maxDelay : Nat)
  | unknownKey
  | pathForbidden
  /-- A reason of another verifier. -/
  | other (reason : String)
deriving DecidableEq, Repr, Inhabited

def Refusal.message : Refusal → String
  | incomplete => "sign parameters are incomplete"
  | invalidTimestamp text => "invalid timestamp '" ++ text ++ "'"
  | outsideWindow maxDelay =>
    "timestamp outside the allowed window of " ++ toString (maxDelay / 60000) ++ " minute(s)"
  | unknownKey => "app key does not exist or has been disabled"
  | pathForbidden => "path is not authorised for this app key"
  | other reason => reason

/-- How long a request may have been under way, in milliseconds. -/
def defaultMaxDelay : Nat := 5 * 60 * 1000

/-- A text that is there and not blank. -/
def present? (text : Option String) : Option String := text.filter fun s => !Text.isBlankText s

/-- The time that a text states, in milliseconds since 1970. -/
def time? (text : String) : Option Nat :=
  Text.plusDecimal? 0xFFFFFFFFFFFFFFFF (Text.trim text.toList)

def distance (a b : Nat) : Nat := max a b - min a b

def allows (a : Credential) (path : String) : Bool :=
  !a.restricted || a.paths.any fun p => (Match.Operator.compile "match" p).isMatch path

def check (credentials : Table Credential) (maxDelay now : Nat) (c : Context) :
    Except Refusal Unit :=
  match present? c.appKey, present? c.sign, present? c.timestamp with
  | some key, some _, some timestamp =>
    match time? timestamp with
    | none => .error (.invalidTimestamp timestamp)
    | some sent =>
      if maxDelay < distance now sent then .error (.outsideWindow maxDelay)
      else
        match (credentials.get? key).filter Credential.enabled with
        | none => .error .unknownKey
        | some a => if allows a c.path then .ok () else .error .pathForbidden
  | _, _, _ => .error .incomplete

/-- Who decides on signed requests. -/
inductive Verifier where
  /-- The credentials in the catalogue. -/
  | credentials (maxDelay : Nat)
  /-- The same answer for all: no objection, or a reason. -/
  | fixed (objection : Option String)
deriving DecidableEq, Repr, Inhabited

def Verifier.verify (v : Verifier) (catalog : Catalog) (now : Nat) (c : Context) :
    Except Refusal Unit :=
  match v with
  | credentials maxDelay => check catalog.credentials maxDelay now c
  | fixed none => .ok ()
  | fixed (some reason) => .error (.other reason)

end Sign

/-- The stage that refuses requests without good credentials. -/
def sign (verifier : Sign.Verifier) : Scoped State where
  name := "sign"
  order := 20
  skips _ := false
  unselected := .proceed
  unruled _ := .proceed
  matched moment s x _ _ :=
    match verifier.verify s.catalog moment.epochMs x.context with
    | .ok () => conclude .proceed s x
    | .error refusal => conclude (.respond (.error 401 refusal.message)) s x

end Gatehouse.Stages

import Gatehouse.Call.Retry
import Gatehouse.Http.Response

/-!
# The outgoing line

What goes out of the gateway and what comes back. How the outside world answers is data too: an
answer for each attempt there will ever be. The line keeps the attempts made for the request at
hand.
-/

namespace Gatehouse.Call

/-- An attempt as it goes out. -/
structure Sent where
  /-- How long the request has waited until then, in milliseconds. -/
  after : Nat
  method : String
  url : String
  headers : Http.Headers
  body : Http.Body
  /-- In milliseconds. -/
  timeout : Nat
deriving DecidableEq, Repr, Inhabited

/-- The line to the outside world. -/
structure Line where
  /-- What becomes of each attempt. -/
  answers : Nat → Attempt Http.Response
  /-- How many attempts were ever made. -/
  attempts : Nat
  /-- The attempts for the request at hand, the first one first. -/
  sent : List Sent
  /-- How long the request at hand has waited, in milliseconds. -/
  waited : Nat

namespace Line

/-- A line before its first attempt. -/
def ofAnswers (answers : Nat → Attempt Http.Response) : Line := ⟨answers, 0, [], 0⟩

/-- The line for the next request. -/
def renew (l : Line) : Line := { l with sent := [], waited := 0 }

def wait (ms : Nat) (l : Line) : Line := { l with waited := l.waited + ms }

def send (l : Line) (method url : String) (headers : Http.Headers) (body : Http.Body)
    (timeout : Nat) : Attempt Http.Response × Line :=
  (l.answers l.attempts,
    { l with
      attempts := l.attempts + 1
      sent := l.sent ++ [⟨l.waited, method, url, headers, body, timeout⟩] })

end Line

end Gatehouse.Call

/-!
# Bodies

A body comes in as a stream of bytes, and the stream may break off before its end.
-/

namespace Gatehouse.Http

structure Body where
  bytes : List UInt8
  /-- Why the stream breaks off behind these bytes, if it does. -/
  fault : Option String
deriving DecidableEq, Repr, Inhabited

namespace Body

def empty : Body := ⟨[], none⟩

def ofText (s : String) : Body := ⟨s.toList.flatMap String.utf8EncodeChar, none⟩

/-- Read a body to its end, which must not lie behind the limit. -/
def collect (limit : Nat) (b : Body) : Except String (List UInt8) :=
  -- bytes behind the limit are noticed before the stream can break off
  if limit < b.bytes.length then .error "length limit exceeded"
  else
    match b.fault with
    | some reason => .error reason
    | none => .ok b.bytes

end Body

end Gatehouse.Http

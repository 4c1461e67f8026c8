/-!
# Durations in messages

A duration is a number of nanoseconds. Its text counts the largest of the units s, ms, µs and ns
that fits into it, with as many decimals as it takes and no zero at the end of them.
-/

namespace Gatehouse.Text

def nanosPerMilli : Nat := 1000000

/-- The decimals of `rest` out of `10 ^ places`, without the zeros at their end, after a point. -/
def decimals (rest places : Nat) : String :=
  let digits := Nat.toDigits 10 rest
  let padded := List.replicate (places - digits.length) '0' ++ digits
  let kept := (padded.reverse.dropWhile (· == '0')).reverse
  if kept.isEmpty then "" else String.ofList ('.' :: kept)

/-- The text of a duration given in nanoseconds. -/
def duration (ns : Nat) : String :=
  let inUnit (places : Nat) (unit : String) : String :=
    toString (ns / Nat.pow 10 places) ++ decimals (ns % Nat.pow 10 places) places ++ unit
  if 1000000000 ≤ ns then inUnit 9 "s"
  else if nanosPerMilli ≤ ns then inUnit 6 "ms"
  else if 1000 ≤ ns then inUnit 3 "µs"
  else inUnit 0 "ns"

end Gatehouse.Text

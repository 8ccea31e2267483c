import DocTrace.Value.Basic

/-!
How long cache entries are kept when nothing uses them.
-/

namespace DocTrace

inductive AgeLimit where
  | whole (days : Int)
  | fractional (days : Binary64)
deriving DecidableEq

namespace AgeLimit

def toValue : AgeLimit → Value
  | .whole days => .int days
  | .fractional days => .float days

inductive Fault where
  | notANumber
  | infinite
deriving DecidableEq

def millisecondsPerDay : Int := 24 * 60 * 60 * 1000

/-- The limit in whole milliseconds. A fractional number of days is multiplied in
double precision before its fraction is dropped. -/
def milliseconds : AgeLimit → Except Fault Int
  | .whole days => .ok (days * millisecondsPerDay)
  | .fractional days =>
    match days.mul (.ofInt millisecondsPerDay) with
    | .nan => .error .notANumber
    | product =>
      match product.truncate? with
      | some n => .ok n
      | none => .error .infinite

end AgeLimit

end DocTrace

import Mermaid.Number.Binary64
import Mermaid.Platform

/-!
# Time

Time is counted in seconds from the start, exactly. A timer is due from the instant on at which the
clock does not tell the time from that of the timer any more.
-/

namespace Mermaid

/-- A point in time, in seconds from the start. -/
abbrev Instant := Rat

/-- When a timer falls due. -/
inductive Due
  | atOnce
  | at (t : Instant)
  | never
  /-- At a time that is neither before nor after any other. -/
  | unordered
  deriving DecidableEq

namespace Due

/-- When a timer falls due that is set at an instant for some seconds. -/
def after (now : Instant) : Binary64 → Due
  | .nan => .unordered
  | .infinite negative => if negative then .atOnce else .never
  | x => match x.toRat? with
    | some d => .at (now + d)
    | none => .atOnce

/-- Whether a timer is due at an instant; one that stands in no order does not lie later. -/
def isDueAt [Platform] (now : Instant) : Due → Bool
  | .atOnce => true
  | .at t => t < now + Platform.resolution
  | .never => false
  | .unordered => true

/-- Whether one timer falls due before another. -/
def isBefore : Due → Due → Bool
  | .unordered, _ => false
  | _, .unordered => false
  | .atOnce, .atOnce => false
  | .atOnce, _ => true
  | .at _, .atOnce => false
  | .at s, .at t => s < t
  | .at _, .never => true
  | .never, _ => false

end Due

end Mermaid

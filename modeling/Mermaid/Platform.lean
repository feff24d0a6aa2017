/-!
# Platforms

What the program finds where it runs, and nothing is known of beforehand: how finely the clock tells
the time, for which texts there is memory, how deep values that are read may lie in each other, and
which names the system and its output can take. What is said of the program is said for every
platform, if nothing else is said.

* `Platform` lists what there is to know about a platform;
* `Platform.Usual.usual` is a platform that serves for runs on given inputs.
-/

namespace Mermaid

/-- What the program finds where it runs. -/
class Platform where
  /-- The shortest time that the clock tells apart from no time at all, in seconds. -/
  resolution : Rat
  resolution_pos : 0 < resolution
  /-- What the clock shows at an instant. -/
  clock : Rat → Rat
  clock_le : ∀ t, clock t ≤ t
  lt_clock_add : ∀ t, t < clock t + resolution
  /-- Whether memory holds texts of some lengths at once, the latest of them first. -/
  holds : List Nat → Bool
  /-- How deep arrays and objects of JSON may lie in each other. -/
  jsonDepth : Nat
  /-- The room for values of TOML that lie in each other. -/
  tomlRoom : Nat
  /-- Why the system cannot take a text as the name of a file, if it cannot. -/
  nameFault? : String → Option String
  /-- Why the output cannot take a text, if it cannot. -/
  printFault? : String → Option String

namespace Platform

namespace Usual

/-- A platform whose clock ticks in microseconds, and that has memory and room for all that is
usual. -/
scoped instance usual : Platform where
  resolution := mkRat 1 1000000
  resolution_pos := by decide +kernel
  clock := fun t => (t * 1000000).floor / 1000000
  clock_le := fun t => by
    have h := Rat.floor_le (t * 1000000)
    grind
  lt_clock_add := fun t => by
    have h : t * 1000000 - 1 < (t * 1000000).floor := Rat.lt_floor
    have hresolution : mkRat 1 1000000 = 1 / 1000000 := by decide +kernel
    rw [hresolution]
    grind
  holds := fun lengths => lengths.head?.all (· ≤ Nat.pow 2 36)
  jsonDepth := 984
  tomlRoom := 988
  nameFault? := fun _ => none
  printFault? := fun _ => none

end Usual

end Platform

end Mermaid

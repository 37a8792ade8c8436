/-!
Time as the program keeps it: instants on one clock and lengths of time, both in nanoseconds.
-/

set_option autoImplicit false
set_option relaxedAutoImplicit false

namespace Hotspot

abbrev Instant := Int

abbrev Duration := Nat

namespace Duration

def seconds (n : Nat) : Duration := n * 1000000000

def millis (n : Nat) : Duration := n * 1000000

def wholeMillis (d : Duration) : Nat := d / 1000000

end Duration

/-- The time from `earlier` to `later`, nothing if `later` comes first. -/
def Instant.since (later earlier : Instant) : Duration :=
  (later - earlier).toNat

end Hotspot

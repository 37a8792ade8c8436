import Hotspot.Spectrum.Bonding
import Hotspot.Spectrum.IsolationTable

/-!
Leakage onto channels that must not be disturbed. A channel leaks onto another when the estimated
isolation at the width in use does not exceed a threshold.
-/

set_option autoImplicit false
set_option relaxedAutoImplicit false

namespace Hotspot.Isolation

def threshold : Nat := 310

def full : Nat := 1000

def table : Width → List (List Nat)
  | .mhz20 => mhz20
  | .mhz40 => mhz40
  | .mhz80 => mhz80

/-- The rows of a table with their channels, every entry with its own. -/
def rows (w : Width) : List (Channel × List (Channel × Nat)) :=
  channels.zip ((table w).map channels.zip)

def between (w : Width) (kept used : Channel) : Nat :=
  (((rows w).lookup kept).bind (·.lookup used)).getD full

/-- Using `used` would disturb one of the channels that are kept free. -/
def leaks (w : Width) (kept : List Channel) (used : Channel) : Bool :=
  kept.any fun k => between w k used ≤ threshold

def isolated (w : Width) (kept candidates : List Channel) : List Channel :=
  candidates.filter fun c => !leaks w kept c

end Hotspot.Isolation

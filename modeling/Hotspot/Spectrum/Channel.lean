/-!
Channel numbers: the band they lie in, their frequency, and the blocks of four neighbours that the
upper band is divided into.
-/

set_option autoImplicit false
set_option relaxedAutoImplicit false

namespace Hotspot

abbrev Channel := UInt8

inductive Band
  | lower
  | upper
  deriving DecidableEq, Repr

namespace Channel

def band (c : Channel) : Band :=
  if c ≤ 14 then .lower else .upper

def frequency (c : Channel) : Nat :=
  if 1 ≤ c && c ≤ 13 then 2407 + 5 * c.toNat
  else if c == 14 then 2484
  else 5000 + 5 * c.toNat

def blockStarts : List Channel := [36, 52, 100, 116, 132, 149]

/-- The place of a channel in the block that begins at `start`: neighbours are four numbers apart.
-/
def placeFrom? (start c : Channel) : Option Nat :=
  if start ≤ c && (c - start) % 4 == 0 && c - start ≤ 12 then some ((c - start) / 4).toNat
  else none

/-- The block that a channel belongs to, counted from zero, and its place in it. -/
def block? (c : Channel) : Option (Nat × Nat) :=
  blockStarts.zipIdx.findSome? fun (start, i) => (placeFrom? start c).map fun place => (i, place)

end Channel

end Hotspot

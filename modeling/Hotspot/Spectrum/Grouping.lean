import Hotspot.Spectrum.Bonding

/-!
What bonding leaves of candidate channels: those whose whole group is among the candidates. In the
upper band the candidates of a block are kept as a set of places, four bits wide.
-/

set_option autoImplicit false
set_option relaxedAutoImplicit false

namespace Hotspot.Grouping

abbrev Places := Nat

def taken (candidates : List Channel) (block : Nat) : Places :=
  candidates.foldl
    (fun places c =>
      match c.block? with
      | some (b, place) => if b = block then places ||| 1 <<< place else places
      | none => places)
    0

def needed (w : Width) (place : Nat) : Places :=
  match w with
  | .mhz80 => 0b1111
  | _ => if place < 2 then 0b0011 else 0b1100

/-- The whole group that the channel bonds with is among the candidates. -/
def complete (candidates : List Channel) (w : Width) (c : Channel) : Bool :=
  match w, c.band, c.block? with
  | .mhz20, _, _ => true
  | _, .upper, some (block, place) =>
    taken candidates block &&& needed w place == needed w place
  | .mhz40, .lower, _ =>
    (Bonding.of? c .mhz40).any fun b => (b.channels c).all candidates.contains
  | _, _, _ => false

def keep (candidates : List Channel) (w : Width) : List Channel :=
  candidates.filter (complete candidates w)

end Hotspot.Grouping

import Hotspot.Spectrum.Channel

/-!
Bonding: neighbouring channels used as one wider channel. The primary channel and its place among
the bonded ones determine all of them; a tuning is what a radio is set to.
-/

set_option autoImplicit false
set_option relaxedAutoImplicit false

namespace Hotspot

inductive Width
  | mhz20
  | mhz40
  | mhz80
  deriving DecidableEq, Repr

namespace Width

def narrower? : Width → Option Width
  | .mhz80 => some .mhz40
  | .mhz40 => some .mhz20
  | .mhz20 => none

def ladder : Width → List Width
  | .mhz80 => [.mhz80, .mhz40, .mhz20]
  | .mhz40 => [.mhz40, .mhz20]
  | .mhz20 => [.mhz20]

def megahertz : Width → Nat
  | .mhz20 => 20
  | .mhz40 => 40
  | .mhz80 => 80

def parts : Width → Nat
  | .mhz20 => 1
  | .mhz40 => 2
  | .mhz80 => 4

end Width

/-- The place of the primary channel among the bonded ones, counted upwards. -/
inductive Bonding
  | alone
  | firstOfTwo
  | secondOfTwo
  | firstOfFour
  | secondOfFour
  | thirdOfFour
  | fourthOfFour
  deriving DecidableEq, Repr

namespace Bonding

def width : Bonding → Width
  | .alone => .mhz20
  | .firstOfTwo | .secondOfTwo => .mhz40
  | _ => .mhz80

def below : Bonding → Nat
  | .alone | .firstOfTwo | .firstOfFour => 0
  | .secondOfTwo | .secondOfFour => 1
  | .thirdOfFour => 2
  | .fourthOfFour => 3

/-- How a channel bonds at a width, if it can. In the lower band, pairs are formed upwards from
channels 1 to 7 and downwards from 8 to 13; in the upper band, the blocks decide. -/
def of? (c : Channel) (w : Width) : Option Bonding :=
  match w, c.band with
  | .mhz20, _ => some .alone
  | .mhz40, .lower =>
    if 1 ≤ c && c ≤ 7 then some .firstOfTwo
    else if 8 ≤ c && c ≤ 13 then some .secondOfTwo
    else none
  | .mhz40, .upper =>
    c.block?.map fun (_, place) => if place % 2 = 0 then .firstOfTwo else .secondOfTwo
  | .mhz80, .lower => none
  | .mhz80, .upper =>
    c.block?.map fun (_, place) =>
      match place with
      | 0 => .firstOfFour
      | 1 => .secondOfFour
      | 2 => .thirdOfFour
      | _ => .fourthOfFour

/-- The bonded channels in ascending order. Numbers that no channel can have are left out. -/
def channels (b : Bonding) (primary : Channel) : List Channel :=
  (List.range b.width.parts).filterMap fun i =>
    let raised := primary.toNat + 4 * i
    let lowered := 4 * b.below
    if lowered < raised && raised - lowered < 256 then some (UInt8.ofNat (raised - lowered))
    else none

def center (b : Bonding) (primary : Channel) : Channel :=
  match (b.channels primary).head?, (b.channels primary).getLast? with
  | some low, some high => low + (high - low) / 2
  | _, _ => primary

def secondary? (b : Bonding) (primary : Channel) : Option Channel :=
  match b with
  | .alone => none
  | .firstOfTwo | .firstOfFour | .thirdOfFour => some (primary + 4)
  | .secondOfTwo | .secondOfFour | .fourthOfFour =>
    if 4 ≤ primary then some (primary - 4) else none

end Bonding

structure Tuning where
  channel : Channel
  width : Width
  bonding : Bonding
  deriving DecidableEq, Repr

namespace Tuning

def resolve (c : Channel) (ceiling : Width) : Tuning :=
  (ceiling.ladder.findSome? fun w => (Bonding.of? c w).map fun b => ⟨c, w, b⟩).getD
    ⟨c, .mhz20, .alone⟩

def channels (t : Tuning) : List Channel :=
  t.bonding.channels t.channel

def center (t : Tuning) : Channel :=
  t.bonding.center t.channel

def frequency (t : Tuning) : Nat :=
  t.channel.frequency

def overlaps (t : Tuning) (list : List Channel) : Bool :=
  t.channels.any list.contains

end Tuning

end Hotspot

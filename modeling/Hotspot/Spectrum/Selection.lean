import Hotspot.Spectrum.Grouping
import Hotspot.Spectrum.Isolation
import Hotspot.Spectrum.NonOccupancy

/-!
Automatic choice of a channel. Candidates are the domain's channels less those that policy, the
search range, the avoid list or radar rule out. The widest width at which some group of candidates
is complete and disturbs no channel that is left alone is used, and a random octet decides among the
channels that remain.
-/

set_option autoImplicit false
set_option relaxedAutoImplicit false

namespace Hotspot

/-- Where a session may look for a channel. No explicit channel stands for the whole range. -/
structure SearchRange where
  first : Channel := 1
  last : Channel := 165
  only : List Channel := []
  avoidRadar : Bool := false
  deriving DecidableEq, Repr

/-- The channel lies in the range and, if channels are named, among them. -/
def SearchRange.contains (r : SearchRange) (c : Channel) : Bool :=
  r.first ≤ c && c ≤ r.last && (r.only.isEmpty || r.only.contains c)

/-- Rules for every session. The first two matter under the Japanese rules only. -/
structure Policy where
  withoutW53 : Bool := false
  outdoor : Bool := false
  avoidRadar : Bool := false
  avoided : List Channel := []
  deriving DecidableEq, Repr

namespace Policy

/-- The Japanese rules exclude a channel: channels 52 to 64 if they are disabled, and channels for
indoor use if the device is outdoors. -/
def excludes (p : Policy) (d : Domain) (c : Channel) : Bool :=
  d.region == .mkk &&
    ((p.withoutW53 && 52 ≤ c && c ≤ 64) || (p.outdoor && d.isIndoorOnly c))

end Policy

namespace Selection

/-- The channels that pass every rule on single channels, in the order of the domain. Radar is
looked up last, and only for channels that pass the other rules. -/
def candidates (d : Domain) (p : Policy) (r : SearchRange) (now : Instant)
    (t : NonOccupancy.Table) : List Channel × NonOccupancy.Table :=
  let admitted := d.channels.filter fun c =>
    !p.excludes d c && r.contains c && !p.avoided.contains c
  let t := admitted.foldl (fun t c => (t.available now c .alone).2) t
  (admitted.filter fun c => (Bonding.alone.channels c).all t.isFree, t)

def selectable (base kept : List Channel) (w : Width) : List Channel :=
  Grouping.keep (Isolation.isolated w kept base) w

/-- The widest width up to a ceiling at which channels can be chosen, and those channels. -/
def widest? (base kept : List Channel) (ceiling : Width) : Option (Width × List Channel) :=
  ceiling.ladder.findSome? fun w =>
    match selectable base kept w with
    | [] => none
    | group => some (w, group)

def pool (d : Domain) (avoidRadar : Bool) (group : List Channel) : List Channel :=
  let quiet := group.filter fun c => !d.isRadar c
  if avoidRadar && !quiet.isEmpty then quiet else group

/-- The place in a pool that a random octet and the time point to. -/
def draw (octet : UInt8) (tick : UInt64) (size : Nat) : Nat :=
  (octet.toUInt64 + tick).toNat % size

def select? (d : Domain) (p : Policy) (r : SearchRange) (ceiling : Width) (octet : UInt8)
    (tick : UInt64) (now : Instant) (t : NonOccupancy.Table) :
    Option Tuning × NonOccupancy.Table :=
  let (base, t) := candidates d p r now t
  if base.isEmpty then (none, t)
  else
    let (kept, t) := t.unavailable now
    let choice := (widest? base kept ceiling).bind fun (w, group) =>
      let pool := pool d (r.avoidRadar || p.avoidRadar) group
      pool[draw octet tick pool.length]?.map fun c => Tuning.resolve c w
    (choice, t)

end Selection

end Hotspot

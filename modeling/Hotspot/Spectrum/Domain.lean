import Hotspot.ControlError

/-!
Regulatory domains: which channels a country allows, and which of them are shared with radar. A
domain is sound when its tables fit their bounds, no channel is zero and none is listed twice.
-/

set_option autoImplicit false
set_option relaxedAutoImplicit false

namespace Hotspot

inductive Region
  | fcc
  | etsi
  | mkk
  | cn
  | kr
  | world
  deriving DecidableEq, Repr

def Region.label : Region → String
  | .fcc => "FCC"
  | .etsi => "ETSI"
  | .mkk => "MKK"
  | .cn => "CN"
  | .kr => "KR"
  | .world => "WORLD"

structure Allowance where
  channel : Channel
  radar : Bool
  indoorOnly : Bool
  maxPower : Int
  deriving DecidableEq, Repr

structure Domain where
  country : String
  region : Region
  allowances : List Allowance
  deriving DecidableEq, Repr

namespace Domain

def channelLimit : Nat := 64

def radarLimit : Nat := 32

def channels (d : Domain) : List Channel :=
  d.allowances.map (·.channel)

def allowance? (d : Domain) (c : Channel) : Option Allowance :=
  d.allowances.find? (·.channel == c)

def contains (d : Domain) (c : Channel) : Bool :=
  (d.allowance? c).isSome

def isRadar (d : Domain) (c : Channel) : Bool :=
  (d.allowance? c).any (·.radar)

def isIndoorOnly (d : Domain) (c : Channel) : Bool :=
  (d.allowance? c).any (·.indoorOnly)

/-- The channel is shared with weather radar, which asks for longer waits. -/
def isWeather (d : Domain) (c : Channel) : Bool :=
  d.region == .etsi && (c == 120 || c == 124 || c == 128)

def radarChannels (d : Domain) : List Channel :=
  (d.allowances.filter (·.radar)).map (·.channel)

def entryFault? (seen : List Channel) : List Channel → Option ControlError
  | [] => none
  | c :: rest =>
    if c == 0 then some (.unusable 0 .reserved)
    else if seen.contains c then some (.unusable c .duplicate)
    else entryFault? (c :: seen) rest

def validate (d : Domain) : Except ControlError Unit :=
  if channelLimit < d.allowances.length then
    .error (.tableOverflow .channels d.allowances.length channelLimit)
  else if radarLimit < d.radarChannels.length then
    .error (.tableOverflow .nonOccupancy d.radarChannels.length radarLimit)
  else match entryFault? [] d.channels with
    | some fault => .error fault
    | none => .ok ()

def custom (country : String) (region : Region) (allowances : List Allowance) :
    Except ControlError Domain :=
  let d : Domain := ⟨country, region, allowances⟩
  d.validate.map fun _ => d

end Domain

end Hotspot

import Hotspot.Spectrum.Country
import Hotspot.Spectrum.Selection

/-!
The settings that all access points of one radio share, and those of each.
-/

set_option autoImplicit false
set_option relaxedAutoImplicit false

namespace Hotspot

structure Settings where
  country : String := "US"
  timing : NonOccupancy.Timing := {}
  skipListening : Bool := false
  policy : Policy := {}
  maxSessions : Nat := 4
  deriving DecidableEq, Repr

namespace Settings

def domain (s : Settings) : Except ControlError Domain :=
  Domain.forCountry s.country

/-- Session numbers have one octet, and radar must keep a channel free for some time. -/
def validate (s : Settings) : Except ControlError Unit :=
  if s.maxSessions == 0 || 255 < s.maxSessions then .error (.settings .sessionCount)
  else if s.timing.absence == 0 then .error (.settings .nonOccupancy)
  else .ok ()

end Settings

inductive ChannelRequest
  | auto
  | fixed (channel : Channel)
  deriving DecidableEq, Repr

/-- What one access point is to be. No client limit is zero. -/
structure SessionSettings where
  name : String
  address : HardwareAddress
  channel : ChannelRequest := .auto
  width : Width := .mhz20
  range : SearchRange := {}
  hidden : Bool := false
  beaconInterval : UInt16 := 100
  wakePeriod : UInt8 := 2
  maxClients : UInt32 := 0
  deriving DecidableEq

namespace SessionSettings

/-- What is wrong with the channel that is asked for: a fixed one must be allowed, and a range must
hold an allowed one. -/
def channelFault? (s : SessionSettings) (d : Domain) : Option ControlError :=
  match s.channel with
  | .fixed c => if d.contains c then none else some (.unusable c (.notAllowed d.country))
  | .auto =>
    if s.range.last < s.range.first then
      some (.settings (.rangeEmpty s.range.first s.range.last))
    else if d.channels.any s.range.contains then none
    else some (.settings (.rangeOutside s.range.first s.range.last d.country))

def validate (s : SessionSettings) (d : Domain) : Except ControlError Unit :=
  if s.name.utf8ByteSize == 0 || 32 < s.name.utf8ByteSize then .error (.settings .nameLength)
  else if s.address.isMulticast || s.address == .zero then
    .error (.settings (.notUnicast s.address))
  else if s.beaconInterval < 15 then .error (.settings .beaconInterval)
  else if s.wakePeriod == 0 then .error (.settings .wakePeriod)
  else match s.channelFault? d with
    | some fault => .error fault
    | none => .ok ()

end SessionSettings

end Hotspot

import Hotspot.HardwareAddress
import Hotspot.Spectrum.Channel

/-!
Why the access point refuses what it is asked. Each cause is a value; `message` is the only place
where it is put into words.
-/

set_option autoImplicit false
set_option relaxedAutoImplicit false

namespace Hotspot

abbrev SessionId := UInt8

inductive ChannelFault
  | reserved
  | duplicate
  | notAllowed (country : String)
  | described (text : String)
  deriving DecidableEq, Repr

def ChannelFault.message : ChannelFault → String
  | .reserved => "channel 0 is reserved"
  | .duplicate => "duplicate entry"
  | .notAllowed country => s!"not allowed in {country}"
  | .described text => text

inductive SettingsFault
  | nameLength
  | notUnicast (address : HardwareAddress)
  | beaconInterval
  | wakePeriod
  | rangeEmpty (first last : Channel)
  | rangeOutside (first last : Channel) (country : String)
  | sessionCount
  | nonOccupancy
  | described (text : String)
  deriving DecidableEq

def SettingsFault.message : SettingsFault → String
  | .nameLength => "SSID must be 1-32 characters"
  | .notUnicast address => s!"BSSID {address.render} is not a unicast address"
  | .beaconInterval => "Beacon interval must be at least 15 TU"
  | .wakePeriod => "DTIM period must be at least 1"
  | .rangeEmpty first last => s!"ACS range {first}-{last} is empty"
  | .rangeOutside first last country => s!"ACS range {first}-{last} has no channel in {country}"
  | .sessionCount => "max_sessions must be 1-255"
  | .nonOccupancy => "non-occupancy period must be non-zero"
  | .described text => text

inductive BoundedTable
  | channels
  | nonOccupancy
  deriving DecidableEq, Repr

def BoundedTable.label : BoundedTable → String
  | .channels => "regulatory channel table"
  | .nonOccupancy => "NOL table"

inductive ControlError
  | unknownSession (id : SessionId)
  | sessionBusy (id : SessionId) (doing : String)
  | sessionLimit (limit : Nat)
  | unusable (channel : Channel) (fault : ChannelFault)
  | noChannel
  | tableOverflow (table : BoundedTable) (needed bound : Nat)
  | unknownCountry (code : String)
  | settings (fault : SettingsFault)
  | lowerLayer (reason : String)
  | stopped
  deriving DecidableEq

def ControlError.message : ControlError → String
  | .unknownSession id => s!"Invalid SAP session {id}"
  | .sessionBusy id doing => s!"Session {id} is busy ({doing})"
  | .sessionLimit limit => s!"Session limit reached ({limit})"
  | .unusable channel fault => s!"Invalid channel {channel}: {fault.message}"
  | .noChannel => "No channel available"
  | .tableOverflow table needed bound =>
    s!"{table.label} needs {needed} entries, static bound is {bound}"
  | .unknownCountry code => s!"Unknown country code '{code}'"
  | .settings fault => s!"Configuration error: {fault.message}"
  | .lowerLayer reason => s!"Lower layer error: {reason}"
  | .stopped => "SAP runtime stopped"

end Hotspot

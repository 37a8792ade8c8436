import Hotspot.AccessPoint.Session

/-!
The journal of an operation: commands to the layer below and whether it took them, notices to the
application, what was asked of the timer, and the phases that sessions went through, in order.
-/

set_option autoImplicit false
set_option relaxedAutoImplicit false

namespace Hotspot

inductive Outcome
  | success
  | failure
  deriving DecidableEq, Repr

inductive Notice
  | startComplete (outcome : Outcome) (address : HardwareAddress) (tuning : Option Tuning)
  | stopComplete (outcome : Outcome)
  | stationJoined (address : HardwareAddress) (number : UInt16) (elements : List UInt8)
  | stationLeft (address : HardwareAddress) (reason : UInt16)
  | listeningStarted (tuning : Tuning) (duration : Duration)
  | listeningEnded (tuning : Tuning)
  | radarDetected (channels : List Channel)
  | noChannel
  | channelSelected (primary : Channel) (secondary : Option Channel) (width : Width)
      (center : Channel)
  | channelChanged (tuning : Tuning)
  | switchAnnounced (target : Tuning)
  /-- Asks for the non-occupancy list that the application has kept. -/
  | listWanted
  | listChanged (records : List NonOccupancy.Record)
  deriving DecidableEq

def Notice.label : Notice → String
  | .startComplete _ _ _ => "start-bss-complete"
  | .stopComplete _ => "stop-bss-complete"
  | .stationJoined _ _ _ => "assoc-indication"
  | .stationLeft _ _ => "disassociated"
  | .listeningStarted _ _ => "dfs-cac-start"
  | .listeningEnded _ => "dfs-cac-end"
  | .radarDetected _ => "radar-detected"
  | .noChannel => "no-channel-available"
  | .channelSelected _ _ _ _ => "acs-channel-selected"
  | .channelChanged _ => "channel-changed"
  | .switchAnnounced _ => "channel-switch-announced"
  | .listWanted => "nol-get"
  | .listChanged _ => "nol-set"

/-- How a channel is scanned. Where radar is possible, nothing may be sent. -/
inductive ScanKind
  | active
  | passive
  deriving DecidableEq, Repr

structure StartParameters where
  name : String
  address : HardwareAddress
  tuning : Tuning
  hidden : Bool
  beaconInterval : UInt16
  wakePeriod : UInt8
  maxClients : UInt32
  radar : Bool
  deriving DecidableEq

/-- What the layer below is told to do for a session. -/
inductive Command
  | openControl
  | closeControl
  | scan (channels : List (Channel × ScanKind))
  | startNetwork (parameters : StartParameters)
  | stopNetwork
  | changeChannel (target : Tuning)
  | announceSwitch (target : Tuning)
  /-- Ends the silence in which a network listened for radar. -/
  | startBeacon
  deriving DecidableEq

inductive Entry
  | command (session : SessionId) (command : Command) (accepted : Bool)
  | notice (session : SessionId) (notice : Notice)
  | armed (duration : Duration)
  | disarmed
  | moved (session : SessionId) (before after : Phase)
  deriving DecidableEq

abbrev Journal := List Entry

end Hotspot

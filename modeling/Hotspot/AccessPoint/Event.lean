import Hotspot.AccessPoint.Session
import Hotspot.Network.Basic

/-!
What can happen to a session, from its user, from the layer below or from the controller itself.
-/

set_option autoImplicit false
set_option relaxedAutoImplicit false

namespace Hotspot

inductive Event
  /-- The user wants the access point on the air. -/
  | startRequest
  /-- The user wants it on the air with a tuning that was chosen elsewhere. -/
  | tunedStartRequest (target : Tuning)
  | scanComplete (success : Bool) (found : List Network)
  | selectionFailed
  | startSuccess
  | startFailure (status : UInt16)
  | stopRequest
  | listeningOver
  | radarDetected (channels : List Channel)
  /-- Stations have been told that the channel will change. -/
  | switchAnnounced
  | changeRequest (target : Tuning)
  | channelChanged (tuning : Tuning)
  /-- The network is off the air. -/
  | networkStopped
  | stationJoined (address : HardwareAddress) (number : UInt16) (elements : List UInt8)
  | stationLeft (address : HardwareAddress) (reason : UInt16)
  deriving DecidableEq

def Event.label : Event → String
  | .startRequest => "start-request"
  | .tunedStartRequest _ => "cac-start-request"
  | .scanComplete _ _ => "scan-complete"
  | .selectionFailed => "channel-selection-failed"
  | .startSuccess => "start-success"
  | .startFailure _ => "start-failure"
  | .stopRequest => "stop-request"
  | .listeningOver => "cac-timer-expired"
  | .radarDetected _ => "radar-detected"
  | .switchAnnounced => "csa-tx-complete"
  | .changeRequest _ => "channel-change-request"
  | .channelChanged _ => "operating-channel-changed"
  | .networkStopped => "ready-for-connections"
  | .stationJoined _ _ _ => "station-associated"
  | .stationLeft _ _ => "station-disassociated"

end Hotspot

import Hotspot.AccessPoint.Settings

/-!
One access point while it is open: where it stands between off and on the air, what it is tuned to
and who is connected.
-/

set_option autoImplicit false
set_option relaxedAutoImplicit false

namespace Hotspot

/-- Where a session stands. Before it may send on a channel shared with radar it listens there. -/
inductive Phase
  | disconnected
  | selecting
  | listening
  | starting
  | started
  | disconnecting
  deriving DecidableEq, Repr

def Phase.label : Phase → String
  | .disconnected => "DISCONNECTED"
  | .selecting => "CH_SELECT"
  | .listening => "DFS_CAC_WAIT"
  | .starting => "STARTING"
  | .started => "STARTED"
  | .disconnecting => "DISCONNECTING"

abbrev Station := HardwareAddress × UInt16

/-- Adds a station in the order of addresses; a station that is there already gets the new number.
-/
def Station.insert (a : HardwareAddress) (number : UInt16) : List Station → List Station
  | [] => [(a, number)]
  | (b, n) :: rest =>
    if a == b then (a, number) :: rest
    else if a < b then (a, number) :: (b, n) :: rest
    else (b, n) :: Station.insert a number rest

structure Session where
  id : SessionId
  settings : SessionSettings
  phase : Phase
  /-- The widest width to use, fixed when a channel is first looked for. -/
  ceiling : Option Width
  /-- What the session is tuned to. -/
  tuning : Option Tuning
  /-- Where radar made it move, until it has moved. -/
  target : Option Tuning
  listeningAnnounced : Bool
  listeningEndAnnounced : Bool
  /-- The layer below holds a control session for it. -/
  controlOpen : Bool
  stations : List Station
  deriving DecidableEq

namespace Session

def fresh (id : SessionId) (settings : SessionSettings) : Session where
  id
  settings
  phase := .disconnected
  ceiling := none
  tuning := none
  target := none
  listeningAnnounced := false
  listeningEndAnnounced := false
  controlOpen := false
  stations := []

def occupied (s : Session) : List Channel :=
  (s.tuning.map Tuning.channels).getD []

def widest (s : Session) : Width :=
  s.ceiling.getD s.settings.width

def overlaps (s : Session) (channels : List Channel) : Bool :=
  s.tuning.any (·.overlaps channels)

def clear (s : Session) : Session :=
  { s with
    tuning := none
    target := none
    listeningAnnounced := false
    listeningEndAnnounced := false
    stations := [] }

end Session

end Hotspot

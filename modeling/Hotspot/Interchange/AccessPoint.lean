import Hotspot.AccessPoint.Event
import Hotspot.AccessPoint.Journal
import Hotspot.Interchange.Network
import Hotspot.Interchange.Spectrum

/-!
The JSON form of settings, events and notices of access points. An event or notice is written as its
kind and what belongs to it.
-/

set_option autoImplicit false
set_option relaxedAutoImplicit false

namespace Hotspot

def Settings.codec : Codec Settings where
  write s := .object [
    ("country", .text s.country),
    ("timing", NonOccupancy.Timing.codec.write s.timing),
    ("skip_cac", .bool s.skipListening),
    ("policy", Policy.codec.write s.policy),
    ("max_sessions", .natural s.maxSessions)]
  read base j := return {
    country := ← j.field? "country" .text (base.map (·.country))
    timing := ← j.field? "timing" NonOccupancy.Timing.codec (base.map (·.timing))
    skipListening := ← j.field? "skip_cac" .flag (base.map (·.skipListening))
    policy := ← j.field? "policy" Policy.codec (base.map (·.policy))
    maxSessions := ← j.field? "max_sessions" .natural (base.map (·.maxSessions)) }

def ChannelRequest.codec : Codec ChannelRequest where
  write
    | .auto => .text "Auto"
    | .fixed c => .ofKind "Fixed" (Codec.octet.write c)
  read _ j := do
    match ← j.kind? with
    | ("Auto", .null) => return .auto
    | ("Fixed", c) => return .fixed (← Codec.octet.read? c)
    | _ => none

def SessionSettings.codec : Codec SessionSettings where
  write s := .object [
    ("ssid", .text s.name),
    ("bssid", HardwareAddress.codec.write s.address),
    ("channel", ChannelRequest.codec.write s.channel),
    ("width", Width.codec.write s.width),
    ("acs", SearchRange.codec.write s.range),
    ("hidden", .bool s.hidden),
    ("beacon_interval", Codec.word.write s.beaconInterval),
    ("dtim_period", Codec.octet.write s.wakePeriod),
    ("max_clients", Codec.word32.write s.maxClients)]
  read base j := return {
    name := ← j.field? "ssid" .text (base.map (·.name))
    address := ← j.field? "bssid" HardwareAddress.codec (base.map (·.address))
    channel := ← j.field? "channel" ChannelRequest.codec (base.map (·.channel))
    width := ← j.field? "width" Width.codec (base.map (·.width))
    range := ← j.field? "acs" SearchRange.codec (base.map (·.range))
    hidden := ← j.field? "hidden" .flag (base.map (·.hidden))
    beaconInterval := ← j.field? "beacon_interval" .word (base.map (·.beaconInterval))
    wakePeriod := ← j.field? "dtim_period" .octet (base.map (·.wakePeriod))
    maxClients := ← j.field? "max_clients" .word32 (base.map (·.maxClients)) }

def Phase.codec : Codec Phase :=
  .named [(.disconnected, "Disconnected"), (.selecting, "ChannelSelect"),
    (.listening, "DfsCacWait"), (.starting, "Starting"), (.started, "Started"),
    (.disconnecting, "Disconnecting")]

def Event.read? (j : Json) : Option Event := do
  let (kind, content) ← j.kind?
  match kind with
  | "StartRequest" => return .startRequest
  | "CacStartRequest" =>
    return .tunedStartRequest (← content.field? "target" Tuning.codec none)
  | "ScanComplete" =>
    return .scanComplete (← content.field? "success" .flag none)
      (← content.field? "results" Network.codec.list none)
  | "ChannelSelectionFailed" => return .selectionFailed
  | "StartSuccess" => return .startSuccess
  | "StartFailure" => return .startFailure (← content.field? "status" .word none)
  | "StopRequest" => return .stopRequest
  | "CacTimerExpired" => return .listeningOver
  | "RadarDetected" => return .radarDetected (← content.field? "channels" .octets none)
  | "CsaTxComplete" => return .switchAnnounced
  | "ChannelChangeRequest" =>
    return .changeRequest (← content.field? "target" Tuning.codec none)
  | "OperatingChannelChanged" =>
    return .channelChanged (← content.field? "channel" Tuning.codec none)
  | "ReadyForConnections" => return .networkStopped
  | "StationAssociated" =>
    return .stationJoined (← content.field? "mac" HardwareAddress.codec none)
      (← content.field? "aid" .word none) (← content.field? "ies" .octets none)
  | "StationDisassociated" =>
    return .stationLeft (← content.field? "mac" HardwareAddress.codec none)
      (← content.field? "reason" .word none)
  | _ => none

def Outcome.codec : Codec Outcome :=
  .named [(.success, "Success"), (.failure, "Failure")]

def Notice.toJson : Notice → Json
  | .startComplete outcome address tuning =>
    .ofKind "StartBssComplete" (.object [
      ("status", Outcome.codec.write outcome),
      ("bssid", HardwareAddress.codec.write address),
      ("channel", Tuning.codec.nullable.write tuning)])
  | .stopComplete outcome =>
    .ofKind "StopBssComplete" (.object [("status", Outcome.codec.write outcome)])
  | .stationJoined address number elements =>
    .ofKind "AssocIndication" (.object [
      ("mac", HardwareAddress.codec.write address),
      ("aid", Codec.word.write number),
      ("ies", Codec.octets.write elements)])
  | .stationLeft address reason =>
    .ofKind "Disassociated" (.object [
      ("mac", HardwareAddress.codec.write address),
      ("reason", Codec.word.write reason)])
  | .listeningStarted tuning duration =>
    .ofKind "DfsCacStart" (.object [
      ("channel", Tuning.codec.write tuning),
      ("duration", Duration.codec.write duration)])
  | .listeningEnded tuning =>
    .ofKind "DfsCacEnd" (.object [("channel", Tuning.codec.write tuning)])
  | .radarDetected channels =>
    .ofKind "RadarDetected" (.object [("channels", Codec.octets.write channels)])
  | .noChannel => .text "NoChannelAvailable"
  | .channelSelected primary secondary width center =>
    .ofKind "AcsChannelSelected" (.object [
      ("primary", Codec.octet.write primary),
      ("secondary", Codec.octet.nullable.write secondary),
      ("width", Width.codec.write width),
      ("center", Codec.octet.write center)])
  | .channelChanged tuning =>
    .ofKind "ChannelChanged" (.object [("channel", Tuning.codec.write tuning)])
  | .switchAnnounced target =>
    .ofKind "ChannelSwitchAnnounced" (.object [("target", Tuning.codec.write target)])
  | .listWanted => .text "NolGet"
  | .listChanged records =>
    .ofKind "NolSet" (.object [("records", NonOccupancy.Record.codec.list.write records)])

def ScanKind.codec : Codec ScanKind :=
  .named [(.active, "Active"), (.passive, "Passive")]

def StartParameters.toJson (p : StartParameters) : Json :=
  .object [
    ("ssid", .text p.name),
    ("bssid", HardwareAddress.codec.write p.address),
    ("channel", Tuning.codec.write p.tuning),
    ("hidden", .bool p.hidden),
    ("beacon_interval", Codec.word.write p.beaconInterval),
    ("dtim_period", Codec.octet.write p.wakePeriod),
    ("max_clients", Codec.word32.write p.maxClients),
    ("dfs", .bool p.radar)]

end Hotspot

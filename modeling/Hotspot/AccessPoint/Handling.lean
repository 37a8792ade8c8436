import Hotspot.AccessPoint.Controller

/-!
How a session answers an event. An answer may let further events wait; they are handled before the
operation ends. A command that the layer below does not take never leaves a session waiting for its
completion.
-/

set_option autoImplicit false
set_option relaxedAutoImplicit false

namespace Hotspot.Turn

/-- Gives up the control session, if there is one. Whether the layer below agrees does not matter.
-/
def closeControl (env : Surroundings) (t : Turn) (s : Session) : Turn :=
  if s.controlOpen then
    ((t.modify s.id fun s => { s with controlOpen := false }).command env s.id .closeControl).2
  else t

/-- Forgets that channels were cleared that only this session was on: nobody listens there now. -/
def releaseCleared (t : Turn) (s : Session) : Turn :=
  let others := t.sessions.filter fun o => o.id != s.id
  let released := s.occupied.filter fun c => !others.any fun o => o.occupied.contains c
  t.share fun a => { a with cleared := a.cleared.filter fun c => !released.contains c }

/-- Closes a stretch on the air and brings the session back to where it began. -/
def rest (env : Surroundings) (t : Turn) (s : Session) : Turn :=
  (((t.closeControl env s).releaseCleared s).modify s.id Session.clear).enter s.id .disconnected

def failStart (env : Surroundings) (t : Turn) (s : Session) : Turn :=
  (t.notify s.id (.startComplete .failure s.settings.address s.tuning)).rest env s

def finishStop (env : Surroundings) (t : Turn) (s : Session) : Turn :=
  (t.rest env s).notify s.id (.stopComplete .success)

/-- Takes a network off the air. If the layer below does not take the command, the network counts as
stopped. -/
def beginStop (env : Surroundings) (t : Turn) (id : SessionId) : Turn :=
  let (accepted, t) := (t.enter id .disconnecting).command env id .stopNetwork
  if accepted then t else t.enqueue id .networkStopped

def tick (now : Instant) : UInt64 :=
  UInt64.ofNat (Duration.wholeMillis now.toNat)

/-- Every channel of the tuning is allowed and free, and none disturbs a channel that is not. -/
def usable (t : Turn) (target : Tuning) (now : Instant) : Bool × Turn :=
  if target.channels.all t.airspace.domain.contains then
    let (free, table) := t.airspace.table.available now target.channel target.bonding
    let t := t.withTable table
    if free then
      let (kept, table) := t.airspace.table.unavailable now
      (!target.channels.any (Isolation.leaks target.width kept), t.withTable table)
    else (false, t)
  else (false, t)

/-- Looks for a channel and reports the choice. The width to look for is settled the first time. -/
def select (env : Surroundings) (t : Turn) (s : Session) (now : Instant) :
    Option Tuning × Turn :=
  let t := t.modify s.id fun s => { s with ceiling := some s.widest }
  let (choice, table) := Selection.select? t.airspace.domain t.settings.policy s.settings.range
    s.widest (env.octet t.drawn) (tick now) now t.airspace.table
  let t := t.withTable table
  match choice with
  | none => (none, t)
  | some chosen =>
    let t := { t with drawn := t.drawn + 1 }
    (some chosen, t.notify s.id (.channelSelected chosen.channel
      (chosen.bonding.secondary? chosen.channel) chosen.width chosen.center))

def startParameters (t : Turn) (s : Session) (tuning : Tuning) : StartParameters where
  name := s.settings.name
  address := s.settings.address
  tuning
  hidden := s.settings.hidden
  beaconInterval := s.settings.beaconInterval
  wakePeriod := s.settings.wakePeriod
  maxClients := s.settings.maxClients
  radar := tuning.channels.any t.airspace.domain.isRadar

def mustListen (t : Turn) (tuning : Tuning) : Bool :=
  !t.settings.skipListening &&
    tuning.channels.any fun c => t.airspace.domain.isRadar c && !t.airspace.cleared.contains c

/-- Starts a network. A command that is not taken comes back as a failed start. -/
def beginStart (env : Surroundings) (t : Turn) (s : Session) (tuning : Tuning) : Turn :=
  let parameters := t.startParameters s tuning
  let t := (t.modify s.id fun s => { s with tuning := some tuning }).enter s.id .starting
  let (accepted, t) := t.command env s.id (.startNetwork parameters)
  if accepted then t else t.enqueue s.id (.startFailure 1)

def awaitListening (t : Turn) (id : SessionId) (tuning : Tuning) (duration : Duration) : Turn :=
  let t := t.enter id .listening
  if (t.session? id).any (!·.listeningAnnounced) then
    (t.modify id fun s => { s with listeningAnnounced := true }).notify id
      (.listeningStarted tuning duration)
  else t

/-- Listens before sending. A run that covers the tuning is joined, without a run one is begun, and
beside a run that does not cover the tuning the start fails. -/
def beginListening (env : Surroundings) (t : Turn) (s : Session) (tuning : Tuning)
    (now : Instant) : Turn :=
  match t.airspace.run with
  | some run =>
    if t.airspace.covers run tuning then t.awaitListening s.id tuning run.duration
    else
      (t.notify s.id (.startComplete .failure s.settings.address (some tuning))).beginStop env s.id
  | none =>
    let duration := t.airspace.table.listening tuning.channels
    let run : ListeningRun := ⟨tuning.channel, tuning.channels, duration, now⟩
    ((t.arm duration).share fun a => { a with run := some run }).awaitListening s.id tuning duration

def markStarted (t : Turn) (s : Session) : Turn :=
  (t.enter s.id .started).notify s.id (.startComplete .success s.settings.address s.tuning)

def openControl (env : Surroundings) (t : Turn) (s : Session) : Bool × Turn :=
  if s.controlOpen then (true, t)
  else
    let (accepted, t) := t.command env s.id .openControl
    (accepted, if accepted then t.modify s.id fun s => { s with controlOpen := true } else t)

/-- Builds the non-occupancy list when it is first needed and takes over what the application
kept. -/
def ensureTable (env : Surroundings) (t : Turn) (id : SessionId) (now : Instant) : Bool × Turn :=
  if t.airspace.seeded then (true, t)
  else
    match NonOccupancy.Table.ofDomain t.airspace.table.timing t.airspace.domain with
    | .error _ => (false, t)
    | .ok table =>
      let t := t.notify id .listWanted
      (true, t.share fun a => { a with table := table.seed now env.kept, seeded := true })

/-- The control session and the non-occupancy list are there. A session without them goes back to
where it began. -/
def prepared (env : Surroundings) (t : Turn) (s : Session) (now : Instant)
    (next : Turn → Session → Turn) : Turn :=
  let (opened, t) := t.openControl env s
  let s := { s with controlOpen := opened }
  if opened then
    let (built, t) := t.ensureTable env s.id now
    if built then next t s else t.failStart env s
  else t.failStart env s

/-- The channels to scan: the fixed one, or those of the domain that lie in the range. Nothing is
sent where radar is possible. -/
def scanChannels (d : Domain) (s : SessionSettings) : List (Channel × ScanKind) :=
  let channels := match s.channel with
    | .fixed c => [c]
    | .auto => d.channels.filter s.range.contains
  channels.map fun c => (c, if d.isRadar c then .passive else .active)

def onStartRequest (env : Surroundings) (t : Turn) (s : Session) (now : Instant) : Turn :=
  t.prepared env s now fun t s =>
    let t := t.enter s.id .selecting
    let (accepted, t) := t.command env s.id (.scan (scanChannels t.airspace.domain s.settings))
    if accepted then t else t.enqueue s.id .selectionFailed

def onTunedStartRequest (env : Surroundings) (t : Turn) (s : Session) (target : Tuning)
    (now : Instant) : Turn :=
  t.prepared env s now fun t s =>
    let (usable, t) := t.usable target now
    if usable then
      let tuned (s : Session) : Session :=
        { s with ceiling := some s.widest, tuning := some target }
      let t := t.modify s.id tuned
      let s := tuned s
      if t.mustListen target then
        let (accepted, t) := t.command env s.id (.startNetwork (t.startParameters s target))
        if accepted then t.beginListening env s target now else t.failStart env s
      else t.beginStart env s target
    else (t.notify s.id .noChannel).failStart env s

/-- After the scan a channel is chosen: the fixed one while it is usable, else whatever selection
finds. -/
def onScanComplete (env : Surroundings) (t : Turn) (s : Session) (success : Bool)
    (now : Instant) : Turn :=
  if success then
    let t := t.modify s.id fun s => { s with ceiling := some s.widest }
    let (choice, t) := match s.settings.channel with
      | .auto => t.select env s now
      | .fixed c =>
        let wanted := Tuning.resolve c s.widest
        let (usable, t) := t.usable wanted now
        if usable then (some wanted, t) else t.select env s now
    match choice with
    | some tuning => t.beginStart env s tuning
    | none => (t.notify s.id .noChannel).enqueue s.id .selectionFailed
  else t.enqueue s.id .selectionFailed

def onStartSuccess (env : Surroundings) (t : Turn) (s : Session) (now : Instant) : Turn :=
  match s.tuning with
  | none => t.failStart env s
  | some tuning =>
    if t.mustListen tuning then t.beginListening env s tuning now else t.markStarted s

def endListening (env : Surroundings) (t : Turn) (s : Session) (tuning : Tuning) : Turn :=
  let t := if s.listeningEndAnnounced then t else
    (t.modify s.id fun s => { s with listeningEndAnnounced := true }).notify s.id
      (.listeningEnded tuning)
  let (accepted, t) := t.command env s.id .startBeacon
  if accepted then t.markStarted s else t.beginStop env s.id

/-- The run of listening is complete: its channels are cleared, and the sessions that waited for it
go on. -/
def onListeningOver (env : Surroundings) (t : Turn) : Turn :=
  match t.airspace.run with
  | none => t
  | some run =>
    let radar := run.channels.filter t.airspace.domain.isRadar
    let t := t.share fun a =>
      { a with run := none, cleared := radar.foldl (fun set c => Channel.insert c set) a.cleared }
    let waiting := t.sessions.filter fun s => s.phase == .listening && s.overlaps run.channels
    waiting.foldl
      (fun t s => match s.tuning with
        | some tuning => t.endListening env s tuning
        | none => t)
      t

/-- The tuning suits a session that another one moves to: it is not too wide and lies in the
session's range. -/
def suits (s : Session) (target : Tuning) : Bool :=
  target.width.megahertz ≤ s.widest.megahertz && target.channels.all s.settings.range.contains

/-- Moves one session away from radar: to the place that another one found if that suits it, else to
one of its own. A session on the air tells its stations first. -/
def evade (env : Surroundings) (now : Instant) (progress : Turn × Option Tuning) (s : Session) :
    Turn × Option Tuning :=
  let (t, shared) := progress
  let (target, t) := match shared.filter (suits s) with
    | some target => (some target, t)
    | none => t.select env s now
  match target with
  | none => ((t.notify s.id .noChannel).beginStop env s.id, shared)
  | some target =>
    let t := t.modify s.id fun s => { s with target := some target }
    let leave (t : Turn) : Turn :=
      (t.enter s.id .disconnecting).enqueue s.id (.changeRequest target)
    let t :=
      if s.phase = .started then
        let (accepted, t) := t.command env s.id (.announceSwitch target)
        if accepted then t.notify s.id (.switchAnnounced target) else leave t
      else leave t
    (t, some (shared.getD target))

/-- Stops the run of listening, if radar was found where it listens. -/
def abortListening (t : Turn) (channels : List Channel) : Turn :=
  if t.airspace.run.any fun run => run.channels.any channels.contains then
    (t.share fun a => { a with run := none }).disarm
  else t

/-- The session is on the air or listens, on one of the channels. -/
def isAffected (channels : List Channel) (s : Session) : Bool :=
  (s.phase == .listening || s.phase == .started) && s.overlaps channels

/-- Radar: the channels go on the non-occupancy list, every session on them hears of it, and only
then any of them moves. No channels stand for those of the session that reports. -/
def onRadar (env : Surroundings) (t : Turn) (s : Session) (channels : List Channel)
    (now : Instant) : Turn :=
  let channels := if channels.isEmpty then s.occupied else channels
  let t := t.share fun a => { a with
    table := (a.table.markEach now channels).2
    cleared := a.cleared.filter fun c => !channels.contains c }
  let t := t.notify s.id (.listChanged (t.airspace.table.records now))
  let affected := t.sessions.filter (isAffected channels)
  if affected.isEmpty then t.notify s.id (.radarDetected channels)
  else
    let t := affected.foldl (fun t a => t.notify a.id (.radarDetected channels)) t
    (affected.foldl (evade env now) (t.abortListening channels, none)).1

/-- A session stops listening. The run goes on while any other session waits. -/
def onListeningStop (env : Surroundings) (t : Turn) (id : SessionId) : Turn :=
  let awaited := t.sessions.any fun o => o.id != id && o.phase == .listening
  let t :=
    if !awaited && t.airspace.run.isSome then (t.share fun a => { a with run := none }).disarm
    else t
  t.beginStop env id

def onSwitchAnnounced (t : Turn) (s : Session) : Turn :=
  match s.target with
  | none => t
  | some target => (t.enter s.id .disconnecting).enqueue s.id (.changeRequest target)

def onChangeRequest (env : Surroundings) (t : Turn) (id : SessionId) (target : Tuning) : Turn :=
  let (accepted, t) := t.command env id (.changeChannel target)
  if accepted then t
  else (t.modify id fun s => { s with target := none }).beginStop env id

/-- The session is on another channel. Without a move under way this only confirms where it starts;
with one, the session goes on from there. -/
def onChannelChanged (env : Surroundings) (t : Turn) (s : Session) (tuning : Tuning)
    (now : Instant) : Turn :=
  match s.target with
  | none => t.modify s.id fun s => { s with tuning := some tuning }
  | some _ =>
    let moved (s : Session) : Session :=
      { s with
        target := none
        tuning := some tuning
        listeningAnnounced := false
        listeningEndAnnounced := false }
    let t := (t.modify s.id moved).notify s.id (.channelChanged tuning)
    if t.mustListen tuning then t.beginListening env (moved s) tuning now
    else t.enter s.id .started

def onStationJoined (t : Turn) (id : SessionId) (address : HardwareAddress) (number : UInt16)
    (elements : List UInt8) : Turn :=
  (t.modify id fun s => { s with stations := Station.insert address number s.stations }).notify id
    (.stationJoined address number elements)

def onStationLeft (t : Turn) (id : SessionId) (address : HardwareAddress) (reason : UInt16) :
    Turn :=
  (t.modify id fun s => { s with stations := s.stations.filter fun st => st.1 != address }).notify
    id (.stationLeft address reason)

/-- Handles an event in the phase that the session is in. Events that a phase does not know are
ignored, and so are events for a session that is closed. -/
def handle (env : Surroundings) (now : Instant) (t : Turn) (id : SessionId) (e : Event) : Turn :=
  match t.session? id with
  | none => t
  | some s =>
    match s.phase, e with
    | .disconnected, .startRequest => t.onStartRequest env s now
    | .disconnected, .tunedStartRequest target => t.onTunedStartRequest env s target now
    | .selecting, .scanComplete success _ => t.onScanComplete env s success now
    | .selecting, .selectionFailed => t.failStart env s
    | .selecting, .stopRequest => t.failStart env s
    | .starting, .stopRequest => t.failStart env s
    | .starting, .startFailure _ => t.failStart env s
    | .starting, .startSuccess => t.onStartSuccess env s now
    | .starting, .channelChanged tuning => t.onChannelChanged env s tuning now
    | .listening, .listeningOver => t.onListeningOver env
    | .listening, .radarDetected channels => t.onRadar env s channels now
    | .listening, .stopRequest => t.onListeningStop env id
    | .started, .radarDetected channels => t.onRadar env s channels now
    | .started, .stopRequest => t.beginStop env id
    | .started, .switchAnnounced => t.onSwitchAnnounced s
    | .started, .stationJoined address number elements =>
      t.onStationJoined id address number elements
    | .started, .stationLeft address reason => t.onStationLeft id address reason
    | .disconnecting, .changeRequest target => t.onChangeRequest env id target
    | .disconnecting, .channelChanged tuning =>
      if s.target.isSome then (t.enter id .starting).enqueueFirst id (.channelChanged tuning)
      else t
    | .disconnecting, .networkStopped => t.finishStop env s
    | _, _ => t

/-- Handles events that wait, the first in line first, at most a given number. -/
def drain (env : Surroundings) (now : Instant) : Nat → Turn → Turn
  | 0, t => t
  | n + 1, t =>
    match t.queue with
    | [] => t
    | (id, e) :: rest => drain env now n (handle env now { t with queue := rest } id e)

/-- How many events there can be to handle: an event that waits leads to two more for each session
at most. -/
def eventBound (t : Turn) : Nat :=
  t.queue.length * (1 + 2 * t.sessions.length)

def settle (env : Surroundings) (now : Instant) (t : Turn) : Turn :=
  t.drain env now t.eventBound

end Hotspot.Turn

import Hotspot.Spectrum.Bonding
import Hotspot.Spectrum.Domain
import Hotspot.Time

/-!
The non-occupancy list: which channels shared with radar must be left alone because radar was found
there, and since when. An entry is freed when it is looked at after its period has passed, not
before.
-/

set_option autoImplicit false
set_option relaxedAutoImplicit false

namespace Hotspot.NonOccupancy

/-- How long to listen before use and how long to stay away after radar. -/
structure Timing where
  listening : Duration := .seconds 60
  weatherListening : Duration := .seconds 600
  absence : Duration := .seconds 1800
  weatherAbsence : Duration := .seconds 3600
  deriving DecidableEq, Repr

/-- What is known of a channel: no radar yet, radar long ago, or radar since an instant from which
the channel is to be left alone. -/
inductive Status
  | usable
  | available
  | unavailable (since : Instant)
  deriving DecidableEq, Repr

namespace Status

def isFree : Status → Bool
  | .unavailable _ => false
  | _ => true

/-- The status once it is looked at: an absence that has lasted its period is over. -/
def settle (absence : Duration) (now : Instant) : Status → Status
  | .unavailable since =>
    if absence ≤ Instant.since now since then .available else .unavailable since
  | s => s

end Status

structure Entry where
  channel : Channel
  status : Status
  deriving DecidableEq, Repr

inductive RecordStatus
  | usable
  | available
  | unavailable
  deriving DecidableEq, Repr

/-- An entry as it is handed to others: times are ages, so that they outlive the clock. -/
structure Record where
  channel : Channel
  status : RecordStatus
  ageMillis : Option UInt64
  deriving DecidableEq, Repr

structure Table where
  timing : Timing
  entries : List Entry
  weather : List Channel
  deriving DecidableEq, Repr

namespace Table

def empty (timing : Timing) : Table := ⟨timing, [], []⟩

def ofDomain (timing : Timing) (d : Domain) : Except ControlError Table :=
  let radar := d.radarChannels
  if Domain.radarLimit < radar.length then
    .error (.tableOverflow .nonOccupancy radar.length Domain.radarLimit)
  else .ok ⟨timing, radar.map fun c => ⟨c, .usable⟩, radar.filter d.isWeather⟩

def status? (t : Table) (c : Channel) : Option Status :=
  (t.entries.find? (·.channel == c)).map (·.status)

def tracks (t : Table) (c : Channel) : Bool :=
  t.entries.any (·.channel == c)

/-- The channel is not to be left alone. Channels without an entry are free. -/
def isFree (t : Table) (c : Channel) : Bool :=
  (t.status? c).all Status.isFree

def adjust (c : Channel) (f : Status → Status) : List Entry → List Entry
  | [] => []
  | e :: rest =>
    if e.channel == c then { e with status := f e.status } :: rest else e :: adjust c f rest

def update (t : Table) (c : Channel) (f : Status → Status) : Table :=
  { t with entries := adjust c f t.entries }

def absence (t : Table) (c : Channel) : Duration :=
  if t.weather.contains c then t.timing.weatherAbsence else t.timing.absence

def listening (t : Table) (channels : List Channel) : Duration :=
  if channels.any t.weather.contains then t.timing.weatherListening else t.timing.listening

def settle (now : Instant) (t : Table) (c : Channel) : Table :=
  t.update c (Status.settle (t.absence c) now)

def settleEach (now : Instant) (t : Table) (channels : List Channel) : Table :=
  channels.foldl (settle now) t

def settleAll (now : Instant) (t : Table) : Table :=
  { t with
    entries := t.entries.map fun e =>
      { e with status := e.status.settle (t.absence e.channel) now } }

/-- Looks at the channels that a bonding takes and tells whether all of them are free. -/
def available (now : Instant) (t : Table) (c : Channel) (b : Bonding) : Bool × Table :=
  let channels := b.channels c
  let t := t.settleEach now channels
  (channels.all t.isFree, t)

/-- Looks at every entry and lists the channels that are to be left alone. -/
def unavailable (now : Instant) (t : Table) : List Channel × Table :=
  let t := t.settleAll now
  ((t.entries.filter fun e => !e.status.isFree).map (·.channel), t)

/-- Radar was found on a channel. A channel that is left alone already keeps its instant. -/
def mark (now : Instant) (t : Table) (c : Channel) : Table :=
  t.update c fun s => if s.isFree then .unavailable now else s

/-- Radar was found on channels; those that were free until now are listed. -/
def markEach (now : Instant) : Table → List Channel → List Channel × Table
  | t, [] => ([], t)
  | t, c :: rest =>
    let (marked, after) := markEach now (t.mark now c) rest
    (if t.tracks c && t.isFree c then c :: marked else marked, after)

def Record.restore (now : Instant) (r : Record) : Status :=
  match r.status with
  | .usable => .usable
  | .available => .available
  | .unavailable => .unavailable (now - (Duration.millis ((r.ageMillis.getD 0).toNat) : Nat))

/-- Takes over what was recorded earlier, as far as it concerns channels on the list. -/
def seed (now : Instant) (t : Table) (records : List Record) : Table :=
  records.foldl (fun t r => t.update r.channel fun _ => Record.restore now r) t

def applicable (t : Table) (records : List Record) : Nat :=
  records.countP fun r => t.tracks r.channel

def Entry.record (now : Instant) (e : Entry) : Record :=
  match e.status with
  | .usable => ⟨e.channel, .usable, none⟩
  | .available => ⟨e.channel, .available, none⟩
  | .unavailable since =>
    ⟨e.channel, .unavailable, some (UInt64.ofNat (Instant.since now since).wholeMillis)⟩

def records (now : Instant) (t : Table) : List Record :=
  t.entries.map (Entry.record now)

def reset (t : Table) : Table :=
  { t with entries := t.entries.map fun e => { e with status := .usable } }

end Table

end Hotspot.NonOccupancy

import Hotspot.AccessPoint.Event
import Hotspot.AccessPoint.Journal

/-!
The controller of all access points on one radio: its state, and the state of an operation on it.
-/

set_option autoImplicit false
set_option relaxedAutoImplicit false

namespace Hotspot

/-- A run of listening for radar. The radio has one at most, and sessions share it. -/
structure ListeningRun where
  channel : Channel
  channels : List Channel
  duration : Duration
  startedAt : Instant
  deriving DecidableEq

structure Airspace where
  domain : Domain
  table : NonOccupancy.Table
  /-- The non-occupancy list was built for use and filled from what the application kept. -/
  seeded : Bool
  run : Option ListeningRun
  /-- Channels that were listened to with no radar since, in ascending order. -/
  cleared : List Channel
  deriving DecidableEq

namespace Airspace

def fresh (domain : Domain) (table : NonOccupancy.Table) : Airspace :=
  ⟨domain, table, false, none, []⟩

/-- Every channel of a tuning that is shared with radar is listened to already. -/
def covers (a : Airspace) (run : ListeningRun) (t : Tuning) : Bool :=
  (t.channels.filter a.domain.isRadar).all run.channels.contains

end Airspace

def Channel.insert (c : Channel) : List Channel → List Channel
  | [] => [c]
  | d :: rest =>
    if c == d then d :: rest else if c < d then c :: d :: rest else d :: Channel.insert c rest

/-- The controller. Sessions stand in the order of their numbers; the queue holds events that wait
to be handled and is empty between operations. -/
structure Controller where
  settings : Settings
  airspace : Airspace
  sessions : List Session
  /-- How many random octets were used up. -/
  drawn : Nat
  queue : List (SessionId × Event)
  deriving DecidableEq

namespace Controller

def session? (c : Controller) (id : SessionId) : Option Session :=
  c.sessions.find? (·.id == id)

def phase? (c : Controller) (id : SessionId) : Option Phase :=
  (c.session? id).map (·.phase)

end Controller

/-- What surrounds an operation: whether the layer below takes a command for a session, given what
happened before it; the random octets, by their number; and the list that the application kept. -/
structure Surroundings where
  accepts : Journal → SessionId → Command → Bool
  octet : Nat → UInt8
  kept : List NonOccupancy.Record

/-- An operation in progress: the controller and what happened so far. -/
structure Turn extends Controller where
  journal : Journal

namespace Turn

def record (t : Turn) (e : Entry) : Turn :=
  { t with journal := t.journal ++ [e] }

def notify (t : Turn) (id : SessionId) (n : Notice) : Turn :=
  t.record (.notice id n)

def command (env : Surroundings) (t : Turn) (id : SessionId) (c : Command) : Bool × Turn :=
  let accepted := env.accepts t.journal id c
  (accepted, t.record (.command id c accepted))

def modify (t : Turn) (id : SessionId) (f : Session → Session) : Turn :=
  { t with sessions := t.sessions.map fun s => if s.id == id then f s else s }

/-- Moves a session to a phase, and notes it if the session was not there. -/
def enter (t : Turn) (id : SessionId) (phase : Phase) : Turn :=
  match t.phase? id with
  | none => t
  | some before =>
    if before = phase then t
    else (t.modify id fun s => { s with phase }).record (.moved id before phase)

def enqueue (t : Turn) (id : SessionId) (e : Event) : Turn :=
  { t with queue := t.queue ++ [(id, e)] }

def enqueueFirst (t : Turn) (id : SessionId) (e : Event) : Turn :=
  { t with queue := (id, e) :: t.queue }

def share (t : Turn) (f : Airspace → Airspace) : Turn :=
  { t with airspace := f t.airspace }

def withTable (t : Turn) (table : NonOccupancy.Table) : Turn :=
  t.share fun a => { a with table }

def arm (t : Turn) (d : Duration) : Turn :=
  t.record (.armed d)

def disarm (t : Turn) : Turn :=
  t.record .disarmed

end Turn

end Hotspot

import Hotspot.AccessPoint.Handling

/-!
The operations on a controller. A refused operation changes nothing and has no journal.
-/

set_option autoImplicit false
set_option relaxedAutoImplicit false

namespace Hotspot.Controller

def create (settings : Settings) (domain : Domain) : Except ControlError Controller := do
  settings.validate
  domain.validate
  let table ← NonOccupancy.Table.ofDomain settings.timing domain
  return ⟨settings, .fresh domain table, [], 0, []⟩

def ofSettings (settings : Settings) : Except ControlError Controller :=
  settings.domain >>= create settings

def freeId? (c : Controller) : Option SessionId :=
  ((List.range 256).map UInt8.ofNat).find? fun id => (c.session? id).isNone

def insert (s : Session) : List Session → List Session
  | [] => [s]
  | o :: rest => if s.id < o.id then s :: o :: rest else o :: insert s rest

def openSession (c : Controller) (settings : SessionSettings) :
    Except ControlError (SessionId × Controller) := do
  if c.settings.maxSessions ≤ c.sessions.length then
    throw (.sessionLimit c.settings.maxSessions)
  settings.validate c.airspace.domain
  match c.freeId? with
  | none => throw (.sessionLimit c.settings.maxSessions)
  | some id => return (id, { c with sessions := insert (.fresh id settings) c.sessions })

def closeSession (c : Controller) (id : SessionId) : Except ControlError Controller :=
  match c.session? id with
  | none => .error (.unknownSession id)
  | some s =>
    if s.phase = .disconnected then
      .ok { c with sessions := c.sessions.filter fun o => o.id != id }
    else .error (.sessionBusy id s.phase.label)

/-- Changes the domain while every session is off the air. All that was known of radar is
forgotten. -/
def setDomain (c : Controller) (domain : Domain) : Except ControlError Controller := do
  domain.validate
  match c.sessions.find? fun s => s.phase != .disconnected with
  | some busy => throw (.sessionBusy busy.id busy.phase.label)
  | none =>
    let table ← NonOccupancy.Table.ofDomain c.settings.timing domain
    return { c with airspace := .fresh domain table }

def dispatch (env : Surroundings) (now : Instant) (c : Controller) (id : SessionId) (e : Event) :
    Except ControlError (Controller × Journal) :=
  match c.session? id with
  | none => .error (.unknownSession id)
  | some _ =>
    let t := ((Turn.mk c []).enqueue id e).settle env now
    .ok (t.toController, t.journal)

def listeningOver (env : Surroundings) (now : Instant) (c : Controller) : Controller × Journal :=
  let t := ((Turn.mk c []).onListeningOver env).settle env now
  (t.toController, t.journal)

end Hotspot.Controller

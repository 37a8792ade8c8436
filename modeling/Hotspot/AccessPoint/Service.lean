import Hotspot.AccessPoint.Operations

/-!
A controller with its timer on a running clock. Countdowns are numbered: every start and stop of the
timer takes a new number, and an expiry is heeded only if it carries the current one while the timer
runs.
-/

set_option autoImplicit false
set_option relaxedAutoImplicit false

namespace Hotspot

/-- The timer: the number of its latest countdown and whether that one is still wanted. -/
structure CountdownTimer where
  generation : UInt64
  armed : Bool
  deriving DecidableEq, Repr

namespace CountdownTimer

def disarm (t : CountdownTimer) : CountdownTimer :=
  ⟨t.generation + 1, false⟩

def arm (t : CountdownTimer) : CountdownTimer :=
  { t.disarm with armed := true }

def heeds (t : CountdownTimer) (generation : UInt64) : Bool :=
  t.armed && t.generation == generation

def expire (t : CountdownTimer) : CountdownTimer :=
  { t with armed := false }

end CountdownTimer

structure Countdown where
  generation : UInt64
  due : Instant
  deriving DecidableEq, Repr

/-- A controller in service. Expiries that were sent wait to be delivered. -/
structure Service where
  controller : Controller
  timer : CountdownTimer
  countdown : Option Countdown
  expiries : List UInt64
  now : Instant
  stopped : Bool
  deriving DecidableEq

namespace Service

def start (controller : Controller) : Service :=
  ⟨controller, ⟨0, false⟩, none, [], 0, false⟩

def obey (s : Service) (journal : Journal) : Service :=
  journal.foldl
    (fun s e => match e with
      | .armed duration =>
        let timer := s.timer.arm
        { s with timer, countdown := some ⟨timer.generation, s.now + (duration : Nat)⟩ }
      | .disarmed => { s with timer := s.timer.disarm, countdown := none }
      | _ => s)
    s

def ring (s : Service) : Service :=
  match s.countdown with
  | some c =>
    if c.due ≤ s.now then
      { s with countdown := none, expiries := s.expiries ++ [c.generation] }
    else s
  | none => s

/-- Delivers an expiry: the controller hears of it if it is the one waited for. -/
def expire (env : Surroundings) (s : Service) (generation : UInt64) : Service × Journal :=
  if s.timer.heeds generation then
    let (controller, journal) := s.controller.listeningOver env s.now
    (({ s with controller, timer := s.timer.expire }).obey journal, journal)
  else (s, [])

def deliver (env : Surroundings) (s : Service) : Service × Journal :=
  s.expiries.foldl
    (fun (s, journal) generation =>
      let (s, more) := s.expire env generation
      (s, journal ++ more))
    ({ s with expiries := [] }, [])

/-- Lets time pass. A countdown that comes due on the way is heard when it is due; hearing it begins
no other. -/
def sleep (env : Surroundings) (s : Service) (duration : Duration) : Service × Journal :=
  let wake := s.now + (duration : Nat)
  let s := match s.countdown with
    | some c => if c.due ≤ wake then { s with now := max s.now c.due }.ring else s
    | none => s
  let (s, journal) := s.deliver env
  ({ s with now := wake }, journal)

def openSession (s : Service) (settings : SessionSettings) :
    Except ControlError (SessionId × Service) := do
  if s.stopped then throw .stopped
  let (id, controller) ← s.controller.openSession settings
  return (id, { s with controller })

def closeSession (s : Service) (id : SessionId) : Except ControlError Service := do
  if s.stopped then throw .stopped
  let controller ← s.controller.closeSession id
  return { s with controller }

def dispatch (env : Surroundings) (s : Service) (id : SessionId) (e : Event) :
    Except ControlError (Service × Journal) := do
  if s.stopped then throw .stopped
  let (controller, journal) ← s.controller.dispatch env s.now id e
  return ({ s with controller }.obey journal, journal)

/-- Handles an event without waiting: what becomes of it is not reported. -/
def send (env : Surroundings) (s : Service) (id : SessionId) (e : Event) :
    Except ControlError (Service × Journal) :=
  if s.stopped then .error .stopped
  else match s.dispatch env id e with
    | .ok result => .ok result
    | .error _ => .ok (s, [])

def shutdown (s : Service) : Except ControlError Service :=
  if s.stopped then .error .stopped
  else .ok { s with timer := s.timer.disarm, countdown := none, stopped := true }

def snapshot (s : Service) : Except ControlError (List (SessionId × Phase × Option Tuning)) :=
  if s.stopped then .error .stopped
  else .ok (s.controller.sessions.map fun o => (o.id, o.phase, o.tuning))

end Service

end Hotspot

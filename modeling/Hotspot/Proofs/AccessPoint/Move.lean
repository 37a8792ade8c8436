import Hotspot.Proofs.AccessPoint.Scene
import Hotspot.Proofs.Spectrum.NonOccupancy
import Mathlib.Logic.Relation

/-!
What one event can do to where sessions stand, said once. Radar and the end of listening aside, an
answer to an event takes over what is reported, and then is a path of moves; each move states under
which conditions it is made. A law that every move keeps is kept by every answer.
-/

set_option autoImplicit false
set_option relaxedAutoImplicit false

namespace Hotspot

open NonOccupancy (Table)

inductive Stance.Change (skip : Bool) (a : Airspace) : Stance → Stance → Prop
  | select (tu tg : Option Tuning) (seeded : a.seeded = true) :
      Change skip a ⟨.disconnected, tu, tg⟩ ⟨.selecting, tu, tg⟩
  | tune (p : Phase) (tu tg : Option Tuning) (new : Tuning)
      (idle : p = .disconnected ∨ p = .selecting) :
      Change skip a ⟨p, tu, tg⟩ ⟨p, some new, tg⟩
  | launch (p : Phase) (tu tg : Option Tuning) (new : Tuning)
      (idle : p = .disconnected ∨ p = .selecting) (seeded : a.seeded = true)
      (free : new.FreeIn a.table) :
      Change skip a ⟨p, tu, tg⟩ ⟨.starting, some new, tg⟩
  | listen (p : Phase) (tu : Tuning) (tg : Option Tuning) (run : ListeningRun)
      (before : p = .starting ∨ p = .disconnected ∧ tu.FreeIn a.table) (seeded : a.seeded = true)
      (running : a.run = some run) (covered : a.covers run tu = true)
      (radar : ∃ c ∈ tu.channels, a.domain.isRadar c = true) :
      Change skip a ⟨p, some tu, tg⟩ ⟨.listening, some tu, tg⟩
  | start (tu : Tuning) (tg : Option Tuning)
      (cleared : skip = false → ∀ c ∈ tu.channels, a.domain.isRadar c = true → c ∈ a.cleared) :
      Change skip a ⟨.starting, some tu, tg⟩ ⟨.started, some tu, tg⟩
  | leave (p : Phase) (tu tg : Option Tuning) (seeded : a.seeded = true) :
      Change skip a ⟨p, tu, tg⟩ ⟨.disconnecting, tu, tg⟩
  | drop (tu tg : Option Tuning) :
      Change skip a ⟨.disconnecting, tu, tg⟩ ⟨.disconnecting, tu, none⟩
  | clear (p : Phase) (tu tg : Option Tuning) (listens : p ≠ .listening) (sends : p ≠ .started) :
      Change skip a ⟨p, tu, tg⟩ .initial

def Event.heard? : Event → Option Tuning
  | .channelChanged tuning => some tuning
  | _ => none

theorem Event.heard?_eq_none {e : Event} (h : ∀ tuning, e ≠ .channelChanged tuning) :
    e.heard? = none := by
  cases e with
  | channelChanged tuning => exact absurd rfl (h tuning)
  | _ => rfl

/-- The channels on which an event makes the session report radar. No channels stand for those in
use. -/
def Session.reports? (s : Session) : Event → Option (List Channel)
  | .radarDetected channels =>
    if s.phase = .listening ∨ s.phase = .started then
      some (if channels.isEmpty then s.occupied else channels)
    else none
  | _ => none

/-- The event tells the session that listening is over, and it waits for that. -/
def Session.awaits (s : Session) : Event → Bool
  | .listeningOver => s.phase == .listening
  | _ => false

/-- An event with which a controller ends by itself what it cannot go on with. -/
def Event.isClosing : Event → Bool
  | .selectionFailed | .startFailure _ | .networkStopped | .changeRequest _ => true
  | .startRequest | .tunedStartRequest _ | .scanComplete _ _ | .startSuccess | .stopRequest
  | .listeningOver | .radarDetected _ | .switchAnnounced | .channelChanged _
  | .stationJoined _ _ _ | .stationLeft _ _ => false

theorem Event.reports?_of_isClosing {e : Event} (he : e.isClosing = true) (s : Session) :
    s.reports? e = none ∧ s.awaits e = false ∧ e.heard? = none := by
  cases e <;> first | exact ⟨rfl, rfl, rfl⟩ | exact absurd he nofun

/-- An answer lets nothing wait, or one closing event for the session behind all others. -/
def Turn.Leaves (id : SessionId) (t t' : Turn) : Prop :=
  t'.queue = t.queue ∨ ∃ e, e.isClosing = true ∧ t'.queue = t.queue ++ [(id, e)]

/-- How many events it takes until what follows from a closing event is over. -/
def Event.cost : Event → Nat
  | .changeRequest _ => 2
  | _ => 1

theorem Event.cost_pos (e : Event) : 1 ≤ e.cost := by
  unfold cost
  split <;> omega

theorem Event.cost_le (e : Event) : e.cost ≤ 2 := by
  unfold cost
  split <;> omega

def Turn.backlog : List (SessionId × Event) → Nat
  | [] => 0
  | p :: rest => p.2.cost + backlog rest

theorem Turn.backlog_append (q q' : List (SessionId × Event)) :
    backlog (q ++ q') = backlog q + backlog q' := by
  induction q with
  | nil => simp [backlog]
  | cons p rest ih =>
    rw [List.cons_append, backlog, backlog, ih]
    omega

namespace Turn.Leaves

variable {id : SessionId} {t t' t'' : Turn}

theorem of_queue_eq (h : t'.queue = t.queue) : Leaves id t t' := .inl h

theorem after (hl : Leaves id t' t'') (h : t'.queue = t.queue) : Leaves id t t'' := by
  unfold Leaves at hl ⊢
  rwa [h] at hl

theorem enqueue {e : Event} (he : e.isClosing = true) : Leaves id t (t.enqueue id e) :=
  .inr ⟨e, he, rfl⟩

end Turn.Leaves

namespace Scene

inductive Move (now : Instant) : Scene → Scene → Prop
  /-- One session changes where it stands. -/
  | change (σ : Scene) (id : SessionId) (st st' : Stance) (found : σ.stance id = some st)
      (how : Stance.Change σ.skip σ.airspace st st') :
      Move now σ (σ.alter id fun _ => st')
  /-- Somebody looks at the non-occupancy list. -/
  | look (σ : Scene) (table : Table) (looked : Table.Looked now σ.airspace.table table) :
      Move now σ (σ.share fun a => { a with table })
  /-- The non-occupancy list is built for use. -/
  | seed (σ : Scene) (table : Table) (unseeded : σ.airspace.seeded = false) :
      Move now σ (σ.share fun a => { a with table, seeded := true })
  /-- Cleared channels are forgotten, none that is in use by a session on the air. -/
  | release (σ : Scene) (cleared : List Channel)
      (subset : ∀ c ∈ cleared, c ∈ σ.airspace.cleared)
      (kept : ∀ id st, σ.stance id = some st → st.phase = .started →
        ∀ c ∈ st.occupied, c ∈ σ.airspace.cleared → c ∈ cleared) :
      Move now σ (σ.share fun a => { a with cleared })
  /-- A run of listening begins. -/
  | beginRun (σ : Scene) (run : ListeningRun) (silent : σ.airspace.run = none)
      (seeded : σ.airspace.seeded = true) :
      Move now σ (σ.share fun a => { a with run := some run })
  /-- The last session that listens leaves, and the run ends with it. -/
  | endRun (σ : Scene) (id : SessionId) (st : Stance) (found : σ.stance id = some st)
      (listens : st.phase = .listening)
      (alone : ∀ j o, j ≠ id → σ.stance j = some o → o.phase ≠ .listening)
      (seeded : σ.airspace.seeded = true) :
      Move now σ ((σ.share fun a => { a with run := none }).alter id fun _ =>
        { st with phase := .disconnecting })

abbrev Path (now : Instant) : Scene → Scene → Prop :=
  Relation.ReflTransGen (Move now)

/-- A tuning that the layer below reports for a session is taken over: one that starts is confirmed
there, and one that was moving starts anew there. -/
inductive Reported (heard : Option (SessionId × Tuning)) : Scene → Scene → Prop
  | nothing (σ : Scene) : Reported heard σ σ
  | taken (σ : Scene) (id : SessionId) (st : Stance) (new : Tuning) (said : heard = some (id, new))
      (found : σ.stance id = some st)
      (awaited : st.phase = .starting ∧ st.target = none ∨
        st.phase = .disconnecting ∧ st.target.isSome = true) :
      Reported heard σ (σ.alter id fun _ => ⟨.starting, some new, none⟩)

variable {now : Instant} {σ : Scene}

theorem Path.change {id : SessionId} {st : Stance} {f : Stance → Stance}
    (hs : σ.stance id = some st) (h : Stance.Change σ.skip σ.airspace st (f st)) :
    Path now σ (σ.alter id f) := by
  rw [σ.alter_congr id (g := fun _ => f st) fun o ho => by rw [hs] at ho; cases ho; rfl]
  exact .single (.change σ id st (f st) hs h)

end Scene

end Hotspot

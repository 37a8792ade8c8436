import Hotspot.Proofs.AccessPoint.Completion
import Hotspot.Proofs.AccessPoint.RadarMoves
import Hotspot.Proofs.AccessPoint.ClosingEvents

/-!
An event is answered once, and what follows from the answer is drained until nothing waits. The
answer is a path of moves, unless it reports radar or ends a run of listening.
-/

set_option autoImplicit false
set_option relaxedAutoImplicit false

namespace Hotspot.Turn

open Scene (Path OnlyStops Strikes Completes)

variable {env : Surroundings} {now : Instant} {c : Controller} {s : Session} {id : SessionId}
  {e : Event}

theorem session?_enter {t : Turn} (h : t.session? id = some s) (p : Phase) :
    (t.enter id p).session? id = some { s with phase := p } := by
  unfold enter Controller.phase?
  rw [h, Option.map_some]
  dsimp only
  split
  · rename_i hp
    rw [h, ← hp]
  · have hm := session?_modify t id id (f := fun s => { s with phase := p }) fun _ => rfl
    rw [if_pos rfl, h] at hm
    exact hm

def Arrives (s : Session) (e : Event) : Prop :=
  s.phase = .disconnecting ∧ s.target.isSome = true ∧ ∃ tuning, e = .channelChanged tuning

theorem react_of_arrives (env : Surroundings) (now : Instant) {t : Turn}
    (hsess : t.session? id = some s) (h : Arrives s e) :
    t.handle env now id e = (t.enter id .starting).enqueueFirst id e ∧
      t.react env now id e = (t.enter id .starting).handle env now id e := by
  obtain ⟨hp, htg, tuning, rfl⟩ := h
  constructor
  · rw [handle, hsess]
    simp [hp, htg]
  · have hstart : (t.enter id .starting).handle env now id (.channelChanged tuning) =
        (t.enter id .starting).onChannelChanged env { s with phase := .starting } tuning now := by
      rw [handle, session?_enter hsess]
    rw [hstart, react, hsess]
    simp [hp, htg]

theorem react_of_not_arrives {t : Turn} (hsess : t.session? id = some s) (h : ¬ Arrives s e) :
    t.react env now id e = t.handle env now id e := by
  rw [react, hsess]
  dsimp only
  split
  next tuning hp =>
    rw [if_neg fun htg => h ⟨hp, htg, tuning, rfl⟩, handle, hsess]
    have htg : ¬ s.target.isSome = true := fun htg => h ⟨hp, htg, tuning, rfl⟩
    simp [hp, htg]
  next => rfl

/-- The event is taken from the queue, and answered. One more event is used up if the session hears
of its own arrival. -/
theorem settle_enqueue (env : Surroundings) (now : Instant) (e : Event) (hq : c.queue = [])
    (hsess : c.session? id = some s) :
    ∃ n, ((Turn.mk c []).enqueue id e).settle env now =
        ((Turn.mk c []).react env now id e).drain env now n ∧
      (n = 2 * c.sessions.length ∧ ¬ Arrives s e ∨
        n + 1 = 2 * c.sessions.length ∧ Arrives s e) := by
  have htaken : ((Turn.mk c []).enqueue id e).settle env now =
      ((Turn.mk c []).handle env now id e).drain env now (2 * c.sessions.length) := by
    obtain ⟨settings, airspace, sessions, drawn, queue⟩ := c
    subst hq
    have hbound : ((Turn.mk ⟨settings, airspace, sessions, drawn, []⟩ []).enqueue id e).eventBound =
        2 * sessions.length + 1 := by
      simp only [eventBound, enqueue, List.nil_append, List.length_singleton]
      omega
    rw [settle, hbound]
    rfl
  -- Who hears of its own arrival is handed the event a second time.
  by_cases harr : Arrives s e
  · obtain ⟨hhandle, hreact⟩ := react_of_arrives env now (t := Turn.mk c []) hsess harr
    have hpos : 0 < c.sessions.length := List.length_pos_of_mem (Controller.mem_of_session? hsess)
    obtain ⟨n, hn⟩ : ∃ n, 2 * c.sessions.length = n + 1 := ⟨2 * c.sessions.length - 1, by omega⟩
    refine ⟨n, ?_, .inr ⟨hn.symm, harr⟩⟩
    rw [htaken, hhandle, hreact, hn]
    rfl
  · refine ⟨2 * c.sessions.length, ?_, .inl ⟨rfl, harr⟩⟩
    rw [htaken, react_of_not_arrives hsess harr]

theorem react_of_reports (env : Surroundings) (now : Instant) {t : Turn}
    (hsess : t.session? id = some s) {chs : List Channel} (h : s.reports? e = some chs) :
    ∃ channels, chs = (if channels.isEmpty then s.occupied else channels) ∧
      t.react env now id e = t.onRadar env s channels now := by
  cases e with
  | radarDetected channels =>
    simp only [Session.reports?, Option.ite_none_right_eq_some, Option.some.injEq] at h
    obtain ⟨hp, rfl⟩ := h
    refine ⟨channels, rfl, ?_⟩
    rw [react_of_not_arrives hsess (by simp [Arrives]), handle, hsess]
    rcases hp with hp | hp <;> simp [hp]
  | _ => cases h

theorem react_of_awaits (env : Surroundings) (now : Instant) {t : Turn}
    (hsess : t.session? id = some s) (h : s.awaits e = true) :
    t.react env now id e = t.onListeningOver env := by
  cases e with
  | listeningOver =>
    have hp : s.phase = .listening := by simpa [Session.awaits] using h
    rw [react_of_not_arrives hsess (by simp [Arrives]), handle, hsess]
    simp [hp]
  | _ => cases h

theorem queue_react_of_arrives (env : Surroundings) (now : Instant) {t : Turn}
    (hsess : t.session? id = some s) (h : Arrives s e) :
    (t.react env now id e).queue = t.queue ∨
      (t.react env now id e).queue = t.queue ++ [(id, .networkStopped)] := by
  obtain ⟨hp, htg, tuning, rfl⟩ := h
  have hid := Controller.id_of_session? hsess
  have hreact : t.react env now id (.channelChanged tuning) =
      (t.enter id .starting).onChannelChanged env { s with phase := .starting } tuning now := by
    rw [react, hsess]
    simp [hp, htg]
  have h := queue_onChannelChanged env (t.enter id .starting) { s with phase := .starting } tuning
    now
  rw [queue_enter] at h
  rw [hreact, ← hid]
  exact hid ▸ h

theorem closes_settle (env : Surroundings) (now : Instant) (hq : c.queue = [])
    (hsess : c.session? id = some s)
    (hsound : ((Turn.mk c []).react env now id e).scene.Sound)
    (hclosing : ∀ p ∈ ((Turn.mk c []).react env now id e).queue, p.2.isClosing = true)
    (hback : backlog ((Turn.mk c []).react env now id e).queue ≤ 2 * c.sessions.length) :
    Closes now ((Turn.mk c []).react env now id e)
      (((Turn.mk c []).enqueue id e).settle env now) := by
  obtain ⟨n, heq, ⟨hn, -⟩ | ⟨hn, harr⟩⟩ := settle_enqueue env now e hq hsess <;> rw [heq]
  · exact closes_drain env now hsound hclosing (hn ▸ hback)
  · have hpos : 0 < c.sessions.length := List.length_pos_of_mem (Controller.mem_of_session? hsess)
    refine closes_drain env now hsound hclosing ?_
    have hcost : backlog ((Turn.mk c []).react env now id e).queue ≤ 1 := by
      rcases queue_react_of_arrives env now (t := Turn.mk c []) hsess harr with h | h <;>
        rw [h, show (Turn.mk c []).queue = [] from hq] <;> simp [backlog, Event.cost]
    omega

end Hotspot.Turn

import Hotspot.Proofs.AccessPoint.Run

/-!
How long it takes until no event waits. An event that is dispatched leaves closing events only, at
most two for each session to handle; the end of listening leaves at most one for each session.
-/

set_option autoImplicit false
set_option relaxedAutoImplicit false

namespace Hotspot

namespace Turn

variable {env : Surroundings} {now : Instant} {c : Controller} {t t' u : Turn} {s : Session}
  {id : SessionId} {e : Event} {m n : Nat}

/-- Events that wait are handled one after the other until none is left, and so many are handled.
Nothing bounds the number from outside. -/
inductive Drains (env : Surroundings) (now : Instant) : Nat → Turn → Turn → Prop
  | done (t : Turn) (idle : t.queue = []) : Drains env now 0 t t
  | next (n : Nat) (t t' : Turn) (id : SessionId) (e : Event) (rest : List (SessionId × Event))
      (waits : t.queue = (id, e) :: rest)
      (drains : Drains env now n (handle env now { t with queue := rest } id e) t') :
      Drains env now (n + 1) t t'

namespace Drains

private theorem queue (h : Drains env now n t t') : t'.queue = [] := by
  induction h with
  | done t idle => exact idle
  | next n t t' id e rest waits drains ih => exact ih

private theorem drain_eq (h : Drains env now n t t') (hm : n ≤ m) : t.drain env now m = t' := by
  induction h generalizing m with
  | done t idle =>
    cases m with
    | zero => rfl
    | succ m =>
      rw [drain, idle]
  | next n t t' id e rest waits drains ih =>
    obtain ⟨m, rfl⟩ : ∃ k, m = k + 1 := ⟨m - 1, by omega⟩
    rw [drain, waits]
    apply ih
    omega

/-- How many events are handled is settled by the turn. -/
theorem unique (h : Drains env now n t t') (h' : Drains env now m t u) : n = m ∧ t' = u := by
  -- By induction on the first derivation: the queue decides which rule applies next.
  induction h generalizing m with
  | done t idle =>
    cases h' with
    | done => exact ⟨rfl, rfl⟩
    | next _ _ _ _ _ _ waits => exact absurd (idle.symm.trans waits) (by simp)
  | next n t t' id e rest waits drains ih =>
    cases h' with
    | done _ idle => exact absurd (idle.symm.trans waits) (by simp)
    | next k _ _ id' e' rest' waits' drains' =>
      obtain ⟨⟨rfl, rfl⟩, rfl⟩ : ((id, e) = (id', e')) ∧ rest = rest' := by
        rw [← List.cons_eq_cons, ← waits, waits']
      obtain ⟨rfl, rfl⟩ := ih drains'
      exact ⟨rfl, rfl⟩

private theorem enqueue (hq : c.queue = []) (h : Drains env now n (handle env now c.turn id e) t') :
    Drains env now (n + 1) (c.turn.enqueue id e) t' := by
  have hwaits : (c.turn.enqueue id e).queue = [(id, e)] := by
    show c.queue ++ [(id, e)] = [(id, e)]
    rw [hq, List.nil_append]
  have htaken : { c.turn.enqueue id e with queue := [] } = c.turn := by
    obtain ⟨settings, airspace, sessions, drawn, queue⟩ := c
    subst hq
    rfl
  apply next n _ t' id e [] hwaits
  rw [htaken]
  exact h

private theorem enqueueFirst (h : Drains env now n (t.handle env now id e) t') :
    Drains env now (n + 1) (t.enqueueFirst id e) t' :=
  next n (t.enqueueFirst id e) t' id e t.queue rfl h

end Drains

/-- Closing events are drained within their backlog. -/
private theorem exists_drains (env : Surroundings) (now : Instant) (t : Turn)
    (hclosing : ∀ p ∈ t.queue, p.2.isClosing = true) :
    ∃ k t', k ≤ backlog t.queue ∧ Drains env now k t t' := by
  -- By induction on the backlog, which every event that is handled lowers.
  induction hb : backlog t.queue using Nat.strongRecOn generalizing t with
  | ind b ih =>
    cases hq : t.queue with
    | nil => exact ⟨0, t, Nat.zero_le b, .done t hq⟩
    | cons p rest =>
      obtain ⟨id, e⟩ := p
      have he : e.isClosing = true := hclosing (id, e) (by simp [hq])
      let t₁ : Turn := { t with queue := rest }
      obtain ⟨more, hmore, hclose, hcost⟩ := queue_handle_closing env now t₁ id he
      have hrest : t₁.queue = rest := rfl
      have hlower : backlog (t₁.handle env now id e).queue < b := by
        have hcosts : backlog t.queue = e.cost + backlog rest := by rw [hq, backlog]
        rw [hmore, backlog_append, hrest]
        omega
      have hclosing' : ∀ p ∈ (t₁.handle env now id e).queue, p.2.isClosing = true := by
        intro p hp
        rw [hmore] at hp
        rcases List.mem_append.mp hp with hp | hp
        · exact hclosing p (by simp [hq, show p ∈ rest from hp])
        · exact hclose p hp
      obtain ⟨k, t', hk, hdrains⟩ := ih _ hlower (t₁.handle env now id e) hclosing' rfl
      refine ⟨k + 1, t', by omega, ?_⟩
      exact .next k t t' id e rest hq hdrains

end Turn

namespace Controller

variable {c : Controller} {s : Session} {id : SessionId}

private theorem drains_dispatch (hs : c.Sound) (h : c.session? id = some s) (env : Surroundings)
    (now : Instant) (e : Event) :
    ∃ k t', k ≤ 1 + 2 * c.sessions.length ∧ Turn.Drains env now k (c.turn.enqueue id e) t' := by
  obtain ⟨hclosing, hback⟩ := closing_react hs h env now e
  obtain ⟨k, t', hk, hdrains⟩ := Turn.exists_drains env now _ hclosing
  by_cases harr : Turn.Arrives s e
  · -- Who hears of its own arrival is handed the event a second time, and then may only stop.
    obtain ⟨hhandle, hreact⟩ := Turn.react_of_arrives env now (t := c.turn) h harr
    have hcost : Turn.backlog (c.turn.react env now id e).queue ≤ 1 := by
      rcases Turn.queue_react_of_arrives env now (t := c.turn) h harr with hq | hq <;>
        rw [hq, show c.turn.queue = [] from hs.queue] <;> simp [Turn.backlog, Event.cost]
    have hpos : 0 < c.sessions.length := List.length_pos_of_mem (mem_of_session? h)
    refine ⟨k + 1 + 1, t', by omega, .enqueue hs.queue ?_⟩
    rw [hhandle]
    apply Turn.Drains.enqueueFirst
    rw [← hreact]
    exact hdrains
  · refine ⟨k + 1, t', by omega, .enqueue hs.queue ?_⟩
    rw [← Turn.react_of_not_arrives h harr]
    exact hdrains

private theorem drains_listeningOver (hs : c.Sound) (env : Surroundings) (now : Instant) :
    ∃ k t', k ≤ (c.turn.onListeningOver env).queue.length ∧ k ≤ c.sessions.length ∧
      Turn.Drains env now k (c.turn.onListeningOver env) t' := by
  obtain ⟨hclosing, hback, hlen⟩ := closing_onListeningOver hs env
  obtain ⟨k, t', hk, hdrains⟩ := Turn.exists_drains env now _ hclosing
  exact ⟨k, t', by omega, by omega, hdrains⟩

/-- However the layer below answers, handling an event of an open session comes to an end after at
most two events for each session and the event itself, and the end of listening after one event for
each session; then no event waits. -/
theorem emptied_within {settings : Settings} {domain : Domain}
    (h : create settings domain = .ok c) (ops : List Operation) (env : Surroundings)
    (now : Instant) :
    (∀ id e, ((c.after ops).session? id).isSome = true →
      ∃ k t', k ≤ 1 + 2 * (c.after ops).sessions.length ∧
        Turn.Drains env now k ((c.after ops).turn.enqueue id e) t' ∧ t'.queue = [] ∧
        (c.after ops).dispatch env now id e = .ok (t'.toController, t'.journal)) ∧
      ∃ k t', k ≤ (c.after ops).sessions.length ∧
        Turn.Drains env now k ((c.after ops).turn.onListeningOver env) t' ∧ t'.queue = [] ∧
        (c.after ops).listeningOver env now = (t'.toController, t'.journal) := by
  have hs : (c.after ops).Sound := sound_after (sound_create h) ops
  constructor
  · intro id e hid
    obtain ⟨s, hsess⟩ := Option.isSome_iff_exists.mp hid
    -- The bound on the steps is the fuel that the controller allows itself.
    obtain ⟨k, t', hk, hdrains⟩ := drains_dispatch hs hsess env now e
    have hbound : ((c.after ops).turn.enqueue id e).eventBound =
        1 + 2 * (c.after ops).sessions.length := by
      simp [Turn.eventBound, Turn.enqueue, hs.queue]
    have hsettle : ((c.after ops).turn.enqueue id e).settle env now = t' :=
      hdrains.drain_eq (hbound ▸ hk)
    refine ⟨k, t', hk, hdrains, hdrains.queue, ?_⟩
    simp only [dispatch, hsess, hsettle]
  · obtain ⟨k, t', hlen, hk, hdrains⟩ := drains_listeningOver hs env now
    have hbound : k ≤ ((c.after ops).turn.onListeningOver env).eventBound := by
      have hpos : 0 < 1 + 2 * ((c.after ops).turn.onListeningOver env).sessions.length := by omega
      exact Nat.le_trans hlen (Nat.le_mul_of_pos_right _ hpos)
    have hsettle : ((c.after ops).turn.onListeningOver env).settle env now = t' :=
      hdrains.drain_eq hbound
    refine ⟨k, t', hk, hdrains, hdrains.queue, ?_⟩
    simp only [listeningOver, hsettle]

end Controller

namespace TwoChannels

open FourChannels (send)

def stubborn : Surroundings where
  accepts _ _ command :=
    match command with
    | .changeChannel _ | .stopNetwork => false
    | _ => true
  octet _ := 0
  kept := []

def alone : List Operation :=
  [.openSession accessPoint, send 0 0 (.tunedStartRequest (single 52))]

theorem emptied_alone :
    Controller.create {} domain = .ok controller ∧
      ((controller.after alone).session? 0).isSome = true ∧
      (controller.after alone).sessions.length = 1 ∧
      (((controller.after alone).turn.enqueue 0 (.radarDetected [52])).drain stubborn 0 2).queue
        ≠ [] ∧
      ∃ k t', k ≤ 1 + 2 * (controller.after alone).sessions.length ∧
        Turn.Drains stubborn 0 k
          ((controller.after alone).turn.enqueue 0 (.radarDetected [52])) t' ∧
        t'.queue = [] ∧
        (controller.after alone).dispatch stubborn 0 0 (.radarDetected [52]) =
          .ok (t'.toController, t'.journal) :=
  ⟨created, by decide +kernel, by decide +kernel, by decide +kernel,
    (Controller.emptied_within created alone stubborn 0).1 0 (.radarDetected [52])
      (by decide +kernel)⟩

end TwoChannels

end Hotspot

import Hotspot.Proofs.AccessPoint.Settle

/-!
What one operation does to where sessions stand: it manages the controller as a whole, is answered
by moves, reports radar, or ends a run of listening. Each operation comes with its own answers from
the layer below.
-/

set_option autoImplicit false
set_option relaxedAutoImplicit false

namespace Hotspot

open Scene (Path Reported OnlyStops Strikes Completes)

/-- An operation on a controller, with all that surrounds it. -/
inductive Operation
  | openSession (settings : SessionSettings)
  | closeSession (id : SessionId)
  | setDomain (domain : Domain)
  | dispatch (env : Surroundings) (now : Instant) (id : SessionId) (event : Event)
  | listeningOver (env : Surroundings) (now : Instant)

namespace Operation

def now? : Operation → Option Instant
  | dispatch _ now _ _ | listeningOver _ now => some now
  | _ => none

def heard? : Operation → Option (SessionId × Tuning)
  | dispatch _ _ id e => e.heard?.map (Prod.mk id)
  | _ => none

end Operation

namespace Controller

/-- Carries out an operation. One that is refused changes nothing. -/
def perform (c : Controller) : Operation → Controller × Journal
  | .openSession settings =>
    match c.openSession settings with
    | .ok (_, c') => (c', [])
    | .error _ => (c, [])
  | .closeSession id =>
    match c.closeSession id with
    | .ok c' => (c', [])
    | .error _ => (c, [])
  | .setDomain domain =>
    match c.setDomain domain with
    | .ok c' => (c', [])
    | .error _ => (c, [])
  | .dispatch env now id e =>
    match c.dispatch env now id e with
    | .ok result => result
    | .error _ => (c, [])
  | .listeningOver env now => c.listeningOver env now

def reports? (c : Controller) : Operation → Option (List Channel)
  | .dispatch _ _ id e => (c.session? id).bind fun s => s.reports? e
  | _ => none

def completes? (c : Controller) : Operation → Option ListeningRun
  | .dispatch _ _ id e => if (c.session? id).any fun s => s.awaits e then c.airspace.run else none
  | .listeningOver _ _ => c.airspace.run
  | _ => none

theorem run_of_completes? {c : Controller} {op : Operation} {run : ListeningRun}
    (h : c.completes? op = some run) : c.airspace.run = some run := by
  cases op with
  | dispatch env now id e =>
    simp only [completes?, Option.ite_none_right_eq_some] at h
    exact h.2
  | listeningOver env now => exact h
  | _ => cases h

/-- What holds between operations: the sessions stand as they can, and no event waits. -/
structure Sound (c : Controller) : Prop where
  scene : c.scene.Sound
  queue : c.queue = []

end Controller

namespace Scene

/-- What is done to a controller from outside, not to a session: nothing that touches one that is
off its initial phase. -/
inductive Managed : Scene → Scene → Prop
  | same (σ : Scene) : Managed σ σ
  | opened (σ : Scene) (id : SessionId) (ids : List SessionId) (fresh : id ∉ σ.ids)
      (added : ids.Perm (id :: σ.ids)) :
      Managed σ { σ with ids, stance := fun j => if j = id then some .initial else σ.stance j }
  | closed (σ : Scene) (id : SessionId) (st : Stance) (found : σ.stance id = some st)
      (off : st.phase = .disconnected) :
      Managed σ { σ with
        ids := σ.ids.filter (· != id)
        stance := fun j => if j = id then none else σ.stance j }
  | moved (σ : Scene) (domain : Domain) (table : NonOccupancy.Table)
      (off : ∀ id st, σ.stance id = some st → st.phase = .disconnected) :
      Managed σ (σ.share fun _ => .fresh domain table)

end Scene

inductive Controller.Effect (c : Controller) (op : Operation) : Controller × Journal → Prop
  /-- It concerns the controller as a whole, or is refused. -/
  | manage (c' : Controller) (quiet : c.reports? op = none) (pending : c.completes? op = none)
      (how : Scene.Managed c.scene c'.scene) : Effect c op (c', [])
  /-- It is answered by moves, from where a reported tuning is taken over. -/
  | move (now : Instant) (σ : Scene) (c' : Controller) (j : Journal) (time : op.now? = some now)
      (quiet : c.reports? op = none) (pending : c.completes? op = none)
      (reported : Reported op.heard? c.scene σ) (path : Path now σ c'.scene)
      (aired : ∀ id, j.Airs id → ∃ st tu tg, c.scene.stance id = some st ∧
        (st.phase = .starting ∧ st.tuning = some tu ∨
          st.phase = .disconnecting ∧ st.target.isSome = true ∧ op.heard? = some (id, tu)) ∧
        c'.scene.stance id = some ⟨.started, some tu, tg⟩) :
      Effect c op (c', j)
  /-- It reports radar. -/
  | strike (now : Instant) (channels : List Channel) (σ : Scene) (c' : Controller) (j : Journal)
      (time : op.now? = some now) (reported : c.reports? op = some channels)
      (pending : c.completes? op = none) (strikes : Strikes now channels c.scene σ)
      (path : Path now σ c'.scene) (onlyStops : OnlyStops σ c'.scene) (silent : j.aired = []) :
      Effect c op (c', j)
  /-- It ends a run of listening. -/
  | complete (now : Instant) (run : ListeningRun) (σ : Scene) (c' : Controller) (j : Journal)
      (time : op.now? = some now) (quiet : c.reports? op = none)
      (ended : c.completes? op = some run) (running : c.airspace.run = some run)
      (completes : Completes run (fun id => Turn.beacon id true ∈ j) c.scene σ)
      (path : Path now σ c'.scene) (onlyStops : OnlyStops σ c'.scene)
      (aired : ∀ id, j.Airs id → ∃ st, c.scene.stance id = some st ∧ st.Waits run) :
      Effect c op (c', j)

namespace Controller

variable {c : Controller} {env : Surroundings} {now : Instant} {id : SessionId} {s : Session}
  {e : Event}

abbrev turn (c : Controller) : Turn := Turn.mk c []

theorem perform_dispatch (h : c.session? id = some s) :
    c.perform (.dispatch env now id e) =
      (((c.turn.enqueue id e).settle env now).toController,
        ((c.turn.enqueue id e).settle env now).journal) := by
  simp [perform, dispatch, h]

theorem perform_dispatch_of_none (h : c.session? id = none) :
    c.perform (.dispatch env now id e) = (c, []) := by
  simp [perform, dispatch, h]

theorem proper_of_session? (hs : c.Sound) (h : c.session? id = some s) :
    s.stance.Proper c.airspace :=
  hs.scene.proper id s.stance (stance?_of_session? h)

theorem effect_strike (hs : c.Sound) (h : c.session? id = some s) {chs : List Channel}
    (hreport : s.reports? e = some chs) :
    c.Effect (.dispatch env now id e) (c.perform (.dispatch env now id e)) ∧
      (c.perform (.dispatch env now id e)).1.queue = [] := by
  obtain ⟨channels, rfl, hreact⟩ := Turn.react_of_reports env now (t := c.turn) h hreport
  obtain ⟨hstrikes, ⟨more, hqueue, hclosing, hback⟩, haired⟩ :=
    Turn.strikes_onRadar (t := c.turn) env s channels now hs.scene.nodup
  have hq : c.turn.queue = [] := hs.queue
  have hclose := Turn.closes_settle (e := e) env now hs.queue h
  rw [hreact] at hclose
  rw [hqueue, hq, List.nil_append] at hclose
  have hclose := hclose (hstrikes.sound hs.scene) hclosing hback
  rw [perform_dispatch h]
  refine ⟨.strike now _ _ _ _ rfl ?_ ?_ hstrikes hclose.path hclose.onlyStops ?_, hclose.queue⟩
  · simpa [reports?, h] using hreport
  · cases e <;> simp_all [completes?, Session.awaits, Session.reports?]
  · rw [hclose.aired, haired]
    rfl

private theorem backlog_of_stops {queue : List (SessionId × Event)}
    (h : ∀ p ∈ queue, p.2 = .networkStopped) : Turn.backlog queue = queue.length := by
  induction queue with
  | nil => rfl
  | cons p rest ih =>
    have hp := h p (by simp)
    have hrest := ih fun q hq => h q (by simp [hq])
    have hcost : Event.networkStopped.cost = 1 := rfl
    rw [Turn.backlog, hrest, hp, hcost, List.length_cons, Nat.add_comm]

theorem onListeningOver_spec (hs : c.Sound) {run : ListeningRun} (hrun : c.airspace.run = some run)
    (env : Surroundings) :
    (c.turn.onListeningOver env).scene.Sound ∧
      (∀ p ∈ (c.turn.onListeningOver env).queue, p.2.isClosing = true) ∧
      Turn.backlog (c.turn.onListeningOver env).queue = (c.turn.onListeningOver env).queue.length ∧
      (c.turn.onListeningOver env).queue.length ≤ c.sessions.length ∧
      ∀ id, (∃ e ∈ (c.turn.onListeningOver env).journal.aired, e.aired? = some id) →
        ∃ st, c.scene.stance id = some st ∧ st.Waits run := by
  have hwakes := Turn.wakes_onListeningOver (t := c.turn) hrun hs.scene.nodup env
  have hcompletes := Turn.completes_onListeningOver (t := c.turn) hrun hs.scene.nodup rfl env
  obtain ⟨more, hqueue, hstops, hlen⟩ := hwakes.queue
  have hq : (c.turn.share (Turn.credited run)).queue = [] := hs.queue
  rw [hq, List.nil_append] at hqueue
  have hwaiting : (c.turn.waiting run).length ≤ c.sessions.length := List.length_filter_le _ _
  refine ⟨hcompletes.sound hrun hs.scene, ?_, ?_, ?_, ?_⟩
  · intro p hp
    rw [hqueue] at hp
    rw [hstops p hp]
    rfl
  · rw [hqueue]
    exact backlog_of_stops hstops
  · rw [hqueue]
    exact Nat.le_trans hlen hwaiting
  · rintro id ⟨e, he, hid⟩
    rcases hwakes.aired e he with he | ⟨s, hmem, hs'⟩
    · exact absurd he List.not_mem_nil
    · rw [hid, Option.some.injEq] at hs'
      obtain ⟨hsess, hwait⟩ := Turn.mem_waiting.mp hmem
      refine ⟨s.stance, ?_, Turn.waits_stance.mpr hwait⟩
      rw [hs']
      exact stance?_of_session? (session?_of_mem hs.scene.nodup hsess)

/-- The end of listening, whether or not a run is under way, leaves closing events only, at most one
for each session. -/
theorem closing_onListeningOver (hs : c.Sound) (env : Surroundings) :
    (∀ p ∈ (c.turn.onListeningOver env).queue, p.2.isClosing = true) ∧
      Turn.backlog (c.turn.onListeningOver env).queue = (c.turn.onListeningOver env).queue.length ∧
      (c.turn.onListeningOver env).queue.length ≤ c.sessions.length := by
  cases hrun : c.airspace.run with
  | none =>
    rw [Turn.onListeningOver_of_none (t := c.turn) hrun env, show c.turn.queue = [] from hs.queue]
    exact ⟨by simp, rfl, Nat.zero_le _⟩
  | some run =>
    obtain ⟨-, hclosing, hback, hlen, -⟩ := onListeningOver_spec hs hrun env
    exact ⟨hclosing, hback, hlen⟩

/-- Whatever a session is told, only closing events wait when it has answered, at most two for each
session to handle. -/
theorem closing_react (hs : c.Sound) (h : c.session? id = some s) (env : Surroundings)
    (now : Instant) (e : Event) :
    (∀ p ∈ (c.turn.react env now id e).queue, p.2.isClosing = true) ∧
      Turn.backlog (c.turn.react env now id e).queue ≤ 2 * c.sessions.length := by
  have hq : c.turn.queue = [] := hs.queue
  have hpos : 0 < c.sessions.length := List.length_pos_of_mem (mem_of_session? h)
  cases hreport : s.reports? e with
  | some chs =>
    obtain ⟨channels, -, hreact⟩ := Turn.react_of_reports env now (t := c.turn) h hreport
    obtain ⟨-, ⟨more, hqueue, hclosing, hback⟩, -⟩ :=
      Turn.strikes_onRadar (t := c.turn) env s channels now hs.scene.nodup
    rw [hreact, hqueue, hq, List.nil_append]
    exact ⟨hclosing, hback⟩
  | none =>
    cases hover : s.awaits e with
    | true =>
      obtain ⟨hclosing, hback, hlen⟩ := closing_onListeningOver hs env
      rw [Turn.react_of_awaits env now (t := c.turn) h hover]
      exact ⟨hclosing, by omega⟩
    | false =>
      rcases Turn.leaves_react env now (t := c.turn) h hreport hover with hl | ⟨e', he', hl⟩
      · rw [hl, hq]
        exact ⟨by simp, by simp [Turn.backlog]⟩
      · have hcost := e'.cost_le
        rw [hl, hq, List.nil_append]
        refine ⟨by simpa using he', ?_⟩
        simp only [Turn.backlog]
        omega

private theorem effect_of_closes (hs : c.Sound) {run : ListeningRun}
    (hrun : c.airspace.run = some run)
    {op : Operation} {t : Turn} (time : op.now? = some now) (quiet : c.reports? op = none)
    (ended : c.completes? op = some run)
    (hclose : Turn.Closes now (c.turn.onListeningOver env) t) :
    c.Effect op (t.toController, t.journal) := by
  have hcompletes := Turn.completes_onListeningOver (t := c.turn) hrun hs.scene.nodup rfl env
  obtain ⟨-, -, -, -, haired⟩ := onListeningOver_spec hs hrun env
  have hbeacon (id : SessionId) : Turn.beacon id true ∈ (c.turn.onListeningOver env).journal.aired ↔
      Turn.beacon id true ∈ t.journal := by
    rw [← hclose.aired, Journal.mem_aired]
    simp [Entry.aired?]
  simp only [hbeacon] at hcompletes
  refine .complete now run _ _ _ time quiet ended hrun hcompletes hclose.path hclose.onlyStops ?_
  intro id hair
  rw [Journal.airs_iff, hclose.aired] at hair
  exact haired id hair

theorem effect_complete (hs : c.Sound) (h : c.session? id = some s) (hover : s.awaits e = true)
    {run : ListeningRun} (hrun : c.airspace.run = some run) :
    c.Effect (.dispatch env now id e) (c.perform (.dispatch env now id e)) ∧
      (c.perform (.dispatch env now id e)).1.queue = [] := by
  obtain ⟨hsound, hclosing, hback, hlen, -⟩ := onListeningOver_spec hs hrun env
  have hreact := Turn.react_of_awaits env now (t := c.turn) h hover
  have hclose := Turn.closes_settle (e := e) env now hs.queue h
  rw [hreact] at hclose
  have hclose := hclose hsound hclosing (by omega)
  rw [perform_dispatch h]
  refine ⟨effect_of_closes hs hrun rfl ?_ ?_ hclose, hclose.queue⟩
  · cases e <;> simp_all [reports?, Session.awaits, Session.reports?]
  · simp [completes?, h, hover, hrun]

theorem closes_listeningOver (hs : c.Sound) (env : Surroundings) (now : Instant) :
    Turn.Closes now (c.turn.onListeningOver env)
      ((c.turn.onListeningOver env).settle env now) := by
  cases hrun : c.airspace.run with
  | none =>
    rw [Turn.onListeningOver_of_none (t := c.turn) hrun env]
    exact Turn.closes_drain env now hs.scene (by simp [hs.queue]) (by simp [hs.queue, Turn.backlog])
  | some run =>
    obtain ⟨hsound, hclosing, hback, -, -⟩ := onListeningOver_spec hs hrun env
    refine Turn.closes_drain env now hsound hclosing ?_
    rw [hback, Turn.eventBound]
    exact Nat.le_mul_of_pos_right _ (by omega)

private theorem effect_listeningOver (hs : c.Sound) :
    c.Effect (.listeningOver env now) (c.perform (.listeningOver env now)) ∧
      (c.perform (.listeningOver env now)).1.queue = [] := by
  have hperform : c.perform (.listeningOver env now) =
      (((c.turn.onListeningOver env).settle env now).toController,
        ((c.turn.onListeningOver env).settle env now).journal) := rfl
  rw [hperform]
  cases hrun : c.airspace.run with
  | none =>
    have hsame := Turn.onListeningOver_of_none (t := c.turn) hrun env
    have hsettle : c.turn.settle env now = c.turn := by
      have hbound : c.turn.eventBound = 0 := by simp [Turn.eventBound, hs.queue]
      rw [Turn.settle, hbound]
      rfl
    rw [hsame, hsettle]
    exact ⟨.manage c rfl hrun (.same c.scene), hs.queue⟩
  | some run =>
    have hclose := closes_listeningOver hs env now
    exact ⟨effect_of_closes hs hrun rfl rfl hrun hclose, hclose.queue⟩

theorem closes_dispatch (hs : c.Sound) (h : c.session? id = some s) (hreport : s.reports? e = none)
    (hover : s.awaits e = false) (env : Surroundings) (now : Instant) :
    Turn.Closes now (c.turn.react env now id e) ((c.turn.enqueue id e).settle env now) := by
  obtain ⟨σ, hreported, hpath⟩ :=
    Turn.path_react (t := c.turn) env now h (proper_of_session? hs h) hreport hover
  have hsound := hpath.sound (hreported.sound hs.scene)
  obtain ⟨hclosing, hback⟩ := closing_react hs h env now e
  exact Turn.closes_settle env now hs.queue h hsound hclosing hback

private theorem effect_move (hs : c.Sound) (h : c.session? id = some s)
    (hreport : s.reports? e = none) (hover : s.awaits e = false) :
    c.Effect (.dispatch env now id e) (c.perform (.dispatch env now id e)) ∧
      (c.perform (.dispatch env now id e)).1.queue = [] := by
  have hproper := proper_of_session? hs h
  obtain ⟨σ, hreported, hpath⟩ := Turn.path_react (t := c.turn) env now h hproper hreport hover
  have hclose := closes_dispatch hs h hreport hover env now
  rw [perform_dispatch h]
  refine ⟨.move now σ _ _ rfl ?_ ?_ hreported (hpath.trans hclose.path) ?_, hclose.queue⟩
  · simpa [reports?, h] using hreport
  · simp [completes?, h, hover]
  · intro id' hair
    rw [Journal.airs_iff, hclose.aired] at hair
    obtain ⟨entry, hentry, hid⟩ := hair
    -- Closing events put nobody on the air, so whoever goes there does so in the answer.
    rcases Turn.silent_or_puts_react env now (t := c.turn) h hproper hreport hover
      with hsilent | ⟨tu, hlaunch, hput⟩
    · rw [hsilent] at hentry
      exact absurd hentry List.not_mem_nil
    · rcases hput.aired entry hentry with hold | hself
      · exact absurd hold List.not_mem_nil
      · rw [hid, Option.some.injEq] at hself
        subst hself
        obtain ⟨tg, hstarted⟩ := hput.stance
        have hstops := hclose.onlyStops.stance id'
        rw [hstarted] at hstops
        refine ⟨s.stance, tu, tg, stance?_of_session? h, ?_, hstops.eq_of_phase (.inr rfl)⟩
        rcases hlaunch with ⟨hp, htu, rfl⟩ | ⟨hp, htg, rfl⟩
        · exact .inl ⟨hp, htu⟩
        · exact .inr ⟨hp, htg, rfl⟩

theorem closes_idle (hs : c.Sound) (h : c.session? id = some s) (hover : s.awaits e = true)
    (hrun : c.airspace.run = none) (env : Surroundings) (now : Instant) :
    Turn.Closes now c.turn ((c.turn.enqueue id e).settle env now) := by
  have hreact := (Turn.react_of_awaits env now (t := c.turn) h hover).trans
    (Turn.onListeningOver_of_none (t := c.turn) hrun env)
  have hclose := Turn.closes_settle (e := e) env now hs.queue h
  rw [hreact] at hclose
  exact hclose hs.scene (by simp [hs.queue]) (by simp [hs.queue, Turn.backlog])

private theorem effect_idle (hs : c.Sound) (h : c.session? id = some s) (hover : s.awaits e = true)
    (hrun : c.airspace.run = none) :
    c.Effect (.dispatch env now id e) (c.perform (.dispatch env now id e)) ∧
      (c.perform (.dispatch env now id e)).1.queue = [] := by
  have hclose := closes_idle hs h hover hrun env now
  rw [perform_dispatch h]
  refine ⟨.move now c.scene _ _ rfl ?_ ?_ (.nothing c.scene) hclose.path ?_, hclose.queue⟩
  · cases e <;> simp_all [reports?, Session.awaits, Session.reports?]
  · simp [completes?, h, hover, hrun]
  · intro id' hair
    rw [Journal.airs_iff, hclose.aired] at hair
    obtain ⟨entry, hentry, -⟩ := hair
    exact absurd hentry List.not_mem_nil

theorem perm_insert (s : Session) (l : List Session) : (insert s l).Perm (s :: l) := by
  induction l with
  | nil => exact .refl _
  | cons o rest ih =>
    unfold insert
    split
    · exact .refl _
    · exact (ih.cons o).trans (.swap s o rest)

theorem find?_insert {s : Session} {l : List Session} (hs : ∀ o ∈ l, o.id ≠ s.id) (j : SessionId) :
    (insert s l).find? (·.id == j) = if j = s.id then some s else l.find? (·.id == j) := by
  induction l with
  | nil =>
    by_cases hj : j = s.id
    · simp [insert, hj]
    · simp [insert, hj, Ne.symm hj]
  | cons o rest ih =>
    have ho : o.id ≠ s.id := hs o (by simp)
    have hrest := ih fun x hx => hs x (by simp [hx])
    unfold insert
    split
    · by_cases hj : j = s.id
      · simp [hj]
      · simp [hj, Ne.symm hj]
    · by_cases hj : j = s.id
      · subst hj
        rw [if_pos rfl] at hrest ⊢
        simpa [ho] using hrest
      · simp only [List.find?_cons, hrest, hj, if_false]

theorem find?_filter_ne (closed : SessionId) (l : List Session) (j : SessionId) :
    (l.filter (·.id != closed)).find? (·.id == j) =
      if j = closed then none else l.find? (·.id == j) := by
  rw [List.find?_filter]
  by_cases hj : j = closed
  · rw [if_pos hj, List.find?_eq_none]
    simp [hj]
  · rw [if_neg hj]
    congr 1
    funext o
    by_cases ho : o.id = j <;> simp [ho, hj]

theorem openSession_eq {settings : SessionSettings} {c' : Controller}
    (h : c.openSession settings = .ok (id, c')) : (∀ o ∈ c.sessions, o.id ≠ id) ∧
      c' = { c with sessions := insert (.fresh id settings) c.sessions } := by
  unfold openSession at h
  by_cases hfull : c.settings.maxSessions ≤ c.sessions.length
  · rw [if_pos hfull] at h
    cases h
  · rw [if_neg hfull] at h
    cases hv : settings.validate c.airspace.domain with
    | error fault =>
      rw [hv] at h
      cases h
    | ok _ =>
      rw [hv] at h
      cases hf : c.freeId? with
      | none =>
        rw [hf] at h
        cases h
      | some new =>
        rw [hf] at h
        cases h
        have hnone : c.session? id = none := by simpa using List.find?_some hf
        refine ⟨?_, rfl⟩
        simpa [session?, List.find?_eq_none] using hnone

theorem managed_openSession {settings : SessionSettings} {c' : Controller}
    (h : c.openSession settings = .ok (id, c')) :
    Scene.Managed c.scene c'.scene ∧ c'.queue = c.queue := by
  obtain ⟨hnew, rfl⟩ := openSession_eq h
  refine ⟨?_, rfl⟩
  have hstance :
      ({ c with sessions := insert (.fresh id settings) c.sessions } : Controller).stance? =
        fun j => if j = id then some .initial else c.stance? j := by
    funext j
    have hid : (Session.fresh id settings).id = id := rfl
    rw [stance?, session?, find?_insert hnew, hid]
    by_cases hj : j = id
    · rw [if_pos hj, if_pos hj]
      rfl
    · rw [if_neg hj, if_neg hj]
      rfl
  have hscene : ({ c with sessions := insert (.fresh id settings) c.sessions } : Controller).scene =
      { c.scene with
        ids := (insert (.fresh id settings) c.sessions).map (·.id)
        stance := fun j => if j = id then some .initial else c.scene.stance j } := by
    rw [scene, hstance]
    rfl
  rw [hscene]
  refine .opened c.scene id _ (by simpa [scene] using hnew) ?_
  exact (perm_insert (.fresh id settings) c.sessions).map (·.id)

theorem closeSession_eq {c' : Controller} (h : c.closeSession id = .ok c') :
    (∃ s, c.session? id = some s ∧ s.phase = .disconnected) ∧
      c' = { c with sessions := c.sessions.filter (·.id != id) } := by
  unfold closeSession at h
  cases hs : c.session? id with
  | none =>
    rw [hs] at h
    cases h
  | some s =>
    rw [hs] at h
    dsimp only at h
    split at h
    · rename_i hp
      cases h
      exact ⟨⟨s, rfl, hp⟩, rfl⟩
    · cases h

theorem managed_closeSession {c' : Controller} (h : c.closeSession id = .ok c') :
    Scene.Managed c.scene c'.scene ∧ c'.queue = c.queue := by
  obtain ⟨⟨s, hs, hp⟩, rfl⟩ := closeSession_eq h
  refine ⟨?_, rfl⟩
  have hstance : ({ c with sessions := c.sessions.filter (·.id != id) } : Controller).stance? =
      fun j => if j = id then none else c.stance? j := by
    funext j
    rw [stance?, session?, find?_filter_ne]
    split <;> rfl
  have hscene : ({ c with sessions := c.sessions.filter (·.id != id) } : Controller).scene =
      { c.scene with
        ids := c.scene.ids.filter (· != id)
        stance := fun j => if j = id then none else c.scene.stance j } := by
    have hids : (c.sessions.filter (·.id != id)).map (·.id) =
        (c.sessions.map (·.id)).filter (· != id) := by
      rw [List.filter_map]
      rfl
    rw [scene, hstance, hids]
    rfl
  rw [hscene]
  exact .closed c.scene id s.stance (stance?_of_session? hs) hp

theorem setDomain_eq {domain : Domain} {c' : Controller} (h : c.setDomain domain = .ok c') :
    (∀ s ∈ c.sessions, s.phase = .disconnected) ∧
      ∃ table, (domain.validate = .ok () ∧
          NonOccupancy.Table.ofDomain c.settings.timing domain = .ok table) ∧
        c' = { c with airspace := .fresh domain table } := by
  unfold setDomain at h
  cases hv : domain.validate with
  | error fault =>
    rw [hv] at h
    cases h
  | ok _ =>
    rw [hv] at h
    cases hb : c.sessions.find? fun s => s.phase != .disconnected with
    | some busy =>
      rw [hb] at h
      cases h
    | none =>
      rw [hb] at h
      cases ht : NonOccupancy.Table.ofDomain c.settings.timing domain with
      | error fault =>
        rw [ht] at h
        cases h
      | ok table =>
        rw [ht] at h
        cases h
        refine ⟨fun s hs => ?_, table, ⟨rfl, rfl⟩, rfl⟩
        simpa using List.find?_eq_none.mp hb s hs

theorem managed_setDomain {domain : Domain} {c' : Controller} (h : c.setDomain domain = .ok c') :
    Scene.Managed c.scene c'.scene ∧ c'.queue = c.queue := by
  obtain ⟨hoff, table, -, rfl⟩ := setDomain_eq h
  refine ⟨.moved c.scene domain table fun id st hst => ?_, rfl⟩
  obtain ⟨s, hs, rfl⟩ := session?_of_stance? hst
  exact hoff s (mem_of_session? hs)

theorem effect_perform (hs : c.Sound) (op : Operation) :
    c.Effect op (c.perform op) ∧ (c.perform op).1.queue = [] := by
  have hrefused (op : Operation) (hr : c.reports? op = none) (hc : c.completes? op = none) :
      c.Effect op (c, []) ∧ c.queue = [] :=
    ⟨.manage c hr hc (.same c.scene), hs.queue⟩
  cases op with
  | openSession settings =>
    cases h : c.openSession settings with
    | error fault => simpa [perform, h] using hrefused _ rfl rfl
    | ok result =>
      obtain ⟨id, c'⟩ := result
      obtain ⟨hm, hq⟩ := managed_openSession h
      simpa [perform, h] using ⟨Effect.manage c' rfl rfl hm, hq.trans hs.queue⟩
  | closeSession id =>
    cases h : c.closeSession id with
    | error fault => simpa [perform, h] using hrefused _ rfl rfl
    | ok c' =>
      obtain ⟨hm, hq⟩ := managed_closeSession h
      simpa [perform, h] using ⟨Effect.manage c' rfl rfl hm, hq.trans hs.queue⟩
  | setDomain domain =>
    cases h : c.setDomain domain with
    | error fault => simpa [perform, h] using hrefused _ rfl rfl
    | ok c' =>
      obtain ⟨hm, hq⟩ := managed_setDomain h
      simpa [perform, h] using ⟨Effect.manage c' rfl rfl hm, hq.trans hs.queue⟩
  | dispatch env now id e =>
    cases h : c.session? id with
    | none =>
      rw [perform_dispatch_of_none h]
      exact hrefused _ (by simp [reports?, h]) (by simp [completes?, h])
    | some s =>
      -- Radar has an effect of its own whatever the phase, and so has the end of listening, with a
      -- run and without one; all other events are moves.
      cases hreport : s.reports? e with
      | some channels => exact effect_strike hs h hreport
      | none =>
        cases hover : s.awaits e with
        | false => exact effect_move hs h hreport hover
        | true =>
          cases hrun : c.airspace.run with
          | some run => exact effect_complete hs h hover hrun
          | none => exact effect_idle hs h hover hrun
  | listeningOver env now => exact effect_listeningOver hs

end Controller

end Hotspot

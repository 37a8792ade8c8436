import Hotspot.Proofs.AccessPoint.Agreement

/-!
Refused requests. An operation is written out here as it goes: what was changed, told or commanded
before an error would stay. Every operation looks first and acts last, so a refusal leaves no trace.
-/

set_option autoImplicit false
set_option relaxedAutoImplicit false

namespace Hotspot

/-- An operation as it goes. Where it ends in an error, what was done until then is not undone. -/
abbrev Attempt (α : Type) := EStateM ControlError Turn α

namespace Attempt

variable {α β : Type}

def refuse (fault : Option ControlError) : Attempt Unit :=
  match fault with
  | some e => throw e
  | none => pure ()

def demand (x : Option α) (e : ControlError) : Attempt α :=
  match x with
  | some a => pure a
  | none => throw e

def heed (x : Except ControlError α) : Attempt α :=
  match x with
  | .ok a => pure a
  | .error e => throw e

/-- It changes nothing, whether or not it ends in an error. -/
def Looks (x : Attempt α) : Prop :=
  ∀ t, (∃ a, x.run t = .ok a t) ∨ ∃ e, x.run t = .error e t

def Succeeds (x : Attempt α) : Prop :=
  ∀ t, ∃ a t', x.run t = .ok a t'

/-- It changes nothing if it ends in an error. -/
def Traceless (x : Attempt α) : Prop :=
  ∀ t e t', x.run t = .error e t' → t' = t

section

variable {x : Attempt α} {f : α → Attempt β}

private theorem run_get_bind (f : Turn → Attempt β) (t : Turn) : (get >>= f).run t = (f t).run t :=
    rfl

private theorem run_demand_bind (a : α) (e : ControlError) (f : α → Attempt β) (t : Turn) :
    (demand (some a) e >>= f).run t = (f a).run t := rfl

private theorem run_heed_bind (a : α) (f : α → Attempt β) (t : Turn) :
    (heed (.ok a) >>= f).run t = (f a).run t := rfl

private theorem looks_get : Looks (get : Attempt Turn) :=
  fun t => .inl ⟨t, rfl⟩

private theorem looks_refuse (fault : Option ControlError) : Looks (refuse fault) := by
  intro t
  cases fault with
  | some e => exact .inr ⟨e, rfl⟩
  | none => exact .inl ⟨(), rfl⟩

private theorem looks_demand (x : Option α) (e : ControlError) : Looks (demand x e) := by
  intro t
  cases x with
  | some a => exact .inl ⟨a, rfl⟩
  | none => exact .inr ⟨e, rfl⟩

private theorem looks_heed (x : Except ControlError α) : Looks (heed x) := by
  intro t
  cases x with
  | ok a => exact .inl ⟨a, rfl⟩
  | error e => exact .inr ⟨e, rfl⟩

private theorem succeeds_pure (a : α) : Succeeds (pure a : Attempt α) :=
  fun t => ⟨a, t, rfl⟩

private theorem succeeds_modify (f : Turn → Turn) : Succeeds (modify f : Attempt Unit) :=
  fun t => ⟨(), f t, rfl⟩

private theorem Succeeds.traceless (hx : x.Succeeds) : x.Traceless := by
  intro t e t' he
  obtain ⟨a, t'', ha⟩ := hx t
  rw [ha] at he
  cases he

private theorem Looks.bind (hx : x.Looks) (hf : ∀ a, (f a).Traceless) : (x >>= f).Traceless := by
  intro t e t' he
  rw [EStateM.run_bind] at he
  rcases hx t with ⟨a, ha⟩ | ⟨e', ha⟩
  · rw [ha] at he
    exact hf a t e t' he
  · rw [ha] at he
    cases he
    rfl

private theorem Traceless.bind (hx : x.Traceless) (hf : ∀ a, (f a).Succeeds) :
    (x >>= f).Traceless := by
  intro t e t' he
  rw [EStateM.run_bind] at he
  cases hr : x.run t with
  | ok a t₁ =>
    rw [hr] at he
    obtain ⟨b, t₂, hb⟩ := hf a t₁
    dsimp only at he
    rw [hb] at he
    cases he
  | error e₁ t₁ =>
    rw [hr] at he
    cases he
    exact hx t e t' hr

end

def openSession (settings : SessionSettings) : Attempt SessionId := do
  let t ← get
  let limit := ControlError.sessionLimit t.settings.maxSessions
  refuse (if t.settings.maxSessions ≤ t.sessions.length then some limit else none)
  heed (settings.validate t.airspace.domain)
  let id ← demand t.freeId? limit
  modify fun t => { t with sessions := Controller.insert (.fresh id settings) t.sessions }
  return id

def closeSession (id : SessionId) : Attempt Unit := do
  let t ← get
  let s ← demand (t.session? id) (.unknownSession id)
  refuse (if s.phase = .disconnected then none else some (.sessionBusy id s.phase.label))
  modify fun t => { t with sessions := t.sessions.filter fun o => o.id != id }

def setDomain (domain : Domain) : Attempt Unit := do
  heed domain.validate
  let t ← get
  let busy? := t.sessions.find? fun s => s.phase != .disconnected
  refuse (busy?.map fun busy => .sessionBusy busy.id busy.phase.label)
  let table ← heed (NonOccupancy.Table.ofDomain t.settings.timing domain)
  modify fun t => t.share fun _ => .fresh domain table

def dispatch (env : Surroundings) (now : Instant) (id : SessionId) (e : Event) : Attempt Unit := do
  let t ← get
  let _ ← demand (t.session? id) (.unknownSession id)
  modify fun t => t.enqueue id e
  modify fun t => t.settle env now

def listeningOver (env : Surroundings) (now : Instant) : Attempt Unit := do
  modify fun t => t.onListeningOver env
  modify fun t => t.settle env now

private theorem traceless_openSession (settings : SessionSettings) :
    (openSession settings).Traceless :=
  looks_get.bind fun _ => (looks_refuse _).bind fun _ => (looks_heed _).bind fun _ =>
    (looks_demand _ _).bind fun id => (succeeds_modify _).traceless.bind fun _ => succeeds_pure id

private theorem traceless_closeSession (id : SessionId) : (closeSession id).Traceless :=
  looks_get.bind fun _ => (looks_demand _ _).bind fun _ => (looks_refuse _).bind fun _ =>
    (succeeds_modify _).traceless

private theorem traceless_setDomain (domain : Domain) : (setDomain domain).Traceless :=
  (looks_heed _).bind fun _ => looks_get.bind fun _ => (looks_refuse _).bind fun _ =>
    (looks_heed _).bind fun _ => (succeeds_modify _).traceless

private theorem traceless_dispatch (env : Surroundings) (now : Instant) (id : SessionId)
    (e : Event) : (dispatch env now id e).Traceless :=
  looks_get.bind fun _ => (looks_demand _ _).bind fun _ =>
    (succeeds_modify _).traceless.bind fun _ => succeeds_modify _

private theorem traceless_listeningOver (env : Surroundings) (now : Instant) :
    (listeningOver env now).Traceless :=
  (succeeds_modify _).traceless.bind fun _ => succeeds_modify _

end Attempt

/-- The operation as it goes; the answer is the number of a session that it opens. -/
def Operation.attempt : Operation → Attempt (Option SessionId)
  | .openSession settings => do return some (← Attempt.openSession settings)
  | .closeSession id => do Attempt.closeSession id; return none
  | .setDomain domain => do Attempt.setDomain domain; return none
  | .dispatch env now id e => do Attempt.dispatch env now id e; return none
  | .listeningOver env now => do Attempt.listeningOver env now; return none

/-- No refused operation leaves a trace. -/
private theorem Operation.traceless_attempt (op : Operation) : op.attempt.Traceless := by
  cases op with
  | openSession settings =>
    exact (Attempt.traceless_openSession settings).bind fun id => Attempt.succeeds_pure (some id)
  | closeSession id =>
    exact (Attempt.traceless_closeSession id).bind fun _ => Attempt.succeeds_pure none
  | setDomain domain =>
    exact (Attempt.traceless_setDomain domain).bind fun _ => Attempt.succeeds_pure none
  | dispatch env now id e =>
    exact (Attempt.traceless_dispatch env now id e).bind fun _ => Attempt.succeeds_pure none
  | listeningOver env now =>
    exact (Attempt.traceless_listeningOver env now).bind fun _ => Attempt.succeeds_pure none

namespace Controller

variable {c : Controller}

def answer (c : Controller) : Operation → Except ControlError (Option SessionId)
  | .openSession settings => (c.openSession settings).map fun r => some r.1
  | .closeSession id => (c.closeSession id).map fun _ => none
  | .setDomain domain => (c.setDomain domain).map fun _ => none
  | .dispatch env now id e => (c.dispatch env now id e).map fun _ => none
  | .listeningOver _ _ => .ok none

private theorem run_openSession (c : Controller) (settings : SessionSettings) :
    (Attempt.openSession settings).run c.turn =
      match c.openSession settings with
      | .ok (id, c') => .ok id c'.turn
      | .error e => .error e c.turn := by
  unfold Attempt.openSession openSession
  rw [Attempt.run_get_bind]
  by_cases hfull : c.settings.maxSessions ≤ c.sessions.length
  · simp only [hfull, if_true]
    rfl
  · simp only [hfull, if_false]
    cases settings.validate c.airspace.domain with
    | error e => rfl
    | ok _ =>
      cases c.freeId? with
      | none => rfl
      | some id => rfl

private theorem run_closeSession (c : Controller) (id : SessionId) :
    (Attempt.closeSession id).run c.turn =
      match c.closeSession id with
      | .ok c' => .ok () c'.turn
      | .error e => .error e c.turn := by
  unfold Attempt.closeSession closeSession
  rw [Attempt.run_get_bind]
  cases c.session? id with
  | none => rfl
  | some s =>
    rw [Attempt.run_demand_bind]
    by_cases hoff : s.phase = .disconnected
    · simp only [hoff, if_true]
      rfl
    · simp only [hoff, if_false]
      rfl

private theorem run_setDomain (c : Controller) (domain : Domain) :
    (Attempt.setDomain domain).run c.turn =
      match c.setDomain domain with
      | .ok c' => .ok () c'.turn
      | .error e => .error e c.turn := by
  unfold Attempt.setDomain setDomain
  cases domain.validate with
  | error e => rfl
  | ok _ =>
    rw [Attempt.run_heed_bind, Attempt.run_get_bind]
    cases c.sessions.find? fun s => s.phase != .disconnected with
    | some busy => rfl
    | none =>
      cases NonOccupancy.Table.ofDomain c.settings.timing domain with
      | error e => rfl
      | ok table => rfl

private theorem run_dispatch (c : Controller) (env : Surroundings) (now : Instant) (id : SessionId)
    (e : Event) : (Attempt.dispatch env now id e).run c.turn =
      match c.dispatch env now id e with
      | .ok (c', j) => .ok () ⟨c', j⟩
      | .error e => .error e c.turn := by
  unfold Attempt.dispatch dispatch
  rw [Attempt.run_get_bind]
  cases c.session? id with
  | none => rfl
  | some s => rfl

private theorem run_listeningOver (c : Controller) (env : Surroundings) (now : Instant) :
    (Attempt.listeningOver env now).run c.turn =
      .ok () ⟨(c.listeningOver env now).1, (c.listeningOver env now).2⟩ :=
  rfl

private theorem run_attempt (c : Controller) (op : Operation) :
    op.attempt.run c.turn =
      match c.answer op with
      | .ok a => .ok a ⟨(c.perform op).1, (c.perform op).2⟩
      | .error e => .error e c.turn := by
  cases op with
  | openSession settings =>
    rw [Operation.attempt, EStateM.run_bind, run_openSession, answer, perform]
    cases c.openSession settings <;> rfl
  | closeSession id =>
    rw [Operation.attempt, EStateM.run_bind, run_closeSession, answer, perform]
    cases c.closeSession id <;> rfl
  | setDomain domain =>
    rw [Operation.attempt, EStateM.run_bind, run_setDomain, answer, perform]
    cases c.setDomain domain <;> rfl
  | dispatch env now id e =>
    rw [Operation.attempt, EStateM.run_bind, run_dispatch, answer, perform]
    cases c.dispatch env now id e <;> rfl
  | listeningOver env now =>
    rw [Operation.attempt, EStateM.run_bind, run_listeningOver, answer, perform]
    rfl

private theorem run_attempt_eq_error_iff {op : Operation} {e : ControlError} {t : Turn} :
    op.attempt.run c.turn = .error e t ↔ c.answer op = .error e ∧ t = c.turn := by
  constructor
  · intro h
    have htraceless := op.traceless_attempt c.turn e t h
    rw [run_attempt] at h
    cases hanswer : c.answer op with
    | ok a =>
      rw [hanswer] at h
      cases h
    | error e' =>
      rw [hanswer] at h
      cases h
      exact ⟨rfl, htraceless⟩
  · rintro ⟨h, rfl⟩
    rw [run_attempt, h]

private theorem run_attempt_eq_ok_iff {op : Operation} {a : Option SessionId} {t : Turn} :
    op.attempt.run c.turn = .ok a t ↔
      c.answer op = .ok a ∧ c.perform op = (t.toController, t.journal) := by
  rw [run_attempt]
  constructor
  · intro h
    cases hanswer : c.answer op with
    | ok a' =>
      rw [hanswer] at h
      cases h
      exact ⟨rfl, rfl⟩
    | error e =>
      rw [hanswer] at h
      cases h
  · rintro ⟨h, hperform⟩
    rw [h, hperform]

private theorem answer_setDomain_iff {domain : Domain} : c.answer (.setDomain domain) = .ok none ↔
    domain.validate = .ok () ∧ ∀ s ∈ c.sessions, s.phase = .disconnected := by
  constructor
  · intro h
    cases hset : c.setDomain domain with
    | error e => simp [answer, hset, Except.map] at h
    | ok c' =>
      obtain ⟨hoff, table, ⟨hv, -⟩, -⟩ := setDomain_eq hset
      exact ⟨hv, hoff⟩
  · rintro ⟨hv, hoff⟩
    obtain ⟨c', hset⟩ := exists_setDomain hv hoff
    simp [answer, hset, Except.map]

private theorem perform_setDomain {domain : Domain} (h : c.answer (.setDomain domain) = .ok none) :
    ∃ table, NonOccupancy.Table.ofDomain c.settings.timing domain = .ok table ∧
      c.perform (.setDomain domain) = ({ c with airspace := .fresh domain table }, []) := by
  cases hset : c.setDomain domain with
  | error e => simp [answer, hset, Except.map] at h
  | ok c' =>
    obtain ⟨-, table, ⟨-, ht⟩, rfl⟩ := setDomain_eq hset
    exact ⟨table, ht, by simp [perform, hset]⟩

def accepted (c : Controller) : List Operation → List Operation
  | [] => []
  | op :: rest =>
    match c.answer op with
    | .ok _ => op :: (c.perform op).1.accepted rest
    | .error _ => c.accepted rest

private theorem perform_of_refused {op : Operation} {e : ControlError}
    (h : c.answer op = .error e) : c.perform op = (c, []) := by
  cases op with
  | openSession settings =>
    cases hx : c.openSession settings <;> simp_all [answer, perform, Except.map]
  | closeSession id =>
    cases hx : c.closeSession id <;> simp_all [answer, perform, Except.map]
  | setDomain domain =>
    cases hx : c.setDomain domain <;> simp_all [answer, perform, Except.map]
  | dispatch env now id e =>
    cases hx : c.dispatch env now id e <;> simp_all [answer, perform, Except.map]
  | listeningOver env now => cases h

/-- A run goes as it would without the operations that are refused. -/
theorem after_accepted (c : Controller) (ops : List Operation) :
    c.after (c.accepted ops) = c.after ops ∧ c.history (c.accepted ops) = c.history ops := by
  -- By induction on the operations: a refused one can be left out at once.
  induction ops generalizing c with
  | nil => exact ⟨rfl, rfl⟩
  | cons op rest ih =>
    unfold accepted
    cases h : c.answer op with
    | ok a =>
      obtain ⟨hafter, hhistory⟩ := ih (c.perform op).1
      exact ⟨hafter, congrArg ((c.perform op).2 ++ ·) hhistory⟩
    | error e =>
      obtain ⟨hafter, hhistory⟩ := ih c
      have hsame := perform_of_refused h
      refine ⟨hafter.trans ?_, hhistory.trans ?_⟩
      · show _ = (c.perform op).1.after rest
        rw [hsame]
      · rw [history, hsame]
        rfl

/-- Whatever a controller is asked, in any state: what is refused leaves the sessions, the airspace
and the queue as they are, and nothing is told, commanded or timed. A domain is taken over exactly
if it is sound and every session is off the air; then every channel of the list is usable, none is
cleared, and nobody listens. -/
theorem refused_traceless (c : Controller) :
    (∀ op e t, op.attempt.run c.turn = .error e t ↔ c.answer op = .error e ∧ t = c.turn) ∧
      (∀ op a t, op.attempt.run c.turn = .ok a t ↔
        c.answer op = .ok a ∧ c.perform op = (t.toController, t.journal)) ∧
      (∀ domain, c.answer (.setDomain domain) = .ok none ↔
        domain.validate = .ok () ∧ ∀ s ∈ c.sessions, s.phase = .disconnected) ∧
      ∀ domain, c.answer (.setDomain domain) = .ok none →
        ∃ c', c.perform (.setDomain domain) = (c', []) ∧
          c'.sessions = c.sessions ∧ c'.queue = c.queue ∧
          c'.airspace.domain = domain ∧ c'.airspace.table.channels = domain.radarChannels ∧
          (∀ e ∈ c'.airspace.table.entries, e.status = .usable) ∧
          c'.airspace.cleared = [] ∧ c'.airspace.run = none := by
  refine ⟨fun _ _ _ => run_attempt_eq_error_iff, fun _ _ _ => run_attempt_eq_ok_iff,
    fun _ => answer_setDomain_iff, fun d h => ?_⟩
  obtain ⟨table, ht, hperform⟩ := perform_setDomain h
  exact ⟨_, hperform, rfl, rfl, rfl, NonOccupancy.Table.channels_ofDomain ht,
    fun e he => NonOccupancy.Table.usable_ofDomain ht he, rfl, rfl⟩

end Controller

namespace TwoChannels

open FourChannels (send)

def looking : List Operation :=
  [.openSession accessPoint, send 0 0 .startRequest]

theorem refused_looking :
    (Operation.setDomain FourChannels.domain).attempt.run (controller.after looking).turn =
        .error (.sessionBusy 0 "CH_SELECT") (controller.after looking).turn ∧
      (controller.after looking).answer (.setDomain FourChannels.domain) =
        .error (.sessionBusy 0 "CH_SELECT") ∧
      controller.answer (.setDomain FourChannels.domain) = .ok none ∧
      ∃ c', controller.perform (.setDomain FourChannels.domain) = (c', []) ∧
        c'.airspace.table.channels = FourChannels.domain.radarChannels := by
  obtain ⟨hrefused, -, -, -⟩ := Controller.refused_traceless (controller.after looking)
  obtain ⟨-, -, hiff, hmoved⟩ := Controller.refused_traceless controller
  have hbusy : (controller.after looking).answer (.setDomain FourChannels.domain) =
      .error (.sessionBusy 0 "CH_SELECT") := rfl
  have hoff : ∀ s ∈ controller.sessions, s.phase = .disconnected := fun s hs => nomatch hs
  have hanswer := (hiff FourChannels.domain).mpr ⟨rfl, hoff⟩
  obtain ⟨c', hperform, -, -, -, hchannels, -⟩ := hmoved FourChannels.domain hanswer
  exact ⟨(hrefused _ _ _).mpr ⟨hbusy, rfl⟩, hbusy, hanswer, c', hperform, hchannels⟩

end TwoChannels

end Hotspot

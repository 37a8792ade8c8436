import Hotspot.Proofs.AccessPoint.Run
import Hotspot.Proofs.AccessPoint.OperationLedgers

/-!
What lasts throughout every run: a property of a session, of what the layer below was told for it
since it was opened and of the events that wait for it lasts if it holds of a new session and every
step keeps it.
-/

set_option autoImplicit false
set_option relaxedAutoImplicit false

namespace Hotspot

/-- A property that holds of a new session and that every step keeps. -/
structure Session.Lasting (P : Session → List (Command × Bool) → List Event → Prop) : Prop where
  fresh (id : SessionId) (settings : SessionSettings) : P (.fresh id settings) [] []
  sessionStep {s s' : Session} {cs cs' : List (Command × Bool)} {es : List Event} :
    P s cs [] → Session.SessionStep s s' cs' es → P s' (cs ++ cs') es
  conclude {s s' : Session} {cs cs' : List (Command × Bool)} {e : Event} {es es' : List Event} :
    P s cs (e :: es) → Session.Concludes e s s' cs' es' → P s' (cs ++ cs') (es ++ es')

/-- The ledger of a session goes on from what was told before, and a property lasts in it. -/
def Ledger.Keeps (P : Session → List (Command × Bool) → List Event → Prop)
    (before : Option Session) (told : List (Command × Bool)) (l : Ledger) : Prop :=
  ∀ s, l.session = some s → before.isSome = true ∧ P s (told ++ l.commands) l.pending

namespace Controller

open Session (Lasting)

variable {c : Controller} {op : Operation} {id : SessionId} {s : Session}
  {P : Session → List (Command × Bool) → List Event → Prop}

/-- What the layer below was told for the session with a number, in operations one after the other,
since the session was opened. -/
def commanded (c : Controller) (ops : List Operation) (id : SessionId) : List (Command × Bool) :=
  (ops.foldl
    (fun (c, told) op =>
      ((c.perform op).1,
        if (c.session? id).isSome then told ++ (c.perform op).2.commands id else []))
    (c, [])).2

private theorem commanded_concat (c : Controller) (ops : List Operation) (op : Operation)
    (id : SessionId) : c.commanded (ops ++ [op]) id =
      if ((c.after ops).session? id).isSome then
        c.commanded ops id ++ ((c.after ops).perform op).2.commands id
      else [] := by
  have hafter (told : List (Command × Bool)) : (ops.foldl
      (fun (c, told) op => ((c.perform op).1,
        if (c.session? id).isSome then told ++ (c.perform op).2.commands id else []))
      (c, told)).1 = c.after ops := by
    induction ops generalizing c told with
    | nil => rfl
    | cons op ops ih => exact ih _ _
  simp only [commanded, List.foldl_append, List.foldl_cons, List.foldl_nil, hafter]

/-- What is done to the controller as a whole leaves every session as it was, opens a new one or
forgets one that is off the air. -/
theorem session?_untimed_cases (htime : op.now? = none) (id : SessionId) :
    (c.perform op).1.session? id = c.session? id ∨
      c.session? id = none ∧
        (∃ settings, (c.perform op).1.session? id = some (.fresh id settings)) ∨
      (∃ s, c.session? id = some s ∧ s.phase = .disconnected) ∧
        (c.perform op).1.session? id = none := by
  cases op with
  | dispatch | listeningOver => cases htime
  | openSession settings =>
    cases h : c.openSession settings with
    | error fault => exact .inl (by simp only [perform, h])
    | ok result =>
      obtain ⟨new, c'⟩ := result
      obtain ⟨hnew, rfl⟩ := openSession_eq h
      have hfresh : ∀ o ∈ c.sessions, o.id ≠ (Session.fresh new settings).id := hnew
      simp only [perform, h, session?, find?_insert hfresh]
      split
      · -- The new session itself: its number was free.
        rename_i hid
        obtain rfl : id = new := hid
        exact .inr (.inl ⟨by simpa [List.find?_eq_none] using hnew, settings, rfl⟩)
      · exact .inl rfl
  | closeSession closed =>
    cases h : c.closeSession closed with
    | error fault => exact .inl (by simp only [perform, h])
    | ok c' =>
      obtain ⟨hoff, rfl⟩ := closeSession_eq h
      simp only [perform, h, session?, find?_filter_ne]
      split
      · rename_i hid
        subst hid
        exact .inr (.inr ⟨hoff, rfl⟩)
      · exact .inl rfl
  | setDomain domain =>
    cases h : c.setDomain domain with
    | error fault => exact .inl (by simp only [perform, h])
    | ok c' =>
      obtain ⟨-, table, -, rfl⟩ := setDomain_eq h
      exact .inl (by simp only [perform, h, session?])

theorem session?_perform_of_untimed (htime : op.now? = none)
    (hsess : (c.perform op).1.session? id = some s) :
    c.session? id = some s ∨ c.session? id = none ∧ ∃ settings, s = .fresh id settings := by
  rcases session?_untimed_cases (c := c) htime id with hsame | ⟨hnone, settings, hnew⟩ | ⟨-, hgone⟩
  · exact .inl (hsame ▸ hsess)
  · exact .inr ⟨hnone, settings, Option.some.inj (hsess.symm.trans hnew)⟩
  · cases hgone.symm.trans hsess

theorem airspace_perform_of_untimed (htime : op.now? = none) :
    (c.perform op).1.airspace = c.airspace ∨
      ∃ domain table, op = .setDomain domain ∧
        (domain.validate = .ok () ∧
          NonOccupancy.Table.ofDomain c.settings.timing domain = .ok table) ∧
        (c.perform op).1.airspace = .fresh domain table := by
  cases op with
  | dispatch | listeningOver => cases htime
  | openSession settings =>
    left
    cases h : c.openSession settings with
    | error fault => simp only [perform, h]
    | ok result =>
      obtain ⟨id, c'⟩ := result
      obtain ⟨-, rfl⟩ := openSession_eq h
      simp only [perform, h]
  | closeSession id =>
    left
    cases h : c.closeSession id with
    | error fault => simp only [perform, h]
    | ok c' =>
      obtain ⟨-, rfl⟩ := closeSession_eq h
      simp only [perform, h]
  | setDomain domain =>
    cases h : c.setDomain domain with
    | error fault => exact .inl (by simp only [perform, h])
    | ok c' =>
      obtain ⟨-, table, hsound, rfl⟩ := setDomain_eq h
      exact .inr ⟨domain, table, rfl, hsound, by simp only [perform, h]⟩

theorem journal_perform_of_untimed (htime : op.now? = none) : (c.perform op).2 = [] := by
  cases op with
  | dispatch | listeningOver => cases htime
  | openSession | closeSession | setDomain =>
    simp only [perform]
    split <;> rfl

theorem ledger_turn (hs : c.Sound) (id : SessionId) :
    c.turn.ledger id = ⟨c.session? id, [], []⟩ := by
  simp only [Turn.ledger, Turn.pending, hs.queue, Journal.commands_nil, List.filterMap_nil]

private theorem endures_keeps (hP : Lasting P) (c : Controller)
    (told : SessionId → List (Command × Bool)) :
    Turn.Endures fun id l => l.Keeps P (c.session? id) (told id) := by
  constructor
  · intro id cs e es _ s' hs'
    cases hs'
  · intro id s₁ s₂ cs cs' e es es' hbefore hconcludes s' hs'
    obtain rfl : s₂ = s' := Option.some.inj hs'
    obtain ⟨hopen, hkept⟩ := hbefore s₁ rfl
    refine ⟨hopen, ?_⟩
    rw [← List.append_assoc]
    exact hP.conclude hkept hconcludes

/-- What closing events keep of a ledger holds after an operation, if it holds of every session that
was left alone and of every one that has taken a step. -/
theorem endures_perform {Q : SessionId → Ledger → Prop} (hQ : Turn.Endures Q) (hs : c.Sound)
    (hidle : ∀ id, Q id ⟨c.session? id, [], []⟩)
    (hstep : ∀ s s' cs es, c.session? s.id = some s → Session.SessionStep s s' cs es →
      Q s.id ⟨some s', cs, es⟩) {now : Instant} (htime : op.now? = some now) (id : SessionId) :
    Q id ⟨(c.perform op).1.session? id, (c.perform op).2.commands id, []⟩ := by
  obtain ⟨env, l, t, n, hstepped, hperform⟩ := exists_eachStepped hs htime
  have hqueue : (c.perform op).1.queue = [] := (effect_perform hs op).2
  have hall (k : SessionId) : Q k (t.ledger k) := by
    by_cases hmem : ∃ o ∈ l, o.id = k
    · obtain ⟨o, ho, rfl⟩ := hmem
      obtain ⟨s', cs, es, hc, hledger⟩ := hstepped.eachFollows.own o ho
      rw [hledger, ledger_turn hs]
      exact hstep o s' cs es (session?_of_mem hs.scene.nodup (hstepped.mem o ho)) hc
    · rw [hstepped.eachFollows.others k fun o ho hid => hmem ⟨o, ho, hid⟩, ledger_turn hs]
      exact hidle k
  obtain ⟨hend, -⟩ := Turn.drain_endures env now hQ n hstepped.closing hall
  have hlast := hend id
  rw [hperform] at hqueue ⊢
  have hnone : ((t.drain env now n).ledger id).pending = [] := by
    have hq : (t.drain env now n).queue = [] := hqueue
    simp only [Turn.ledger, Turn.pending, hq, List.filterMap_nil]
  rwa [← hnone]

theorem lasting_perform (hP : Lasting P) (hs : c.Sound) (op : Operation)
    {told : SessionId → List (Command × Bool)}
    (hall : ∀ id s, c.session? id = some s → P s (told id) [])
    (hsess : (c.perform op).1.session? id = some s) :
    P s (if (c.session? id).isSome then told id ++ (c.perform op).2.commands id else []) [] := by
  cases htime : op.now? with
  | none =>
    have hsilent : (c.perform op).2 = [] := journal_perform_of_untimed htime
    rcases session?_perform_of_untimed htime hsess with hold | ⟨hnew, settings, rfl⟩
    · rw [hsilent, hold, Option.isSome_some, if_pos rfl, Journal.commands_nil, List.append_nil]
      exact hall id s hold
    · rw [hnew]
      exact hP.fresh id settings
  | some now =>
    have hkeeps := endures_perform (endures_keeps hP c told) hs (fun id s' hs' => ?_) ?_ htime id
    · obtain ⟨hopen, hkept⟩ := hkeeps s hsess
      rw [if_pos hopen]
      exact hkept
    · have hopen : c.session? id = some s' := hs'
      refine ⟨by rw [hopen, Option.isSome_some], ?_⟩
      rw [List.append_nil]
      exact hall id s' hopen
    · rintro s s' cs es hopen hstep _ ⟨⟩
      exact ⟨by rw [hopen, Option.isSome_some], hP.sessionStep (hall s.id s hopen) hstep⟩

theorem lasting_after {settings : Settings} {domain : Domain}
    (h : create settings domain = .ok c) (hP : Lasting P) (ops : List Operation) :
    ∀ id s, (c.after ops).session? id = some s → P s (c.commanded ops id) [] := by
  induction ops using List.reverseRecOn with
  | nil =>
    intro id s hs
    obtain ⟨table, -, rfl⟩ := create_eq h
    cases hs
  | append_singleton ops op ih =>
    intro id s hs
    rw [after_concat] at hs
    rw [commanded_concat]
    exact lasting_perform hP (sound_after (sound_create h) ops) op ih hs

end Controller

end Hotspot

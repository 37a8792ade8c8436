import Hotspot.Proofs.AccessPoint.Handle

/-!
What closing events do: sessions that neither listen nor send stop, and the channels that nobody is
on any more are no longer cleared. All else stays as it is.
-/

set_option autoImplicit false
set_option relaxedAutoImplicit false

namespace Hotspot

open Scene (Path)

namespace Scene

def Occupies (σ : Scene) (c : Channel) : Prop :=
  ∃ id st, σ.stance id = some st ∧ c ∈ st.occupied

inductive Stops : Option Stance → Option Stance → Prop
  | same (o : Option Stance) : Stops o o
  | stop (st st' : Stance) (listens : st.phase ≠ .listening) (sends : st.phase ≠ .started)
      (stopped : st'.phase = .disconnecting ∨ st'.phase = .disconnected)
      (occupied : ∀ c ∈ st'.occupied, c ∈ st.occupied) : Stops (some st) (some st')

/-- Sessions stopped, and a channel that lost its last session is no longer cleared. -/
structure OnlyStops (σ σ' : Scene) : Prop where
  ids : σ'.ids = σ.ids
  skip : σ'.skip = σ.skip
  airspace : σ'.airspace = { σ.airspace with cleared := σ'.airspace.cleared }
  cleared (c : Channel) : c ∈ σ'.airspace.cleared ↔
    c ∈ σ.airspace.cleared ∧ (σ.Occupies c → σ'.Occupies c)
  stance (id : SessionId) : Stops (σ.stance id) (σ'.stance id)

private theorem Stops.trans {o o' o'' : Option Stance} (h : Stops o o') (h' : Stops o' o'') :
    Stops o o'' := by
  cases h with
  | same => exact h'
  | stop st st' hl hs hp ho =>
    cases h' with
    | same => exact .stop st st' hl hs hp ho
    | stop _ st'' hl' hs' hp' ho' =>
      exact .stop st st'' hl hs hp' fun c hc => ho c (ho' c hc)

theorem Stops.eq_of_phase {o : Option Stance} {st : Stance} (h : Stops (some st) o)
    (hp : st.phase = .listening ∨ st.phase = .started) : o = some st := by
  cases h with
  | same => rfl
  | stop _ _ hl hs => exact absurd hp (not_or_intro hl hs)

theorem Stops.eq_of_phase' {o : Option Stance} {st : Stance} (h : Stops o (some st))
    (hp : st.phase = .listening ∨ st.phase = .started) : o = some st := by
  cases h with
  | same => rfl
  | stop _ _ _ _ hstop => rcases hp with hp | hp <;> simp [hp] at hstop

namespace OnlyStops

variable {σ σ' σ'' : Scene}

theorem refl (σ : Scene) : OnlyStops σ σ :=
  ⟨rfl, rfl, rfl, fun c => by simp, fun _ => .same _⟩

theorem occupies (h : OnlyStops σ σ') {c : Channel} (hc : σ'.Occupies c) : σ.Occupies c := by
  obtain ⟨id, st, hst, hmem⟩ := hc
  have hstops := h.stance id
  rw [hst] at hstops
  generalize ho : σ.stance id = o at hstops
  cases hstops with
  | same => exact ⟨id, st, ho, hmem⟩
  | stop st₀ _ _ _ _ hocc => exact ⟨id, st₀, ho, hocc c hmem⟩

private theorem trans (h : OnlyStops σ σ') (h' : OnlyStops σ' σ'') : OnlyStops σ σ'' where
  ids := h'.ids.trans h.ids
  skip := h'.skip.trans h.skip
  airspace := by rw [h'.airspace, h.airspace]
  cleared c := by
    rw [h'.cleared, h.cleared, and_assoc]
    refine and_congr_right fun _ => ⟨fun ⟨hb, ha⟩ ho => ha (hb ho), fun hb => ?_⟩
    refine ⟨fun ho => ?_, fun ho => ?_⟩
    · exact h'.occupies (hb ho)
    · exact hb (h.occupies ho)
  stance id := (h.stance id).trans (h'.stance id)

private theorem of_stop {id : SessionId} {st : Stance} {f : Stance → Stance}
    (hs : σ.stance id = some st) (hl : st.phase ≠ .listening) (hp : st.phase ≠ .started)
    (hf : (f st).phase = .disconnecting) (ht : (f st).tuning = st.tuning) :
    OnlyStops σ (σ.alter id f) := by
  have hocc : (f st).occupied = st.occupied := by simp only [Stance.occupied, ht]
  have hiff (c : Channel) : σ.Occupies c → (σ.alter id f).Occupies c := by
    rintro ⟨j, o, ho, hc⟩
    by_cases hj : j = id
    · subst hj
      rw [hs] at ho
      cases ho
      exact ⟨j, f st, by rw [alter_stance_self, hs]; rfl, hocc ▸ hc⟩
    · exact ⟨j, o, by rwa [alter_stance_ne σ f hj], hc⟩
  refine ⟨rfl, rfl, rfl, fun c => ⟨fun hc => ⟨hc, hiff c⟩, fun hc => hc.1⟩, fun j => ?_⟩
  by_cases hj : j = id
  · subst hj
    rw [alter_stance_self, hs]
    exact .stop st (f st) hl hp (.inl hf) fun c hc => hocc ▸ hc
  · rw [alter_stance_ne σ f hj]
    exact .same _

private theorem of_rest {id : SessionId} {st : Stance} {cleared : List Channel}
    (hs : σ.stance id = some st) (hl : st.phase ≠ .listening) (hp : st.phase ≠ .started)
    (hc : ∀ c, c ∈ cleared ↔ c ∈ σ.airspace.cleared ∧
      (c ∈ st.occupied → ∃ j o, σ.stance j = some o ∧ j ≠ id ∧ c ∈ o.occupied)) :
    OnlyStops σ ((σ.share fun a => { a with cleared }).alter id fun _ => .initial) := by
  -- Afterwards a channel is occupied exactly if another session is on it.
  have hafter (c : Channel) :
      ((σ.share fun a => { a with cleared }).alter id fun _ => .initial).Occupies c ↔
        ∃ j o, σ.stance j = some o ∧ j ≠ id ∧ c ∈ o.occupied := by
    constructor
    · rintro ⟨j, o, ho, hco⟩
      by_cases hj : j = id
      · subst hj
        rw [alter_stance_self, Option.map_eq_some_iff] at ho
        obtain ⟨_, _, rfl⟩ := ho
        exact absurd hco List.not_mem_nil
      · rw [alter_stance_ne _ _ hj] at ho
        exact ⟨j, o, ho, hj, hco⟩
    · rintro ⟨j, o, ho, hj, hco⟩
      exact ⟨j, o, by rwa [alter_stance_ne _ _ hj], hco⟩
  refine ⟨rfl, rfl, rfl, fun c => ?_, fun j => ?_⟩
  · rw [hafter]
    refine (hc c).trans (and_congr_right fun _ => ⟨?_, fun h hco => h ⟨id, st, hs, hco⟩⟩)
    rintro h ⟨j, o, ho, hco⟩
    by_cases hj : j = id
    · subst hj
      rw [hs] at ho
      cases ho
      exact h hco
    · exact ⟨j, o, ho, hj, hco⟩
  · by_cases hj : j = id
    · subst hj
      rw [alter_stance_self]
      simp only [share, hs, Option.map_some]
      exact .stop st .initial hl hp (.inr rfl) fun c hco => absurd hco List.not_mem_nil
    · rw [alter_stance_ne _ _ hj]
      exact .same _

end OnlyStops

end Scene

namespace Turn

open Scene (OnlyStops)

variable {env : Surroundings} {now : Instant} {t : Turn} {s : Session}
  {id : SessionId}

theorem onlyStops_rest (hn : t.scene.ids.Nodup) (hs : t.scene.stance s.id = some s.stance)
    (hl : s.phase ≠ .listening) (hp : s.phase ≠ .started) :
    OnlyStops t.scene (t.rest env s).scene := by
  have hclosed := scene_closeControl env t s
  have hmem := mem_cleared_releaseCleared (t.closeControl env s) s
  rw [scene_rest, scene_releaseCleared, hclosed]
  refine .of_rest hs hl hp fun c => (hmem c).trans ?_
  have hothers := Controller.exists_mem_iff (c := (t.closeControl env s).toController)
    (by rw [hclosed]; exact hn) (P := fun id st => id ≠ s.id ∧ c ∈ st.occupied)
  have hcleared : (t.closeControl env s).airspace.cleared = t.scene.airspace.cleared :=
    congrArg (fun σ : Scene => σ.airspace.cleared) hclosed
  rw [hclosed] at hothers
  rw [hcleared]
  exact and_congr_right fun _ => imp_congr_right fun _ => hothers

theorem handle_closing_cases (env : Surroundings) (now : Instant) (hsess : t.session? id = some s)
    {e : Event} (he : e.isClosing = true) :
    t.handle env now id e = t ∨
      (s.phase = .selecting ∨ s.phase = .starting) ∧ t.handle env now id e = t.failStart env s ∨
      s.phase = .disconnecting ∧ (t.handle env now id e = t.finishStop env s ∨
        ∃ target, e = .changeRequest target ∧
          t.handle env now id e = t.onChangeRequest env id target) := by
  rw [handle, hsess]
  dsimp only
  cases e with
  | selectionFailed | startFailure | networkStopped | changeRequest =>
    cases hp : s.phase <;> simp
  | _ => cases he

theorem handle_closing_of_none (hsess : t.session? id = none) (e : Event) :
    t.handle env now id e = t := by
  rw [handle, hsess]

private theorem path_handle_closing (env : Surroundings) (now : Instant) (id : SessionId)
    (hsound : t.scene.Sound) {e : Event} (he : e.isClosing = true) :
    Path now t.scene (t.handle env now id e).scene := by
  cases hsess : t.session? id with
  | none =>
    rw [handle_closing_of_none hsess]
  | some s =>
    have hproper := hsound.proper id s.stance (Controller.stance?_of_session? hsess)
    obtain ⟨hreport, hover, hheard⟩ := Event.reports?_of_isClosing he s
    exact path_handle hsess hproper hreport hover hheard

private theorem onlyStops_onChangeRequest {target : Tuning} {st : Stance}
    (hs : t.scene.stance id = some st) (hp : st.phase = .disconnecting) :
    OnlyStops t.scene (t.onChangeRequest env id target).scene := by
  obtain ⟨ok, heq⟩ := onChangeRequest_cases env t id target
  rw [heq]
  split
  · exact .refl _
  · rw [scene_beginStop, scene_giveUp, Scene.alter_alter, scene_record]
    exact .of_stop hs (by simp [hp]) (by simp [hp]) rfl rfl

private theorem onlyStops_handle_closing (env : Surroundings) (now : Instant) (id : SessionId)
    (hsound : t.scene.Sound) {e : Event} (he : e.isClosing = true) :
    OnlyStops t.scene (t.handle env now id e).scene := by
  cases hsess : t.session? id with
  | none =>
    rw [handle_closing_of_none hsess]
    exact .refl _
  | some s =>
    have hs : t.scene.stance id = some s.stance := Controller.stance?_of_session? hsess
    have hid := Controller.id_of_session? hsess
    subst hid
    rcases handle_closing_cases env now hsess he with
      heq | ⟨hp, heq⟩ | ⟨hp, heq | ⟨target, -, heq⟩⟩ <;> rw [heq]
    · exact .refl _
    · exact onlyStops_rest (t := t.notify s.id _) hsound.nodup hs
        (by rcases hp with hp | hp <;> simp [hp]) (by rcases hp with hp | hp <;> simp [hp])
    · exact onlyStops_rest hsound.nodup hs (by simp [hp]) (by simp [hp])
    · exact onlyStops_onChangeRequest hs hp

private theorem aired_handle_closing (env : Surroundings) (now : Instant) (t : Turn)
    (id : SessionId) {e : Event} (he : e.isClosing = true) :
    (t.handle env now id e).journal.aired = t.journal.aired := by
  cases hsess : t.session? id with
  | none => rw [handle_closing_of_none hsess]
  | some s =>
    rcases handle_closing_cases env now hsess he with
      heq | ⟨-, heq⟩ | ⟨-, heq | ⟨target, -, heq⟩⟩ <;> rw [heq]
    · exact aired_failStart env t s
    · exact aired_finishStop env t s
    · exact aired_onChangeRequest env t id target

theorem leaves_handle_closing (env : Surroundings) (now : Instant) (t : Turn) (id : SessionId)
    {e : Event} (he : e.isClosing = true) : Leaves id t (t.handle env now id e) := by
  cases hsess : t.session? id with
  | none =>
    rw [handle_closing_of_none hsess]
    exact .of_queue_eq rfl
  | some s =>
    obtain ⟨hreport, hover, hheard⟩ := Event.reports?_of_isClosing he s
    exact leaves_handle hsess hreport hover fun _ => hheard

theorem queue_handle_closing (env : Surroundings) (now : Instant) (t : Turn)
    (id : SessionId) {e : Event} (he : e.isClosing = true) :
    ∃ more, (t.handle env now id e).queue = t.queue ++ more ∧
      (∀ p ∈ more, p.2.isClosing = true) ∧ backlog more < e.cost := by
  have hnone : backlog [] < e.cost := e.cost_pos
  cases hsess : t.session? id with
  | none =>
    rw [handle_closing_of_none hsess]
    exact ⟨[], by simp, by simp, hnone⟩
  | some s =>
    rcases handle_closing_cases env now hsess he with
      heq | ⟨-, heq⟩ | ⟨-, heq | ⟨target, rfl, heq⟩⟩ <;> rw [heq]
    · exact ⟨[], by simp, by simp, hnone⟩
    · exact ⟨[], by simp, by simp, hnone⟩
    · exact ⟨[], by simp, by simp, hnone⟩
    · obtain ⟨ok, hreq⟩ := onChangeRequest_cases env t id target
      rw [hreq]
      split
      · exact ⟨[], by simp [record], by simp, hnone⟩
      · rcases queue_beginStop env (Turn.modify _ id _) id with hq | hq <;> rw [hq]
        · exact ⟨[], by simp [record, modify], by simp, hnone⟩
        · refine ⟨[(id, .networkStopped)], rfl, by simp [Event.isClosing], ?_⟩
          simp [backlog, Event.cost]

structure Closes (now : Instant) (t t' : Turn) : Prop where
  queue : t'.queue = []
  path : Path now t.scene t'.scene
  onlyStops : OnlyStops t.scene t'.scene
  aired : t'.journal.aired = t.journal.aired

theorem closes_drain (env : Surroundings) (now : Instant) {n : Nat} (hsound : t.scene.Sound)
    (hclosing : ∀ p ∈ t.queue, p.2.isClosing = true) (hn : backlog t.queue ≤ n) :
    Closes now t (t.drain env now n) := by
  -- Each closing event leaves less to do than it took, so the time is enough.
  induction n generalizing t with
  | zero =>
    cases hq : t.queue with
    | nil => exact ⟨hq, .refl, .refl _, rfl⟩
    | cons p rest =>
      have hp := p.2.cost_pos
      simp only [hq, backlog] at hn
      omega
  | succ n ih =>
    rw [drain]
    cases hq : t.queue with
    | nil => exact ⟨hq, .refl, .refl _, rfl⟩
    | cons p rest =>
      obtain ⟨id, e⟩ := p
      have he : e.isClosing = true := hclosing (id, e) (by simp [hq])
      let t₁ : Turn := { t with queue := rest }
      have hpath := path_handle_closing env now id (t := t₁) hsound he
      have hstops := onlyStops_handle_closing env now id (t := t₁) hsound he
      have haired := aired_handle_closing env now t₁ id he
      obtain ⟨more, hmore, hclose, hcost⟩ :=
        queue_handle_closing env now t₁ id he
      have hrest : Closes now (t₁.handle env now id e)
          (drain env now n (t₁.handle env now id e)) := by
        refine ih (hpath.sound hsound) ?_ ?_
        · rw [hmore]
          intro p hp
          rcases List.mem_append.mp hp with hp | hp
          · exact hclosing p (by simp [hq, show p ∈ rest from hp])
          · exact hclose p hp
        · rw [hmore, backlog_append]
          simp only [hq, backlog] at hn hcost ⊢
          have hrest : t₁.queue = rest := rfl
          rw [hrest]
          omega
      exact ⟨hrest.queue, hpath.trans hrest.path, hstops.trans hrest.onlyStops,
        hrest.aired.trans haired⟩

end Turn

end Hotspot

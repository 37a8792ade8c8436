import Hotspot.Proofs.AccessPoint.JournalWrites

/-!
What an answer to one event does to the run of listening. Radar, the end of listening and a stop of
a session that listens aside, a run that is under way goes on as it is; without one the session that
the event is for may begin one, and then it waits for it.
-/

set_option autoImplicit false
set_option relaxedAutoImplicit false

namespace Hotspot

namespace Scene

/-- The run of listening stays what it is, or one begins for which the session waits. -/
def Sustains (id : SessionId) (σ σ' : Scene) : Prop :=
  σ'.airspace.run = σ.airspace.run ∨ σ.airspace.run = none ∧
    ∃ run st, σ'.airspace.run = some run ∧ σ'.stance id = some st ∧ st.Waits run

private theorem Sustains.after {id : SessionId} {σ σ' σ'' : Scene} (h : Sustains id σ' σ'')
    (hrun : σ'.airspace.run = σ.airspace.run) : Sustains id σ σ'' := by
  unfold Sustains at h ⊢
  rwa [hrun] at h

end Scene

namespace Turn

open Scene (Sustains)

variable {env : Surroundings} {now : Instant} {t : Turn} {s : Session} {id : SessionId}

private theorem stance_modify {f : Session → Session} {g : Stance → Stance} {st : Stance}
    (hs : t.scene.stance id = some st) (hid : ∀ s, (f s).id = s.id)
    (hg : ∀ s, (f s).stance = g s.stance) : (t.modify id f).scene.stance id = some (g st) := by
  rw [scene_modify t id hid hg, Scene.alter_stance_self, hs]
  rfl

private theorem Writes.sustains {t' : Turn} (h : Writes (fun _ => True) t t') :
    Sustains id t.scene t'.scene :=
  .inl h.run

private theorem sustains_beginListening {p : Phase} {tu : Tuning} {tg : Option Tuning}
    (hs : t.scene.stance s.id = some ⟨p, some tu, tg⟩)
    (hr : ∃ c ∈ tu.channels, t.airspace.domain.isRadar c = true) :
    Sustains s.id t.scene (t.beginListening env s tu now).scene := by
  unfold beginListening
  split
  · split
    · exact Writes.sustains (writes_awaitListening t trivial tu _)
    · exact Writes.sustains ((writes_notify t trivial rfl).trans (writes_beginStop env _ trivial))
  · rename_i hrun
    obtain ⟨c, hc, -⟩ := hr
    have hwaits (t : Turn) (d : Duration) : (t.awaitListening s.id tu d).airspace.run =
        t.airspace.run := (writes_awaitListening (S := fun _ => True) t trivial tu d).run
    refine .inr ⟨hrun, ⟨tu.channel, tu.channels, t.airspace.table.listening tu.channels, now⟩,
      ⟨.listening, some tu, tg⟩, hwaits _ _, ?_, rfl, c, hc, hc⟩
    rw [scene_awaitListening, Scene.alter_stance_self]
    exact congrArg (Option.map _) hs

private theorem sustains_prepared (env : Surroundings) (t : Turn) (s : Session) (now : Instant)
    {next : Turn → Session → Turn}
    (hnext : ∀ t₁ s₁, t₁.airspace.run = t.airspace.run → t₁.scene.stance = t.scene.stance →
      s₁.id = s.id → Sustains s.id t.scene (next t₁ s₁).scene) :
    Sustains s.id t.scene (t.prepared env s now next).scene := by
  have hopen := writes_openControl (S := fun _ => True) env t (s := s) trivial
  obtain ⟨hscene, -⟩ := openControl_spec env t s
  unfold prepared
  generalize t.openControl env s = opened at *
  obtain ⟨opened, t₁⟩ := opened
  dsimp only at *
  cases opened with
  | false => exact (hopen.trans (writes_failStart env t₁ trivial)).sustains
  | true =>
    have hbuild : Writes (fun _ => True) t₁ (t₁.ensureTable env s.id now).2 :=
      writes_ensureTable env t₁ trivial now
    obtain ⟨-, hstance, -⟩ := ensureTable_spec env t₁ s.id now
    generalize t₁.ensureTable env s.id now = built at *
    obtain ⟨built, t₂⟩ := built
    dsimp only at *
    rw [hscene] at hstance
    cases built with
    | false => exact ((hopen.trans hbuild).trans (writes_failStart env t₂ trivial)).sustains
    | true => exact hnext t₂ { s with controlOpen := true } (hopen.trans hbuild).run hstance rfl

private theorem sustains_onStartRequest (env : Surroundings) (t : Turn) (s : Session)
    (now : Instant) : Sustains s.id t.scene (t.onStartRequest env s now).scene := by
  rw [onStartRequest_eq]
  refine sustains_prepared env t s now fun t₁ s₁ hrun _ _ => .inl ?_
  have hselects : Writes (fun _ => True) t₁ (t₁.enter s₁.id .selecting) :=
    writes_enter t₁ trivial .selecting
  exact (hselects.trans (writes_commandElse env _ trivial _ _)).run.trans hrun

private theorem sustains_startGiven {target : Tuning} {p : Phase} {tg : Option Tuning}
    (hs : t.scene.stance s.id = some ⟨p, some target, tg⟩) :
    Sustains s.id t.scene (startGiven env target now t s).scene := by
  unfold startGiven
  split
  · rename_i hlisten
    obtain ⟨ok, hc⟩ := exists_command_eq env t s.id (.startNetwork (t.startParameters s target))
    rw [hc]
    cases ok
    · have htold : Writes (fun _ => True) t
          (t.record (.command s.id (.startNetwork (t.startParameters s target)) false)) :=
        writes_record t trivial
      exact (htold.trans (writes_failStart env _ trivial)).sustains
    · exact sustains_beginListening (t := t.record _) hs (exists_isRadar_of_mustListen hlisten)
  · exact Writes.sustains (writes_beginStart env t trivial target)

private theorem sustains_tuneAndStart {target : Tuning} {st : Stance}
    (hs : t.scene.stance s.id = some st) :
    Sustains s.id t.scene (tuneAndStart env target now t s).scene := by
  obtain ⟨table, -, heq, -⟩ := usable_spec t target now
  unfold tuneAndStart
  generalize t.usable target now = found at *
  obtain ⟨ok, t₁⟩ := found
  dsimp only at heq
  subst heq
  cases ok with
  | false =>
    have htold : Writes (fun _ => True) (t.withTable table)
        ((t.withTable table).notify s.id .noChannel) := writes_notify _ trivial rfl
    exact .inl (htold.trans (writes_failStart env _ trivial)).run
  | true =>
    have htuned : ((t.withTable table).modify s.id fun s =>
        { s with ceiling := some s.widest, tuning := some target }).scene.stance s.id =
          some ⟨st.phase, some target, st.target⟩ :=
      stance_modify (t := t.withTable table) (g := fun st => { st with tuning := some target })
        hs (fun _ => rfl) fun _ => rfl
    exact (sustains_startGiven (s := { s with ceiling := some s.widest, tuning := some target })
      htuned).after rfl

private theorem sustains_onTunedStartRequest {target : Tuning} {st : Stance}
    (hs : t.scene.stance s.id = some st) :
    Sustains s.id t.scene (t.onTunedStartRequest env s target now).scene := by
  rw [onTunedStartRequest_eq]
  refine sustains_prepared env t s now fun t₁ s₁ hrun hstance hid => ?_
  rw [← hstance, ← hid] at hs
  rw [← hid]
  exact (sustains_tuneAndStart hs).after hrun

private theorem sustains_onStartSuccess {tg : Option Tuning}
    (hs : t.scene.stance s.id = some ⟨.starting, s.tuning, tg⟩) :
    Sustains s.id t.scene (t.onStartSuccess env s now).scene := by
  rcases onStartSuccess_cases env t s now with heq | ⟨tu, htu, ⟨hm, heq⟩ | ⟨-, heq⟩⟩ <;> rw [heq]
  · exact Writes.sustains (writes_failStart env t trivial)
  · rw [htu] at hs
    exact sustains_beginListening hs (exists_isRadar_of_mustListen hm)
  · exact Writes.sustains (writes_markStarted t trivial)

private theorem sustains_goOn {p : Phase} {tu : Tuning} {tg : Option Tuning}
    (hs : t.scene.stance s.id = some ⟨p, some tu, tg⟩) :
    Sustains s.id t.scene (t.goOn env s tu now).scene := by
  unfold goOn
  split
  · rename_i hm
    exact sustains_beginListening hs (exists_isRadar_of_mustListen hm)
  · exact Writes.sustains (writes_enter t trivial .started)

private theorem sustains_onChannelChanged {st : Stance} (hs : t.scene.stance s.id = some st)
    (tuning : Tuning) : Sustains s.id t.scene (t.onChannelChanged env s tuning now).scene := by
  cases htg : s.target with
  | none =>
    rw [scene_confirm htg]
    exact .inl rfl
  | some tg =>
    rw [onChannelChanged_of_target htg]
    have harrived : (t.modify s.id (arrive tuning)).scene.stance s.id =
        some ⟨st.phase, some tuning, none⟩ :=
      stance_modify (g := fun st => ⟨st.phase, some tuning, none⟩) hs (fun _ => rfl) fun _ => rfl
    exact (sustains_goOn (t := (t.modify s.id (arrive tuning)).notify s.id _)
      (s := arrive tuning s) harrived).after rfl

private theorem sustains_handle (hsess : t.session? id = some s) {e : Event}
    (hreport : s.reports? e = none)
    (hover : s.awaits e = false) (hstay : s.phase = .listening → e ≠ .stopRequest) :
    Sustains id t.scene (t.handle env now id e).scene := by
  have hs : t.scene.stance id = some ⟨s.phase, s.tuning, s.target⟩ :=
    Controller.stance?_of_session? hsess
  have hanswer := answers_handle env now hsess e
  rw [← Controller.id_of_session? hsess] at hs hanswer ⊢
  generalize t.handle env now s.id e = t' at hanswer ⊢
  cases hanswer with
  | start => exact sustains_onStartRequest env t s now
  | tunedStart => exact sustains_onTunedStartRequest hs
  | scanned success => exact Writes.sustains (writes_onScanComplete env t trivial success now)
  | fail => exact Writes.sustains (writes_failStart env t trivial)
  | started hp =>
    rw [hp] at hs
    exact sustains_onStartSuccess hs
  | confirmed tuning => exact sustains_onChannelChanged hs tuning
  | ended hp => simp [Session.awaits, hp] at hover
  | radar channels hp => simp [Session.reports?, hp] at hreport
  | stopListening hp => exact absurd rfl (hstay hp)
  | stop => exact Writes.sustains (writes_beginStop env t trivial)
  | announced => exact Writes.sustains (writes_onSwitchAnnounced t trivial)
  | joined | left | ignored => exact .inl rfl
  | change target => exact Writes.sustains (writes_onChangeRequest env t trivial target)
  | arrived => exact .inl (writes_enter (S := fun _ => True) t trivial .starting).run
  | stopped => exact Writes.sustains (writes_finishStop env t trivial)

/-- Radar, the end of listening and a stop while listening aside, the answer to an event leaves the
run alone, or begins one for the session. -/
theorem sustains_react (env : Surroundings) (now : Instant) (hsess : t.session? id = some s)
    {e : Event} (hreport : s.reports? e = none) (hover : s.awaits e = false)
    (hstay : s.phase = .listening → e ≠ .stopRequest) :
    Sustains id t.scene (t.react env now id e).scene := by
  by_cases harrive : Arrives s e
  · obtain ⟨-, hreact⟩ := react_of_arrives env now hsess harrive
    obtain ⟨-, -, tuning, rfl⟩ := harrive
    rw [hreact]
    have hstarts : Writes (fun _ => True) t (t.enter id .starting) :=
      writes_enter t trivial .starting
    exact (sustains_handle (session?_enter hsess .starting) rfl rfl nofun).after hstarts.run
  · rw [react_of_not_arrives hsess harrive]
    exact sustains_handle hsess hreport hover hstay

end Turn

end Hotspot

import Hotspot.Proofs.AccessPoint.ClearedUnbarred
import Hotspot.Proofs.AccessPoint.OperationProgress

/-!
A channel is cleared only as long as some session is on it: nobody would notice radar there
otherwise. Two things break this. A run of listening that is complete clears all its channels, also
those whose last session has left meanwhile; and a session that is on another channel from now on,
as the layer below says, does not release the channels that it was the last one on.
-/

set_option autoImplicit false
set_option relaxedAutoImplicit false

namespace Hotspot

open Scene (Path OnlyStops Strikes Completes Managed)
open Stance (GivesUp OwnStep)

def Stance.Vacant (st : Stance) : Prop :=
  st.phase = .disconnected ∨ st.phase = .selecting → st.tuning = none

/-- The session takes over the tuning that the event reports: it starts there, or has arrived where
it was moving. -/
def Session.Takes (s : Session) (e : Event) (new : Tuning) : Prop :=
  e.heard? = some new ∧
    (s.phase = .starting ∨ s.phase = .disconnecting ∧ s.target.isSome = true)

namespace Controller

/-- Some session is on every channel that is cleared. -/
def Monitored (c : Controller) : Prop :=
  ∀ ch ∈ c.airspace.cleared, ∃ s ∈ c.sessions, ch ∈ s.occupied

/-- The operation completes a run with a radar channel that no session is on. -/
def ClearsVacant (c : Controller) (op : Operation) : Prop :=
  ∃ run, c.completes? op = some run ∧ ∃ ch ∈ run.channels,
    c.airspace.domain.isRadar ch = true ∧ ∀ s ∈ c.sessions, ch ∉ s.occupied

/-- With the operation a session takes over another tuning and leaves behind a cleared channel that
it was the only one on. -/
def LeavesCleared (c : Controller) (op : Operation) : Prop :=
  ∃ env now id e new s, op = .dispatch env now id e ∧ c.session? id = some s ∧ s.Takes e new ∧
    ∃ ch ∈ c.airspace.cleared, ch ∉ new.channels ∧ ∀ o ∈ c.sessions, o.id ≠ id → ch ∉ o.occupied

end Controller

namespace Stance

variable {st st' : Stance} {ms : List Mark} {e : Event}

private theorem Vacant.initial : Stance.initial.Vacant := fun _ => rfl

private theorem vacant_of_phase (hd : st.phase ≠ .disconnected) (hs : st.phase ≠ .selecting) :
    st.Vacant :=
  fun h => absurd h (not_or_intro hd hs)

private theorem GivesUp.vacant (h : GivesUp st ms st') (hv : st.Vacant) : st'.Vacant := by
  cases h with
  | still => exact hv
  | fail | finish => exact .initial
  | drop => exact vacant_of_phase nofun nofun

private theorem OwnStep.vacant (h : OwnStep e st ms st') (hv : st.Vacant) : st'.Vacant := by
  cases h with
  | failAtOnce => exact .initial
  | select tu tg => exact fun _ => hv (.inl rfl)
  | _ => exact vacant_of_phase nofun nofun

private theorem OwnStep.occupied (h : OwnStep e st ms st') (hv : st.Vacant)
    (hstays : st.phase = .starting → e.heard? = none) : ∀ ch ∈ st.occupied, ch ∈ st'.occupied := by
  have hnone (htu : st.tuning = none) : ∀ ch ∈ st.occupied, ch ∈ st'.occupied := by
    simp [Stance.occupied, htu]
  cases h with
  | failAtOnce => exact hnone (hv (.inl rfl))
  | select | start | leave => exact fun _ h => h
  | launch p _ _ _ before =>
    exact hnone (hv (before.imp And.left fun h => h))
  | listen p tu tg new before | refuse p tu tg new before =>
    rcases before with ⟨rfl, -⟩ | ⟨-, rfl⟩
    · exact hnone (hv (.inl rfl))
    · exact fun _ h => h
  | confirm tu new heard =>
    rw [hstays rfl] at heard
    cases heard

end Stance

namespace Controller

variable {c : Controller} {op : Operation} {id : SessionId} {st st' : Stance} {ms : List Mark}

private theorem Responds.vacant (h : c.Responds op id st ms st') (hv : st.Vacant) : st'.Vacant := by
  cases h with
  | aside => exact hv
  | closed => exact .initial
  | act st₁ _ _ _ acts givesUp =>
    refine givesUp.vacant ?_
    cases acts with
    | answer _ _ _ _ _ _ _ _ _ ownStep => exact ownStep.vacant hv
    | givesUp _ _ _ _ _ _ _ _ _ givesUp => exact givesUp.vacant hv
    | arrive _ _ _ _ _ _ arrival => cases arrival <;> exact Stance.vacant_of_phase nofun nofun
    | flee _ _ _ _ _ _ movesAway => cases movesAway <;> exact Stance.vacant_of_phase nofun nofun
    | wake _ _ _ _ waitEnds => cases waitEnds <;> exact Stance.vacant_of_phase nofun nofun

def Vacant (c : Controller) : Prop :=
  ∀ id, (c.standing id).Vacant

theorem vacant_perform (hs : c.Sound) (hv : c.Vacant) (op : Operation) : (c.perform op).1.Vacant :=
  fun id => (responds_perform hs op id).vacant (hv id)

private theorem vacant_create {settings : Settings} {domain : Domain}
    (h : create settings domain = .ok c) : c.Vacant := by
  obtain ⟨table, -, rfl⟩ := create_eq h
  exact fun _ _ => rfl

theorem vacant_after (hs : c.Sound) (hv : c.Vacant) (ops : List Operation) :
    (c.after ops).Vacant := by
  induction ops using List.reverseRecOn with
  | nil => exact hv
  | append_singleton ops op ih =>
    rw [after_concat]
    exact vacant_perform (sound_after hs ops) ih op

end Controller

namespace Scene

variable {now : Instant} {σ σ' σ'' : Scene}

def Monitored (σ : Scene) : Prop :=
  ∀ ch ∈ σ.airspace.cleared, σ.Occupies ch

theorem Path.cleared_subset (h : Path now σ σ') :
    ∀ ch ∈ σ'.airspace.cleared, ch ∈ σ.airspace.cleared := by
  induction h with
  | refl => exact fun _ h => h
  | tail _ hmove ih =>
    intro ch hch
    refine ih ch ?_
    cases hmove with
    | release cleared hsub => exact hsub ch hch
    | _ => exact hch

private theorem OnlyStops.monitored_iff (h : OnlyStops σ σ') : σ'.Monitored ↔ σ.Monitored := by
  constructor
  · intro hm ch hch
    by_contra hn
    -- A channel that nobody was on before is released by nobody either.
    have hch' := (h.cleared ch).mpr ⟨hch, fun hocc => absurd hocc hn⟩
    exact hn (h.occupies (hm ch hch'))
  · intro hm ch hch
    obtain ⟨hcleared, hocc⟩ := (h.cleared ch).mp hch
    exact hocc (hm ch hcleared)

private theorem Managed.monitored (h : Managed σ σ')
    (hids : ∀ id st, σ.stance id = some st → id ∈ σ.ids)
    (hv : ∀ id st, σ.stance id = some st → st.phase = .disconnected → st.tuning = none)
    (hm : σ.Monitored) : σ'.Monitored := by
  cases h with
  | same => exact hm
  | opened new ids fresh added =>
    intro ch hch
    obtain ⟨id, st, hst, hocc⟩ := hm ch hch
    have hid : id ≠ new := by
      rintro rfl
      exact fresh (hids id st hst)
    exact ⟨id, st, by simpa [hid] using hst, hocc⟩
  | closed gone st found off =>
    intro ch hch
    obtain ⟨id, o, ho, hocc⟩ := hm ch hch
    by_cases hid : id = gone
    · subst hid
      obtain rfl := Option.some.inj (ho.symm.trans found)
      simp [Stance.occupied, hv id o found off] at hocc
    · exact ⟨id, o, by simpa [hid] using ho, hocc⟩
  | moved domain table off => exact fun ch hch => absurd hch List.not_mem_nil

private theorem Strikes.monitored {channels : List Channel} (h : Strikes now channels σ σ')
    (hm : σ.Monitored) : σ'.Monitored := by
  obtain ⟨run, hair, -⟩ := h.airspace
  intro ch hch
  rw [hair] at hch
  obtain ⟨id, st, hst, hocc⟩ := hm ch (List.mem_filter.mp hch).1
  by_cases haff : st.Affected channels
  · obtain ⟨st', hst', hev⟩ := h.affected id st hst haff
    exact ⟨id, st', hst', by cases hev <;> exact hocc⟩
  · have hsame := h.unaffected id fun o ho => by rw [hst] at ho; cases ho; exact haff
    exact ⟨id, st, hsame.trans hst, hocc⟩

private theorem Completes.monitored_iff {run : ListeningRun} {sent : SessionId → Prop}
    (h : Completes run sent σ σ') (hm : σ.Monitored) : σ'.Monitored ↔
      ¬ ∃ ch ∈ run.channels, σ.airspace.domain.isRadar ch = true ∧ ¬ σ.Occupies ch := by
  have hcleared (ch : Channel) : ch ∈ σ'.airspace.cleared ↔
      ch ∈ σ.airspace.cleared ∨ ch ∈ run.channels ∧ σ.airspace.domain.isRadar ch = true := by
    rw [h.airspace, Turn.mem_cleared_credited]
  constructor
  · rintro hafter ⟨ch, hch, hr, hn⟩
    have hocc := hafter ch ((hcleared ch).mpr (.inr ⟨hch, hr⟩))
    exact hn ((h.occupies_iff ch).mp hocc)
  · intro hn ch hch
    rw [h.occupies_iff]
    rcases (hcleared ch).mp hch with hold | ⟨hmem, hr⟩
    · exact hm ch hold
    · by_contra hfree
      exact hn ⟨ch, hmem, hr, hfree⟩

private theorem monitored_of_grow (hcleared : ∀ ch ∈ σ'.airspace.cleared, ch ∈ σ.airspace.cleared)
    {id : SessionId} {st st' : Stance} (hst : σ.stance id = some st)
    (hst' : σ'.stance id = some st') (hothers : ∀ j, j ≠ id → σ'.stance j = σ.stance j)
    (hocc : ∀ ch ∈ st.occupied, ch ∈ st'.occupied) (hm : σ.Monitored) : σ'.Monitored := by
  intro ch hch
  obtain ⟨j, o, ho, hmem⟩ := hm ch (hcleared ch hch)
  by_cases hj : j = id
  · subst hj
    obtain rfl := Option.some.inj (ho.symm.trans hst)
    exact ⟨j, st', hst', hocc ch hmem⟩
  · exact ⟨j, o, (hothers j hj).trans ho, hmem⟩

/-- One session is on another tuning from now on. The others stand where they stood, and no channel
is cleared or released. -/
structure Retuned (id : SessionId) (new : Tuning) (σ σ' : Scene) : Prop where
  cleared : σ'.airspace.cleared = σ.airspace.cleared
  own : ∃ st', σ'.stance id = some st' ∧ st'.tuning = some new
  others : ∀ j, j ≠ id → σ'.stance j = σ.stance j

private theorem Retuned.monitored_iff {id : SessionId} {new : Tuning} (h : Retuned id new σ σ') :
    σ'.Monitored ↔ ¬ ∃ ch ∈ σ.airspace.cleared, ch ∉ new.channels ∧
      ∀ j o, σ.stance j = some o → j ≠ id → ch ∉ o.occupied := by
  obtain ⟨st', hst', htu⟩ := h.own
  have hown : st'.occupied = new.channels := by simp [Stance.occupied, htu]
  unfold Monitored
  rw [h.cleared]
  constructor
  · rintro hafter ⟨ch, hch, hnew, hfree⟩
    obtain ⟨j, o, ho, hmem⟩ := hafter ch hch
    by_cases hj : j = id
    · subst hj
      obtain rfl := Option.some.inj (ho.symm.trans hst')
      exact hnew (hown ▸ hmem)
    · exact hfree j o ((h.others j hj).symm.trans ho) hj hmem
  · intro hn ch hch
    by_contra hfree
    refine hn ⟨ch, hch, fun hnew => hfree ⟨id, st', hst', hown ▸ hnew⟩, fun j o ho hj hmem => ?_⟩
    exact hfree ⟨j, o, (h.others j hj).trans ho, hmem⟩

end Scene

namespace Turn

variable {env : Surroundings} {now : Instant} {t t' : Turn} {s : Session} {id : SessionId}
  {e : Event} {new : Tuning}

private theorem cleared_awaitListening (t : Turn) (id : SessionId) (tu : Tuning) (d : Duration) :
    (t.awaitListening id tu d).airspace.cleared = t.airspace.cleared :=
  congrArg (fun σ : Scene => σ.airspace.cleared) (scene_awaitListening t id tu d)

private theorem cleared_beginListening (env : Surroundings) (t : Turn) (s : Session) (tu : Tuning)
    (now : Instant) : (t.beginListening env s tu now).airspace.cleared = t.airspace.cleared := by
  unfold beginListening
  split
  · split
    · exact cleared_awaitListening t s.id tu _
    · exact congrArg (fun σ : Scene => σ.airspace.cleared)
        (scene_beginStop env (t.notify s.id _) s.id)
  · exact cleared_awaitListening _ s.id tu _

private theorem cleared_goOn (env : Surroundings) (t : Turn) (s : Session) (tu : Tuning)
    (now : Instant) : (t.goOn env s tu now).airspace.cleared = t.airspace.cleared := by
  unfold goOn
  split
  · exact cleared_beginListening env t s tu now
  · exact congrArg (fun σ : Scene => σ.airspace.cleared) (scene_enter t s.id .started)

private theorem retuned_confirm (env : Surroundings) (now : Instant)
    (hsess : t.session? id = some s) (htarget : s.target = none) (new : Tuning) :
    Scene.Retuned id new t.scene (t.onChannelChanged env s new now).scene := by
  have hid := Controller.id_of_session? hsess
  have hs := Controller.stance?_of_session? hsess
  have hscene := scene_confirm htarget env t new now
  rw [hid] at hscene
  rw [hscene]
  refine ⟨rfl, ⟨⟨s.phase, some new, s.target⟩, ?_, rfl⟩, fun j hj => ?_⟩
  · rw [Scene.alter_stance_self, hs]
    rfl
  · exact Scene.alter_stance_ne _ _ hj

private theorem retuned_arrive (env : Surroundings) (now : Instant) (hsess : t.session? id = some s)
    (hp : s.phase = .disconnecting) (htg : s.target.isSome = true) (new : Tuning) :
    Scene.Retuned id new t.scene (t.react env now id (.channelChanged new)).scene := by
  obtain ⟨ms, st', harrival, hprogresses⟩ := progresses_react_of_arrives env now hsess new hp htg
  refine ⟨?_, ⟨st', hprogresses.stance, by cases harrival <;> rfl⟩, fun j hj => ?_⟩
  · obtain ⟨tg, hsome⟩ := Option.isSome_iff_exists.mp htg
    have hreact : t.react env now id (.channelChanged new) =
        (t.enter id .starting).onChannelChanged env { s with phase := .starting } new now := by
      rw [react, hsess]
      simp [hp, htg]
    rw [hreact, onChannelChanged_of_target (s := { s with phase := .starting }) hsome]
    refine (cleared_goOn env _ _ new now).trans ?_
    exact congrArg (fun σ : Scene => σ.airspace.cleared) (scene_arrive t id new)
  · exact congrArg Prod.fst (hprogresses.other hj)

private theorem retuned_react (env : Surroundings) (now : Instant) (hsess : t.session? id = some s)
    (hproper : s.stance.Proper t.airspace) (h : s.Takes e new) :
    Scene.Retuned id new t.scene (t.react env now id e).scene := by
  obtain ⟨hheard, hp⟩ := h
  cases e with
  | channelChanged tuning =>
    obtain rfl : tuning = new := Option.some.inj hheard
    rcases hp with hp | ⟨hp, htg⟩
    · have htarget : s.target = none :=
        hproper.target (by simp [Session.stance, hp]) (by simp [Session.stance, hp])
      have hreact : t.react env now id (.channelChanged tuning) =
          t.onChannelChanged env s tuning now := by
        rw [react, hsess]
        simp only [hp]
        rw [handle, hsess]
        simp only [hp]
      exact hreact ▸ retuned_confirm env now hsess htarget tuning
    · exact retuned_arrive env now hsess hp htg tuning
  | _ => cases hheard

private theorem monitored_react (env : Surroundings) (now : Instant)
    (hsess : t.session? id = some s)
    (hn : t.scene.ids.Nodup) (hproper : s.stance.Proper t.airspace) (hv : s.stance.Vacant)
    (hreport : s.reports? e = none) (hover : s.awaits e = false) (hstays : ∀ new, ¬ s.Takes e new)
    (hm : t.scene.Monitored) : (t.react env now id e).scene.Monitored := by
  have hs := Controller.stance?_of_session? hsess
  obtain ⟨σ, hreported, hpath⟩ := path_react env now hsess hproper hreport hover
  have hcleared : ∀ ch ∈ (t.react env now id e).scene.airspace.cleared,
      ch ∈ t.scene.airspace.cleared := fun ch hch =>
    hreported.airspace ▸ hpath.cleared_subset ch hch
  have hstay : ¬ Arrives s e := by
    rintro ⟨hp, htg, tuning, rfl⟩
    exact hstays tuning ⟨rfl, .inr ⟨hp, htg⟩⟩
  rw [react_of_not_arrives hsess hstay] at hcleared ⊢
  obtain ⟨ms, st', hprogresses, hstep | ⟨hgivesUp, htu | hstops⟩⟩ :=
    replies_handle env now hsess hn hproper hreport hover hstay
  · refine Scene.monitored_of_grow hcleared hs hprogresses.stance
      (fun j hj => congrArg Prod.fst (hprogresses.other hj)) (hstep.occupied hv fun hp => ?_) hm
    cases hheard : e.heard? with
    | none => rfl
    | some new => exact absurd ⟨hheard, .inl hp⟩ (hstays new)
  · refine Scene.monitored_of_grow hcleared hs hprogresses.stance
      (fun j hj => congrArg Prod.fst (hprogresses.other hj)) (fun ch hch => ?_) hm
    rwa [Stance.occupied, htu]
  · exact hstops.monitored_iff.mpr hm

end Turn

namespace Controller

variable {c : Controller} {op : Operation} {env : Surroundings} {now : Instant} {id : SessionId}
  {s : Session} {e : Event}

private theorem monitored_iff_scene (hn : c.scene.ids.Nodup) : c.Monitored ↔ c.scene.Monitored := by
  refine forall_congr' fun ch => forall_congr' fun _ => ?_
  exact occupies_iff hn ch

private theorem vacant_of_session? (hv : c.Vacant) (h : c.session? id = some s) : s.stance.Vacant :=
  standing_of_session? h ▸ hv id

private theorem leavesCleared_dispatch_iff (hn : c.scene.ids.Nodup) (h : c.session? id = some s) :
    c.LeavesCleared (.dispatch env now id e) ↔ ∃ new, s.Takes e new ∧
      ∃ ch ∈ c.airspace.cleared, ch ∉ new.channels ∧
        ∀ j o, c.scene.stance j = some o → j ≠ id → ch ∉ o.occupied := by
  have hothers (ch : Channel) : (∀ o ∈ c.sessions, o.id ≠ id → ch ∉ o.occupied) ↔
      ∀ j o, c.scene.stance j = some o → j ≠ id → ch ∉ o.occupied :=
    forall_mem_iff (P := fun j o => j ≠ id → ch ∉ o.occupied) hn
  simp only [← hothers]
  constructor
  · rintro ⟨env, now, id, e, new, x, hop, hx, hnew, hch⟩
    cases hop
    obtain rfl := Option.some.inj (hx.symm.trans h)
    exact ⟨new, hnew, hch⟩
  · rintro ⟨new, hnew, hch⟩
    exact ⟨env, now, id, e, new, s, rfl, h, hnew, hch⟩

private theorem monitored_dispatch_iff (hs : c.Sound) (hv : c.Vacant) (hm : c.scene.Monitored)
    (h : c.session? id = some s) (hreport : s.reports? e = none) (hover : s.awaits e = false) :
    (c.perform (.dispatch env now id e)).1.scene.Monitored ↔
      ¬ c.LeavesCleared (.dispatch env now id e) := by
  have hclose := closes_dispatch hs h hreport hover env now
  have hproper := proper_of_session? hs h
  rw [perform_dispatch h, leavesCleared_dispatch_iff hs.scene.nodup h]
  refine hclose.onlyStops.monitored_iff.trans ?_
  by_cases htakes : ∃ new, s.Takes e new
  · obtain ⟨new, htakes⟩ := htakes
    have hretuned := Turn.retuned_react (t := c.turn) env now h hproper htakes
    have hunique (other : Tuning) : s.Takes e other ↔ other = new := by
      refine ⟨fun ho => Option.some.inj (ho.1.symm.trans htakes.1), ?_⟩
      rintro rfl
      exact htakes
    simp only [hunique, exists_eq_left]
    exact hretuned.monitored_iff
  · have hstays : ∀ new, ¬ s.Takes e new := not_exists.mp htakes
    refine iff_of_true ?_ fun ⟨new, hnew, _⟩ => hstays new hnew
    exact Turn.monitored_react (t := c.turn) env now h hs.scene.nodup hproper
      (vacant_of_session? hv h) hreport hover hstays hm

/-- The event is for an open session, and neither reports radar nor ends listening. -/
def Quiet (c : Controller) (op : Operation) : Prop :=
  ∃ env now id e s, op = .dispatch env now id e ∧ c.session? id = some s ∧
    s.reports? e = none ∧ s.awaits e = false

private theorem LeavesCleared.quiet (h : c.LeavesCleared op) : c.Quiet op := by
  obtain ⟨env, now, id, e, new, s, hop, hs, ⟨hheard, -⟩, -⟩ := h
  cases e with
  | channelChanged => exact ⟨env, now, id, _, s, hop, hs, rfl, rfl⟩
  | _ => cases hheard

theorem onlyStops_perform (hs : c.Sound) (now : Instant) (time : op.now? = some now)
    (quiet : c.reports? op = none) (pending : c.completes? op = none) (hn : ¬ c.Quiet op) :
    OnlyStops c.scene (c.perform op).1.scene := by
  cases op with
  | dispatch env now id e =>
    cases h : c.session? id with
    | none =>
      rw [perform_dispatch_of_none h]
      exact .refl _
    | some s =>
      have hreport : s.reports? e = none := by simpa [reports?, h] using quiet
      -- What is left is the end of listening without a run, which only closes.
      cases hover : s.awaits e with
      | false => exact absurd ⟨env, now, id, e, s, rfl, h, hreport, hover⟩ hn
      | true =>
        have hrun : c.airspace.run = none := by simpa [completes?, h, hover] using pending
        have hreact := (Turn.react_of_awaits env now (t := c.turn) h hover).trans
          (Turn.onListeningOver_of_none (t := c.turn) hrun env)
        have hclose := Turn.closes_settle (e := e) env now hs.queue h
        rw [hreact] at hclose
        rw [perform_dispatch h]
        exact (hclose hs.scene (by simp [hs.queue]) (by simp [hs.queue, Turn.backlog])).onlyStops
  | listeningOver env now =>
    have hrun : c.airspace.run = none := pending
    have hstops := (closes_listeningOver hs env now).onlyStops
    rw [Turn.onListeningOver_of_none (t := c.turn) hrun env] at hstops
    have hperform : c.perform (.listeningOver env now) =
        (((c.turn.onListeningOver env).settle env now).toController,
          ((c.turn.onListeningOver env).settle env now).journal) := rfl
    rw [hperform, Turn.onListeningOver_of_none (t := c.turn) hrun env]
    exact hstops
  | _ => cases time

/-- An operation keeps cleared channels monitored exactly if it neither clears a channel that no
session is on nor leaves one behind. -/
theorem monitored_perform_iff (hs : c.Sound) (hv : c.Vacant) (hm : c.Monitored) (op : Operation) :
    (c.perform op).1.Monitored ↔ ¬ c.ClearsVacant op ∧ ¬ c.LeavesCleared op := by
  have hscene := (monitored_iff_scene hs.scene.nodup).mp hm
  rw [monitored_iff_scene (sound_perform hs op).scene.nodup]
  have hvacant (id : SessionId) (st : Stance) (hst : c.scene.stance id = some st)
      (hp : st.phase = .disconnected) : st.tuning = none := by
    have h := hv id
    rw [standing_of_stance hst] at h
    exact h (.inl hp)
  -- The effect of an answer leaves open which tuning is taken over, so answers are set apart.
  by_cases hquiet : c.Quiet op
  · obtain ⟨env, now, id, e, s, rfl, h, hreport, hover⟩ := hquiet
    have hover' : ¬ c.ClearsVacant (.dispatch env now id e) := by
      rintro ⟨run, hended, -⟩
      simp [completes?, h, hover] at hended
    rw [monitored_dispatch_iff hs hv hscene h hreport hover]
    exact (and_iff_right hover').symm
  · have hstays : ¬ c.LeavesCleared op := fun h => hquiet h.quiet
    have hstops (now : Instant) (time : op.now? = some now) (quiet : c.reports? op = none)
        (pending : c.completes? op = none) := onlyStops_perform hs now time quiet pending hquiet
    have heffect := (effect_perform hs op).1
    generalize c.perform op = result at heffect hstops ⊢
    cases heffect with
    | manage c' _ pending how =>
      refine iff_of_true (how.monitored (fun _ _ => mem_ids_of_stance) hvacant hscene) ⟨?_, hstays⟩
      simp [ClearsVacant, pending]
    | move now σ c' j time quiet pending =>
      have hfaded := hstops now time quiet pending
      refine iff_of_true (hfaded.monitored_iff.mpr hscene) ⟨?_, hstays⟩
      simp [ClearsVacant, pending]
    | strike now channels σ c' j _ _ pending strikes _ onlyStops =>
      refine iff_of_true (onlyStops.monitored_iff.mpr (strikes.monitored hscene)) ⟨?_, hstays⟩
      simp [ClearsVacant, pending]
    | complete now run σ c' j _ _ ended _ completes _ onlyStops =>
      refine (onlyStops.monitored_iff.trans (completes.monitored_iff hscene)).trans ?_
      have hfree (ch : Channel) : (∀ s ∈ c.sessions, ch ∉ s.occupied) ↔ ¬ c.scene.Occupies ch := by
        rw [← occupies_iff hs.scene.nodup]
        simp
      simp only [ClearsVacant, ended, Option.some.injEq, exists_eq_left', hfree]
      exact (and_iff_left hstays).symm

/-- Throughout a run of a controller some session is on every channel that is cleared, exactly if no
operation of the run clears a channel that no session is on or leaves one behind. -/
theorem monitored_throughout_iff {settings : Settings} {domain : Domain}
    (h : create settings domain = .ok c) (ops : List Operation) :
    (∀ done, done <+: ops → (c.after done).Monitored) ↔
      ∀ done op, done ++ [op] <+: ops →
        ¬ (c.after done).ClearsVacant op ∧ ¬ (c.after done).LeavesCleared op := by
  have hs := sound_create h
  have hv := vacant_create h
  have hnew : c.Monitored := by
    obtain ⟨table, -, rfl⟩ := create_eq h
    exact fun ch hch => absurd hch List.not_mem_nil
  have hiff := throughout_iff (P := fun c => c.Vacant ∧ c.Monitored)
    (H := fun c op => c.ClearsVacant op ∨ c.LeavesCleared op) hs ⟨hv, hnew⟩
      (fun c op hs hp => ?_) ops
  · simpa [vacant_after hs hv] using hiff
  · rw [monitored_perform_iff hs hp.1 hp.2 op, not_or]
    exact and_iff_right (vacant_perform hs hp.1 op)

open FourChannels in
theorem monitored_throughout_heardOut : create {} domain = .ok controller ∧
    ∀ done, done <+: heardOut → (controller.after done).Monitored := by
  refine ⟨created, (monitored_throughout_iff created heardOut).mpr fun done op hdone => ⟨?_, ?_⟩⟩
  · rcases List.prefix_concat_iff.mp hdone with hlast | hbefore
    · obtain ⟨rfl, -⟩ := List.append_inj' hlast rfl
      rintro ⟨run, hended, ch, hch, -, hfree⟩
      have hocc : ∀ ch ∈ ((controller.after joined).airspace.run.map (·.channels)).getD [],
          ∃ s ∈ (controller.after joined).sessions, ch ∈ s.occupied := by
        decide +kernel
      rw [run_of_completes? hended] at hocc
      obtain ⟨s, hs, hmem⟩ := hocc ch hch
      exact hfree s hs hmem
    · rintro ⟨run, hended, -⟩
      have hop : op ∈ joined := hbefore.subset (by simp)
      rw [(quiet_of_mem_joined _ hop).2.1] at hended
      cases hended
  · rintro ⟨env, now, id, e, new, s, rfl, -, ⟨hheard, -⟩, -⟩
    have hop : Operation.dispatch env now id e ∈ heardOut := hdone.subset (by simp)
    have hquiet := (quiet_of_mem_heardOut (controller.after done) hop).2
    simp [Operation.heard?, hheard] at hquiet

open FourChannels in
/-- Radar on channel 52 moves a session that listened on all four channels to 60 and 64. Channel 56
stays cleared, and nobody is on it. -/
theorem not_monitored_after_move : create {} domain = .ok controller ∧
    ¬ (controller.after
      [.openSession { accessPoint 52 with channel := .fixed 52, width := .mhz80 },
        send 0 0 (.tunedStartRequest ⟨52, .mhz80, .firstOfFour⟩),
        .listeningOver willing (Duration.millis 60000 : Nat),
        send 61000 0 (.radarDetected [52]), send 62000 0 .switchAnnounced,
        send 63000 0 (.channelChanged ⟨60, .mhz40, .firstOfTwo⟩)]).Monitored := by
  refine ⟨created, ?_⟩
  unfold Monitored
  decide +kernel

end Controller

end Hotspot

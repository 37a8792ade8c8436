import Hotspot.Proofs.AccessPoint.StopRequest
import Hotspot.Proofs.AccessPoint.RunKept

/-!
A run of listening is kept up for somebody: while it goes on, some session waits for it. Two things
leave a run behind for which nobody waits. A session that stops listening ends the run only if no
other session listens at all, though the others may listen elsewhere; and radar ends it only if it
is found where the run listens, though it may drive away everybody who waits. Nothing else does.
-/

set_option autoImplicit false
set_option relaxedAutoImplicit false

namespace Hotspot

open Scene (OnlyStops Strikes Managed)

namespace Controller

/-- While a run is under way, some session waits for it. -/
def Watched (c : Controller) : Prop :=
  ∀ run, c.airspace.run = some run →
    ∃ s ∈ c.sessions, s.phase = .listening ∧ s.overlaps run.channels = true

/-- A session stops listening, another one listens, and none but the one that stops waits for the
run. -/
def LeavesNoneWaiting (c : Controller) (op : Operation) : Prop :=
  ∃ env now id run, op = .dispatch env now id .stopRequest ∧ c.phase? id = some .listening ∧
    c.airspace.run = some run ∧ (∃ o ∈ c.sessions, o.id ≠ id ∧ o.phase = .listening) ∧
    ∀ o ∈ c.sessions, o.id ≠ id → o.phase = .listening → o.overlaps run.channels = false

/-- Radar is found on none of the channels of the run, and on some channel of every session that
waits for it. -/
def DrivesAllAway (c : Controller) (op : Operation) : Prop :=
  ∃ channels run, c.reports? op = some channels ∧ c.airspace.run = some run ∧
    (∀ ch ∈ run.channels, ch ∉ channels) ∧
    ∀ s ∈ c.sessions, s.phase = .listening → s.overlaps run.channels = true →
      s.overlaps channels = true

/-- The operation leaves a run behind for which nobody waits. -/
def LeavesUnwatched (c : Controller) (op : Operation) : Prop :=
  c.LeavesNoneWaiting op ∨ c.DrivesAllAway op

end Controller

namespace Scene

def Watched (σ : Scene) : Prop :=
  ∀ run, σ.airspace.run = some run → ∃ id st, σ.stance id = some st ∧ st.Waits run

/-- Some session other than the one with the number listens, and none of them waits for the run. -/
def LeavesNoneWaiting (id : SessionId) (σ : Scene) : Prop :=
  ∃ run, σ.airspace.run = some run ∧
    (∃ j o, σ.stance j = some o ∧ j ≠ id ∧ o.phase = .listening) ∧
    ∀ j o, σ.stance j = some o → j ≠ id → ¬ o.Waits run

/-- The channels are none of the run, and drive away everybody who waits for it. -/
def DrivesAllAway (channels : List Channel) (σ : Scene) : Prop :=
  ∃ run, σ.airspace.run = some run ∧ (∀ ch ∈ run.channels, ch ∉ channels) ∧
    ∀ id st, σ.stance id = some st → st.Waits run → st.Affected channels

variable {now : Instant} {σ σ' : Scene}

private theorem isHit_eq_false {a : Airspace} {run : ListeningRun} (hrun : a.run = some run)
    (channels : List Channel) : a.isHit channels = false ↔ ∀ ch ∈ run.channels, ch ∉ channels := by
  simp [Airspace.isHit, hrun]

private theorem watched_of_none (h : σ.airspace.run = none) : σ.Watched :=
  fun _ hrun => absurd (h.symm.trans hrun) nofun

private theorem OnlyStops.watched_iff (h : OnlyStops σ σ') : σ'.Watched ↔ σ.Watched := by
  have hrun : σ'.airspace.run = σ.airspace.run := by rw [h.airspace]
  unfold Watched
  rw [hrun]
  refine forall_congr' fun run => imp_congr_right fun _ => exists_congr fun id =>
    exists_congr fun st => ?_
  have hstops := h.stance id
  constructor
  · rintro ⟨hst, hwait⟩
    rw [hst] at hstops
    exact ⟨hstops.eq_of_phase' (.inl hwait.1), hwait⟩
  · rintro ⟨hst, hwait⟩
    rw [hst] at hstops
    exact ⟨hstops.eq_of_phase (.inl hwait.1), hwait⟩

private theorem Managed.watched (h : Managed σ σ')
    (hids : ∀ id st, σ.stance id = some st → id ∈ σ.ids) (hw : σ.Watched) : σ'.Watched := by
  cases h with
  | same => exact hw
  | opened new ids hfresh =>
    intro run hrun
    obtain ⟨id, st, hst, hwait⟩ := hw run hrun
    have hid : id ≠ new := fun hid => hfresh (hid ▸ hids id st hst)
    exact ⟨id, st, (if_neg hid).trans hst, hwait⟩
  | closed gone st₀ hfound hoff =>
    intro run hrun
    obtain ⟨id, st, hst, hwait⟩ := hw run hrun
    refine ⟨id, st, (if_neg fun hid => ?_).trans hst, hwait⟩
    subst hid
    rw [hfound] at hst
    cases hst
    exact absurd (hoff.symm.trans hwait.1) nofun
  | moved => exact watched_of_none rfl

private theorem Strikes.watched_iff {channels : List Channel} (h : Strikes now channels σ σ')
    (hw : σ.Watched) : σ'.Watched ↔ ¬ DrivesAllAway channels σ := by
  obtain ⟨after, hair, hafter⟩ := h.airspace
  have hrun : σ'.airspace.run = after := by rw [hair]
  constructor
  · rintro hwatched ⟨run, hbefore, hmiss, haway⟩
    rcases hafter with ⟨-, hhit, -⟩ | ⟨hsame, -⟩
    · rw [(isHit_eq_false hbefore channels).mpr hmiss] at hhit
      cases hhit
    · obtain ⟨id, st', hst, hwait⟩ := hwatched run (hrun.trans (hsame.trans hbefore))
      obtain ⟨st, ho, ⟨haff, rfl⟩ | ⟨-, hev⟩⟩ := h.stance_cases hst
      · exact haff (haway id st' ho hwait)
      · have hp := hwait.1
        cases hev <;> cases hp
  · intro hn run hgoes
    rw [hrun] at hgoes
    rcases hafter with ⟨hnone, -⟩ | ⟨hsame, hspared⟩
    · exact absurd (hnone.symm.trans hgoes) nofun
    · have hbefore := hsame.symm.trans hgoes
      have hstays : ∃ id st, σ.stance id = some st ∧ st.Waits run ∧ ¬ st.Affected channels := by
        -- The run goes on where radar missed it, or where it concerned nobody.
        rcases hspared with hmiss | hnobody
        · by_contra hall
          push Not at hall
          exact hn ⟨run, hbefore, (isHit_eq_false hbefore channels).mp hmiss, hall⟩
        · obtain ⟨id, st, hst, hwait⟩ := hw run hbefore
          exact ⟨id, st, hst, hwait, hnobody id st hst⟩
      obtain ⟨id, st, hst, hwait, haff⟩ := hstays
      refine ⟨id, st, (h.unaffected id fun o ho => ?_).trans hst, hwait⟩
      rw [hst] at ho
      cases ho
      exact haff

end Scene

namespace Turn

variable {env : Surroundings} {now : Instant} {t : Turn} {s : Session} {id : SessionId}

private theorem awaited_iff (hn : t.scene.ids.Nodup) (id : SessionId) :
    (t.sessions.any fun o => o.id != id && o.phase == .listening) = true ↔
      ∃ j o, t.scene.stance j = some o ∧ j ≠ id ∧ o.phase = .listening := by
  rw [List.any_eq_true]
  refine Iff.trans (exists_congr fun o => and_congr_right fun _ => ?_)
    (Controller.exists_mem_iff (P := fun j st => j ≠ id ∧ st.phase = .listening) hn)
  simp [Session.stance]

private theorem watched_onListeningStop_iff (env : Surroundings) (hn : t.scene.ids.Nodup)
    (hs : (t.scene.stance id).isSome = true) :
    (t.onListeningStop env id).scene.Watched ↔ ¬ t.scene.LeavesNoneWaiting id := by
  have hawaited := awaited_iff hn id
  unfold onListeningStop
  generalize (t.sessions.any fun o => o.id != id && o.phase == .listening) = awaited at *
  dsimp only
  split
  · -- Nobody else listens: the run ends, and with it what had to be watched.
    rename_i hend
    rw [Bool.and_eq_true, Bool.not_eq_true'] at hend
    refine iff_of_true (Scene.watched_of_none ?_) ?_
    · exact (writes_beginStop (S := fun _ => True) env _ trivial).run
    · rintro ⟨run, -, hother, -⟩
      rw [← hawaited, hend.1] at hother
      cases hother
  · rename_i hend
    rw [scene_beginStop]
    constructor
    · rintro hwatched ⟨run, hrun, -, hnobody⟩
      obtain ⟨j, o, ho, hwait⟩ := hwatched run hrun
      by_cases hj : j = id
      · subst hj
        rw [Scene.alter_stance_self, Option.map_eq_some_iff] at ho
        obtain ⟨st, -, rfl⟩ := ho
        cases hwait.1
      · rw [Scene.alter_stance_ne _ _ hj] at ho
        exact hnobody j o ho hj hwait
    · intro hn' run hrun
      have hrun : t.scene.airspace.run = some run := hrun
      have hother : awaited = true := by
        have hsome : t.airspace.run.isSome = true := Option.isSome_of_eq_some hrun
        simpa [hsome] using hend
      by_contra hnobody
      refine hn' ⟨run, hrun, hawaited.mp hother, fun j o ho hj hwait => hnobody ⟨j, o, ?_, hwait⟩⟩
      rw [Scene.alter_stance_ne _ _ hj, ho]

private theorem react_of_listening (env : Surroundings) (now : Instant)
    (hsess : t.session? id = some s)
    (hp : s.phase = .listening) {e : Event} (hreport : s.reports? e = none)
    (hover : s.awaits e = false) (hstay : e ≠ .stopRequest) : t.react env now id e = t := by
  rw [react_of_not_arrives hsess (by simp [Arrives, hp]), handle, hsess]
  cases e <;> simp_all [Session.reports?, Session.awaits]

private theorem react_stop_of_listening (env : Surroundings) (now : Instant)
    (hsess : t.session? id = some s) (hp : s.phase = .listening) :
    t.react env now id .stopRequest = t.onListeningStop env id := by
  rw [react_of_not_arrives hsess (by simp [Arrives]), handle, hsess]
  simp [hp]

end Turn

namespace Controller

variable {c : Controller} {env : Surroundings} {now : Instant} {id : SessionId} {s : Session}
  {e : Event} {op : Operation}

private theorem watched_iff_scene (hn : c.scene.ids.Nodup) : c.Watched ↔ c.scene.Watched := by
  refine forall_congr' fun run => imp_congr_right fun _ => ?_
  refine Iff.trans (exists_congr fun s => and_congr_right fun _ => ?_)
    (exists_mem_iff (P := fun _ st => st.Waits run) hn)
  exact Turn.waits_stance.symm

private theorem drivesAllAway_iff_scene (hn : c.scene.ids.Nodup) : c.DrivesAllAway op ↔
    ∃ channels, c.reports? op = some channels ∧ c.scene.DrivesAllAway channels := by
  refine exists_congr fun channels => ?_
  have hall (run : ListeningRun) : (∀ s ∈ c.sessions, s.phase = .listening →
      s.overlaps run.channels = true → s.overlaps channels = true) ↔
        ∀ id st, c.scene.stance id = some st → st.Waits run → st.Affected channels := by
    refine Iff.trans (forall_congr' fun s => imp_congr_right fun _ => ?_)
      (forall_mem_iff (P := fun _ st => st.Waits run → st.Affected channels) hn)
    rw [Turn.affected_stance, Turn.waits_stance, and_imp]
    refine imp_congr_right fun hp => imp_congr_right fun _ => ?_
    simp [hp]
  simp only [hall, Scene.DrivesAllAway, exists_and_left]
  rfl

private theorem leavesNoneWaiting_dispatch_iff (hn : c.scene.ids.Nodup)
    (h : c.session? id = some s) :
    c.LeavesNoneWaiting (.dispatch env now id e) ↔
      (s.phase = .listening ∧ e = .stopRequest) ∧ c.scene.LeavesNoneWaiting id := by
  have hother : (∃ o ∈ c.sessions, o.id ≠ id ∧ o.phase = .listening) ↔
      ∃ j o, c.scene.stance j = some o ∧ j ≠ id ∧ o.phase = .listening :=
    exists_mem_iff (P := fun j st => j ≠ id ∧ st.phase = .listening) hn
  have hnobody (run : ListeningRun) : (∀ o ∈ c.sessions, o.id ≠ id → o.phase = .listening →
      o.overlaps run.channels = false) ↔
        ∀ j o, c.scene.stance j = some o → j ≠ id → ¬ o.Waits run := by
    refine Iff.trans (forall_congr' fun o => imp_congr_right fun _ => ?_)
      (forall_mem_iff (P := fun j st => j ≠ id → ¬ st.Waits run) hn)
    rw [Turn.waits_stance, not_and, Bool.not_eq_true]
  have hphase : c.phase? id = some s.phase := by rw [phase?, h, Option.map_some]
  constructor
  · rintro ⟨_, _, _, run, heq, hp, hrun, hsome, hnone⟩
    cases heq
    rw [hphase, Option.some.injEq] at hp
    exact ⟨⟨hp, rfl⟩, run, hrun, hother.mp hsome, (hnobody run).mp hnone⟩
  · rintro ⟨⟨hp, rfl⟩, run, hrun, hsome, hnone⟩
    exact ⟨env, now, id, run, rfl, hphase.trans (congrArg some hp), hrun, hother.mpr hsome,
      (hnobody run).mpr hnone⟩

private theorem watched_react (hs : c.Sound) (hw : c.scene.Watched) (h : c.session? id = some s)
    (hreport : s.reports? e = none) (hover : s.awaits e = false)
    (hstay : s.phase = .listening → e ≠ .stopRequest) (env : Surroundings) (now : Instant) :
    (c.turn.react env now id e).scene.Watched := by
  intro run hrun
  rcases Turn.sustains_react (t := c.turn) env now h hreport hover hstay with
    hsame | ⟨-, run', st, hrun', hst, hwait⟩
  · obtain ⟨j, o, ho, hwait⟩ := hw run (hsame.symm.trans hrun)
    refine ⟨j, o, ?_, hwait⟩
    by_cases hj : j = id
    · subst hj
      have hstance := stance?_of_session? h
      rw [hstance] at ho
      cases ho
      rw [Turn.react_of_listening (t := c.turn) env now h hwait.1 hreport hover (hstay hwait.1)]
      exact hstance
    · obtain ⟨ms, st', hprogresses, -⟩ := exists_acts env now hs h hreport hover
      have hprogress := hprogresses.other hj
      exact (congrArg Prod.fst hprogress).trans ho
  · rw [hrun', Option.some.injEq] at hrun
    exact ⟨id, st, hst, hrun ▸ hwait⟩

private theorem watched_dispatch_iff (hs : c.Sound) (hw : c.scene.Watched)
    (h : c.session? id = some s) (hreport : s.reports? e = none) (hover : s.awaits e = false) :
    (c.perform (.dispatch env now id e)).1.scene.Watched ↔
      ¬ ((s.phase = .listening ∧ e = .stopRequest) ∧ c.scene.LeavesNoneWaiting id) := by
  have honlyStops := (closes_dispatch hs h hreport hover env now).onlyStops
  rw [perform_dispatch h, honlyStops.watched_iff]
  by_cases hstop : s.phase = .listening ∧ e = .stopRequest
  · obtain ⟨hp, rfl⟩ := hstop
    rw [Turn.react_stop_of_listening (t := c.turn) env now h hp]
    have hstops := Turn.watched_onListeningStop_iff (t := c.turn) env hs.scene.nodup
      (Option.isSome_of_eq_some (stance?_of_session? h))
    simpa [hp] using hstops
  · refine iff_of_true (watched_react hs hw h hreport hover ?_ env now) fun hno => hstop hno.1
    exact fun hp he => hstop ⟨hp, he⟩

private theorem watched_of_awaits (hs : c.Sound) (h : c.session? id = some s)
    (hover : s.awaits e = true) : (c.perform (.dispatch env now id e)).1.scene.Watched := by
  cases hrun : c.airspace.run with
  | none =>
    rw [perform_dispatch h]
    exact (closes_idle hs h hover hrun env now).onlyStops.watched_iff.mpr
      (Scene.watched_of_none hrun)
  | some run =>
    have hpending : c.completes? (.dispatch env now id e) = some run := by
      simp [completes?, h, hover, hrun]
    have heffect : c.Effect (.dispatch env now id e) (c.perform (.dispatch env now id e)) :=
      (effect_complete hs h hover hrun).1
    generalize c.perform (.dispatch env now id e) = result at heffect
    cases heffect with
    | manage _ _ pending | move _ _ _ _ _ _ pending | strike _ _ _ _ _ _ _ pending =>
      rw [hpending] at pending
      cases pending
    | complete now run σ c' j _ _ _ _ completes path onlyStops =>
      have hnone : σ.airspace.run = none := by
        rw [completes.airspace]
        rfl
      exact onlyStops.watched_iff.mpr (Scene.watched_of_none hnone)

private theorem watched_of_untimed (hs : c.Sound) (hw : c.scene.Watched) (htime : op.now? = none) :
    (c.perform op).1.scene.Watched := by
  have heffect := (effect_perform hs op).1
  generalize c.perform op = result at heffect
  cases heffect with
  | manage c' _ _ how => exact how.watched (fun _ _ hst => mem_ids_of_stance hst) hw
  | move _ _ _ _ time | strike _ _ _ _ _ time | complete _ _ _ _ _ time =>
    rw [htime] at time
    cases time

/-- One operation leaves the run watched exactly if it does not orphan it. -/
theorem watched_perform_iff (hs : c.Sound) (hw : c.Watched) (op : Operation) :
    (c.perform op).1.Watched ↔ ¬ c.LeavesUnwatched op := by
  have hscene := (watched_iff_scene hs.scene.nodup).mp hw
  rw [watched_iff_scene (sound_perform hs op).scene.nodup, LeavesUnwatched,
    drivesAllAway_iff_scene hs.scene.nodup]
  have huntimed (op : Operation) (htime : op.now? = none) (hreport : c.reports? op = none)
      (hleaves : ¬ c.LeavesNoneWaiting op) : (c.perform op).1.scene.Watched ↔
        ¬ (c.LeavesNoneWaiting op ∨ ∃ channels, c.reports? op = some channels ∧
          c.scene.DrivesAllAway channels) :=
    iff_of_true (watched_of_untimed hs hscene htime) (by simp [hreport, hleaves])
  cases op with
  | openSession | closeSession | setDomain => exact huntimed _ rfl rfl (by simp [LeavesNoneWaiting])
  | listeningOver env now =>
    refine iff_of_true (Scene.watched_of_none (run_perform_listeningOver hs env now)) ?_
    simp [LeavesNoneWaiting, reports?]
  | dispatch env now id e =>
    cases h : c.session? id with
    | none =>
      rw [perform_dispatch_of_none h]
      refine iff_of_true hscene ?_
      rintro (⟨_, _, _, _, heq, hp, -⟩ | ⟨channels, hreport, -⟩)
      · cases heq
        simp [phase?, h] at hp
      · simp [reports?, h] at hreport
    | some s =>
      rw [leavesNoneWaiting_dispatch_iff hs.scene.nodup h]
      -- Only radar and a stop while listening can leave a run unwatched; the report tells them
      -- apart.
      cases hreport : s.reports? e with
      | some channels =>
        have hreports : c.reports? (.dispatch env now id e) = some channels := by
          simpa [reports?, h] using hreport
        have hstay :
          ¬ ((s.phase = .listening ∧ e = .stopRequest) ∧ c.scene.LeavesNoneWaiting id) := by
          rintro ⟨⟨-, rfl⟩, -⟩
          cases hreport
        have heffect : c.Effect (.dispatch env now id e) (c.perform (.dispatch env now id e)) :=
          (effect_strike hs h hreport).1
        simp only [hstay, false_or, hreports, Option.some.injEq, exists_eq_left']
        generalize c.perform (.dispatch env now id e) = result at heffect
        cases heffect with
        | manage _ quiet | move _ _ _ _ _ quiet | complete _ _ _ _ _ _ quiet =>
          rw [hreports] at quiet
          cases quiet
        | strike now channels' σ c' j _ reported _ strikes _ onlyStops =>
          obtain rfl : channels = channels' := Option.some.inj (hreports.symm.trans reported)
          exact onlyStops.watched_iff.trans (strikes.watched_iff hscene)
      | none =>
        have hreports : c.reports? (.dispatch env now id e) = none := by
          simpa [reports?, h] using hreport
        simp only [hreports, reduceCtorEq, false_and, exists_false, or_false]
        cases hover : s.awaits e with
        | false => exact watched_dispatch_iff hs hscene h hreport hover
        | true =>
          refine iff_of_true (watched_of_awaits hs h hover) ?_
          rintro ⟨⟨-, rfl⟩, -⟩
          cases hover

/-- Throughout a run of a controller somebody waits for every run of listening, exactly if no
operation leaves one behind. -/
theorem watched_throughout_iff {settings : Settings} {domain : Domain}
    (h : create settings domain = .ok c) (ops : List Operation) :
    (∀ done, done <+: ops → (c.after done).Watched) ↔
      ∀ done op, done ++ [op] <+: ops → ¬ (c.after done).LeavesUnwatched op := by
  refine throughout_iff (sound_create h) ?_ (fun c op hs hw => watched_perform_iff hs hw op) ops
  obtain ⟨table, -, rfl⟩ := create_eq h
  exact fun run hrun => nomatch hrun

open FourChannels in
theorem watched_throughout_heardOut : create {} domain = .ok controller ∧
    ∀ done, done <+: heardOut → (controller.after done).Watched := by
  refine ⟨created, (watched_throughout_iff created heardOut).mpr fun done op hdone => ?_⟩
  have hop : op ∈ heardOut := hdone.subset (by simp)
  rintro (⟨_, _, _, _, rfl, -⟩ | ⟨channels, _, hreport, -⟩)
  · simp [heardOut, joined, send] at hop
  · rw [(quiet_of_mem_heardOut _ hop).1] at hreport
    cases hreport

end Controller

namespace FourChannels

/-- Radar leaves a session behind on channel 52 that listens without a run; another one begins a run
on channel 56, and stops. -/
def leftRunning : List Operation :=
  [.openSession (accessPoint 64), .openSession (accessPoint 52), .openSession (accessPoint 52),
    send 0 0 (.tunedStartRequest ⟨52, .mhz80, .firstOfFour⟩),
    send 0 1 (.tunedStartRequest ⟨52, .mhz20, .alone⟩),
    send 1000 0 (.radarDetected [64]),
    send 2000000 2 (.tunedStartRequest ⟨56, .mhz20, .alone⟩), send 2001000 2 .stopRequest]

end FourChannels

namespace Controller

open FourChannels in
/-- The run on channel 56 goes on, and the only session that listens is on channel 52. -/
theorem not_watched_after_stop : create {} domain = .ok controller ∧
    ¬ (controller.after leftRunning).Watched := by
  refine ⟨created, fun hwatched => ?_⟩
  have hrun : ∃ run, (controller.after leftRunning).airspace.run = some run ∧
      run.channels = [56] := by decide +kernel
  have hnobody : ∀ s ∈ (controller.after leftRunning).sessions, s.phase = .listening →
      s.overlaps [56] = false := by decide +kernel
  obtain ⟨run, hsome, hchannels⟩ := hrun
  obtain ⟨s, hs, hp, hover⟩ := hwatched run hsome
  rw [hchannels, hnobody s hs hp] at hover
  cases hover

end Controller

end Hotspot

import Hotspot.Proofs.AccessPoint.Run

/-!
Who listens is attended: a run of listening goes on that listens to all its radar channels. Sessions
share the one run, and a session may listen to fewer channels than the run does. Radar on a channel
of the run ends it, but only sessions on the channels with radar move away: a session on other
channels of the run is left behind, waiting for a run that is over. Nothing else breaks attendance.
-/

set_option autoImplicit false
set_option relaxedAutoImplicit false

namespace Hotspot

open Scene (Path Reported OnlyStops Strikes Completes Managed)

def Stance.Attended (a : Airspace) (st : Stance) : Prop :=
  st.phase = .listening → ∃ run, a.run = some run ∧
    ∀ ch ∈ st.occupied, a.domain.isRadar ch = true → ch ∈ run.channels

namespace Controller

/-- For every session that listens, a run is under way that listens to all its radar channels. -/
def Attended (c : Controller) : Prop :=
  ∀ s ∈ c.sessions, s.phase = .listening → ∃ run, c.airspace.run = some run ∧
    ∀ ch ∈ s.occupied, c.airspace.domain.isRadar ch = true → ch ∈ run.channels

/-- Radar ends the run, since it concerns somebody and was found where the run listens, and some
session listens on none of the channels with radar. -/
def LeavesBehind (c : Controller) (op : Operation) : Prop :=
  ∃ channels, c.reports? op = some channels ∧ c.airspace.isHit channels = true ∧
    (∃ s ∈ c.sessions, Turn.isAffected channels s = true) ∧
    ∃ s ∈ c.sessions, s.phase = .listening ∧ s.overlaps channels = false

end Controller

namespace Scene

def Attended (σ : Scene) : Prop :=
  ∀ id st, σ.stance id = some st → st.Attended σ.airspace

variable {now : Instant} {σ σ' : Scene}

private theorem Move.attended (h : Move now σ σ') (ha : σ.Attended) : σ'.Attended := by
  cases h with
  | change id st st' hfound how =>
    refine forall_alter ha fun _ _ => ?_
    cases how with
    | tune p tu tg new hp =>
      rintro (rfl : p = .listening)
      simp at hp
    | listen p tu tg run hp hd hrun hcov hr =>
      exact fun _ => ⟨run, hrun, Airspace.covers_iff.mp hcov⟩
    | _ => nofun
  | look | seed | release => exact ha
  | beginRun run hsilent hd =>
    intro id st hst hp
    obtain ⟨_, hrun, -⟩ := ha id st hst hp
    exact absurd (hsilent.symm.trans hrun) nofun
  | endRun id st hfound hl halone hd =>
    intro j o ho hp
    by_cases hj : j = id
    · subst hj
      rw [alter_stance_self, Option.map_eq_some_iff] at ho
      obtain ⟨_, _, rfl⟩ := ho
      cases hp
    · rw [alter_stance_ne _ _ hj] at ho
      exact absurd hp (halone j o hj ho)

private theorem Path.attended (h : Path now σ σ') (ha : σ.Attended) : σ'.Attended := by
  induction h with
  | refl => exact ha
  | tail _ hmove ih => exact hmove.attended ih

private theorem Reported.attended {heard : Option (SessionId × Tuning)} (h : Reported heard σ σ')
    (ha : σ.Attended) : σ'.Attended := by
  cases h with
  | nothing => exact ha
  | taken => exact forall_alter ha fun _ _ => nofun

private theorem Managed.attended (h : Managed σ σ') (ha : σ.Attended) : σ'.Attended := by
  intro id st hst
  rcases h.cases with ⟨hair, hstance⟩ | ⟨-, hstance⟩
  · rw [hair]
    rcases hstance id st hst with hold | rfl
    · exact ha id st hold
    · nofun
  · exact fun hp => nomatch (hstance id st hst).2.symm.trans hp

private theorem Completes.attended {run : ListeningRun} {sent : SessionId → Prop}
    (h : Completes run sent σ σ') (hrun : σ.airspace.run = some run) (hs : σ.Sound)
    (ha : σ.Attended) : σ'.Attended := by
  intro id st' hst hp
  obtain ⟨st, ho, ⟨hwait, rfl⟩ | ⟨-, ok, rfl, -⟩⟩ := h.stance_cases hst
  · -- Who listens is tuned to some radar channel, so an attended session waits for the run.
    obtain ⟨run', hrun', hall⟩ := ha id st' ho hp
    obtain ⟨tu, htu, ch, hch, hr⟩ := (hs.proper id st' ho).tuned hp
    rw [hrun, Option.some.injEq] at hrun'
    subst hrun'
    have hocc : ch ∈ st'.occupied := by simpa [Stance.occupied, htu] using hch
    exact absurd ⟨hp, ch, hocc, hall ch hocc hr⟩ hwait
  · cases ok <;> cases hp

def LeavesBehind (channels : List Channel) (σ : Scene) : Prop :=
  σ.airspace.isHit channels = true ∧ (∃ id st, σ.stance id = some st ∧ st.Affected channels) ∧
    ∃ id st, σ.stance id = some st ∧ st.phase = .listening ∧ ¬ st.Affected channels

private theorem Strikes.attended {channels : List Channel} (h : Strikes now channels σ σ')
    (ha : σ.Attended) (hn : ¬ LeavesBehind channels σ) : σ'.Attended := by
  obtain ⟨run, hair, hrun⟩ := h.airspace
  intro id st' hst hp
  obtain ⟨st, ho, ⟨haff, rfl⟩ | ⟨-, hev⟩⟩ := h.stance_cases hst
  · rcases hrun with ⟨-, hhit, hsome⟩ | ⟨hsame, -⟩
    · exact absurd ⟨hhit, hsome, id, st', ho, hp, haff⟩ hn
    · obtain ⟨run', hrun', hall⟩ := ha id st' ho hp
      refine ⟨run', ?_, ?_⟩ <;> rw [hair]
      · exact hsame.trans hrun'
      · exact hall
  · cases hev <;> cases hp

private theorem Strikes.exists_of_leavesBehind {channels : List Channel}
    (h : Strikes now channels σ σ') (hs : LeavesBehind channels σ) :
    σ'.airspace.run = none ∧ ∃ id st, σ'.stance id = some st ∧ st.phase = .listening := by
  obtain ⟨hhit, ⟨j, o, ho, hoaff⟩, id, st, hst, hp, haff⟩ := hs
  obtain ⟨run, hair, hrun⟩ := h.airspace
  constructor
  · rw [hair]
    rcases hrun with ⟨hnone, -⟩ | ⟨-, hmiss | hnobody⟩
    · exact hnone
    · rw [hhit] at hmiss
      cases hmiss
    · exact absurd hoaff (hnobody j o ho)
  · refine ⟨id, st, ?_, hp⟩
    rw [h.unaffected id fun x hx => ?_, hst]
    rw [hst] at hx
    cases hx
    exact haff

private theorem OnlyStops.not_attended (h : OnlyStops σ σ') (hrun : σ.airspace.run = none)
    (hl : ∃ id st, σ.stance id = some st ∧ st.phase = .listening) : ¬ σ'.Attended := by
  obtain ⟨id, st, hst, hp⟩ := hl
  intro ha
  have hstops := h.stance id
  rw [hst] at hstops
  obtain ⟨run, hrun', -⟩ := ha id st (hstops.eq_of_phase (.inl hp)) hp
  rw [h.airspace] at hrun'
  exact absurd (hrun.symm.trans hrun') nofun

end Scene

namespace Controller

variable {c : Controller}

private theorem attended_iff_scene (hn : c.scene.ids.Nodup) : c.Attended ↔ c.scene.Attended :=
  forall_mem_iff (P := fun _ st => st.Attended c.airspace) hn

private theorem leavesBehind_iff_scene (hn : c.scene.ids.Nodup) {op : Operation} :
    c.LeavesBehind op ↔
    ∃ channels, c.reports? op = some channels ∧ c.scene.LeavesBehind channels := by
  refine exists_congr fun channels => and_congr_right fun _ => and_congr_right fun _ => ?_
  refine and_congr ?_ ?_
  · refine Iff.trans (exists_congr fun s => and_congr_right fun _ => ?_)
      (exists_mem_iff (P := fun _ st => st.Affected channels) hn)
    rw [Turn.affected_stance]
    simp [Turn.isAffected]
  · refine Iff.trans (exists_congr fun s => and_congr_right fun _ => and_congr_right fun hp => ?_)
      (exists_mem_iff (P := fun _ st => st.phase = .listening ∧ ¬ st.Affected channels) hn)
    rw [Turn.affected_stance]
    simp [hp]

/-- One operation keeps everybody attended who listens, exactly if it leaves nobody behind. -/
theorem attended_perform_iff (hs : c.Sound) (ha : c.Attended) (op : Operation) :
    (c.perform op).1.Attended ↔ ¬ c.LeavesBehind op := by
  have hscene := (attended_iff_scene hs.scene.nodup).mp ha
  rw [attended_iff_scene (sound_perform hs op).scene.nodup, leavesBehind_iff_scene hs.scene.nodup]
  have heffect := (effect_perform hs op).1
  generalize c.perform op = result at heffect
  cases heffect with
  | manage c' quiet _ how => exact iff_of_true (how.attended hscene) (by simp [quiet])
  | move now σ c' j _ quiet _ reported path =>
    exact iff_of_true (path.attended (reported.attended hscene)) (by simp [quiet])
  | complete now run σ c' j _ quiet _ running completes path =>
    exact iff_of_true (path.attended (completes.attended running hs.scene hscene)) (by simp [quiet])
  | strike now channels σ c' j _ reported _ strikes path onlyStops =>
    simp only [reported, Option.some.injEq, exists_eq_left']
    constructor
    · intro hafter hbehind
      obtain ⟨hrun, hleft⟩ := strikes.exists_of_leavesBehind hbehind
      exact onlyStops.not_attended hrun hleft hafter
    · exact fun hn => path.attended (strikes.attended hscene hn)

/-- Throughout a run of a controller everybody who listens is attended, exactly if no operation of
the run leaves anybody behind. -/
theorem attended_throughout_iff {settings : Settings} {domain : Domain}
    (h : create settings domain = .ok c) (ops : List Operation) :
    (∀ done, done <+: ops → (c.after done).Attended) ↔
      ∀ done op, done ++ [op] <+: ops → ¬ (c.after done).LeavesBehind op := by
  refine throughout_iff (sound_create h) ?_ (fun c op hs ha => attended_perform_iff hs ha op) ops
  obtain ⟨table, -, rfl⟩ := create_eq h
  exact fun s hs => absurd hs List.not_mem_nil

open FourChannels in
theorem attended_throughout_joined : create {} domain = .ok controller ∧
    ∀ done, done <+: joined → (controller.after done).Attended := by
  refine ⟨created, (attended_throughout_iff created joined).mpr fun done op hdone => ?_⟩
  rintro ⟨channels, hreport, -⟩
  have hop : op ∈ joined := hdone.subset (by simp)
  rw [(quiet_of_mem_joined _ hop).1] at hreport
  cases hreport

open FourChannels in
/-- Radar on channel 64 ends the run, and the session on channel 52 goes on waiting. -/
theorem not_attended_after_radar : create {} domain = .ok controller ∧
    ¬ (controller.after (joined ++ [send 1000 0 (.radarDetected [64])])).Attended := by
  refine ⟨created, fun ha => ?_⟩
  have hlistens : ∃ s ∈ (controller.after (joined ++
      [send 1000 0 (.radarDetected [64])])).sessions, s.phase = .listening := by
    decide +kernel
  have hrun : (controller.after (joined ++
      [send 1000 0 (.radarDetected [64])])).airspace.run = none := by
    decide +kernel
  obtain ⟨s, hs, hp⟩ := hlistens
  obtain ⟨run, hsome, -⟩ := ha s hs hp
  exact absurd (hrun.symm.trans hsome) nofun

end Controller

end Hotspot

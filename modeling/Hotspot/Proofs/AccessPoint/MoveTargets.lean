import Hotspot.Proofs.AccessPoint.UnbarredOnAir

/-!
Where a session flees from radar it must be able to stay. Only radar makes sessions move, and it
sends them to free channels; but a session that has left, or has announced that it will, is not on
the channels that it moves to, so radar there does not turn it away. Nothing else brings a session
to move to a channel that radar bars.
-/

set_option autoImplicit false
set_option relaxedAutoImplicit false

namespace Hotspot

open NonOccupancy (Table)
open Scene (Path Reported Strikes Completes Managed)

def Operation.lastNow? (ops : List Operation) : Option Instant :=
  (ops.filterMap Operation.now?).getLast?

namespace Controller

def target? (c : Controller) (id : SessionId) : Option Tuning :=
  (c.stance? id).bind Stance.target

/-- No session moves to a channel that radar bars at that instant. -/
def TargetsUnbarred (now : Instant) (c : Controller) : Prop :=
  ∀ s ∈ c.sessions, ∀ tu, s.target = some tu →
    ∀ ch ∈ tu.channels, ¬ Table.Barred now c.airspace.table ch

/-- The operation reports radar that bars a channel to which some session moves, and the session
moves there still. -/
def BarsTarget (c : Controller) (op : Operation) : Prop :=
  ∃ ch since, c.Bars op ch since ∧ 0 < c.airspace.table.absence ch ∧
    ∃ id tu, ch ∈ tu.channels ∧ c.target? id = some tu ∧ (c.perform op).1.target? id = some tu

end Controller

private theorem Stance.Change.target {skip : Bool} {a : Airspace} {st st' : Stance}
    (h : Change skip a st st') : st'.target = st.target ∨ st'.target = none := by
  cases h with
  | drop | clear => exact .inr rfl
  | _ => exact .inl rfl

private theorem Stance.Evaded.target {table : Table} {st st' : Stance} (h : Evaded table st st')
    {tu : Tuning} (htg : st'.target = some tu) : st.target = some tu ∨ tu.FreeIn table := by
  cases h with
  | stop => exact .inl htg
  | leave _ _ _ new hfree | announce _ _ new hfree =>
    cases htg
    exact .inr hfree

namespace Scene

def target (σ : Scene) (id : SessionId) : Option Tuning :=
  (σ.stance id).bind Stance.target

variable {now : Instant} {σ σ' : Scene} {id : SessionId} {tu : Tuning}

private theorem exists_of_target (h : σ.target id = some tu) :
    ∃ st, σ.stance id = some st ∧ st.target = some tu :=
  Option.bind_eq_some_iff.mp h

private theorem target_of_stance {st : Stance} (h : σ.stance id = some st) :
    σ.target id = st.target := by
  rw [target, h]
  rfl

private theorem Sound.nextTuning_of_target (hs : σ.Sound) (h : σ.target id = some tu) :
    σ.nextTuning id = some tu := by
  obtain ⟨st, hst, htg⟩ := exists_of_target h
  rw [nextTuning_of_stance hst]
  exact Stance.nextTuning_of_target (hs.proper id st hst) htg

private theorem target_alter {j : SessionId} {st st' : Stance} (hs : σ.stance j = some st)
    (hkeep : st'.target = st.target ∨ st'.target = none)
    (h : (σ.alter j fun _ => st').target id = some tu) : σ.target id = some tu := by
  obtain ⟨o, ho, htg⟩ := exists_of_target h
  by_cases hid : id = j
  · subst hid
    rw [alter_stance_self, hs] at ho
    cases ho
    rw [target_of_stance hs]
    rcases hkeep with hsame | hnone
    · exact hsame.symm.trans htg
    · exact absurd (hnone.symm.trans htg) nofun
  · rw [alter_stance_ne _ _ hid] at ho
    rw [target_of_stance ho]
    exact htg

private theorem Move.target (h : Move now σ σ') (htg : σ'.target id = some tu) :
    σ.target id = some tu := by
  cases h with
  | change j st st' hfound how => exact target_alter hfound how.target htg
  | look | seed | release | beginRun => exact htg
  | endRun j st hfound =>
    have hkeep : ({ st with phase := .disconnecting } : Stance).target = st.target := rfl
    exact target_alter (σ := σ.share fun a => { a with run := none }) hfound (.inl hkeep) htg

private theorem Path.target (h : Path now σ σ') (htg : σ'.target id = some tu) :
    σ.target id = some tu := by
  induction h with
  | refl => exact htg
  | tail _ hmove ih => exact ih (hmove.target htg)

private theorem Managed.target (h : Managed σ σ') (htg : σ'.target id = some tu) :
    σ.target id = some tu := by
  obtain ⟨st, hst, htu⟩ := exists_of_target htg
  rcases h.cases with ⟨-, hstance⟩ | ⟨-, hstance⟩
  · rcases hstance id st hst with hold | rfl
    · exact (target_of_stance hold).trans htu
    · cases htu
  · exact (target_of_stance (hstance id st hst).1).trans htu

private theorem Reported.target {heard : Option (SessionId × Tuning)} (h : Reported heard σ σ')
    (htg : σ'.target id = some tu) : σ.target id = some tu := by
  cases h with
  | nothing => exact htg
  | taken j st new said hfound => exact target_alter hfound (.inr rfl) htg

private theorem Completes.target {run : ListeningRun} {sent : SessionId → Prop}
    (h : Completes run sent σ σ') (htg : σ'.target id = some tu) : σ.target id = some tu := by
  obtain ⟨st', hst, htu⟩ := exists_of_target htg
  obtain ⟨st, ho, ⟨-, rfl⟩ | ⟨-, ok, rfl, -⟩⟩ := h.stance_cases hst
  · exact (target_of_stance ho).trans htu
  · exact (target_of_stance ho).trans htu

private theorem Strikes.target {channels : List Channel} (h : Strikes now channels σ σ')
    (htg : σ'.target id = some tu) :
    σ.target id = some tu ∨ tu.FreeIn σ'.airspace.table := by
  obtain ⟨st', hst, htu⟩ := exists_of_target htg
  obtain ⟨st, ho, ⟨-, rfl⟩ | ⟨-, hev⟩⟩ := h.stance_cases hst
  · exact .inl ((target_of_stance ho).trans htu)
  · exact (hev.target htu).imp_left (target_of_stance ho).trans

end Scene

namespace Controller

variable {c : Controller} {op : Operation} {id : SessionId} {tu : Tuning} {ch : Channel}
  {since now : Instant}

private theorem Effect.target {result : Controller × Journal} (h : c.Effect op result)
    (hs : c.Sound) (htg : result.1.target? id = some tu) :
    c.target? id = some tu ∨ tu.FreeIn result.1.airspace.table := by
  cases h with
  | manage c' _ _ how => exact .inl (how.target htg)
  | move now σ c' j _ _ _ reported path => exact .inl (reported.target (path.target htg))
  | complete now run σ c' j _ _ _ _ completes path =>
    exact .inl (completes.target (path.target htg))
  | strike now channels σ c' j _ _ _ strikes path =>
    have hstruck := path.target htg
    have hsound := strikes.sound hs.scene
    have hseeded := hsound.seeded_of_nextTuning (hsound.nextTuning_of_target hstruck)
    exact (strikes.target hstruck).imp_right fun hfree => hfree.looked (path.looked hseeded).1

private theorem headsFor_of_target (hs : c.Sound) (htg : c.target? id = some tu)
    (hch : ch ∈ tu.channels) : c.HeadsFor id ch :=
  ⟨tu, hs.scene.nextTuning_of_target htg, hch⟩

private theorem unavailable_of_target (hs : c.Sound) (htg : (c.perform op).1.target? id = some tu)
    (hch : ch ∈ tu.channels)
    (hst : (c.perform op).1.airspace.table.status? ch = some (.unavailable since)) :
    c.target? id = some tu ∧ c.airspace.seeded = true ∧
      (c.airspace.table.status? ch = some (.unavailable since) ∨ c.Bars op ch since) := by
  have heffect := (effect_perform hs op).1
  have hafter := headsFor_of_target (sound_perform hs op) htg hch
  have hbefore : c.target? id = some tu := by
    rcases heffect.target hs htg with hsame | hfree
    · exact hsame
    · exact absurd hst (Table.isFree_iff.mp (hfree ch hch) since)
  have hseeded := (headsFor_of_target hs hbefore hch).seeded hs
  refine ⟨hbefore, hseeded, status?_marked.mp ?_⟩
  rcases heffect.looked hseeded with ⟨-, hnone⟩ | hmarked | ⟨now, -, hlooked⟩
  · obtain ⟨tu', hnext, -⟩ := hafter
    rw [hnone id] at hnext
    cases hnext
  · rw [← hmarked]
    exact hst
  · exact hlooked.status?_of_unavailable hst

def TargetsSafe (c : Controller) : Prop :=
  ∀ id tu, c.target? id = some tu → ∀ ch ∈ tu.channels,
    c.airspace.table.isFree ch = true ∨ c.airspace.table.absence ch = 0

/-- Unless it spoils a target, an operation leaves the targets free. -/
theorem targetsSafe_perform (hs : c.Sound) (h : c.TargetsSafe) (hn : ¬ c.BarsTarget op) :
    (c.perform op).1.TargetsSafe := by
  intro id tu htg ch hch
  by_cases hfree : (c.perform op).1.airspace.table.isFree ch = true
  · exact .inl hfree
  rw [Table.isFree_iff] at hfree
  push Not at hfree
  obtain ⟨since, hst⟩ := hfree
  obtain ⟨hbefore, hseeded, hwhen⟩ := unavailable_of_target hs htg hch hst
  have hheads := headsFor_of_target (sound_perform hs op) htg hch
  right
  rw [(perform_of_unavailable hs hseeded hheads since).1]
  rcases hwhen with hold | hbars
  · refine (h id tu hbefore ch hch).resolve_left fun hfree => ?_
    exact Table.isFree_iff.mp hfree since hold
  · by_contra habsence
    exact hn ⟨ch, since, hbars, Nat.pos_of_ne_zero habsence, id, tu, hch, hbefore, htg⟩

private theorem TargetsSafe.targetsUnbarred (h : c.TargetsSafe) (hs : c.Sound) (now : Instant) :
    c.TargetsUnbarred now := by
  rintro s hmem tu htg ch hch ⟨since, hst, hlate⟩
  have hstance := stance?_of_session? (session?_of_mem hs.scene.nodup hmem)
  have htarget : c.target? s.id = some tu := (Scene.target_of_stance hstance).trans htg
  rcases h s.id tu htarget ch hch with hfree | hzero
  · exact Table.isFree_iff.mp hfree since hst
  · rw [hzero] at hlate
    exact absurd hlate (Nat.not_lt_zero _)

private theorem BarsTarget.not_targetsUnbarred (h : c.BarsTarget op) (hs : c.Sound) :
    ∃ now, op.now? = some now ∧ ¬ (c.perform op).1.TargetsUnbarred now := by
  obtain ⟨ch, since, hbars, hpos, id, tu, hch, -, htg⟩ := h
  refine ⟨since, hbars.1, fun hshelter => ?_⟩
  have hheads := headsFor_of_target (sound_perform hs op) htg hch
  obtain ⟨habsence, hstays⟩ := perform_of_unavailable hs (hbars.seeded hs) hheads since
  have hnone : Instant.since since since = 0 := by simp [Instant.since]
  obtain ⟨st, hst, htu⟩ := Scene.exists_of_target (σ := (c.perform op).1.scene) htg
  obtain ⟨s, hsess, rfl⟩ := session?_of_stance? hst
  refine hshelter s (mem_of_session? hsess) tu htu ch hch ⟨since, ?_, ?_⟩
  · rcases hstays (.inr hbars) with hst' | ⟨now, htime, hp⟩
    · exact hst'
    · obtain rfl : since = now := Option.some.inj (hbars.1.symm.trans htime)
      rw [hnone] at hp
      exact absurd hpos (Nat.not_lt_of_le hp)
  · rw [habsence, hnone]
    exact hpos

private theorem lastNow?_concat (ops : List Operation) (htime : op.now? = some now) :
    Operation.lastNow? (ops ++ [op]) = some now := by
  simp [Operation.lastNow?, htime]

theorem targetsSafe_after {settings : Settings} {domain : Domain}
    (h : create settings domain = .ok c) {ops : List Operation}
    (hn : ∀ done op, done ++ [op] <+: ops → ¬ (c.after done).BarsTarget op) :
    (c.after ops).TargetsSafe := by
  induction ops using List.reverseRecOn with
  | nil =>
    obtain ⟨table, -, rfl⟩ := create_eq h
    exact fun _ _ htg => nomatch htg
  | append_singleton ops op ih =>
    rw [after_concat]
    have hbefore := ih fun done op' hdone => hn done op' (hdone.trans (List.prefix_append ops [op]))
    exact targetsSafe_perform (sound_after (sound_create h) ops) hbefore
      (hn ops op (List.prefix_refl _))

/-- Throughout a run of a controller no session moves to a channel that radar bars at the instant of
the last operation, exactly if no operation spoils a target. -/
theorem targetsUnbarred_throughout_iff {settings : Settings} {domain : Domain}
    (h : create settings domain = .ok c) (ops : List Operation) :
    (∀ done now, done <+: ops → Operation.lastNow? done = some now →
        (c.after done).TargetsUnbarred now) ↔
      ∀ done op, done ++ [op] <+: ops → ¬ (c.after done).BarsTarget op := by
  have hs := sound_create h
  constructor
  · intro hshelter done op hdone hbars
    obtain ⟨now, htime, hnot⟩ := hbars.not_targetsUnbarred (sound_after hs done)
    rw [← after_concat] at hnot
    exact hnot (hshelter _ now hdone (lastNow?_concat done htime))
  · intro hn done now hdone _
    have hsafe := targetsSafe_after h fun done' op hdone' => hn done' op (hdone'.trans hdone)
    exact hsafe.targetsUnbarred (sound_after hs done) now

end Controller

namespace FourChannels

/-- Radar on channel 52 makes a session move to channel 64, and another one begins to listen
there. -/
def fleeing : List Operation :=
  [.openSession (accessPoint 64), .openSession (accessPoint 64),
    send 0 0 (.tunedStartRequest ⟨52, .mhz20, .alone⟩), send 1000 0 (.radarDetected [52]),
    send 2000 1 (.tunedStartRequest ⟨64, .mhz20, .alone⟩)]

end FourChannels

namespace Controller

open FourChannels in
theorem targetsUnbarred_throughout_fleeing : create {} domain = .ok controller ∧
    ∀ done now, done <+: fleeing → Operation.lastNow? done = some now →
      (controller.after done).TargetsUnbarred now := by
  refine ⟨created, (targetsUnbarred_throughout_iff created fleeing).mpr fun done op hdone => ?_⟩
  rintro ⟨ch, since, ⟨-, channels, hreport, hch, -⟩, -, id, tu, htu, -, htg⟩
  have hradar : (controller.after (fleeing.take 3)).reports? (send 1000 0 (.radarDetected [52])) =
      some [52] := by decide +kernel
  have hwhere : ∀ s ∈ (controller.after (fleeing.take 4)).sessions, ∀ tu ∈ s.target,
      tu.channels = [64] := by decide +kernel
  rcases done with _ | ⟨a, _ | ⟨b, _ | ⟨d, _ | ⟨e, _ | ⟨f, done⟩⟩⟩⟩⟩ <;>
    simp only [fleeing, List.nil_append, List.cons_append, List.cons_prefix_cons,
      List.prefix_nil, List.nil_prefix, and_true, List.append_eq_nil_iff, List.cons_ne_nil,
      and_false] at hdone
  · subst hdone
    cases hreport
  · obtain ⟨rfl, rfl⟩ := hdone
    cases hreport
  · obtain ⟨rfl, rfl, rfl⟩ := hdone
    simp [reports?, send, Session.reports?] at hreport
  · obtain ⟨rfl, rfl, rfl, rfl⟩ := hdone
    obtain rfl : [52] = channels := Option.some.inj (hradar.symm.trans hreport)
    obtain ⟨st, hst, htarget⟩ := Option.bind_eq_some_iff.mp htg
    obtain ⟨s, hsess, rfl⟩ := session?_of_stance? hst
    rw [hwhere s (mem_of_session? hsess) tu htarget] at htu
    obtain rfl := List.mem_singleton.mp hch
    exact absurd htu (by decide)
  · obtain ⟨rfl, rfl, rfl, rfl, rfl⟩ := hdone
    simp [reports?, send, Session.reports?] at hreport

open FourChannels in
/-- Radar on channel 64 drives away the session that listens there, and the other one goes on
moving there. -/
theorem not_targetsUnbarred_after_radar : create {} domain = .ok controller ∧
    Operation.lastNow? (fleeing ++ [send 3000 1 (.radarDetected [64])]) =
      some (Duration.millis 3000 : Nat) ∧
    ¬ (controller.after (fleeing ++ [send 3000 1 (.radarDetected [64])])).TargetsUnbarred
      (Duration.millis 3000 : Nat) := by
  refine ⟨created, by decide +kernel, fun hshelter => ?_⟩
  have hmoves : ∃ s ∈ (controller.after (fleeing ++
      [send 3000 1 (.radarDetected [64])])).sessions, s.target = some ⟨64, .mhz20, .alone⟩ := by
    decide +kernel
  have hbarred : (controller.after (fleeing ++
      [send 3000 1 (.radarDetected [64])])).airspace.table.status? 64 =
        some (.unavailable (Duration.millis 3000 : Nat)) := by decide +kernel
  obtain ⟨s, hs, htg⟩ := hmoves
  exact hshelter s hs _ htg 64 (by decide) ⟨_, hbarred, by decide +kernel⟩

end Controller

end Hotspot

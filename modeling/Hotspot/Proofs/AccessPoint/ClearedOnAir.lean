import Hotspot.Proofs.AccessPoint.ListenedChannels

/-!
Who is on the air, and not about to move, uses cleared channels only. When a run of listening is
complete, every session that listens on one of its channels begins to send, also one that uses
further channels to which nobody listened. Such a session was left behind by an earlier run. Nothing
else puts a session on the air on channels that are not cleared.
-/

set_option autoImplicit false
set_option relaxedAutoImplicit false

namespace Hotspot

open Scene (Path Reported OnlyStops Strikes Completes Managed)

/-- If the session is on the air and stays where it is, its radar channels are cleared. -/
def Stance.Settled (a : Airspace) (st : Stance) : Prop :=
  st.phase = .started → st.target = none →
    ∀ ch ∈ st.occupied, a.domain.isRadar ch = true → ch ∈ a.cleared

namespace Controller

/-- Whoever is on the air without a move under way uses no radar channel that is not cleared. -/
def Settled (c : Controller) : Prop :=
  ∀ s ∈ c.sessions, s.phase = .started → s.target = none →
    ∀ ch ∈ s.occupied, c.airspace.domain.isRadar ch = true → ch ∈ c.airspace.cleared

/-- A run of listening is complete, and a session that listens on one of its channels takes the
command to send, though it uses a radar channel that is not one of the run and was not cleared. -/
def SendsUncleared (c : Controller) (op : Operation) : Prop :=
  ∃ run, c.completes? op = some run ∧ ∃ s ∈ c.sessions, s.phase = .listening ∧
    s.overlaps run.channels = true ∧ Turn.beacon s.id true ∈ (c.perform op).2 ∧
    ∃ ch ∈ s.occupied, c.airspace.domain.isRadar ch = true ∧ ch ∉ run.channels ∧
      ch ∉ c.airspace.cleared

end Controller

namespace Scene

def Settled (σ : Scene) : Prop :=
  ∀ id st, σ.stance id = some st → st.Settled σ.airspace

variable {now : Instant} {σ σ' : Scene}

private theorem Move.settled (h : Move now σ σ') (hskip : σ.skip = false) (ha : σ.Settled) :
    σ'.Settled := by
  cases h with
  | change id st st' hfound how =>
    refine forall_alter ha fun _ _ => ?_
    cases how with
    | tune p tu tg new hp =>
      rintro (rfl : p = .started)
      simp at hp
    | start tu tg hcleared => exact fun _ _ => hcleared hskip
    | _ => nofun
  | look | seed | beginRun => exact ha
  | release cleared hsub hkept =>
    intro id st hst hp htg ch hch hr
    exact hkept id st hst hp ch hch (ha id st hst hp htg ch hch hr)
  | endRun id st hfound hl halone hd =>
    intro j o ho
    by_cases hj : j = id
    · subst hj
      rw [alter_stance_self, Option.map_eq_some_iff] at ho
      obtain ⟨_, _, rfl⟩ := ho
      nofun
    · rw [alter_stance_ne _ _ hj] at ho
      exact ha j o ho

private theorem Path.settled (h : Path now σ σ') (hskip : σ.skip = false) (ha : σ.Settled) :
    σ'.Settled := by
  induction h with
  | refl => exact ha
  | tail hpath hmove ih => exact hmove.settled ((Path.skip hpath).trans hskip) ih

private theorem Reported.settled {heard : Option (SessionId × Tuning)} (h : Reported heard σ σ')
    (ha : σ.Settled) : σ'.Settled := by
  cases h with
  | nothing => exact ha
  | taken => exact forall_alter ha fun _ _ => nofun

private theorem Managed.settled (h : Managed σ σ') (ha : σ.Settled) : σ'.Settled := by
  intro id st hst
  rcases h.cases with ⟨hair, hstance⟩ | ⟨-, hstance⟩
  · rw [hair]
    rcases hstance id st hst with hold | rfl
    · exact ha id st hold
    · nofun
  · exact fun hp => nomatch (hstance id st hst).2.symm.trans hp

private theorem Strikes.settled {channels : List Channel} (h : Strikes now channels σ σ')
    (ha : σ.Settled) : σ'.Settled := by
  obtain ⟨run, hair, -⟩ := h.airspace
  intro id st' hst hp htg ch hch hr
  obtain ⟨st, ho, ⟨haff, rfl⟩ | ⟨-, hev⟩⟩ := h.stance_cases hst
  · have hdomain : σ'.airspace.domain = σ.airspace.domain := by rw [hair]
    have hcleared := ha id st' ho hp htg ch hch (hdomain ▸ hr)
    have hmiss : ch ∉ channels := fun hmem => haff ⟨.inr hp, ch, hch, hmem⟩
    rw [hair]
    simp [hcleared, hmiss]
  · cases hev with
    | stop => cases hp
    | leave => cases hp
    | announce => cases htg

/-- The run is complete, and a session that waited for it sends on a radar channel that is neither
one of the run nor cleared. -/
def SendsUncleared (run : ListeningRun) (sent : SessionId → Prop) (σ : Scene) : Prop :=
  ∃ id st, σ.stance id = some st ∧ st.Waits run ∧ sent id ∧
    ∃ ch ∈ st.occupied, σ.airspace.domain.isRadar ch = true ∧ ch ∉ run.channels ∧
      ch ∉ σ.airspace.cleared

private theorem Completes.settled {run : ListeningRun} {sent : SessionId → Prop}
    (h : Completes run sent σ σ') (ha : σ.Settled) (hn : ¬ SendsUncleared run sent σ) :
    σ'.Settled := by
  intro id st' hst hp htg ch hch hr
  rw [h.airspace] at hr ⊢
  refine Turn.mem_cleared_credited.mpr ?_
  obtain ⟨st, ho, ⟨hwait, rfl⟩ | ⟨hwait, ok, rfl, hsent⟩⟩ := h.stance_cases hst
  · exact .inl (ha id st' ho hp htg ch hch hr)
  · by_contra hnot
    rw [not_or, not_and] at hnot
    cases ok with
    | false => cases hp
    | true =>
      exact hn ⟨id, st, ho, hwait, hsent.mp rfl, ch, hch, hr, fun hmem => hnot.2 hmem hr, hnot.1⟩

private theorem Completes.exists_of_sendsUncleared {run : ListeningRun} {sent : SessionId → Prop}
    (h : Completes run sent σ σ') (hs : σ.Sound) (hr : SendsUncleared run sent σ) :
    ∃ id st, σ'.stance id = some st ∧ st.phase = .started ∧ ¬ st.Settled σ'.airspace := by
  obtain ⟨id, st, hst, hwait, hsent, ch, hch, hradar, hrun, hcleared⟩ := hr
  obtain ⟨ok, hwoken, hok⟩ := h.waiting id st hst hwait
  obtain rfl : ok = true := hok.mpr hsent
  have htarget : st.target = none := by
    refine (hs.proper id st hst).target ?_ ?_ <;> simp [hwait.1]
  refine ⟨id, _, hwoken, rfl, fun hsettled => ?_⟩
  have hmem := hsettled rfl htarget ch hch (by rw [h.airspace]; exact hradar)
  rw [h.airspace, Turn.mem_cleared_credited] at hmem
  exact hmem.elim hcleared fun h => hrun h.1

private theorem OnlyStops.not_settled (h : OnlyStops σ σ')
    (hn : ∃ id st, σ.stance id = some st ∧ st.phase = .started ∧ ¬ st.Settled σ.airspace) :
    ¬ σ'.Settled := by
  obtain ⟨id, st, hst, hp, hunsettled⟩ := hn
  intro ha
  have hstops := h.stance id
  rw [hst] at hstops
  refine hunsettled fun hp htg ch hch hr => ?_
  have hmem := ha id st (hstops.eq_of_phase (.inr hp)) hp htg ch hch (by rw [h.airspace]; exact hr)
  exact ((h.cleared ch).mp hmem).1

end Scene

namespace Controller

variable {c : Controller}

private theorem settled_iff_scene (hn : c.scene.ids.Nodup) : c.Settled ↔ c.scene.Settled :=
  forall_mem_iff (P := fun _ st => st.Settled c.airspace) hn

private theorem sendsUncleared_iff_scene (hn : c.scene.ids.Nodup) {op : Operation} :
    c.SendsUncleared op ↔ ∃ run, c.completes? op = some run ∧
      c.scene.SendsUncleared run fun id => Turn.beacon id true ∈ (c.perform op).2 := by
  refine exists_congr fun run => and_congr_right fun _ => ?_
  refine Iff.trans (exists_congr fun s => and_congr_right fun _ => ?_)
    (exists_mem_iff (P := fun id st => st.Waits run ∧ Turn.beacon id true ∈ (c.perform op).2 ∧
      ∃ ch ∈ st.occupied, c.airspace.domain.isRadar ch = true ∧ ch ∉ run.channels ∧
        ch ∉ c.airspace.cleared) hn)
  rw [Turn.waits_stance, and_assoc]
  rfl

private theorem not_sendsUncleared_of_attended (ha : c.Attended) (op : Operation) :
    ¬ c.SendsUncleared op := by
  rintro ⟨run, hended, s, hs, hp, -, -, ch, hch, hr, hmiss, -⟩
  obtain ⟨run', hrun, hall⟩ := ha s hs hp
  rw [run_of_completes? hended, Option.some.injEq] at hrun
  subst hrun
  exact hmiss (hall ch hch hr)

/-- One operation keeps everybody settled exactly if it lets nobody rush on the air. -/
theorem settled_perform_iff (hs : c.Sound) (hskip : c.settings.skipListening = false)
    (ha : c.Settled) (op : Operation) : (c.perform op).1.Settled ↔ ¬ c.SendsUncleared op := by
  have hscene := (settled_iff_scene hs.scene.nodup).mp ha
  rw [settled_iff_scene (sound_perform hs op).scene.nodup, sendsUncleared_iff_scene hs.scene.nodup]
  have heffect := (effect_perform hs op).1
  generalize c.perform op = result at heffect ⊢
  cases heffect with
  | manage c' _ pending how => exact iff_of_true (how.settled hscene) (by simp [pending])
  | move now σ c' j _ _ pending reported path =>
    exact iff_of_true (path.settled (reported.skip.trans hskip) (reported.settled hscene))
      (by simp [pending])
  | strike now channels σ c' j _ _ pending strikes path =>
    exact iff_of_true (path.settled (strikes.skip.trans hskip) (strikes.settled hscene))
      (by simp [pending])
  | complete now run σ c' j _ _ ended _ completes path onlyStops =>
    simp only [ended, Option.some.injEq, exists_eq_left']
    constructor
    · intro hafter huncleared
      exact onlyStops.not_settled
        (completes.exists_of_sendsUncleared hs.scene huncleared) hafter
    · exact fun hn => path.settled (completes.skip.trans hskip) (completes.settled hscene hn)

/-- Unless listening is skipped, throughout a run of a controller everybody on the air is settled,
exactly if no operation of the run lets anybody rush on the air. -/
theorem settled_throughout_iff {settings : Settings} {domain : Domain}
    (h : create settings domain = .ok c) (hskip : settings.skipListening = false)
    (ops : List Operation) :
    (∀ done, done <+: ops → (c.after done).Settled) ↔
      ∀ done op, done ++ [op] <+: ops → ¬ (c.after done).SendsUncleared op := by
  have hs := sound_create h
  obtain ⟨table, -, rfl⟩ := create_eq h
  have hskipped (done : List Operation) := (skip_after hs done).trans hskip
  have hiff := throughout_iff
    (P := fun c => c.settings.skipListening = false ∧ c.Settled) (H := SendsUncleared) hs
    ⟨hskip, fun s hs => absurd hs List.not_mem_nil⟩ (fun c op hs hp => ?_) ops
  · simpa [hskipped] using hiff
  · rw [← settled_perform_iff hs hp.1 hp.2 op, skip_perform hs op]
    simp [hp.1]

open FourChannels in
theorem settled_throughout_joined : create {} domain = .ok controller ∧
    ({} : Settings).skipListening = false ∧
    ∀ done, done <+: heardOut → (controller.after done).Settled := by
  refine ⟨created, rfl, (settled_throughout_iff created rfl _).mpr fun done op hdone => ?_⟩
  rcases List.prefix_concat_iff.mp hdone with hlast | hbefore
  · obtain ⟨rfl, -⟩ := List.append_inj' hlast rfl
    have hrun : (controller.after joined).airspace.run =
        some ⟨52, [52, 56, 60, 64], .seconds 60, 0⟩ := by
      decide +kernel
    have hall : ∀ s ∈ (controller.after joined).sessions, ∀ ch ∈ s.occupied,
        ch ∈ ([52, 56, 60, 64] : List Channel) := by
      decide +kernel
    exact not_sendsUncleared_of_attended
      (fun s hs _ => ⟨_, hrun, fun ch hch _ => hall s hs ch hch⟩) op
  · rintro ⟨run, hended, -⟩
    have hop : op ∈ joined := hbefore.subset (by simp)
    rw [(quiet_of_mem_joined _ hop).2.1] at hended
    cases hended

open FourChannels in
/-- The run on channels 52 to 64 ends with radar on channel 64, a session goes on waiting on
channels 52 and 56, and the end of a later run on channel 52 lets it send. -/
theorem not_settled_after_second_run : create {} domain = .ok controller ∧
    ¬ (controller.after [.openSession (accessPoint 64), .openSession (accessPoint 52),
      .openSession (accessPoint 52),
      send 0 0 (.tunedStartRequest ⟨52, .mhz80, .firstOfFour⟩),
      send 0 1 (.tunedStartRequest ⟨52, .mhz40, .firstOfTwo⟩),
      send 1000 0 (.radarDetected [64]),
      send 2000000 2 (.tunedStartRequest ⟨52, .mhz20, .alone⟩),
      .listeningOver willing (Duration.millis 2060000 : Nat)]).Settled := by
  refine ⟨created, ?_⟩
  unfold Settled
  decide +kernel

end Controller

end Hotspot

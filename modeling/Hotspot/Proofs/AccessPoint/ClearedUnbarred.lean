import Hotspot.Proofs.AccessPoint.Run

/-!
What is cleared is free. A run of listening that is complete clears all its channels, whatever
happened on them meanwhile: radar that concerned no session any more, since the one that used the
channel had left, does not end the run. The channel is then cleared and left alone at once. Nothing
else clears a channel that is to be left alone.
-/

set_option autoImplicit false
set_option relaxedAutoImplicit false

namespace Hotspot

open Scene (Path OnlyStops Strikes Completes Managed)
open NonOccupancy (Table)

/-- No channel is cleared and to be left alone at once. -/
def Airspace.Unbarred (a : Airspace) : Prop :=
  ∀ ch ∈ a.cleared, a.table.isFree ch = true

namespace Controller

/-- A run of listening is complete, and one of its radar channels is to be left alone. It counts
unless the last session on the channel is gone when all is done, for then it is not cleared any
more. -/
def ClearsBarred (c : Controller) (op : Operation) : Prop :=
  ∃ run, c.completes? op = some run ∧ ∃ ch ∈ run.channels,
    c.airspace.domain.isRadar ch = true ∧ c.airspace.table.isFree ch = false ∧
      ((∃ s ∈ c.sessions, ch ∈ s.occupied) → ∃ s ∈ (c.perform op).1.sessions, ch ∈ s.occupied)

end Controller

namespace Scene

variable {now : Instant} {σ σ' σ'' : Scene}

private theorem Move.unbarred (h : Move now σ σ') (hs : σ.Sound) (ha : σ.airspace.Unbarred) :
    σ'.airspace.Unbarred := by
  cases h with
  | change | beginRun | endRun => exact ha
  | look table hlooked => exact fun ch hch => hlooked.isFree (ha ch hch)
  | seed table hd =>
    intro ch hch
    have hch : ch ∈ σ.airspace.cleared := hch
    rw [(hs.unseeded hd).2] at hch
    exact absurd hch List.not_mem_nil
  | release cleared hsub => exact fun ch hch => ha ch (hsub ch hch)

private theorem Path.unbarred (h : Path now σ σ') (hs : σ.Sound) (ha : σ.airspace.Unbarred) :
    σ'.airspace.Unbarred := by
  induction h with
  | refl => exact ha
  | tail hpath hmove ih => exact hmove.unbarred (Path.sound hpath hs) ih

private theorem Managed.unbarred (h : Managed σ σ') (ha : σ.airspace.Unbarred) :
    σ'.airspace.Unbarred := by
  rcases h.cases with ⟨hair, -⟩ | ⟨⟨domain, table, hair⟩, -⟩
  · rwa [hair]
  · rw [hair]
    exact fun ch hch => absurd hch List.not_mem_nil

private theorem Strikes.unbarred {channels : List Channel} (h : Strikes now channels σ σ')
    (ha : σ.airspace.Unbarred) : σ'.airspace.Unbarred := by
  obtain ⟨run, hair, -⟩ := h.airspace
  intro ch hch
  have hcleared : ch ∈ σ.airspace.cleared ∧ ch ∉ channels := by
    rw [hair] at hch
    simpa using hch
  refine h.looked.isFree ?_
  rw [Table.isFree, Table.status?_markEach, if_neg hcleared.2]
  exact ha ch hcleared.1

theorem Completes.occupies_iff {run : ListeningRun} {sent : SessionId → Prop}
    (h : Completes run sent σ σ') (ch : Channel) : σ'.Occupies ch ↔ σ.Occupies ch := by
  constructor
  · rintro ⟨id, st', hst, hch⟩
    obtain ⟨st, ho, ⟨-, rfl⟩ | ⟨-, ok, rfl, -⟩⟩ := h.stance_cases hst
    · exact ⟨id, st', ho, hch⟩
    · exact ⟨id, st, ho, hch⟩
  · rintro ⟨id, st, hst, hch⟩
    by_cases hwait : st.Waits run
    · obtain ⟨ok, hwoken, -⟩ := h.waiting id st hst hwait
      exact ⟨id, _, hwoken, hch⟩
    · refine ⟨id, st, ?_, hch⟩
      rw [h.others id fun o ho => ?_, hst]
      rw [hst] at ho
      cases ho
      exact hwait

private theorem Completes.unbarred_iff {run : ListeningRun} {sent : SessionId → Prop}
    (h : Completes run sent σ σ') (hf : OnlyStops σ' σ'') (ha : σ.airspace.Unbarred) :
    σ''.airspace.Unbarred ↔ ¬ ∃ ch ∈ run.channels, σ.airspace.domain.isRadar ch = true ∧
      σ.airspace.table.isFree ch = false ∧ (σ.Occupies ch → σ''.Occupies ch) := by
  have htable : σ''.airspace.table = σ.airspace.table := by
    rw [hf.airspace, h.airspace]
    rfl
  have hcleared (ch : Channel) : ch ∈ σ''.airspace.cleared ↔
      (ch ∈ σ.airspace.cleared ∨ ch ∈ run.channels ∧ σ.airspace.domain.isRadar ch = true) ∧
        (σ.Occupies ch → σ''.Occupies ch) := by
    rw [hf.cleared, h.airspace, Turn.mem_cleared_credited, h.occupies_iff]
  constructor
  · rintro hafter ⟨ch, hch, hr, hbarred, hocc⟩
    have hfree := hafter ch ((hcleared ch).mpr ⟨.inr ⟨hch, hr⟩, hocc⟩)
    rw [htable, hbarred] at hfree
    cases hfree
  · intro hn ch hch
    rw [htable]
    obtain ⟨hold | ⟨hmem, hr⟩, hocc⟩ := (hcleared ch).mp hch
    · exact ha ch hold
    · by_contra hbarred
      exact hn ⟨ch, hmem, hr, Bool.eq_false_iff.mpr hbarred, hocc⟩

end Scene

namespace Controller

variable {c : Controller}

theorem occupies_iff (hn : c.scene.ids.Nodup) (ch : Channel) :
    (∃ s ∈ c.sessions, ch ∈ s.occupied) ↔ c.scene.Occupies ch :=
  exists_mem_iff (P := fun _ st => ch ∈ st.occupied) hn

/-- An operation keeps cleared channels free exactly if it credits none that is to be left alone. -/
theorem unbarred_perform_iff (hs : c.Sound) (ha : c.airspace.Unbarred) (op : Operation) :
    (c.perform op).1.airspace.Unbarred ↔ ¬ c.ClearsBarred op := by
  have hsound := sound_perform hs op
  have heffect := (effect_perform hs op).1
  unfold ClearsBarred
  generalize c.perform op = result at heffect hsound ⊢
  cases heffect with
  | manage c' _ pending how => exact iff_of_true (how.unbarred ha) (by simp [pending])
  | move now σ c' j _ _ pending reported path =>
    exact iff_of_true (path.unbarred (reported.sound hs.scene) (reported.airspace ▸ ha))
      (by simp [pending])
  | strike now channels σ c' j _ _ pending strikes path =>
    exact iff_of_true (path.unbarred (strikes.sound hs.scene) (strikes.unbarred ha))
      (by simp [pending])
  | complete now run σ c' j _ _ ended _ completes path onlyStops =>
    simp only [ended, Option.some.injEq, exists_eq_left', occupies_iff hs.scene.nodup,
      occupies_iff hsound.scene.nodup]
    exact completes.unbarred_iff onlyStops ha

/-- Throughout a run of a controller no channel is cleared and to be left alone at once, exactly if
no operation of the run credits a channel that is to be left alone. -/
theorem unbarred_throughout_iff {settings : Settings} {domain : Domain}
    (h : create settings domain = .ok c) (ops : List Operation) :
    (∀ done, done <+: ops → (c.after done).airspace.Unbarred) ↔
      ∀ done op, done ++ [op] <+: ops → ¬ (c.after done).ClearsBarred op := by
  refine throughout_iff (P := fun c => c.airspace.Unbarred) (sound_create h) ?_
    (fun c op hs ha => unbarred_perform_iff hs ha op) ops
  obtain ⟨table, -, rfl⟩ := create_eq h
  exact fun ch hch => absurd hch List.not_mem_nil

open FourChannels in
theorem unbarred_throughout_joined : create {} domain = .ok controller ∧
    ∀ done, done <+: heardOut → (controller.after done).airspace.Unbarred := by
  refine ⟨created, (unbarred_throughout_iff created _).mpr fun done op hdone => ?_⟩
  rcases List.prefix_concat_iff.mp hdone with hlast | hbefore
  · obtain ⟨rfl, -⟩ := List.append_inj' hlast rfl
    rintro ⟨run, hended, ch, hch, -, hbarred, -⟩
    have hfree : ∀ ch ∈ ((controller.after joined).airspace.run.map (·.channels)).getD [],
        (controller.after joined).airspace.table.isFree ch = true := by
      decide +kernel
    rw [run_of_completes? hended] at hfree
    rw [hfree ch hch] at hbarred
    cases hbarred
  · rintro ⟨run, hended, -⟩
    have hop : op ∈ joined := hbefore.subset (by simp)
    rw [(quiet_of_mem_joined _ hop).2.1] at hended
    cases hended

open FourChannels in
/-- The session that listens to all four channels leaves, radar on channel 60 concerns nobody, and
the end of the run clears channel 60. -/
theorem not_unbarred_after_unheard_radar : create {} domain = .ok controller ∧
    ¬ (controller.after (joined ++ [send 1000 0 .stopRequest, send 2000 1 (.radarDetected [60]),
      .listeningOver willing (Duration.millis 60000 : Nat)])).airspace.Unbarred := by
  refine ⟨created, ?_⟩
  unfold Airspace.Unbarred
  decide +kernel

end Controller

end Hotspot

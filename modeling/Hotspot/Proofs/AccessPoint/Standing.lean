import Hotspot.Proofs.AccessPoint.Move

/-!
What holds of every controller between and during operations: where a session can stand in its
phase, and what is known of radar before the non-occupancy list is there. Every move keeps it.
-/

set_option autoImplicit false
set_option relaxedAutoImplicit false

namespace Hotspot

/-- A session stands as its phase allows: off its initial phase the non-occupancy list is there, it
moves only when it is on the air or leaves it, and it listens where radar is possible. -/
structure Stance.Proper (a : Airspace) (st : Stance) : Prop where
  seeded : st.phase ≠ .disconnected → a.seeded = true
  target : st.phase ≠ .started → st.phase ≠ .disconnecting → st.target = none
  tuned : st.phase = .listening →
    ∃ tu, st.tuning = some tu ∧ ∃ c ∈ tu.channels, a.domain.isRadar c = true

namespace Stance

theorem Proper.mono {a a' : Airspace} {st : Stance} (h : st.Proper a)
    (hseeded : a.seeded = true → a'.seeded = true) (hdomain : a'.domain = a.domain) :
    st.Proper a' where
  seeded hp := hseeded (h.seeded hp)
  target := h.target
  tuned hp := hdomain ▸ h.tuned hp

theorem Proper.initial (a : Airspace) : Stance.initial.Proper a where
  seeded hp := absurd rfl hp
  target _ _ := rfl
  tuned hp := nomatch hp

private theorem Change.proper {skip : Bool} {a : Airspace} {st st' : Stance}
    (h : Change skip a st st') (hst : st.Proper a) : st'.Proper a := by
  cases h with
  | select tu tg hd =>
    exact ⟨fun _ => hd, fun _ _ => hst.target (by simp) (by simp), nofun⟩
  | tune p tu tg new hp =>
    refine ⟨hst.seeded, hst.target, ?_⟩
    rintro (rfl : p = .listening)
    simp at hp
  | launch p tu tg new hp hd =>
    refine ⟨fun _ => hd, fun _ _ => ?_, nofun⟩
    rcases hp with rfl | rfl <;> exact hst.target (by simp) (by simp)
  | listen p tu tg run hp hd hrun hcov hr =>
    refine ⟨fun _ => hd, fun _ _ => ?_, fun _ => ⟨tu, rfl, hr⟩⟩
    rcases hp with rfl | ⟨rfl, -⟩ <;> exact hst.target (by simp) (by simp)
  | start tu tg => exact ⟨fun _ => hst.seeded (by simp), by simp, nofun⟩
  | leave p tu tg hd => exact ⟨fun _ => hd, by simp, nofun⟩
  | drop tu tg => exact ⟨fun _ => hst.seeded (by simp), by simp, nofun⟩
  | clear => exact .initial a

end Stance

namespace Scene

/-- No number is used twice, every session stands properly, and without the non-occupancy list
nobody listens and no channel is cleared. -/
structure Sound (σ : Scene) : Prop where
  nodup : σ.ids.Nodup
  unseeded : σ.airspace.seeded = false → σ.airspace.run = none ∧ σ.airspace.cleared = []
  proper (id : SessionId) (st : Stance) : σ.stance id = some st → st.Proper σ.airspace

theorem forall_alter {σ : Scene} {id : SessionId} {f : Stance → Stance}
    {P : SessionId → Stance → Prop} (h : ∀ j st, σ.stance j = some st → P j st)
    (hf : ∀ st, σ.stance id = some st → P id (f st)) :
    ∀ j st, (σ.alter id f).stance j = some st → P j st := by
  intro j st hj
  by_cases he : j = id
  · subst he
    rw [alter_stance_self, Option.map_eq_some_iff] at hj
    obtain ⟨o, ho, rfl⟩ := hj
    exact hf o ho
  · rw [alter_stance_ne σ f he] at hj
    exact h j st hj

variable {now : Instant} {σ σ' : Scene}

private theorem Sound.share (hs : σ.Sound) {f : Airspace → Airspace}
    (hseeded : σ.airspace.seeded = true → (f σ.airspace).seeded = true)
    (hdomain : (f σ.airspace).domain = σ.airspace.domain)
    (hunseeded : (f σ.airspace).seeded = false →
      (f σ.airspace).run = none ∧ (f σ.airspace).cleared = []) : (σ.share f).Sound where
  nodup := hs.nodup
  unseeded := hunseeded
  proper id st h := (hs.proper id st h).mono hseeded hdomain

private theorem Sound.alter (hs : σ.Sound) {id : SessionId} {f : Stance → Stance}
    (hf : ∀ st, σ.stance id = some st → (f st).Proper σ.airspace) : (σ.alter id f).Sound where
  nodup := hs.nodup
  unseeded := hs.unseeded
  proper := forall_alter hs.proper hf

private theorem Move.sound (h : Move now σ σ') (hs : σ.Sound) : σ'.Sound := by
  cases h with
  | change id st st' hfound how => exact hs.alter fun _ _ => how.proper (hs.proper id st hfound)
  | look table => exact hs.share (fun h => h) rfl hs.unseeded
  | seed table hd => exact hs.share (fun _ => rfl) rfl nofun
  | release cleared hsub =>
    refine hs.share (fun h => h) rfl fun hd => ⟨(hs.unseeded hd).1, ?_⟩
    refine List.eq_nil_iff_forall_not_mem.mpr fun c hc => ?_
    have hmem := hsub c hc
    rw [(hs.unseeded hd).2] at hmem
    exact List.not_mem_nil hmem
  | beginRun run hsilent hd =>
    exact hs.share (fun h => h) rfl fun hn => absurd (hd.symm.trans hn) nofun
  | endRun id st hfound hl halone hd =>
    refine (hs.share (fun h => h) rfl fun hn => ⟨rfl, (hs.unseeded hn).2⟩).alter fun _ _ => ?_
    exact ⟨fun _ => hd, by simp, nofun⟩

theorem Path.sound (h : Path now σ σ') (hs : σ.Sound) : σ'.Sound := by
  induction h with
  | refl => exact hs
  | tail _ hmove ih => exact hmove.sound ih

theorem Reported.sound {heard : Option (SessionId × Tuning)} (h : Reported heard σ σ')
    (hs : σ.Sound) : σ'.Sound := by
  cases h with
  | nothing => exact hs
  | taken id st new said hfound hawaited =>
    refine hs.alter fun _ _ => ⟨fun _ => ?_, fun _ _ => rfl, nofun⟩
    refine (hs.proper id st hfound).seeded fun hp => ?_
    rcases hawaited with ⟨hp', -⟩ | ⟨hp', -⟩ <;> rw [hp] at hp' <;> cases hp'

theorem Reported.airspace {heard : Option (SessionId × Tuning)} (h : Reported heard σ σ') :
    σ'.airspace = σ.airspace := by
  cases h <;> rfl

theorem Reported.skip {heard : Option (SessionId × Tuning)} (h : Reported heard σ σ') :
    σ'.skip = σ.skip := by
  cases h <;> rfl

theorem Path.skip (h : Path now σ σ') : σ'.skip = σ.skip := by
  induction h with
  | refl => rfl
  | tail _ hmove ih => cases hmove <;> exact ih

end Scene

end Hotspot

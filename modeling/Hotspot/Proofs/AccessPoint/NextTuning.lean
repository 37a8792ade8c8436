import Hotspot.Proofs.AccessPoint.Run

/-!
Where a session is headed: the tuning on which it goes on the air if nothing comes between. A
session turns to another tuning only if no channel of it need be left alone at that instant.
-/

set_option autoImplicit false
set_option relaxedAutoImplicit false

namespace Hotspot

open NonOccupancy (Table)
open Scene (Path Reported Strikes Completes Managed)

/-- The tuning that the session goes on the air on next: where it starts or listens, or where it
moves to. -/
def Stance.nextTuning (st : Stance) : Option Tuning :=
  match st.phase with
  | .starting | .listening => st.tuning
  | .started | .disconnecting => st.target
  | .disconnected | .selecting => none

def Controller.nextTuning? (c : Controller) (id : SessionId) : Option Tuning :=
  (c.stance? id).bind Stance.nextTuning

namespace Stance

variable {a : Airspace} {st st' : Stance} {tu : Tuning}

private theorem seeded_of_nextTuning (hst : st.Proper a) (hc : st.nextTuning = some tu) :
    a.seeded = true := by
  refine hst.seeded fun hp => ?_
  rw [nextTuning, hp] at hc
  cases hc

theorem nextTuning_of_target (hst : st.Proper a) (htg : st.target = some tu) :
    st.nextTuning = some tu := by
  cases hp : st.phase with
  | started | disconnecting => rw [nextTuning, hp, htg]
  | _ =>
    rw [hst.target (by simp [hp]) (by simp [hp])] at htg
    cases htg

private theorem Change.keeps {skip : Bool} (h : Change skip a st st') (hst : st.Proper a)
    (hc : st'.nextTuning = some tu) : st.nextTuning = some tu ∨ tu.FreeIn a.table := by
  cases h with
  | select | drop | clear => cases hc
  | tune p old tg new hp => rcases hp with rfl | rfl <;> cases hc
  | launch p old tg new hp hd hfree =>
    cases hc
    exact .inr hfree
  | listen p new tg run hp =>
    cases hc
    exact hp.imp (fun hp => by rw [hp]; rfl) And.right
  | start new tg => exact .inl (nextTuning_of_target hst hc)
  | leave p old tg => exact .inl (nextTuning_of_target hst hc)

private theorem Evaded.keeps {table : Table} (h : Evaded table st st') (hst : st.Proper a)
    (hc : st'.nextTuning = some tu) : st.nextTuning = some tu ∨ tu.FreeIn table := by
  cases h with
  | stop p old tg => exact .inl (nextTuning_of_target hst hc)
  | leave p old tg new hfree | announce old tg new hfree =>
    cases hc
    exact .inr hfree

end Stance

namespace Scene

def nextTuning (σ : Scene) (id : SessionId) : Option Tuning :=
  (σ.stance id).bind Stance.nextTuning

def Keeps (σ σ' : Scene) : Prop :=
  ∀ id tu, σ'.nextTuning id = some tu → σ.nextTuning id = some tu ∨ tu.FreeIn σ'.airspace.table

variable {now : Instant} {σ σ' σ'' : Scene}

theorem nextTuning_of_stance {id : SessionId} {st : Stance} (h : σ.stance id = some st) :
    σ.nextTuning id = st.nextTuning := by
  rw [nextTuning, h]
  rfl

theorem exists_of_nextTuning {id : SessionId} {tu : Tuning} (h : σ.nextTuning id = some tu) :
    ∃ st, σ.stance id = some st ∧ st.nextTuning = some tu :=
  Option.bind_eq_some_iff.mp h

theorem Sound.seeded_of_nextTuning (hs : σ.Sound) {id : SessionId} {tu : Tuning}
    (h : σ.nextTuning id = some tu) : σ.airspace.seeded = true := by
  obtain ⟨st, hst, hc⟩ := exists_of_nextTuning h
  exact Stance.seeded_of_nextTuning (hs.proper id st hst) hc

private theorem keeps_of_stance
    (h : ∀ id st', σ'.stance id = some st' → ∀ tu, st'.nextTuning = some tu →
    ∃ st, σ.stance id = some st ∧ (st.nextTuning = some tu ∨ tu.FreeIn σ'.airspace.table)) :
    Keeps σ σ' := by
  intro id tu hnext
  obtain ⟨st', hst', hc⟩ := exists_of_nextTuning hnext
  obtain ⟨st, hst, hkeep⟩ := h id st' hst' tu hc
  rw [nextTuning_of_stance hst]
  exact hkeep

private theorem Keeps.refl (σ : Scene) : Keeps σ σ :=
  fun _ _ h => .inl h

private theorem keeps_alter {id : SessionId} {st st' : Stance} (hs : σ.stance id = some st)
    (h : ∀ tu, st'.nextTuning = some tu → st.nextTuning = some tu ∨ tu.FreeIn σ.airspace.table) :
    Keeps σ (σ.alter id fun _ => st') := by
  refine keeps_of_stance fun j o ho tu hc => ?_
  by_cases hj : j = id
  · subst hj
    rw [alter_stance_self, hs] at ho
    cases ho
    exact ⟨st, hs, h tu hc⟩
  · rw [alter_stance_ne _ _ hj] at ho
    exact ⟨o, ho, .inl hc⟩

private theorem Move.keeps (h : Move now σ σ') (hs : σ.Sound) : Keeps σ σ' := by
  cases h with
  | change id st st' hfound how =>
    exact keeps_alter hfound fun tu => how.keeps (hs.proper id st hfound)
  | look | seed | release | beginRun => exact fun _ _ h => .inl h
  | endRun id st hfound hl =>
    have hshared : (σ.share fun a => { a with run := none }).stance id = some st := hfound
    refine keeps_alter hshared fun tu hc => .inl ?_
    exact Stance.nextTuning_of_target (hs.proper id st hfound) hc

private theorem Move.looked (h : Move now σ σ') (hd : σ.airspace.seeded = true) :
    Table.Looked now σ.airspace.table σ'.airspace.table ∧ σ'.airspace.seeded = true := by
  cases h with
  | change | release | beginRun | endRun => exact ⟨.refl now _, hd⟩
  | look table hlooked => exact ⟨hlooked, hd⟩
  | seed table hn => exact absurd (hd.symm.trans hn) nofun

theorem Path.looked (h : Path now σ σ') (hd : σ.airspace.seeded = true) :
    Table.Looked now σ.airspace.table σ'.airspace.table ∧ σ'.airspace.seeded = true := by
  induction h with
  | refl => exact ⟨.refl now _, hd⟩
  | tail _ hmove ih =>
    obtain ⟨hlooked, hd'⟩ := hmove.looked ih.2
    exact ⟨ih.1.trans hlooked, hd'⟩

theorem Reported.looked {heard : Option (SessionId × Tuning)} (h : Reported heard σ σ')
    (hpath : Path now σ' σ'') (hd : σ.airspace.seeded = true) :
    Table.Looked now σ.airspace.table σ''.airspace.table := by
  rw [← h.airspace] at hd ⊢
  exact (hpath.looked hd).1

theorem Completes.looked {run : ListeningRun} {sent : SessionId → Prop}
    (h : Completes run sent σ σ') (hpath : Path now σ' σ'') (hd : σ.airspace.seeded = true) :
    Table.Looked now σ.airspace.table σ''.airspace.table := by
  have hlooked := (hpath.looked (by rw [h.airspace]; exact hd)).1
  rw [h.airspace] at hlooked
  exact hlooked

theorem Keeps.path (h : Keeps σ σ') (hs : σ'.Sound) (hpath : Path now σ' σ'') : Keeps σ σ'' := by
  induction hpath with
  | refl => exact h
  | tail hbefore hmove ih =>
    have hsound := Path.sound hbefore hs
    intro id tu hnext
    rcases hmove.keeps hsound id tu hnext with hsame | hfree
    · -- The session may have turned before this move, which then only looks at the list.
      have hlooked := (hmove.looked (hsound.seeded_of_nextTuning hsame)).1
      exact (ih id tu hsame).imp_right fun hfree => hfree.looked hlooked
    · exact .inr hfree

theorem Managed.keeps (h : Managed σ σ') : Keeps σ σ' := by
  intro id tu hnext
  obtain ⟨st, hst, hc⟩ := exists_of_nextTuning hnext
  rcases h.cases with ⟨-, hstance⟩ | ⟨-, hstance⟩
  · rcases hstance id st hst with hold | rfl
    · exact .inl ((nextTuning_of_stance hold).trans hc)
    · cases hc
  · exact .inl ((nextTuning_of_stance (hstance id st hst).1).trans hc)

theorem Reported.keeps {heard : Option (SessionId × Tuning)} (h : Reported heard σ σ')
    (htrue : ∀ id tu st, heard = some (id, tu) → σ.stance id = some st →
      st.target.or st.tuning = some tu) : Keeps σ σ' := by
  cases h with
  | nothing => exact .refl σ
  | taken id st new said hfound hawaited =>
    refine keeps_alter hfound fun tu hc => .inl ?_
    cases hc
    have hnew := htrue id new st said hfound
    rcases hawaited with ⟨hp, htg⟩ | ⟨hp, htg⟩
    · rw [htg] at hnew
      rw [Stance.nextTuning, hp]
      exact hnew
    · obtain ⟨tg, htg⟩ := Option.isSome_iff_exists.mp htg
      rw [htg] at hnew
      rw [Stance.nextTuning, hp, htg]
      exact hnew

theorem Strikes.keeps {channels : List Channel} (h : Strikes now channels σ σ') (hs : σ.Sound) :
    Keeps σ σ' := by
  refine keeps_of_stance fun id st' hst tu hc => ?_
  obtain ⟨st, ho, ⟨-, rfl⟩ | ⟨-, hev⟩⟩ := h.stance_cases hst
  · exact ⟨st', ho, .inl hc⟩
  · exact ⟨st, ho, hev.keeps (hs.proper id st ho) hc⟩

theorem Completes.keeps {run : ListeningRun} {sent : SessionId → Prop}
    (h : Completes run sent σ σ') (hs : σ.Sound) : Keeps σ σ' := by
  refine keeps_of_stance fun id st' hst tu hc => ?_
  obtain ⟨st, ho, ⟨-, rfl⟩ | ⟨hwait, ok, rfl, -⟩⟩ := h.stance_cases hst
  · exact ⟨st', ho, .inl hc⟩
  · have htg : st.target = some tu := by cases ok <;> exact hc
    exact ⟨st, ho, .inl (Stance.nextTuning_of_target (hs.proper id st ho) htg)⟩

end Scene

end Hotspot

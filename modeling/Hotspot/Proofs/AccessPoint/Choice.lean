import Hotspot.Proofs.AccessPoint.Leave
import Hotspot.Proofs.Spectrum.Selection

/-!
Choosing a channel changes nothing but what looking at the non-occupancy list changes, and what is
chosen is free.
-/

set_option autoImplicit false
set_option relaxedAutoImplicit false

namespace Hotspot.Turn

open NonOccupancy (Table)
open Scene (Path)

variable {now : Instant} {t : Turn}

theorem path_withTable {table : Table} (h : Table.Looked now t.airspace.table table) :
    Path now t.scene (t.withTable table).scene :=
  .single (.look t.scene table h)

theorem usable_spec (t : Turn) (target : Tuning) (now : Instant) :
    ∃ table, Table.Looked now t.airspace.table table ∧ (t.usable target now).2 = t.withTable table ∧
      ((t.usable target now).1 = true → target.FreeIn table) := by
  unfold usable
  split
  · have ha :=
      (Table.viewed_available now t.airspace.table target.channel target.bonding).looked
    cases hf : (t.airspace.table.available now target.channel target.bonding).1 with
    | false =>
      refine ⟨_, ha, ?_, ?_⟩ <;> simp [hf]
    | true =>
      have hu := (Table.viewed_unavailable now
        (t.airspace.table.available now target.channel target.bonding).2).looked
      refine ⟨_, ha.trans hu, ?_, ?_⟩
      · simp [hf, withTable, share]
      · intro _ c hc
        exact hu.isFree (Table.isFree_of_available hf c hc)
  · exact ⟨t.airspace.table, .refl now _, rfl, by simp⟩

structure Finds (now : Instant) (t : Turn) (found : Option Tuning × Turn) : Prop where
  looked : Table.Looked now t.airspace.table found.2.airspace.table
  scene : found.2.scene = (t.withTable found.2.airspace.table).scene
  queue : found.2.queue = t.queue
  aired : found.2.journal.aired = t.journal.aired
  free (tu : Tuning) : found.1 = some tu → tu.FreeIn found.2.airspace.table

namespace Finds

variable {found : Option Tuning × Turn}

private theorem refl {choice : Option Tuning}
    (hfree : ∀ tu, choice = some tu → tu.FreeIn t.airspace.table) : Finds now t (choice, t) :=
  ⟨.refl now _, rfl, rfl, rfl, hfree⟩

private theorem after {t' : Turn} (h : Finds now t' found)
    (hl : Table.Looked now t.airspace.table t'.airspace.table)
    (hscene : t'.scene = (t.withTable t'.airspace.table).scene) (hqueue : t'.queue = t.queue)
    (haired : t'.journal.aired = t.journal.aired) : Finds now t found where
  looked := hl.trans h.looked
  scene := by
    rw [h.scene, withTable, scene_share, hscene]
    rfl
  queue := h.queue.trans hqueue
  aired := h.aired.trans haired
  free := h.free

theorem airspace (h : Finds now t found) :
    found.2.airspace = { t.airspace with table := found.2.airspace.table } :=
  congrArg Scene.airspace h.scene

theorem stance (h : Finds now t found) : found.2.scene.stance = t.scene.stance := by
  rw [h.scene]
  rfl

theorem ids (h : Finds now t found) : found.2.scene.ids = t.scene.ids := by
  rw [h.scene]
  rfl

theorem skip (h : Finds now t found) : found.2.scene.skip = t.scene.skip := by
  rw [h.scene]
  rfl

theorem path (h : Finds now t found) :
    Path now t.scene found.2.scene := by
  rw [h.scene]
  exact path_withTable h.looked

end Finds

theorem finds_select (env : Surroundings) (t : Turn) (s : Session) (now : Instant) :
    Finds now t (t.select env s now) := by
  have hm : (t.modify s.id fun s => { s with ceiling := some s.widest }).scene = t.scene :=
    scene_modify_same t s.id (fun _ => rfl) fun _ => rfl
  have hfinds : Finds now (t.modify s.id fun s => { s with ceiling := some s.widest })
      (t.select env s now) := by
    rw [select]
    generalize (t.modify s.id fun s => { s with ceiling := some s.widest }) = m
    have hl := (Selection.viewed_select? m.airspace.domain m.settings.policy s.settings.range now
      m.airspace.table s.widest (env.octet m.drawn) (tick now)).looked
    have hf (tu : Tuning) (h : _ = some tu) :=
      Selection.freeIn_select? m.airspace.domain m.settings.policy s.settings.range now
        m.airspace.table s.widest (env.octet m.drawn) (tick now) h
    dsimp only
    generalize Selection.select? m.airspace.domain m.settings.policy s.settings.range s.widest
      (env.octet m.drawn) (tick now) now m.airspace.table = found at *
    obtain ⟨choice, table⟩ := found
    cases choice with
    | none => exact ⟨hl, rfl, rfl, rfl, fun tu h => nomatch h⟩
    | some chosen => exact ⟨hl, rfl, rfl, aired_notify _ s.id _, fun tu h => hf tu h⟩
  exact hfinds.after (.refl now _) hm rfl rfl

/-- The choice after a scan: the fixed channel while it is usable, else what selection finds. -/
def choose (env : Surroundings) (t : Turn) (s : Session) (now : Instant) : Option Tuning × Turn :=
  match s.settings.channel with
  | .auto => t.select env s now
  | .fixed c =>
    let wanted := Tuning.resolve c s.widest
    let (usable, t) := t.usable wanted now
    if usable then (some wanted, t) else t.select env s now

theorem finds_choose (env : Surroundings) (t : Turn) (s : Session) (now : Instant) :
    Finds now t (t.choose env s now) := by
  unfold choose
  split
  · exact finds_select env t s now
  · rename_i c _
    obtain ⟨table, hlooked, heq, hfree⟩ := usable_spec t (Tuning.resolve c s.widest) now
    dsimp only
    rw [heq]
    split
    · rename_i hok
      refine Finds.after (.refl fun tu h => ?_) hlooked rfl rfl rfl
      cases h
      exact hfree hok
    · exact (finds_select env (t.withTable table) s now).after hlooked rfl rfl rfl

/-- Where a session can go: to the place that another one found if that suits it, else to one of its
own. -/
def findPlace (env : Surroundings) (now : Instant) (t : Turn) (shared : Option Tuning)
    (s : Session) : Option Tuning × Turn :=
  match shared.filter (suits s) with
  | some target => (some target, t)
  | none => t.select env s now

theorem finds_findPlace (env : Surroundings) (now : Instant) (t : Turn) {shared : Option Tuning}
    (s : Session) (hshared : ∀ tu, shared = some tu → tu.FreeIn t.airspace.table) :
    Finds now t (findPlace env now t shared s) := by
  unfold findPlace
  split
  · rename_i target htarget
    refine .refl fun tu h => ?_
    cases h
    exact hshared target (Option.mem_filter_iff.mp htarget).1
  · exact finds_select env t s now

end Hotspot.Turn

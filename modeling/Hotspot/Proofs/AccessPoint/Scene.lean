import Hotspot.AccessPoint.Operations
import Mathlib.Data.List.Nodup

/-!
What the laws of a controller are about: where every session stands, and what the sessions share.
Each way to change a turn has one equation that says what it does to this view; the journal, the
queue and the octets do not show in it.
-/

set_option autoImplicit false
set_option relaxedAutoImplicit false

namespace Hotspot

/-- Where a session stands: its phase, what it is tuned to and where it is moving. -/
structure Stance where
  phase : Phase
  tuning : Option Tuning
  target : Option Tuning
  deriving DecidableEq

namespace Stance

def occupied (st : Stance) : List Channel :=
  (st.tuning.map Tuning.channels).getD []

def initial : Stance := ⟨.disconnected, none, none⟩

end Stance

def Session.stance (s : Session) : Stance :=
  ⟨s.phase, s.tuning, s.target⟩

def Controller.stance? (c : Controller) (id : SessionId) : Option Stance :=
  (c.session? id).map Session.stance

structure Scene where
  skip : Bool
  airspace : Airspace
  ids : List SessionId
  stance : SessionId → Option Stance

def Controller.scene (c : Controller) : Scene where
  skip := c.settings.skipListening
  airspace := c.airspace
  ids := c.sessions.map (·.id)
  stance := c.stance?

namespace Scene

def alter (σ : Scene) (id : SessionId) (f : Stance → Stance) : Scene :=
  { σ with stance := fun j => if j = id then (σ.stance j).map f else σ.stance j }

def share (σ : Scene) (f : Airspace → Airspace) : Scene :=
  { σ with airspace := f σ.airspace }

@[simp] theorem alter_stance_self (σ : Scene) (id : SessionId) (f : Stance → Stance) :
    (σ.alter id f).stance id = (σ.stance id).map f := by
  simp [alter]

theorem alter_stance_ne (σ : Scene) {id j : SessionId} (f : Stance → Stance) (h : j ≠ id) :
    (σ.alter id f).stance j = σ.stance j := by
  simp [alter, h]

theorem alter_alter (σ : Scene) (id : SessionId) (f g : Stance → Stance) :
    (σ.alter id f).alter id g = σ.alter id fun st => g (f st) := by
  simp only [alter, Scene.mk.injEq, true_and]
  funext j
  split
  · cases σ.stance j <;> rfl
  · rfl

theorem alter_congr (σ : Scene) (id : SessionId) {f g : Stance → Stance}
    (h : ∀ st, σ.stance id = some st → f st = g st) : σ.alter id f = σ.alter id g := by
  simp only [alter, Scene.mk.injEq, true_and]
  funext j
  split
  · rename_i hj
    subst hj
    cases hs : σ.stance j with
    | none => rfl
    | some st => simp [h st hs]
  · rfl

theorem alter_eq_self (σ : Scene) (id : SessionId) {f : Stance → Stance}
    (h : ∀ st, σ.stance id = some st → f st = st) : σ.alter id f = σ := by
  rw [alter_congr σ id h]
  simp only [alter]
  cases σ
  simp

end Scene

/-- A fold over sessions of distinct numbers, where a step on one session leaves the others due:
every session takes its step, in the order of the list. -/
theorem Session.foldl_each {β : Type} {step : β → Session → β} (Due : β → Session → Prop)
    (Takes : Session → β → β → Prop) (Each : List Session → β → β → Prop)
    (nil : ∀ b, Each [] b b)
    (cons : ∀ s rest b b', Takes s b (step b s) → (∀ o ∈ rest, s.id ≠ o.id) →
      Each rest (step b s) b' → Each (s :: rest) b b')
    (stays : ∀ s o b, Takes s b (step b s) → s.id ≠ o.id → Due b o → Due (step b s) o)
    {l : List Session} (takes : ∀ b, ∀ s ∈ l, Due b s → Takes s b (step b s))
    (hn : (l.map (·.id)).Nodup) (b : β) (hdue : ∀ s ∈ l, Due b s) : Each l b (l.foldl step b) := by
  induction l generalizing b with
  | nil => exact nil b
  | cons s rest ih =>
    rw [List.map_cons, List.nodup_cons] at hn
    have hne (o : Session) (ho : o ∈ rest) : s.id ≠ o.id :=
      fun h => hn.1 (h ▸ List.mem_map_of_mem ho)
    have hfirst := takes b s List.mem_cons_self (hdue s List.mem_cons_self)
    -- The others are still due: no number occurs twice.
    have hrest := ih (fun b o ho => takes b o (List.mem_cons_of_mem s ho)) hn.2 (step b s)
      fun o ho => stays s o b hfirst (hne o ho) (hdue o (List.mem_cons_of_mem s ho))
    exact cons s rest b _ hfirst hne hrest

namespace Controller

theorem id_of_session? {c : Controller} {id : SessionId} {s : Session}
    (h : c.session? id = some s) : s.id = id := by
  simpa using List.find?_some h

theorem mem_of_session? {c : Controller} {id : SessionId} {s : Session}
    (h : c.session? id = some s) : s ∈ c.sessions :=
  List.mem_of_find?_eq_some h

theorem stance?_of_session? {c : Controller} {id : SessionId} {s : Session}
    (h : c.session? id = some s) : c.scene.stance id = some s.stance := by
  simp [scene, stance?, h]

theorem session?_of_stance? {c : Controller} {id : SessionId} {st : Stance}
    (h : c.scene.stance id = some st) : ∃ s, c.session? id = some s ∧ s.stance = st := by
  simpa [scene, stance?] using h

theorem session?_of_mem {c : Controller} (hn : c.scene.ids.Nodup) {s : Session}
    (h : s ∈ c.sessions) : c.session? s.id = some s := by
  unfold session?
  cases hf : c.sessions.find? (·.id == s.id) with
  | none => simpa using List.find?_eq_none.mp hf s h
  | some o =>
    have ho : o.id = s.id := by simpa using List.find?_some hf
    rw [List.inj_on_of_nodup_map hn (List.mem_of_find?_eq_some hf) h ho]

theorem exists_mem_iff {c : Controller} (hn : c.scene.ids.Nodup)
    {P : SessionId → Stance → Prop} : (∃ s ∈ c.sessions, P s.id s.stance) ↔
      ∃ id st, c.scene.stance id = some st ∧ P id st := by
  constructor
  · rintro ⟨s, hs, hp⟩
    exact ⟨s.id, s.stance, stance?_of_session? (session?_of_mem hn hs), hp⟩
  · rintro ⟨id, st, hst, hp⟩
    obtain ⟨s, hs, rfl⟩ := session?_of_stance? hst
    exact ⟨s, mem_of_session? hs, (id_of_session? hs).symm ▸ hp⟩

theorem forall_mem_iff {c : Controller} (hn : c.scene.ids.Nodup) {P : SessionId → Stance → Prop} :
    (∀ s ∈ c.sessions, P s.id s.stance) ↔ ∀ id st, c.scene.stance id = some st → P id st := by
  constructor
  · intro h id st hst
    obtain ⟨s, hs, rfl⟩ := session?_of_stance? hst
    exact id_of_session? hs ▸ h s (mem_of_session? hs)
  · intro h s hs
    exact h s.id s.stance (stance?_of_session? (session?_of_mem hn hs))

end Controller

namespace Turn

@[simp] theorem scene_record (t : Turn) (e : Entry) : (t.record e).scene = t.scene := rfl

@[simp] theorem scene_notify (t : Turn) (id : SessionId) (n : Notice) :
    (t.notify id n).scene = t.scene := rfl

@[simp] theorem scene_enqueue (t : Turn) (id : SessionId) (e : Event) :
    (t.enqueue id e).scene = t.scene := rfl

@[simp] theorem scene_disarm (t : Turn) : t.disarm.scene = t.scene := rfl

@[simp] theorem scene_share (t : Turn) (f : Airspace → Airspace) :
    (t.share f).scene = t.scene.share f := rfl

theorem session?_modify (t : Turn) (id j : SessionId) {f : Session → Session}
    (hf : ∀ s, (f s).id = s.id) :
    (t.modify id f).session? j = if j = id then (t.session? j).map f else t.session? j := by
  have hp : ((fun s : Session => s.id == j) ∘ fun s => if (s.id == id) = true then f s else s) =
      fun s => s.id == j := by
    funext s
    simp only [Function.comp]
    split
    · rw [hf]
    · rfl
  simp only [modify, Controller.session?, List.find?_map, hp]
  cases h : t.sessions.find? fun s => s.id == j with
  | none => simp
  | some s =>
    have hs : s.id = j := by simpa using List.find?_some h
    by_cases he : j = id <;> simp [hs, he]

theorem ids_modify (t : Turn) (id : SessionId) {f : Session → Session}
    (hf : ∀ s, (f s).id = s.id) :
    (t.modify id f).sessions.map (·.id) = t.sessions.map (·.id) := by
  simp only [modify, List.map_map]
  refine List.map_congr_left fun s _ => ?_
  simp only [Function.comp]
  split
  · exact hf s
  · rfl

theorem scene_modify (t : Turn) (id : SessionId) {f : Session → Session} {g : Stance → Stance}
    (hf : ∀ s, (f s).id = s.id) (hg : ∀ s, (f s).stance = g s.stance) :
    (t.modify id f).scene = t.scene.alter id g := by
  have hst : (t.modify id f).stance? = (t.scene.alter id g).stance := by
    funext j
    simp only [Scene.alter, Controller.scene, Controller.stance?, session?_modify t id j hf]
    split
    · cases t.session? j <;> simp [hg]
    · rfl
  calc (t.modify id f).scene
      = ⟨t.settings.skipListening, t.airspace, (t.modify id f).sessions.map (·.id),
          (t.modify id f).stance?⟩ := rfl
    _ = t.scene.alter id g := by rw [ids_modify t id hf, hst]; rfl

theorem scene_modify_same (t : Turn) (id : SessionId) {f : Session → Session}
    (hf : ∀ s, (f s).id = s.id) (hg : ∀ s, (f s).stance = s.stance) :
    (t.modify id f).scene = t.scene := by
  rw [scene_modify (g := fun st => st) t id hf hg]
  exact t.scene.alter_eq_self id fun _ _ => rfl

@[simp] theorem scene_enter (t : Turn) (id : SessionId) (p : Phase) :
    (t.enter id p).scene = t.scene.alter id fun st => { st with phase := p } := by
  unfold enter
  cases h : t.session? id with
  | none =>
    rw [Scene.alter_eq_self]
    · simp [Controller.phase?, h]
    · intro st hst
      simp [Controller.scene, Controller.stance?, h] at hst
  | some s =>
    by_cases hp : s.phase = p
    · rw [Scene.alter_eq_self]
      · simp [Controller.phase?, h, hp]
      · intro st hst
        rw [Controller.stance?_of_session? h] at hst
        cases hst
        simp [Session.stance, hp]
    · simp only [Controller.phase?, h, Option.map_some, hp, if_false, scene_record]
      exact scene_modify t id (fun _ => rfl) fun _ => rfl

@[simp] theorem queue_enter (t : Turn) (id : SessionId) (p : Phase) :
    (t.enter id p).queue = t.queue := by
  unfold enter
  split
  · rfl
  · split <;> rfl

end Turn

end Hotspot

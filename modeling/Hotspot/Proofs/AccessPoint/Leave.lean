import Hotspot.Proofs.AccessPoint.Aired
import Hotspot.Proofs.AccessPoint.Move

/-!
How a session leaves the air, as a path of moves. None of this puts anybody on the air, and all that
is left to do is at most one closing event.
-/

set_option autoImplicit false
set_option relaxedAutoImplicit false

namespace Hotspot.Turn

open Scene (Path)

variable {env : Surroundings} {now : Instant} {t : Turn} {s : Session}
  {id : SessionId} {st : Stance}

/-- Gives a command; if the layer below does not take it, an event stands for its completion. -/
def commandElse (env : Surroundings) (t : Turn) (id : SessionId) (c : Command) (e : Event) : Turn :=
  let (accepted, t) := t.command env id c
  if accepted then t else t.enqueue id e

theorem exists_command_eq (env : Surroundings) (t : Turn) (id : SessionId) (c : Command) :
    ∃ ok, t.command env id c = (ok, t.record (.command id c ok)) := ⟨_, rfl⟩

@[simp] theorem scene_commandElse (env : Surroundings) (t : Turn) (id : SessionId) (c : Command)
    (e : Event) : (t.commandElse env id c e).scene = t.scene := by
  obtain ⟨ok, hc⟩ := exists_command_eq env t id c
  rw [commandElse, hc]
  cases ok <;> rfl

private theorem queue_commandElse (env : Surroundings) (t : Turn) (id : SessionId) (c : Command)
    (e : Event) : (t.commandElse env id c e).queue = t.queue ∨
      (t.commandElse env id c e).queue = t.queue ++ [(id, e)] := by
  obtain ⟨ok, hc⟩ := exists_command_eq env t id c
  rw [commandElse, hc]
  cases ok
  · exact .inr rfl
  · exact .inl rfl

theorem leaves_commandElse (env : Surroundings) (t : Turn) (id : SessionId) (c : Command)
    {e : Event} (he : e.isClosing = true) : Leaves id t (t.commandElse env id c e) :=
  (queue_commandElse env t id c e).imp_right fun h => ⟨e, he, h⟩

theorem aired_commandElse (env : Surroundings) (t : Turn) (id : SessionId) {c : Command}
    (hc : c ≠ .startBeacon) (e : Event) :
    (t.commandElse env id c e).journal.aired = t.journal.aired := by
  have ha := aired_command env t id hc
  unfold commandElse
  dsimp only
  split
  · exact ha
  · exact ha

@[simp] theorem scene_closeControl (env : Surroundings) (t : Turn) (s : Session) :
    (t.closeControl env s).scene = t.scene := by
  unfold closeControl
  split
  · exact scene_modify_same t s.id (fun _ => rfl) fun _ => rfl
  · rfl

@[simp] theorem queue_closeControl (env : Surroundings) (t : Turn) (s : Session) :
    (t.closeControl env s).queue = t.queue := by
  unfold closeControl
  split <;> rfl

@[simp] theorem aired_closeControl (env : Surroundings) (t : Turn) (s : Session) :
    (t.closeControl env s).journal.aired = t.journal.aired := by
  unfold closeControl
  split
  · exact aired_command env (t.modify s.id _) s.id (by simp)
  · rfl

theorem mem_cleared_releaseCleared (t : Turn) (s : Session) (c : Channel) :
    c ∈ (t.releaseCleared s).airspace.cleared ↔
      c ∈ t.airspace.cleared ∧
        (c ∈ s.occupied → ∃ o ∈ t.sessions, o.id ≠ s.id ∧ c ∈ o.occupied) := by
  simp only [releaseCleared, share, List.mem_filter, Bool.not_eq_true', List.contains_eq_mem,
    decide_eq_false_iff_not]
  refine and_congr_right fun _ => ?_
  simp [imp_iff_not_or]

theorem scene_releaseCleared (t : Turn) (s : Session) :
    (t.releaseCleared s).scene =
      t.scene.share fun a => { a with cleared := (t.releaseCleared s).airspace.cleared } := rfl

private theorem path_releaseCleared (hs : t.scene.stance s.id = some st)
    (hp : st.phase ≠ .started) : Path now t.scene (t.releaseCleared s).scene := by
  rw [scene_releaseCleared]
  refine .single (.release t.scene _ (fun c hc => ?_) fun j o ho hj c hc hcl => ?_)
  · exact ((mem_cleared_releaseCleared t s c).mp hc).1
  · obtain ⟨x, hx, rfl⟩ := Controller.session?_of_stance? ho
    refine (mem_cleared_releaseCleared t s c).mpr ⟨hcl, fun _ => ?_⟩
    refine ⟨x, Controller.mem_of_session? hx, fun he => hp ?_, hc⟩
    rw [Controller.id_of_session? hx] at he
    rw [he, hs] at ho
    cases ho
    exact hj

theorem scene_rest (env : Surroundings) (t : Turn) (s : Session) :
    (t.rest env s).scene =
      ((t.closeControl env s).releaseCleared s).scene.alter s.id fun _ => .initial := by
  unfold rest
  rw [scene_enter, scene_modify (f := Session.clear) (g := fun st => ⟨st.phase, none, none⟩) _ s.id
    (fun _ => rfl) fun _ => rfl, Scene.alter_alter]
  rfl

private theorem path_rest (hs : t.scene.stance s.id = some st) (hl : st.phase ≠ .listening)
    (hp : st.phase ≠ .started) : Path now t.scene (t.rest env s).scene := by
  have hr : Path now t.scene ((t.closeControl env s).releaseCleared s).scene := by
    have h : Path now (t.closeControl env s).scene _ :=
      path_releaseCleared (s := s) (by rwa [scene_closeControl]) hp
    rwa [scene_closeControl] at h
  rw [scene_rest]
  refine hr.trans (Path.change ?_ (.clear st.phase st.tuning st.target hl hp))
  rw [scene_releaseCleared]
  simpa [Scene.share] using hs

@[simp] theorem queue_rest (env : Surroundings) (t : Turn) (s : Session) :
    (t.rest env s).queue = t.queue := by
  rw [rest, queue_enter]
  exact queue_closeControl env t s

@[simp] theorem aired_rest (env : Surroundings) (t : Turn) (s : Session) :
    (t.rest env s).journal.aired = t.journal.aired := by
  rw [rest, aired_enter _ s.id (by simp)]
  exact aired_closeControl env t s

theorem path_failStart (hs : t.scene.stance s.id = some st) (hl : st.phase ≠ .listening)
    (hp : st.phase ≠ .started) : Path now t.scene (t.failStart env s).scene :=
  path_rest (t := t.notify s.id _) hs hl hp

@[simp] theorem queue_failStart (env : Surroundings) (t : Turn) (s : Session) :
    (t.failStart env s).queue = t.queue :=
  queue_rest env (t.notify s.id _) s

@[simp] theorem aired_failStart (env : Surroundings) (t : Turn) (s : Session) :
    (t.failStart env s).journal.aired = t.journal.aired := by
  rw [failStart, aired_rest, aired_notify]

theorem path_finishStop (hs : t.scene.stance s.id = some st) (hl : st.phase ≠ .listening)
    (hp : st.phase ≠ .started) : Path now t.scene (t.finishStop env s).scene :=
  path_rest hs hl hp

@[simp] theorem queue_finishStop (env : Surroundings) (t : Turn) (s : Session) :
    (t.finishStop env s).queue = t.queue :=
  queue_rest env t s

@[simp] theorem aired_finishStop (env : Surroundings) (t : Turn) (s : Session) :
    (t.finishStop env s).journal.aired = t.journal.aired := by
  rw [finishStop, aired_notify, aired_rest]

theorem beginStop_eq (env : Surroundings) (t : Turn) (id : SessionId) :
    t.beginStop env id =
      (t.enter id .disconnecting).commandElse env id .stopNetwork .networkStopped := rfl

theorem scene_beginStop (env : Surroundings) (t : Turn) (id : SessionId) :
    (t.beginStop env id).scene =
      t.scene.alter id fun st => { st with phase := .disconnecting } := by
  rw [beginStop_eq, scene_commandElse, scene_enter]

theorem path_beginStop (hs : t.scene.stance id = some st) (hd : t.airspace.seeded = true) :
    Path now t.scene (t.beginStop env id).scene := by
  rw [scene_beginStop]
  exact Path.change hs (.leave st.phase st.tuning st.target hd)

theorem queue_beginStop (env : Surroundings) (t : Turn) (id : SessionId) :
    (t.beginStop env id).queue = t.queue ∨
      (t.beginStop env id).queue = t.queue ++ [(id, .networkStopped)] := by
  have h := queue_commandElse env (t.enter id .disconnecting) id .stopNetwork .networkStopped
  rwa [queue_enter] at h

theorem leaves_beginStop (env : Surroundings) (t : Turn) (id : SessionId) :
    Leaves id t (t.beginStop env id) :=
  (queue_beginStop env t id).imp_right fun h => ⟨.networkStopped, rfl, h⟩

@[simp] theorem aired_beginStop (env : Surroundings) (t : Turn) (id : SessionId) :
    (t.beginStop env id).journal.aired = t.journal.aired := by
  rw [beginStop_eq, aired_commandElse env _ id (by simp), aired_enter t id (by simp)]

end Hotspot.Turn

import Hotspot.Proofs.AccessPoint.Answer
import Mathlib.Logic.Function.Basic

/-!
The progress of one session: where it stands, and what the journal tells about its way from one
phase to the next. Every step of an answer lets one session progress and leaves the others alone.
-/

set_option autoImplicit false
set_option relaxedAutoImplicit false

namespace Hotspot

/-- What the journal tells about a session's way through its phases. -/
inductive Mark
  | moved (before after : Phase)
  /-- The layer below took the command to send. -/
  | told
  /-- The application was told how a start ended. -/
  | replied (outcome : Outcome)
  deriving DecidableEq

def Entry.mark? : Entry → Option (SessionId × Mark)
  | .moved id before after => some (id, .moved before after)
  | .command id .startBeacon true => some (id, .told)
  | .notice id (.startComplete outcome _ _) => some (id, .replied outcome)
  | _ => none

def Journal.marks (j : Journal) (id : SessionId) : List Mark :=
  j.filterMap fun e => e.mark?.bind fun m => if m.1 = id then some m.2 else none

def Mark.shift (before after : Phase) : List Mark :=
  if before = after then [] else [.moved before after]

theorem Mark.shift_of_on {p : Phase} (h : p = .listening ∨ p = .started) :
    shift p .disconnecting = [.moved p .disconnecting] := by
  rcases h with rfl | rfl <;> rfl

theorem Mark.shift_of_starts {p : Phase} (h : p = .selecting ∨ p = .starting) :
    shift p .disconnected = [.moved p .disconnected] := by
  rcases h with rfl | rfl <;> rfl

namespace Journal

@[simp] theorem marks_nil (id : SessionId) : marks [] id = [] := rfl

theorem mem_marks {j : Journal} {id : SessionId} {m : Mark} :
    m ∈ j.marks id ↔ ∃ e ∈ j, e.mark? = some (id, m) := by
  simp only [marks, List.mem_filterMap, Option.bind_eq_some_iff, Option.ite_none_right_eq_some,
    Option.some.injEq]
  refine exists_congr fun e => and_congr_right fun _ => ⟨?_, fun h => ⟨_, h, rfl, rfl⟩⟩
  rintro ⟨p, hp, rfl, rfl⟩
  exact hp

theorem mem_marks_of_moved {j : Journal} {id : SessionId} {before after : Phase}
    (h : .moved id before after ∈ j) : .moved before after ∈ j.marks id :=
  mem_marks.mpr ⟨_, h, rfl⟩

theorem marks_append (j j' : Journal) (id : SessionId) :
    (j ++ j').marks id = j.marks id ++ j'.marks id :=
  List.filterMap_append

private theorem marks_concat (j : Journal) (e : Entry) (id : SessionId) :
    marks (j ++ [e]) id = j.marks id ++
      (e.mark?.bind fun m => if m.1 = id then some m.2 else none).toList := by
  rw [marks_append, marks, marks, List.filterMap_cons]
  split
  · rename_i h
    simp [h]
  · rename_i h
    simp [h]

end Journal

namespace Turn

open Mark (shift)

variable {env : Surroundings} {now : Instant} {t t' t₁ t₂ : Turn} {s : Session} {id : SessionId}
  {st st' : Stance} {ms ms' : List Mark}

/-- Where each session stands in a turn, and what the journal tells about it so far. -/
def progress (t : Turn) (id : SessionId) : Option Stance × List Mark :=
  (t.scene.stance id, t.journal.marks id)

/-- The session comes to stand where it does and leaves marks; the others are left alone. -/
def Progresses (id : SessionId) (ms : List Mark) (st' : Stance) (t t' : Turn) : Prop :=
  t'.progress = Function.update t.progress id (some st', (t.progress id).2 ++ ms)

namespace Progresses

theorem trans (h : Progresses id ms st t t₁) (h' : Progresses id ms' st' t₁ t₂) :
    Progresses id (ms ++ ms') st' t t₂ := by
  unfold Progresses at h h' ⊢
  rw [h', h, Function.update_self, Function.update_idem, List.append_assoc]

theorem from_eq (h : Progresses id ms st t₁ t₂) (ht : t₁.progress = t.progress) :
    Progresses id ms st t t₂ := by
  unfold Progresses at h ⊢
  rw [h, ht]

theorem to_eq (h : Progresses id ms st t t₁) (ht : t₂.progress = t₁.progress) :
    Progresses id ms st t t₂ :=
  ht.trans h

theorem own (h : Progresses id ms st t t') :
    t'.progress id = (some st, t.journal.marks id ++ ms) := by
  rw [h, Function.update_self]
  rfl

theorem other (h : Progresses id ms st t t') {j : SessionId} (hj : j ≠ id) :
    t'.progress j = t.progress j := by
  rw [h, Function.update_of_ne hj]

theorem stance (h : Progresses id ms st t t') : t'.scene.stance id = some st :=
  congrArg Prod.fst h.own

end Progresses

private theorem progress_eq (hs : t'.scene.stance = t.scene.stance)
    (hj : ∀ id, t'.journal.marks id = t.journal.marks id) : t'.progress = t.progress := by
  funext id
  rw [progress, progress, hs, hj]

private theorem progresses_of_alter {f : Stance → Stance} (hs : t.scene.stance id = some st)
    (hscene : t'.scene = t.scene.alter id f)
    (hj : ∀ j, t'.journal.marks j = t.journal.marks j ++ if j = id then ms else []) :
    Progresses id ms (f st) t t' := by
  funext j
  by_cases h : j = id
  · subst h
    rw [Function.update_self, progress, hscene, Scene.alter_stance_self, hs, hj, if_pos rfl]
    rfl
  · rw [Function.update_of_ne h, progress, hscene, Scene.alter_stance_ne _ f h, hj, if_neg h,
      List.append_nil]
    rfl

theorem progress_record (t : Turn) {e : Entry} (he : e.mark? = none) :
    (t.record e).progress = t.progress := by
  refine progress_eq rfl fun id => ?_
  rw [record, Journal.marks_concat, he]
  exact List.append_nil _

private theorem progress_command (env : Surroundings) (t : Turn) (id : SessionId) {c : Command}
    (hc : ∀ ok, (Entry.command id c ok).mark? = none) :
    (t.command env id c).2.progress = t.progress :=
  progress_record t (hc _)

theorem progress_commandElse (env : Surroundings) (t : Turn) (id : SessionId) {c : Command}
    (hc : ∀ ok, (Entry.command id c ok).mark? = none) (e : Event) :
    (t.commandElse env id c e).progress = t.progress := by
  have h := progress_command env t id hc
  unfold commandElse
  dsimp only
  split
  · exact h
  · exact h

theorem progress_share (t : Turn) (f : Airspace → Airspace) : (t.share f).progress = t.progress :=
    rfl

theorem progress_modify (t : Turn) (id : SessionId) {f : Session → Session}
    (hf : ∀ s, (f s).id = s.id) (hg : ∀ s, (f s).stance = s.stance) :
    (t.modify id f).progress = t.progress :=
  progress_eq (congrArg Scene.stance (scene_modify_same t id hf hg)) fun _ => rfl

private theorem progress_closeControl (env : Surroundings) (t : Turn) (s : Session) :
    (t.closeControl env s).progress = t.progress := by
  have hscene := scene_closeControl env t s
  unfold closeControl at hscene ⊢
  split
  · have hm : (t.modify s.id fun s => { s with controlOpen := false }).progress = t.progress :=
      progress_modify t s.id (fun _ => rfl) fun _ => rfl
    exact (progress_command env _ s.id fun _ => rfl).trans hm
  · rfl

theorem progress_usable (t : Turn) (target : Tuning) (now : Instant) :
    (t.usable target now).2.progress = t.progress := by
  obtain ⟨table, -, heq, -⟩ := usable_spec t target now
  rw [heq]
  rfl

private theorem progress_select (env : Surroundings) (t : Turn) (s : Session) (now : Instant) :
    (t.select env s now).2.progress = t.progress := by
  have hm : (t.modify s.id fun s => { s with ceiling := some s.widest }).progress = t.progress :=
    progress_modify t s.id (fun _ => rfl) fun _ => rfl
  rw [select, ← hm]
  generalize (t.modify s.id fun s => { s with ceiling := some s.widest }) = m
  dsimp only
  generalize Selection.select? m.airspace.domain m.settings.policy s.settings.range s.widest
    (env.octet m.drawn) (tick now) now m.airspace.table = found
  obtain ⟨choice, table⟩ := found
  cases choice with
  | none => rfl
  | some chosen => exact progress_record _ rfl

theorem progress_choose (env : Surroundings) (t : Turn) (s : Session) (now : Instant) :
    (t.choose env s now).2.progress = t.progress := by
  unfold choose
  split
  · exact progress_select env t s now
  · rename_i c _
    have hu := progress_usable t (Tuning.resolve c s.widest) now
    dsimp only
    split
    · exact hu
    · exact (progress_select env _ s now).trans hu

theorem progress_findPlace (env : Surroundings) (now : Instant) (t : Turn) (shared : Option Tuning)
    (s : Session) : (findPlace env now t shared s).2.progress = t.progress := by
  unfold findPlace
  split
  · rfl
  · exact progress_select env t s now

private theorem progress_openControl (env : Surroundings) (t : Turn) (s : Session) :
    (t.openControl env s).2.progress = t.progress := by
  have hc : (t.command env s.id .openControl).2.progress = t.progress :=
    progress_command env t s.id fun _ => rfl
  unfold openControl
  split
  · rfl
  · dsimp only
    split
    · refine Eq.trans ?_ hc
      exact progress_modify _ s.id (fun _ => rfl) fun _ => rfl
    · exact hc

private theorem progress_ensureTable (env : Surroundings) (t : Turn) (id : SessionId)
    (now : Instant) : (t.ensureTable env id now).2.progress = t.progress := by
  unfold ensureTable
  split
  · rfl
  · split
    · rfl
    · exact (progress_share _ _).trans (progress_record t rfl)

theorem exists_prepared (env : Surroundings) (t : Turn) (s : Session) (now : Instant)
    (next : Turn → Session → Turn) : ∃ t₁ s₁, t₁.progress = t.progress ∧ s₁.id = s.id ∧
      (t.prepared env s now next = t₁.failStart env s₁ ∨
        t.prepared env s now next = next t₁ s₁) := by
  have hopen := progress_openControl env t s
  have hbuilt := progress_ensureTable env (t.openControl env s).2 s.id now
  let s₁ : Session := { s with controlOpen := (t.openControl env s).1 }
  unfold prepared
  dsimp only
  split
  · split
    · exact ⟨_, s₁, hbuilt.trans hopen, rfl, .inr rfl⟩
    · exact ⟨_, s₁, hbuilt.trans hopen, rfl, .inl rfl⟩
  · exact ⟨_, s₁, hopen, rfl, .inl rfl⟩

theorem progresses_record (hs : t.scene.stance id = some st) {e : Entry} {m : Mark}
    (he : e.mark? = some (id, m)) : Progresses id [m] st t (t.record e) := by
  have hself : t.scene = t.scene.alter id fun st => st :=
    (t.scene.alter_eq_self id fun _ _ => rfl).symm
  refine progresses_of_alter (f := fun st => st) hs hself fun j => ?_
  rw [record, Journal.marks_concat, he]
  by_cases h : j = id
  · simp [h]
  · simp [h, Ne.symm h]

theorem progresses_modify (hs : t.scene.stance id = some st) {f : Session → Session}
    {g : Stance → Stance} (hf : ∀ s, (f s).id = s.id) (hg : ∀ s, (f s).stance = g s.stance) :
    Progresses id [] (g st) t (t.modify id f) :=
  progresses_of_alter hs (scene_modify t id hf hg) fun j => by
    rw [ite_self, List.append_nil]
    rfl

theorem progresses_enter (hs : t.scene.stance id = some st) (p : Phase) :
    Progresses id (shift st.phase p) { st with phase := p } t (t.enter id p) := by
  refine progresses_of_alter (f := fun st => { st with phase := p }) hs
    (scene_enter t id p) fun j => ?_
  obtain ⟨s, hsess, rfl⟩ := Controller.session?_of_stance? hs
  have hphase : t.phase? id = some s.phase := by rw [Controller.phase?, hsess]; rfl
  have hstance : s.stance.phase = s.phase := rfl
  unfold enter shift
  rw [hphase, hstance]
  by_cases hp : s.phase = p
  · simp [hp]
  · simp only [hp, if_false, record, Journal.marks_concat, Entry.mark?, Option.bind_some]
    by_cases h : j = id
    · simp [modify, h]
    · simp [modify, h, Ne.symm h]

theorem Progresses.enter (h : Progresses id ms st t t') (p : Phase) :
    Progresses id (ms ++ shift st.phase p) { st with phase := p } t (t'.enter id p) :=
  h.trans (progresses_enter h.stance p)

theorem progresses_beginStop (env : Surroundings) (hs : t.scene.stance id = some st) :
    Progresses id (shift st.phase .disconnecting) { st with phase := .disconnecting } t
      (t.beginStop env id) := by
  rw [beginStop_eq]
  exact (progresses_enter hs .disconnecting).to_eq (progress_commandElse env _ id (fun _ => rfl) _)

private theorem progresses_rest (env : Surroundings) (hs : t.scene.stance s.id = some st) :
    Progresses s.id (shift st.phase .disconnected) .initial t (t.rest env s) := by
  have hclosed : ((t.closeControl env s).releaseCleared s).progress = t.progress :=
    progress_closeControl env t s
  have hs₁ : ((t.closeControl env s).releaseCleared s).scene.stance s.id = some st :=
    (congrArg Prod.fst (congrFun hclosed s.id)).trans hs
  have hclear := progresses_modify hs₁ (f := Session.clear) (g := fun st => ⟨st.phase, none, none⟩)
    (fun _ => rfl) fun _ => rfl
  exact (hclear.enter .disconnected).from_eq hclosed

theorem progresses_failStart (env : Surroundings) (hs : t.scene.stance s.id = some st) :
    Progresses s.id (.replied .failure :: shift st.phase .disconnected) .initial t
      (t.failStart env s) := by
  have hreply : Progresses s.id [.replied .failure] st t
      (t.notify s.id (.startComplete .failure s.settings.address s.tuning)) :=
    progresses_record hs rfl
  exact hreply.trans (progresses_rest env hreply.stance)

theorem progresses_finishStop (env : Surroundings) (hs : t.scene.stance s.id = some st) :
    Progresses s.id (shift st.phase .disconnected) .initial t (t.finishStop env s) :=
  (progresses_rest env hs).to_eq (progress_record _ rfl)

theorem progresses_beginStart (env : Surroundings) (hs : t.scene.stance s.id = some st)
    (tu : Tuning) : Progresses s.id (shift st.phase .starting) ⟨.starting, some tu, st.target⟩ t
      (t.beginStart env s tu) := by
  have htuned := progresses_modify hs (f := fun s => { s with tuning := some tu })
    (g := fun st => { st with tuning := some tu }) (fun _ => rfl) fun _ => rfl
  rw [beginStart_eq]
  exact (htuned.enter .starting).to_eq (progress_commandElse env _ s.id (fun _ => rfl) _)

private theorem progresses_awaitListening (hs : t.scene.stance id = some st) (tu : Tuning)
    (d : Duration) : Progresses id (shift st.phase .listening) { st with phase := .listening } t
      (t.awaitListening id tu d) := by
  have henter := progresses_enter hs .listening
  rw [awaitListening]
  split
  · refine henter.to_eq ((progress_record _ rfl).trans ?_)
    exact progress_modify _ id (fun _ => rfl) fun _ => rfl
  · exact henter

end Turn

/-- Nothing keeps a session from listening on the tuning: no run is under way, or one that covers
it. -/
def Airspace.admits (a : Airspace) (tu : Tuning) : Bool :=
  a.run.all fun run => a.covers run tu

namespace Turn

open Mark (shift)

variable {env : Surroundings} {now : Instant} {t t' t₁ t₂ : Turn} {s : Session} {id : SessionId}
  {st st' : Stance} {ms ms' : List Mark}

theorem progresses_beginListening (env : Surroundings) (now : Instant)
    (hs : t.scene.stance s.id = some st) {tu : Tuning} (h : t.airspace.admits tu = true) :
    Progresses s.id (shift st.phase .listening) { st with phase := .listening } t
      (t.beginListening env s tu now) := by
  unfold beginListening
  split
  · rename_i run hrun
    have hcov : t.airspace.covers run tu = true := by simpa [Airspace.admits, hrun] using h
    rw [if_pos hcov]
    exact progresses_awaitListening hs tu run.duration
  · have harmed : (t.arm (t.airspace.table.listening tu.channels)).progress = t.progress :=
      progress_record t rfl
    exact (progresses_awaitListening (t := (t.arm _).share _) hs tu _).from_eq harmed

theorem progresses_beginListening_of_refused (env : Surroundings) (now : Instant)
    (hs : t.scene.stance s.id = some st) {tu : Tuning} (h : t.airspace.admits tu = false) :
    Progresses s.id (.replied .failure :: shift st.phase .disconnecting)
      { st with phase := .disconnecting } t (t.beginListening env s tu now) := by
  unfold beginListening
  split
  · rename_i run hrun
    have hcov : t.airspace.covers run tu = false := by simpa [Airspace.admits, hrun] using h
    have hreply : Progresses s.id [.replied .failure] st t
        (t.notify s.id (.startComplete .failure s.settings.address (some tu))) :=
      progresses_record hs rfl
    rw [if_neg (by simp [hcov])]
    exact hreply.trans (progresses_beginStop env hreply.stance)
  · rename_i hrun
    simp [Airspace.admits, hrun] at h

theorem progresses_markStarted (hs : t.scene.stance s.id = some st) :
    Progresses s.id (shift st.phase .started ++ [.replied .success]) { st with phase := .started } t
      (t.markStarted s) := by
  have henter := progresses_enter hs .started
  exact henter.trans (progresses_record henter.stance rfl)

end Turn

end Hotspot

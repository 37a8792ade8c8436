import Hotspot.Proofs.AccessPoint.Answer
import Hotspot.Proofs.AccessPoint.Standing

/-!
Radar: every session on the air or listening on the channels moves to a free tuning or stops, and
the others stay where they are.
-/

set_option autoImplicit false
set_option relaxedAutoImplicit false

namespace Hotspot

open NonOccupancy (Table)

def Airspace.isHit (a : Airspace) (channels : List Channel) : Bool :=
  a.run.any fun run => run.channels.any channels.contains

def Stance.Affected (channels : List Channel) (st : Stance) : Prop :=
  (st.phase = .listening ∨ st.phase = .started) ∧ ∃ c ∈ st.occupied, c ∈ channels

/-- Who has to move away stops, leaves for a free tuning, or tells its stations of one. -/
inductive Stance.Evaded (table : Table) : Stance → Stance → Prop
  | stop (p : Phase) (tu tg : Option Tuning) : Evaded table ⟨p, tu, tg⟩ ⟨.disconnecting, tu, tg⟩
  | leave (p : Phase) (tu tg : Option Tuning) (new : Tuning) (free : new.FreeIn table) :
      Evaded table ⟨p, tu, tg⟩ ⟨.disconnecting, tu, some new⟩
  | announce (tu tg : Option Tuning) (new : Tuning) (free : new.FreeIn table) :
      Evaded table ⟨.started, tu, tg⟩ ⟨.started, tu, some new⟩

private theorem Stance.Evaded.looked {now : Instant} {table table' : Table} {st st' : Stance}
    (h : Evaded table st st') (hl : Table.Looked now table table') : Evaded table' st st' := by
  cases h with
  | stop p tu tg => exact .stop p tu tg
  | leave p tu tg new hfree => exact .leave p tu tg new (hfree.looked hl)
  | announce tu tg new hfree => exact .announce tu tg new (hfree.looked hl)

/-- Radar on channels: they go on the non-occupancy list and are not cleared; if somebody is
affected, a run that listens there ends, and who is affected moves away. -/
structure Scene.Strikes (now : Instant) (channels : List Channel) (σ σ' : Scene) : Prop where
  ids : σ'.ids = σ.ids
  skip : σ'.skip = σ.skip
  looked : Table.Looked now (σ.airspace.table.markEach now channels).2 σ'.airspace.table
  airspace : ∃ run, σ'.airspace = { σ.airspace with
    table := σ'.airspace.table
    cleared := σ.airspace.cleared.filter fun c => !channels.contains c
    run } ∧
    (run = none ∧ σ.airspace.isHit channels = true ∧
        (∃ id st, σ.stance id = some st ∧ st.Affected channels) ∨
      run = σ.airspace.run ∧ (σ.airspace.isHit channels = false ∨
        ∀ id st, σ.stance id = some st → ¬ st.Affected channels))
  unaffected (id : SessionId) : (∀ st, σ.stance id = some st → ¬ st.Affected channels) →
    σ'.stance id = σ.stance id
  affected (id : SessionId) (st : Stance) : σ.stance id = some st → st.Affected channels →
    ∃ st', σ'.stance id = some st' ∧ Stance.Evaded σ'.airspace.table st st'

namespace Scene

variable {now : Instant} {σ σ' : Scene}

theorem Strikes.stance_cases {channels : List Channel} (h : Strikes now channels σ σ')
    {id : SessionId} {st' : Stance} (hst : σ'.stance id = some st') :
    ∃ st, σ.stance id = some st ∧
      (¬ st.Affected channels ∧ st' = st ∨
        st.Affected channels ∧ Stance.Evaded σ'.airspace.table st st') := by
  cases ho : σ.stance id with
  | none =>
    rw [h.unaffected id (by simp [ho]), ho] at hst
    cases hst
  | some st =>
    by_cases haff : st.Affected channels
    · obtain ⟨st₁, hst₁, hev⟩ := h.affected id st ho haff
      rw [hst₁] at hst
      cases hst
      exact ⟨st, rfl, .inr ⟨haff, hev⟩⟩
    · have hsame := h.unaffected id fun o h => by rw [ho] at h; cases h; exact haff
      rw [hsame, ho] at hst
      exact ⟨st, rfl, .inl ⟨haff, (Option.some.inj hst).symm⟩⟩

theorem Strikes.sound {channels : List Channel} (h : Strikes now channels σ σ') (hs : σ.Sound) :
    σ'.Sound := by
  obtain ⟨run, hair, hrun⟩ := h.airspace
  have hseeded : σ'.airspace.seeded = σ.airspace.seeded := by rw [hair]
  have hdomain : σ'.airspace.domain = σ.airspace.domain := by rw [hair]
  refine ⟨h.ids ▸ hs.nodup, fun hd => ?_, fun id st' hst => ?_⟩
  · obtain ⟨hnorun, hnocleared⟩ := hs.unseeded (hseeded ▸ hd)
    rw [hair]
    refine ⟨?_, by simp [hnocleared]⟩
    rcases hrun with ⟨hnone, -⟩ | ⟨hsame, -⟩
    · exact hnone
    · exact hsame.trans hnorun
  · obtain ⟨st, ho, ⟨-, rfl⟩ | ⟨⟨hp, -⟩, hev⟩⟩ := h.stance_cases hst
    · exact (hs.proper id st' ho).mono (fun h => hseeded ▸ h) hdomain
    · have hd : σ'.airspace.seeded = true := by
        rw [hseeded]
        refine (hs.proper id st ho).seeded fun h => ?_
        rcases hp with hp | hp <;> rw [hp] at h <;> cases h
      cases hev with
      | stop => exact ⟨fun _ => hd, by simp, nofun⟩
      | leave => exact ⟨fun _ => hd, by simp, nofun⟩
      | announce => exact ⟨fun _ => hd, by simp, nofun⟩

end Scene

namespace Turn

variable {env : Surroundings} {now : Instant} {t t' t'' : Turn} {s : Session}

structure Evades (now : Instant) (l : List Session) (t t' : Turn) : Prop where
  ids : t'.scene.ids = t.scene.ids
  skip : t'.scene.skip = t.scene.skip
  looked : Table.Looked now t.airspace.table t'.airspace.table
  airspace : t'.airspace = { t.airspace with table := t'.airspace.table }
  others (id : SessionId) : (∀ s ∈ l, s.id ≠ id) → t'.scene.stance id = t.scene.stance id
  moved (s : Session) : s ∈ l → ∃ st, t'.scene.stance s.id = some st ∧
    Stance.Evaded t'.airspace.table s.stance st
  queue : ∃ more, t'.queue = t.queue ++ more ∧ (∀ p ∈ more, p.2.isClosing = true) ∧
    backlog more ≤ 2 * l.length
  aired : t'.journal.aired = t.journal.aired

private theorem Evades.nil (now : Instant) (t : Turn) : Evades now [] t t where
  ids := rfl
  skip := rfl
  looked := .refl now _
  airspace := rfl
  others _ _ := rfl
  moved _ h := absurd h List.not_mem_nil
  queue := ⟨[], by simp, by simp, by simp [backlog]⟩
  aired := rfl

private theorem Evades.append {l l' : List Session} (h : Evades now l t t')
    (h' : Evades now l' t' t'')
    (hd : ∀ s ∈ l, ∀ s' ∈ l', s.id ≠ s'.id) : Evades now (l ++ l') t t'' where
  ids := h'.ids.trans h.ids
  skip := h'.skip.trans h.skip
  looked := h.looked.trans h'.looked
  airspace := by rw [h'.airspace, h.airspace]
  others id hid := by
    rw [h'.others id fun s hs => hid s (List.mem_append_right l hs),
      h.others id fun s hs => hid s (List.mem_append_left l' hs)]
  moved s hs := by
    rcases List.mem_append.mp hs with hs | hs
    · obtain ⟨st, hst, hev⟩ := h.moved s hs
      refine ⟨st, ?_, hev.looked h'.looked⟩
      rw [h'.others s.id fun s' hs' => (hd s hs s' hs').symm, hst]
    · exact h'.moved s hs
  queue := by
    obtain ⟨more, hq, hclose, hback⟩ := h.queue
    obtain ⟨more', hq', hclose', hback'⟩ := h'.queue
    refine ⟨more ++ more', by rw [hq', hq, List.append_assoc], fun p hp => ?_, ?_⟩
    · exact (List.mem_append.mp hp).elim (hclose p) (hclose' p)
    · rw [backlog_append, List.length_append]
      omega
  aired := h'.aired.trans h.aired

def leaveFor (t : Turn) (id : SessionId) (target : Tuning) : Turn :=
  (t.enter id .disconnecting).enqueue id (.changeRequest target)

def moveTo (env : Surroundings) (t : Turn) (s : Session) (target : Tuning) : Turn :=
  let t := t.modify s.id fun s => { s with target := some target }
  if s.phase = .started then
    let (accepted, t) := t.command env s.id (.announceSwitch target)
    if accepted then t.notify s.id (.switchAnnounced target) else t.leaveFor s.id target
  else t.leaveFor s.id target

theorem evade_eq (env : Surroundings) (now : Instant) (t : Turn) (shared : Option Tuning)
    (s : Session) : evade env now (t, shared) s =
      match (findPlace env now t shared s).1 with
      | none =>
        (((findPlace env now t shared s).2.notify s.id .noChannel).beginStop env s.id, shared)
      | some target =>
        (moveTo env (findPlace env now t shared s).2 s target, some (shared.getD target)) := by
  unfold findPlace
  rw [evade]
  cases shared.filter (suits s) <;> rfl

private theorem Evades.of_found {found : Option Tuning × Turn} {l : List Session}
    (h : Evades now l found.2 t') (hfind : Finds now t found) : Evades now l t t' where
  ids := h.ids.trans hfind.ids
  skip := h.skip.trans hfind.skip
  looked := hfind.looked.trans h.looked
  airspace := by rw [h.airspace, hfind.airspace]
  others id hid := by rw [h.others id hid, hfind.stance]
  moved := h.moved
  queue := hfind.queue ▸ h.queue
  aired := h.aired.trans hfind.aired

private theorem Evades.single {st : Stance} {more : List (SessionId × Event)}
    (hs : t.scene.stance s.id = some s.stance)
    (hscene : t'.scene = t.scene.alter s.id fun _ => st)
    (hev : Stance.Evaded t.airspace.table s.stance st) (hqueue : t'.queue = t.queue ++ more)
    (hclose : ∀ p ∈ more, p.2.isClosing = true) (hback : backlog more ≤ 2)
    (haired : t'.journal.aired = t.journal.aired) : Evades now [s] t t' := by
  have hair : t'.airspace = t.airspace := congrArg Scene.airspace hscene
  constructor
  case ids => rw [hscene]; rfl
  case skip => rw [hscene]; rfl
  case looked => rw [hair]; exact .refl now _
  case airspace => rw [hair]
  case others =>
    intro id hid
    rw [hscene, Scene.alter_stance_ne _ _ (hid s (by simp)).symm]
  case moved =>
    intro o ho
    obtain rfl := List.mem_singleton.mp ho
    exact ⟨st, by rw [hscene, Scene.alter_stance_self, hs]; rfl, hair ▸ hev⟩
  case queue => exact ⟨more, hqueue, hclose, by simpa using hback⟩
  case aired => exact haired

private theorem alter_eq_const {σ : Scene} {id : SessionId} {st : Stance} {f : Stance → Stance}
    (hs : σ.stance id = some st) : σ.alter id f = σ.alter id fun _ => f st :=
  σ.alter_congr id fun o ho => by rw [hs] at ho; cases ho; rfl

private theorem evades_beginStop (env : Surroundings) (hs : t.scene.stance s.id = some s.stance) :
    Evades now [s] t ((t.notify s.id .noChannel).beginStop env s.id) := by
  have hscene := (scene_beginStop env (t.notify s.id .noChannel) s.id).trans
    (alter_eq_const (σ := t.scene) hs)
  have haired := (aired_beginStop env (t.notify s.id .noChannel) s.id).trans (aired_notify t s.id _)
  rcases queue_beginStop env (t.notify s.id .noChannel) s.id with hq | hq
  · exact .single hs hscene (.stop s.phase s.tuning s.target) (hq.trans (List.append_nil _).symm)
      (by simp) (by simp [backlog]) haired
  · exact .single hs hscene (.stop s.phase s.tuning s.target) hq (by simp [Event.isClosing])
      (by simp [backlog, Event.cost]) haired

private theorem scene_target (t : Turn) (id : SessionId) (target : Tuning) :
    (t.modify id fun s => { s with target := some target }).scene =
      t.scene.alter id fun st => { st with target := some target } :=
  scene_modify t id (fun _ => rfl) fun _ => rfl

private theorem evades_leaveFor {target : Tuning} (hs : t.scene.stance s.id = some s.stance)
    (hscene : t'.scene = t.scene.alter s.id fun st => { st with target := some target })
    (hqueue : t'.queue = t.queue) (haired : t'.journal.aired = t.journal.aired)
    (hfree : target.FreeIn t.airspace.table) : Evades now [s] t (t'.leaveFor s.id target) := by
  have hleft : (t'.leaveFor s.id target).scene =
      t.scene.alter s.id fun _ => ⟨.disconnecting, s.tuning, some target⟩ := by
    rw [leaveFor, scene_enqueue, scene_enter, hscene, Scene.alter_alter, alter_eq_const hs]
    rfl
  have hq : (t'.leaveFor s.id target).queue = t.queue ++ [(s.id, .changeRequest target)] := by
    rw [← hqueue, ← queue_enter t' s.id .disconnecting]
    rfl
  refine .single hs hleft (.leave s.phase s.tuning s.target target hfree) hq
    (by simp [Event.isClosing]) (by simp [backlog, Event.cost]) ?_
  rw [leaveFor, aired_enqueue, aired_enter t' s.id (by simp), haired]

private theorem evades_moveTo (now : Instant) (env : Surroundings) {target : Tuning}
    (hs : t.scene.stance s.id = some s.stance) (hfree : target.FreeIn t.airspace.table) :
    Evades now [s] t (moveTo env t s target) := by
  have htarget := scene_target t s.id target
  unfold moveTo
  dsimp only
  split
  · rename_i hp
    obtain ⟨ok, hc⟩ := exists_command_eq env
      (t.modify s.id fun s => { s with target := some target }) s.id (.announceSwitch target)
    rw [hc]
    cases ok with
    | false => exact evades_leaveFor hs htarget rfl (by simp [aired_record, Entry.aired?]) hfree
    | true =>
      have hscene := htarget.trans (alter_eq_const hs)
      have hev : Stance.Evaded t.airspace.table s.stance ⟨s.phase, s.tuning, some target⟩ := by
        rw [Session.stance, hp]
        exact .announce s.tuning s.target target hfree
      exact .single hs hscene hev (List.append_nil _).symm (by simp) (by simp [backlog])
        (by simp [aired_record, Entry.aired?])
  · exact evades_leaveFor hs htarget rfl rfl hfree

private theorem evades_evade (now : Instant) (env : Surroundings) {shared : Option Tuning}
    (hs : t.scene.stance s.id = some s.stance)
    (hshared : ∀ tu, shared = some tu → tu.FreeIn t.airspace.table) :
    Evades now [s] t (evade env now (t, shared) s).1 ∧
      ∀ tu, (evade env now (t, shared) s).2 = some tu →
        tu.FreeIn (evade env now (t, shared) s).1.airspace.table := by
  have hfind := finds_findPlace env now t s hshared
  have hs₁ : (findPlace env now t shared s).2.scene.stance s.id = some s.stance := by
    rw [hfind.stance, hs]
  rw [evade_eq]
  split
  · have hev : Evades now [s] t _ := (evades_beginStop env hs₁).of_found hfind
    exact ⟨hev, fun tu h => (hshared tu h).looked hev.looked⟩
  · rename_i target htarget
    have hfree := hfind.free target htarget
    have hmove := evades_moveTo now env hs₁ hfree
    refine ⟨hmove.of_found hfind, fun tu h => ?_⟩
    cases shared with
    | none =>
      cases h
      exact hfree.looked hmove.looked
    | some place =>
      cases h
      exact (hshared place rfl).looked (hmove.of_found hfind).looked

private theorem evades_foldl (env : Surroundings) {l : List Session} {shared : Option Tuning}
    (hn : (l.map (·.id)).Nodup) (hs : ∀ s ∈ l, t.scene.stance s.id = some s.stance)
    (hshared : ∀ tu, shared = some tu → tu.FreeIn t.airspace.table) :
    Evades now l t (l.foldl (evade env now) (t, shared)).1 := by
  -- What each session finds stays free for the next ones.
  let Free (b : Turn × Option Tuning) : Prop := ∀ tu, b.2 = some tu → tu.FreeIn b.1.airspace.table
  refine Session.foldl_each (fun b s => b.1.scene.stance s.id = some s.stance ∧ Free b)
    (fun s b b' => Evades now [s] b.1 b'.1 ∧ Free b') (fun l b b' => Evades now l b.1 b'.1)
    ?_ ?_ ?_ ?_ hn (t, shared) ?_
  · exact fun b => .nil now b.1
  · intro s rest b b' hfirst hne hrest
    exact hfirst.1.append hrest (by simpa using hne)
  · intro s o b hfirst hne ho
    refine ⟨?_, hfirst.2⟩
    rw [hfirst.1.others o.id (by simpa using hne)]
    exact ho.1
  · exact fun b s _ hdue => evades_evade now env hdue.1 hdue.2
  · exact fun s hmem => ⟨hs s hmem, hshared⟩

/-- What radar changes at once: the channels go on the non-occupancy list and are not cleared. -/
def struck (now : Instant) (channels : List Channel) (a : Airspace) : Airspace :=
  { a with
    table := (a.table.markEach now channels).2
    cleared := a.cleared.filter fun c => !channels.contains c }

def affected (t : Turn) (channels : List Channel) : List Session :=
  t.sessions.filter (isAffected channels)

def warn (t : Turn) (channels : List Channel) (l : List Session) : Turn :=
  l.foldl (fun t s => t.notify s.id (.radarDetected channels)) t

def disperse (env : Surroundings) (t : Turn) (channels : List Channel) (now : Instant)
    (id : SessionId) : Turn :=
  if (t.affected channels).isEmpty then t.notify id (.radarDetected channels)
  else ((t.affected channels).foldl (evade env now)
    ((t.warn channels (t.affected channels)).abortListening channels, none)).1

theorem onRadar_eq (env : Surroundings) (t : Turn) (s : Session) (channels : List Channel)
    (now : Instant) :
    t.onRadar env s channels now =
      (((t.share (struck now (if channels.isEmpty then s.occupied else channels))).notify s.id
        (.listChanged ((t.share (struck now (if channels.isEmpty then s.occupied else
          channels))).airspace.table.records now))).disperse env
            (if channels.isEmpty then s.occupied else channels) now s.id) := rfl

theorem mem_affected {channels : List Channel} : s ∈ t.affected channels ↔
    s ∈ t.sessions ∧ (s.phase = .listening ∨ s.phase = .started) ∧
      s.overlaps channels = true := by
  simp [affected, isAffected]

theorem warn_spec (t : Turn) (channels : List Channel) (l : List Session) :
    (t.warn channels l).scene = t.scene ∧ (t.warn channels l).queue = t.queue ∧
      (t.warn channels l).journal.aired = t.journal.aired := by
  unfold warn
  induction l generalizing t with
  | nil => exact ⟨rfl, rfl, rfl⟩
  | cons s rest ih =>
    obtain ⟨hscene, hqueue, haired⟩ := ih (t.notify s.id (.radarDetected channels))
    exact ⟨hscene, hqueue, haired.trans (aired_notify t s.id _)⟩

theorem abortListening_spec (t : Turn) (channels : List Channel) :
    (t.abortListening channels).scene = t.scene.share (fun a =>
      { a with run := if a.isHit channels then none else a.run }) ∧
      (t.abortListening channels).queue = t.queue ∧
      (t.abortListening channels).journal.aired = t.journal.aired := by
  unfold abortListening
  split
  · rename_i h
    have h : t.scene.airspace.isHit channels = true := h
    refine ⟨?_, rfl, ?_⟩
    · simp [Scene.share, h]
    · rw [disarm, aired_record]
      simp [Entry.aired?]
  · rename_i h
    have h : t.scene.airspace.isHit channels = false := Bool.eq_false_iff.mpr h
    refine ⟨?_, rfl, rfl⟩
    simp [Scene.share, h]

theorem affected_stance {channels : List Channel} : s.stance.Affected channels ↔
    (s.phase = .listening ∨ s.phase = .started) ∧ s.overlaps channels = true := by
  refine and_congr_right fun _ => ?_
  simp only [Session.stance, Stance.occupied, Session.overlaps]
  cases s.tuning with
  | none => simp
  | some tu => simp [Tuning.overlaps]

private theorem exists_mem_affected {channels : List Channel} {id : SessionId} {st : Stance}
    (hst : t.scene.stance id = some st) (haff : st.Affected channels) :
    ∃ s ∈ t.affected channels, s.id = id ∧ s.stance = st := by
  obtain ⟨s, hs, rfl⟩ := Controller.session?_of_stance? hst
  obtain ⟨hp, hover⟩ := affected_stance.mp haff
  exact ⟨s, mem_affected.mpr ⟨Controller.mem_of_session? hs, hp, hover⟩,
    Controller.id_of_session? hs, rfl⟩

theorem affected_of_mem (hn : t.scene.ids.Nodup) {channels : List Channel}
    (hs : s ∈ t.affected channels) :
    t.scene.stance s.id = some s.stance ∧ s.stance.Affected channels := by
  obtain ⟨hmem, hp, hover⟩ := mem_affected.mp hs
  exact ⟨Controller.stance?_of_session? (Controller.session?_of_mem hn hmem),
    affected_stance.mpr ⟨hp, hover⟩⟩

private theorem strikes_of_none {σ : Scene} {channels : List Channel}
    (hnone : ∀ id st, σ.stance id = some st → ¬ st.Affected channels) :
    Scene.Strikes now channels σ (σ.share (struck now channels)) where
  ids := rfl
  skip := rfl
  looked := .refl now _
  airspace := ⟨σ.airspace.run, rfl, .inr ⟨rfl, .inr hnone⟩⟩
  unaffected _ _ := rfl
  affected id st hst haff := absurd haff (hnone id st hst)

private theorem strikes_of_evades {channels : List Channel} (hn : t.scene.ids.Nodup)
    (hsome : t.affected channels ≠ [])
    (hscene : t'.scene = t.scene.share fun a =>
      { struck now channels a with run := if a.isHit channels then none else a.run })
    (hev : Evades now (t.affected channels) t' t'') :
    Scene.Strikes now channels t.scene t''.scene where
  ids := hev.ids.trans (by rw [hscene]; rfl)
  skip := hev.skip.trans (by rw [hscene]; rfl)
  looked := by
    have hair : t'.airspace.table = (t.airspace.table.markEach now channels).2 :=
      congrArg (·.airspace.table) hscene
    exact hair ▸ hev.looked
  airspace := by
    have hair : t'.airspace = { struck now channels t.airspace with
        run := if t.airspace.isHit channels then none else t.airspace.run } :=
      congrArg Scene.airspace hscene
    refine ⟨if t.airspace.isHit channels then none else t.airspace.run, ?_, ?_⟩
    · exact hev.airspace.trans (by rw [hair]; rfl)
    · cases hhit : t.airspace.isHit channels with
      | true =>
        obtain ⟨s, rest, hl⟩ := List.exists_cons_of_ne_nil hsome
        have hs : s ∈ t.affected channels := by simp [hl]
        exact .inl ⟨rfl, hhit, s.id, s.stance, affected_of_mem hn hs⟩
      | false => exact .inr ⟨rfl, .inl hhit⟩
  unaffected id hid := by
    have hst : t'.scene.stance = t.scene.stance := by rw [hscene]; rfl
    rw [hev.others id ?_, hst]
    rintro s hs rfl
    obtain ⟨hstance, haff⟩ := affected_of_mem hn hs
    exact hid _ hstance haff
  affected id st hst haff := by
    obtain ⟨s, hs, rfl, rfl⟩ := exists_mem_affected hst haff
    exact hev.moved s hs

private theorem strikes_disperse (env : Surroundings) (t' : Turn) (hn : t.scene.ids.Nodup)
    {channels : List Channel} (hscene : t'.scene = t.scene.share (struck now channels))
    (hsess : t'.sessions = t.sessions) (id : SessionId) :
    Scene.Strikes now channels t.scene (t'.disperse env channels now id).scene ∧
      (∃ more, (t'.disperse env channels now id).queue = t'.queue ++ more ∧
        (∀ p ∈ more, p.2.isClosing = true) ∧ backlog more ≤ 2 * t.sessions.length) ∧
      (t'.disperse env channels now id).journal.aired = t'.journal.aired := by
  have haffected : t'.affected channels = t.affected channels := by rw [affected, hsess]; rfl
  have hlen : (t.affected channels).length ≤ t.sessions.length := List.length_filter_le _ _
  unfold disperse
  rw [haffected]
  by_cases hempty : t.affected channels = []
  · rw [if_pos (by simp [hempty])]
    refine ⟨?_, ⟨[], by simp [notify, record], by simp, by simp [backlog]⟩, aired_notify t' id _⟩
    rw [scene_notify, hscene]
    refine strikes_of_none fun j st hst haff => ?_
    obtain ⟨s, hs, -⟩ := exists_mem_affected hst haff
    rw [hempty] at hs
    exact List.not_mem_nil hs
  · rw [if_neg (by simpa using hempty)]
    obtain ⟨hwarn, hwarnq, hwarna⟩ := warn_spec t' channels (t.affected channels)
    obtain ⟨habort, habortq, haborta⟩ :=
      abortListening_spec (t'.warn channels (t.affected channels)) channels
    rw [hwarn, hscene] at habort
    have hev : Evades now (t.affected channels)
        ((t'.warn channels (t.affected channels)).abortListening channels)
        ((t.affected channels).foldl (evade env now)
          ((t'.warn channels (t.affected channels)).abortListening channels, none)).1 := by
      refine evades_foldl env ?_ (fun s hs => ?_) (fun tu h => by cases h)
      · exact List.Nodup.sublist (List.filter_sublist.map _) hn
      · rw [habort]
        exact (affected_of_mem hn hs).1
    obtain ⟨more, hq, hclose, hback⟩ := hev.queue
    refine ⟨strikes_of_evades hn hempty habort hev, ⟨more, ?_, hclose, by omega⟩, ?_⟩
    · rw [hq, habortq, hwarnq]
    · rw [hev.aired, haborta, hwarna]

theorem strikes_onRadar (env : Surroundings) (s : Session) (channels : List Channel)
    (now : Instant) (hn : t.scene.ids.Nodup) :
    Scene.Strikes now (if channels.isEmpty then s.occupied else channels) t.scene
        (t.onRadar env s channels now).scene ∧
      (∃ more, (t.onRadar env s channels now).queue = t.queue ++ more ∧
        (∀ p ∈ more, p.2.isClosing = true) ∧ backlog more ≤ 2 * t.sessions.length) ∧
      (t.onRadar env s channels now).journal.aired = t.journal.aired := by
  rw [onRadar_eq]
  generalize (if channels.isEmpty then s.occupied else channels) = chs
  obtain ⟨hstrikes, hqueue, haired⟩ := strikes_disperse env ((t.share (struck now chs)).notify s.id
    (.listChanged ((t.share (struck now chs)).airspace.table.records now))) hn rfl rfl s.id
  exact ⟨hstrikes, hqueue, haired.trans (aired_notify _ s.id _)⟩

end Turn

end Hotspot

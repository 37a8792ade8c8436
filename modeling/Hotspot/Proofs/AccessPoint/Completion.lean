import Hotspot.Proofs.AccessPoint.Answer
import Hotspot.Proofs.AccessPoint.Standing

/-!
The end of a run of listening: every session that waited for it goes on the air or stops, and the
others stay where they are.
-/

set_option autoImplicit false
set_option relaxedAutoImplicit false

namespace Hotspot

namespace Turn

def woken (accepted : Bool) (st : Stance) : Stance :=
  { st with phase := if accepted then .started else .disconnecting }

def credited (run : ListeningRun) (a : Airspace) : Airspace :=
  { a with
    run := none
    cleared := (run.channels.filter a.domain.isRadar).foldl (fun set c => Channel.insert c set)
      a.cleared }

end Turn

def Stance.Waits (run : ListeningRun) (st : Stance) : Prop :=
  st.phase = .listening ∧ ∃ c ∈ st.occupied, c ∈ run.channels

namespace Scene

/-- A run of listening is complete: its channels are cleared, and whoever waited for it is on the
air, if the command to send was taken, and stops else. -/
structure Completes (run : ListeningRun) (sent : SessionId → Prop) (σ σ' : Scene) : Prop where
  ids : σ'.ids = σ.ids
  skip : σ'.skip = σ.skip
  airspace : σ'.airspace = Turn.credited run σ.airspace
  waiting (id : SessionId) (st : Stance) : σ.stance id = some st → st.Waits run →
    ∃ accepted, σ'.stance id = some (Turn.woken accepted st) ∧ (accepted = true ↔ sent id)
  others (id : SessionId) : (∀ st, σ.stance id = some st → ¬ st.Waits run) →
    σ'.stance id = σ.stance id

variable {σ σ' : Scene}

theorem Completes.stance_cases {run : ListeningRun} {sent : SessionId → Prop}
    (h : Completes run sent σ σ') {id : SessionId} {st' : Stance} (hst : σ'.stance id = some st') :
    ∃ st, σ.stance id = some st ∧
      (¬ st.Waits run ∧ st' = st ∨
        st.Waits run ∧ ∃ accepted, st' = Turn.woken accepted st ∧ (accepted = true ↔ sent id)) := by
  cases ho : σ.stance id with
  | none =>
    rw [h.others id (by simp [ho]), ho] at hst
    cases hst
  | some st =>
    by_cases hwait : st.Waits run
    · obtain ⟨ok, hst₁, hsent⟩ := h.waiting id st ho hwait
      rw [hst₁] at hst
      cases hst
      exact ⟨st, rfl, .inr ⟨hwait, ok, rfl, hsent⟩⟩
    · have hsame := h.others id fun o h => by rw [ho] at h; cases h; exact hwait
      rw [hsame, ho] at hst
      exact ⟨st, rfl, .inl ⟨hwait, (Option.some.inj hst).symm⟩⟩

theorem Completes.sound {run : ListeningRun} {sent : SessionId → Prop}
    (h : Completes run sent σ σ') (hrun : σ.airspace.run = some run) (hs : σ.Sound) :
    σ'.Sound := by
  have hseeded : σ.airspace.seeded = true := by
    by_contra hd
    rw [(hs.unseeded (Bool.eq_false_iff.mpr hd)).1] at hrun
    cases hrun
  have hseeded' : σ'.airspace.seeded = true := by
    rw [h.airspace]
    exact hseeded
  have hdomain : σ'.airspace.domain = σ.airspace.domain := by rw [h.airspace]; rfl
  refine ⟨h.ids ▸ hs.nodup, fun hd => absurd (hseeded'.symm.trans hd) nofun, fun id st' hst => ?_⟩
  obtain ⟨st, ho, ⟨-, rfl⟩ | ⟨hwait, ok, rfl, -⟩⟩ := h.stance_cases hst
  · exact (hs.proper id st' ho).mono (fun _ => hseeded') hdomain
  · refine ⟨fun _ => hseeded', fun hp hp' => ?_, fun hp => ?_⟩
    · cases ok
      · exact absurd rfl hp'
      · exact absurd rfl hp
    · cases ok <;> cases hp

end Scene

namespace Turn

variable {env : Surroundings} {t t' t'' : Turn} {s : Session}

/-- The line with which the layer below takes the command to send, or does not. -/
abbrev beacon (id : SessionId) (accepted : Bool) : Entry :=
  .command id .startBeacon accepted

/-- Sessions were told to send: they went on the air if the layer below took the command, and stop
else. -/
structure Wakes (l : List Session) (t t' : Turn) : Prop where
  ids : t'.scene.ids = t.scene.ids
  skip : t'.scene.skip = t.scene.skip
  airspace : t'.airspace = t.airspace
  others (id : SessionId) : (∀ s ∈ l, s.id ≠ id) → t'.scene.stance id = t.scene.stance id
  woken (s : Session) : s ∈ l → ∃ accepted,
    t'.scene.stance s.id = some (Turn.woken accepted s.stance) ∧
      (beacon s.id true ∈ t'.journal.aired ↔ beacon s.id true ∈ t.journal.aired ∨ accepted = true)
  queue : ∃ more, t'.queue = t.queue ++ more ∧ (∀ p ∈ more, p.2 = .networkStopped) ∧
    more.length ≤ l.length
  aired (e : Entry) : e ∈ t'.journal.aired →
    e ∈ t.journal.aired ∨ ∃ s ∈ l, e.aired? = some s.id
  kept (e : Entry) : e ∈ t.journal.aired → e ∈ t'.journal.aired

private theorem scene_announceEnd (t : Turn) (id : SessionId) :
    (t.modify id fun s => { s with listeningEndAnnounced := true }).scene = t.scene :=
  scene_modify_same t id (fun _ => rfl) fun _ => rfl

def sendOrStop (env : Surroundings) (t : Turn) (s : Session) : Turn :=
  let (accepted, t) := t.command env s.id .startBeacon
  if accepted then t.markStarted s else t.beginStop env s.id

theorem endListening_eq (env : Surroundings) (t : Turn) (s : Session) (tu : Tuning) :
    t.endListening env s tu = sendOrStop env (if s.listeningEndAnnounced then t else
      (t.modify s.id fun s => { s with listeningEndAnnounced := true }).notify s.id
        (.listeningEnded tu)) s := rfl

theorem scene_sendOrStop (env : Surroundings) (t : Turn) (s : Session) :
    ∃ accepted, (sendOrStop env t s).scene = t.scene.alter s.id (Turn.woken accepted) ∧
      ((sendOrStop env t s).queue = t.queue ∨
        (sendOrStop env t s).queue = t.queue ++ [(s.id, .networkStopped)]) ∧
      ∃ more, (sendOrStop env t s).journal.aired =
          t.journal.aired ++ beacon s.id accepted :: more ∧
        ∀ e ∈ more, ∃ before, e = .moved s.id before .started := by
  obtain ⟨ok, hc⟩ := exists_command_eq env t s.id .startBeacon
  have hbeacon : (t.record (.command s.id .startBeacon ok)).journal.aired =
      t.journal.aired ++ [beacon s.id ok] :=
    aired_record t _
  rw [sendOrStop, hc]
  cases ok with
  | false =>
    exact ⟨false, scene_beginStop env _ s.id, queue_beginStop env _ s.id, [],
      by simp [hbeacon], by simp⟩
  | true =>
    obtain ⟨more, hmore, hmoved⟩ :=
      aired_enter_started (t.record (.command s.id .startBeacon true)) s.id
    refine ⟨true, scene_markStarted _ s, .inl (queue_markStarted _ s), more, ?_, hmoved⟩
    simp [markStarted, hmore, hbeacon]

private theorem wakes_sendOrStop (env : Surroundings) (hs : t.scene.stance s.id = some s.stance) :
    Wakes [s] t (sendOrStop env t s) := by
  obtain ⟨ok, hscene, hqueue, more, haired, hmoved⟩ := scene_sendOrStop env t s
  have hmem (e : Entry) : e ∈ (sendOrStop env t s).journal.aired ↔
      e ∈ t.journal.aired ∨ e = beacon s.id ok ∨ e ∈ more := by
    rw [haired]
    simp
  constructor
  case ids => rw [hscene]; rfl
  case skip => rw [hscene]; rfl
  case airspace =>
    exact congrArg Scene.airspace hscene
  case others =>
    intro id hid
    rw [hscene, Scene.alter_stance_ne _ _ (hid s (by simp)).symm]
  case woken =>
    intro o ho
    obtain rfl := List.mem_singleton.mp ho
    refine ⟨ok, by rw [hscene, Scene.alter_stance_self, hs]; rfl, ?_⟩
    rw [hmem]
    refine or_congr_right ⟨?_, fun h => .inl (by rw [h])⟩
    rintro (h | h)
    · exact (Entry.command.inj h).2.2.symm
    · obtain ⟨_, h⟩ := hmoved _ h
      cases h
  case queue =>
    rcases hqueue with h | h
    · exact ⟨[], by simp [h], by simp, by simp⟩
    · exact ⟨_, h, by simp, by simp⟩
  case aired =>
    intro e he
    refine ((hmem e).mp he).imp_right ?_
    rintro (rfl | h)
    · exact ⟨s, by simp, rfl⟩
    · obtain ⟨_, rfl⟩ := hmoved e h
      exact ⟨s, by simp, rfl⟩
  case kept =>
    exact fun e he => (hmem e).mpr (.inl he)

private theorem Wakes.nil (t : Turn) : Wakes [] t t where
  ids := rfl
  skip := rfl
  airspace := rfl
  others _ _ := rfl
  woken _ h := absurd h List.not_mem_nil
  queue := ⟨[], by simp, by simp, by simp⟩
  aired _ he := .inl he
  kept _ he := he

private theorem Wakes.congr {l : List Session} (h : Wakes l t' t'') (hscene : t'.scene = t.scene)
    (hq : t'.queue = t.queue) (ha : t'.journal.aired = t.journal.aired) : Wakes l t t'' where
  ids := h.ids.trans (congrArg Scene.ids hscene)
  skip := h.skip.trans (congrArg Scene.skip hscene)
  airspace := h.airspace.trans (congrArg Scene.airspace hscene)
  others := hscene ▸ h.others
  woken := ha ▸ h.woken
  queue := hq ▸ h.queue
  aired := ha ▸ h.aired
  kept := ha ▸ h.kept

private theorem Wakes.append {l l' : List Session} (h : Wakes l t t') (h' : Wakes l' t' t'')
    (hd : ∀ s ∈ l, ∀ s' ∈ l', s.id ≠ s'.id) : Wakes (l ++ l') t t'' where
  ids := h'.ids.trans h.ids
  skip := h'.skip.trans h.skip
  airspace := h'.airspace.trans h.airspace
  others id hid := by
    rw [h'.others id fun s hs => hid s (List.mem_append_right l hs),
      h.others id fun s hs => hid s (List.mem_append_left l' hs)]
  -- A line about a session of one list cannot be read as one about the other: no number is in both.
  woken s hs := by
    rcases List.mem_append.mp hs with hs | hs
    · obtain ⟨ok, hst, hb⟩ := h.woken s hs
      refine ⟨ok, ?_, Iff.trans ⟨fun he => ?_, h'.kept _⟩ hb⟩
      · rw [h'.others s.id fun s' hs' => (hd s hs s' hs').symm, hst]
      · rcases h'.aired _ he with he | ⟨s', hs', hid⟩
        · exact he
        · exact absurd (Option.some.inj hid) (hd s hs s' hs')
    · obtain ⟨ok, hst, hb⟩ := h'.woken s hs
      refine ⟨ok, hst, hb.trans (or_congr_left ⟨fun he => ?_, h.kept _⟩)⟩
      rcases h.aired _ he with he | ⟨s', hs', hid⟩
      · exact he
      · exact absurd (Option.some.inj hid).symm (hd s' hs' s hs)
  queue := by
    obtain ⟨more, hq, hstop, hlen⟩ := h.queue
    obtain ⟨more', hq', hstop', hlen'⟩ := h'.queue
    refine ⟨more ++ more', by rw [hq', hq, List.append_assoc], fun p hp => ?_, ?_⟩
    · exact (List.mem_append.mp hp).elim (hstop p) (hstop' p)
    · simp only [List.length_append]
      omega
  aired e he := by
    rcases h'.aired e he with he | ⟨s, hs, hid⟩
    · rcases h.aired e he with he | ⟨s, hs, hid⟩
      · exact .inl he
      · exact .inr ⟨s, List.mem_append_left l' hs, hid⟩
    · exact .inr ⟨s, List.mem_append_right l hs, hid⟩
  kept e he := h'.kept e (h.kept e he)

def wake (env : Surroundings) (t : Turn) (s : Session) : Turn :=
  match s.tuning with
  | some tuning => t.endListening env s tuning
  | none => t

private theorem wakes_wake (env : Surroundings) (hs : t.scene.stance s.id = some s.stance)
    (htu : s.tuning.isSome = true) : Wakes [s] t (wake env t s) := by
  obtain ⟨tu, htu⟩ := Option.isSome_iff_exists.mp htu
  rw [wake, htu]
  dsimp only
  rw [endListening_eq]
  split
  · exact wakes_sendOrStop env hs
  · have hscene := scene_announceEnd t s.id
    refine Wakes.congr (wakes_sendOrStop env ?_) hscene rfl (aired_notify _ s.id _)
    rw [scene_notify, hscene]
    exact hs

private theorem wakes_foldl (env : Surroundings) {l : List Session} (hn : (l.map (·.id)).Nodup)
    (hs : ∀ s ∈ l, t.scene.stance s.id = some s.stance) (htu : ∀ s ∈ l, s.tuning.isSome = true) :
    Wakes l t (l.foldl (wake env) t) := by
  refine Session.foldl_each (fun t s => t.scene.stance s.id = some s.stance) (fun s => Wakes [s])
    Wakes .nil ?_ ?_ (fun t s hmem hs => ?_) hn t hs
  · intro s rest t t' hfirst hne hrest
    exact hfirst.append hrest (by simpa using hne)
  · intro s o t hfirst hne ho
    rw [hfirst.others o.id (by simpa using hne)]
    exact ho
  · exact wakes_wake env hs (htu s hmem)

def waiting (t : Turn) (run : ListeningRun) : List Session :=
  t.sessions.filter fun s => s.phase == .listening && s.overlaps run.channels

theorem onListeningOver_of_run {run : ListeningRun} (h : t.airspace.run = some run)
    (env : Surroundings) :
    t.onListeningOver env = (t.waiting run).foldl (wake env) (t.share (credited run)) := by
  rw [onListeningOver, h]
  rfl

theorem onListeningOver_of_none (h : t.airspace.run = none) (env : Surroundings) :
    t.onListeningOver env = t := by
  rw [onListeningOver, h]

theorem mem_waiting {run : ListeningRun} {s : Session} : s ∈ t.waiting run ↔
    s ∈ t.sessions ∧ s.phase = .listening ∧ s.overlaps run.channels = true := by
  simp [waiting]

theorem wakes_onListeningOver {run : ListeningRun} (h : t.airspace.run = some run)
    (hn : t.scene.ids.Nodup) (env : Surroundings) :
    Wakes (t.waiting run) (t.share (credited run)) (t.onListeningOver env) := by
  rw [onListeningOver_of_run h]
  refine wakes_foldl env ?_ (fun s hs => ?_) fun s hs => ?_
  · exact List.Nodup.sublist (List.filter_sublist.map _) hn
  · exact Controller.stance?_of_session? (Controller.session?_of_mem hn (mem_waiting.mp hs).1)
  · have hover := (mem_waiting.mp hs).2.2
    cases htu : s.tuning with
    | none => simp [Session.overlaps, htu] at hover
    | some tu => rfl

private theorem mem_insert {c d : Channel} {l : List Channel} :
    c ∈ Channel.insert d l ↔ c = d ∨ c ∈ l := by
  induction l with
  | nil => simp [Channel.insert]
  | cons e rest ih =>
    simp only [Channel.insert]
    split
    · rename_i he
      simp_all
    · split
      · simp
      · simp [ih, or_left_comm]

theorem mem_cleared_credited {run : ListeningRun} {a : Airspace} {c : Channel} :
    c ∈ (credited run a).cleared ↔
      c ∈ a.cleared ∨ c ∈ run.channels ∧ a.domain.isRadar c = true := by
  have key (l set : List Channel) :
      c ∈ l.foldl (fun set c => Channel.insert c set) set ↔ c ∈ set ∨ c ∈ l := by
    induction l generalizing set with
    | nil => simp
    | cons d rest ih => rw [List.foldl_cons, ih, mem_insert, List.mem_cons]; tauto
  rw [credited]
  simp [key]

theorem waits_stance {run : ListeningRun} : s.stance.Waits run ↔
    s.phase = .listening ∧ s.overlaps run.channels = true := by
  refine and_congr_right fun _ => ?_
  simp only [Session.stance, Stance.occupied, Session.overlaps]
  cases s.tuning with
  | none => simp
  | some tu => simp [Tuning.overlaps]

theorem completes_onListeningOver {run : ListeningRun} (h : t.airspace.run = some run)
    (hn : t.scene.ids.Nodup) (hair : t.journal.aired = []) (env : Surroundings) :
    Scene.Completes run (fun id => beacon id true ∈ (t.onListeningOver env).journal.aired) t.scene
      (t.onListeningOver env).scene := by
  have hw := wakes_onListeningOver h hn env
  refine ⟨hw.ids, hw.skip, hw.airspace, fun id st hst hwait => ?_, fun id hid => ?_⟩
  · obtain ⟨s, hs, rfl⟩ := Controller.session?_of_stance? hst
    have hmem := mem_waiting.mpr ⟨Controller.mem_of_session? hs, waits_stance.mp hwait⟩
    obtain ⟨ok, hwoken, hsent⟩ := hw.woken s hmem
    rw [Controller.id_of_session? hs, aired_share, hair] at hsent
    rw [Controller.id_of_session? hs] at hwoken
    exact ⟨ok, hwoken, by simp [hsent]⟩
  · refine hw.others id ?_
    rintro s hs rfl
    obtain ⟨hmem, hwait⟩ := mem_waiting.mp hs
    exact hid s.stance (Controller.stance?_of_session? (Controller.session?_of_mem hn hmem))
      (waits_stance.mpr hwait)

end Turn

end Hotspot

import Hotspot.Proofs.AccessPoint.Answer
import Hotspot.Proofs.AccessPoint.Standing

/-!
Every answer to an event, radar and the end of listening aside, is a path of moves from where a
reported tuning is taken over, and puts nobody on the air but the session itself.
-/

set_option autoImplicit false
set_option relaxedAutoImplicit false

namespace Hotspot.Turn

open NonOccupancy (Table)
open Scene (Path)

variable {env : Surroundings} {now : Instant} {t : Turn} {s : Session}
  {id : SessionId} {st : Stance}

def settleOn (env : Surroundings) (s : Session) (choice : Option Tuning) (t : Turn) : Turn :=
  match choice with
  | some tuning => t.beginStart env s tuning
  | none => (t.notify s.id .noChannel).enqueue s.id .selectionFailed

theorem onScanComplete_eq (env : Surroundings) (t : Turn) (s : Session) (now : Instant) :
    t.onScanComplete env s true now =
      settleOn env s
        ((t.modify s.id fun s => { s with ceiling := some s.widest }).choose env s now).1
        ((t.modify s.id fun s => { s with ceiling := some s.widest }).choose env s now).2 := by
  rw [onScanComplete, if_pos rfl]
  unfold choose
  cases s.settings.channel <;> rfl

private theorem path_onScanComplete {success : Bool} {tu tg : Option Tuning}
    (hs : t.scene.stance s.id = some ⟨.selecting, tu, tg⟩) (hd : t.airspace.seeded = true) :
    Path now t.scene (t.onScanComplete env s success now).scene := by
  cases success with
  | false => exact .refl
  | true =>
    have hmodify : (t.modify s.id fun s => { s with ceiling := some s.widest }).scene = t.scene :=
      scene_modify_same t s.id (fun _ => rfl) fun _ => rfl
    rw [onScanComplete_eq]
    generalize (t.modify s.id fun s => { s with ceiling := some s.widest }) = m at *
    have hfind := finds_choose env m s now
    have hlook := hfind.path
    have hair := hfind.airspace
    have hs₁ := hfind.stance
    rw [← hmodify] at hs ⊢
    rw [← hs₁] at hs
    refine hlook.trans ?_
    unfold settleOn
    split
    · rename_i new hnew
      rw [scene_beginStart]
      refine Path.change hs (.launch .selecting tu tg new (.inr rfl) ?_ (hfind.free new hnew))
      have hd₁ : m.airspace.seeded = true := (congrArg (·.airspace.seeded) hmodify).trans hd
      exact (congrArg Airspace.seeded hair).trans hd₁
    · exact .refl

private theorem leaves_onScanComplete (env : Surroundings) (t : Turn) (s : Session) (success : Bool)
    (now : Instant) : Leaves s.id t (t.onScanComplete env s success now) := by
  cases success with
  | false => exact .enqueue rfl
  | true =>
    rw [onScanComplete_eq]
    refine Leaves.after ?_
      (finds_choose env (t.modify s.id fun s => { s with ceiling := some s.widest }) s now).queue
    unfold settleOn
    split
    · exact leaves_beginStart env _ s _
    · exact (Leaves.enqueue (t := Turn.notify _ s.id .noChannel) rfl).after rfl

private theorem aired_onScanComplete (env : Surroundings) (t : Turn) (s : Session) (success : Bool)
    (now : Instant) : (t.onScanComplete env s success now).journal.aired = t.journal.aired := by
  cases success with
  | false => rfl
  | true =>
    rw [onScanComplete_eq]
    refine Eq.trans ?_
      (finds_choose env (t.modify s.id fun s => { s with ceiling := some s.widest }) s now).aired
    unfold settleOn
    split
    · exact aired_beginStart env _ s _
    · exact aired_notify _ s.id .noChannel

theorem onStartSuccess_cases (env : Surroundings) (t : Turn) (s : Session) (now : Instant) :
    t.onStartSuccess env s now = t.failStart env s ∨
      ∃ tu, s.tuning = some tu ∧
        (t.mustListen tu = true ∧ t.onStartSuccess env s now = t.beginListening env s tu now ∨
          t.mustListen tu = false ∧ t.onStartSuccess env s now = t.markStarted s) := by
  unfold onStartSuccess
  cases s.tuning with
  | none => exact .inl rfl
  | some tu =>
    refine .inr ⟨tu, rfl, ?_⟩
    cases hm : t.mustListen tu <;> simp [hm]

private theorem path_onStartSuccess {tu tg : Option Tuning}
    (hs : t.scene.stance s.id = some ⟨.starting, tu, tg⟩) (htu : s.tuning = tu)
    (hd : t.airspace.seeded = true) :
    Path now t.scene (t.onStartSuccess env s now).scene := by
  rcases onStartSuccess_cases env t s now with heq | ⟨tuning, hsome, ⟨hm, heq⟩ | ⟨hm, heq⟩⟩
  · rw [heq]
    exact path_failStart hs nofun nofun
  · rw [heq]
    rw [← htu, hsome] at hs
    exact path_beginListening hs hd (.inl rfl)
      (exists_isRadar_of_mustListen hm)
  · rw [heq, scene_markStarted]
    rw [← htu, hsome] at hs
    exact Path.change hs (.start tuning tg fun hskip => mem_cleared_of_mustListen hm hskip)

private theorem leaves_onStartSuccess (env : Surroundings) (t : Turn) (s : Session)
    (now : Instant) : Leaves s.id t (t.onStartSuccess env s now) := by
  rcases onStartSuccess_cases env t s now with heq | ⟨tu, -, ⟨-, heq⟩ | ⟨-, heq⟩⟩ <;> rw [heq]
  · exact .of_queue_eq (queue_failStart env t s)
  · exact leaves_beginListening env t s tu now
  · exact .of_queue_eq (queue_markStarted t s)

private theorem path_onListeningStop (hs : t.scene.stance id = some st) (hp : st.phase = .listening)
    (hd : t.airspace.seeded = true) :
    Path now t.scene (t.onListeningStop env id).scene := by
  unfold onListeningStop
  dsimp only
  split
  · rename_i hend
    rw [Bool.and_eq_true, Bool.not_eq_true', List.any_eq_false] at hend
    rw [scene_beginStop, scene_disarm, scene_share,
      Scene.alter_congr (g := fun _ => { st with phase := .disconnecting })]
    · refine .single (.endRun t.scene id st hs hp (fun j o hj ho hl => ?_) hd)
      obtain ⟨x, hx, rfl⟩ := Controller.session?_of_stance? ho
      refine hend.1 x (Controller.mem_of_session? hx) ?_
      have hphase : x.phase = .listening := hl
      simp [Controller.id_of_session? hx, hj, hphase]
    · intro o ho
      have ho : t.scene.stance id = some o := ho
      rw [hs] at ho
      cases ho
      rfl
  · exact path_beginStop hs hd

private theorem leaves_onListeningStop (env : Surroundings) (t : Turn) (id : SessionId) :
    Leaves id t (t.onListeningStop env id) := by
  unfold onListeningStop
  dsimp only
  split
  · exact (leaves_beginStop env _ id).after rfl
  · exact leaves_beginStop env t id

private theorem aired_onListeningStop (env : Surroundings) (t : Turn) (id : SessionId) :
    (t.onListeningStop env id).journal.aired = t.journal.aired := by
  unfold onListeningStop
  dsimp only
  split
  · rw [aired_beginStop, disarm, aired_record, aired_share]
    simp [Entry.aired?]
  · exact aired_beginStop env t id

private theorem path_onSwitchAnnounced (hs : t.scene.stance s.id = some st)
    (hd : t.airspace.seeded = true) :
    Path now t.scene (t.onSwitchAnnounced s).scene := by
  unfold onSwitchAnnounced
  split
  · exact .refl
  · rw [scene_enqueue, scene_enter]
    exact Path.change hs (.leave st.phase st.tuning st.target hd)

private theorem leaves_onSwitchAnnounced (t : Turn) (s : Session) :
    Leaves s.id t (t.onSwitchAnnounced s) := by
  unfold onSwitchAnnounced
  split
  · exact .of_queue_eq rfl
  · exact (Leaves.enqueue rfl).after (queue_enter t s.id .disconnecting)

private theorem aired_onSwitchAnnounced (t : Turn) (s : Session) :
    (t.onSwitchAnnounced s).journal.aired = t.journal.aired := by
  unfold onSwitchAnnounced
  split
  · rfl
  · exact aired_enter t s.id (by simp)

theorem onChangeRequest_cases (env : Surroundings) (t : Turn) (id : SessionId) (target : Tuning) :
    ∃ ok, t.onChangeRequest env id target =
      if ok = true then t.record (.command id (.changeChannel target) ok)
      else ((t.record (.command id (.changeChannel target) ok)).modify id fun s =>
        { s with target := none }).beginStop env id := by
  obtain ⟨ok, hc⟩ := exists_command_eq env t id (.changeChannel target)
  exact ⟨ok, by rw [onChangeRequest, hc]⟩

theorem scene_giveUp (t : Turn) (id : SessionId) :
    (t.modify id fun s => { s with target := none }).scene =
      t.scene.alter id fun st => { st with target := none } :=
  scene_modify t id (fun _ => rfl) fun _ => rfl

private theorem path_giveUp {tu tg : Option Tuning}
    (hs : t.scene.stance id = some ⟨.disconnecting, tu, tg⟩) (hd : t.airspace.seeded = true) :
    Path now t.scene
      ((t.modify id fun s => { s with target := none }).beginStop env id).scene := by
  have hdrop : Path now t.scene (t.modify id fun s => { s with target := none }).scene := by
    rw [scene_giveUp]
    exact Path.change hs (.drop tu tg)
  have hs₁ : (t.modify id fun s => { s with target := none }).scene.stance id =
      some ⟨.disconnecting, tu, none⟩ := by
    rw [scene_giveUp, Scene.alter_stance_self, hs]
    rfl
  exact hdrop.trans (path_beginStop hs₁ hd)

private theorem path_onChangeRequest {target : Tuning} {tu tg : Option Tuning}
    (hs : t.scene.stance id = some ⟨.disconnecting, tu, tg⟩) (hd : t.airspace.seeded = true) :
    Path now t.scene (t.onChangeRequest env id target).scene := by
  obtain ⟨ok, heq⟩ := onChangeRequest_cases env t id target
  rw [heq]
  split
  · exact .refl
  · exact path_giveUp (t := t.record _) hs hd

private theorem leaves_onChangeRequest (env : Surroundings) (t : Turn) (id : SessionId)
    (target : Tuning) : Leaves id t (t.onChangeRequest env id target) := by
  obtain ⟨ok, heq⟩ := onChangeRequest_cases env t id target
  rw [heq]
  split
  · exact .of_queue_eq rfl
  · exact (leaves_beginStop env _ id).after rfl

theorem aired_onChangeRequest (env : Surroundings) (t : Turn) (id : SessionId)
    (target : Tuning) :
    (t.onChangeRequest env id target).journal.aired = t.journal.aired := by
  obtain ⟨ok, heq⟩ := onChangeRequest_cases env t id target
  rw [heq]
  split
  · simp [aired_record, Entry.aired?]
  · simp [aired_record, Entry.aired?]

def arrive (tuning : Tuning) (s : Session) : Session :=
  { s with
    target := none
    tuning := some tuning
    listeningAnnounced := false
    listeningEndAnnounced := false }

def goOn (env : Surroundings) (t : Turn) (s : Session) (tuning : Tuning) (now : Instant) : Turn :=
  if t.mustListen tuning then t.beginListening env s tuning now else t.enter s.id .started

theorem onChannelChanged_of_target {tg : Tuning} (h : s.target = some tg) (env : Surroundings)
    (t : Turn) (tuning : Tuning) (now : Instant) :
    t.onChannelChanged env s tuning now =
      ((t.modify s.id (arrive tuning)).notify s.id (.channelChanged tuning)).goOn env
        (arrive tuning s) tuning now := by
  rw [onChannelChanged, h]
  rfl

theorem scene_confirm (h : s.target = none) (env : Surroundings) (t : Turn) (tuning : Tuning)
    (now : Instant) : (t.onChannelChanged env s tuning now).scene =
      t.scene.alter s.id fun st => { st with tuning := some tuning } := by
  rw [onChannelChanged, h]
  exact scene_tuned t s.id tuning

theorem scene_arrive (t : Turn) (id : SessionId) (tuning : Tuning) :
    ((t.enter id .starting).modify id (arrive tuning)).scene =
      t.scene.alter id fun _ => ⟨.starting, some tuning, none⟩ := by
  have hm := scene_modify (t.enter id .starting) id (f := arrive tuning)
    (g := fun st => ⟨st.phase, some tuning, none⟩) (fun _ => rfl) fun _ => rfl
  rw [hm, scene_enter, Scene.alter_alter]

private theorem path_arrive {tg tuning : Tuning} (hs : t.scene.stance id = some st)
    (hid : s.id = id) (htg : s.target = some tg) (hd : t.airspace.seeded = true) :
    Path now (t.scene.alter id fun _ => ⟨.starting, some tuning, none⟩)
      ((t.enter id .starting).onChannelChanged env s tuning now).scene := by
  have hs₁ : ((t.enter id .starting).modify id (arrive tuning)).scene.stance id =
      some ⟨.starting, some tuning, none⟩ := by
    rw [scene_arrive, Scene.alter_stance_self, hs]
    rfl
  have hd₁ : ((t.enter id .starting).modify id (arrive tuning)).scene.airspace.seeded = true := by
    rw [scene_arrive]
    exact hd
  subst hid
  rw [onChannelChanged_of_target htg, ← scene_arrive]
  generalize (t.enter s.id .starting).modify s.id (arrive tuning) = t₁ at *
  unfold goOn
  split
  · rename_i hm
    exact path_beginListening (t := t₁.notify s.id _) (s := arrive tuning s)
      hs₁ hd₁ (.inl rfl) (exists_isRadar_of_mustListen hm)
  · rename_i hm
    rw [scene_enter]
    exact Path.change hs₁ (.start tuning none fun hskip =>
      mem_cleared_of_mustListen (Bool.eq_false_iff.mpr hm) hskip)

private theorem scene_onStationJoined (t : Turn) (id : SessionId) (address : HardwareAddress)
    (number : UInt16) (elements : List UInt8) :
    (t.onStationJoined id address number elements).scene = t.scene :=
  scene_modify_same t id (fun _ => rfl) fun _ => rfl

private theorem scene_onStationLeft (t : Turn) (id : SessionId) (address : HardwareAddress)
    (reason : UInt16) : (t.onStationLeft id address reason).scene = t.scene :=
  scene_modify_same t id (fun _ => rfl) fun _ => rfl

/-- What a session answers to the events that its phase knows. It ignores the others. -/
inductive Answers (env : Surroundings) (now : Instant) (t : Turn) (s : Session) :
    Event → Turn → Prop
  | start (phase : s.phase = .disconnected) :
      Answers env now t s .startRequest (t.onStartRequest env s now)
  | tunedStart (target : Tuning) (phase : s.phase = .disconnected) :
      Answers env now t s (.tunedStartRequest target) (t.onTunedStartRequest env s target now)
  | scanned (success : Bool) (found : List Network) (phase : s.phase = .selecting) :
      Answers env now t s (.scanComplete success found) (t.onScanComplete env s success now)
  | fail (e : Event) (phase : s.phase = .selecting ∨ s.phase = .starting) :
      Answers env now t s e (t.failStart env s)
  | started (phase : s.phase = .starting) :
      Answers env now t s .startSuccess (t.onStartSuccess env s now)
  | confirmed (tuning : Tuning) (phase : s.phase = .starting) :
      Answers env now t s (.channelChanged tuning) (t.onChannelChanged env s tuning now)
  | ended (phase : s.phase = .listening) :
      Answers env now t s .listeningOver (t.onListeningOver env)
  | radar (channels : List Channel) (phase : s.phase = .listening ∨ s.phase = .started) :
      Answers env now t s (.radarDetected channels) (t.onRadar env s channels now)
  | stopListening (phase : s.phase = .listening) :
      Answers env now t s .stopRequest (t.onListeningStop env s.id)
  | stop (phase : s.phase = .started) : Answers env now t s .stopRequest (t.beginStop env s.id)
  | announced (phase : s.phase = .started) :
      Answers env now t s .switchAnnounced (t.onSwitchAnnounced s)
  | joined (address : HardwareAddress) (number : UInt16) (elements : List UInt8)
      (phase : s.phase = .started) :
      Answers env now t s (.stationJoined address number elements)
        (t.onStationJoined s.id address number elements)
  | left (address : HardwareAddress) (reason : UInt16) (phase : s.phase = .started) :
      Answers env now t s (.stationLeft address reason) (t.onStationLeft s.id address reason)
  | change (target : Tuning) (phase : s.phase = .disconnecting) :
      Answers env now t s (.changeRequest target) (t.onChangeRequest env s.id target)
  | arrived (tuning : Tuning) (phase : s.phase = .disconnecting)
      (moving : s.target.isSome = true) :
      Answers env now t s (.channelChanged tuning)
        ((t.enter s.id .starting).enqueueFirst s.id (.channelChanged tuning))
  | stopped (phase : s.phase = .disconnecting) :
      Answers env now t s .networkStopped (t.finishStop env s)
  | ignored (e : Event) : Answers env now t s e t

theorem answers_handle (env : Surroundings) (now : Instant) (hsess : t.session? id = some s)
    (e : Event) : Answers env now t s e (t.handle env now id e) := by
  have hid := Controller.id_of_session? hsess
  subst hid
  rw [handle, hsess]
  dsimp only
  cases e with
  | startRequest =>
    cases hp : s.phase with
    | disconnected => exact .start hp
    | _ => exact .ignored _
  | tunedStartRequest target =>
    cases hp : s.phase with
    | disconnected => exact .tunedStart target hp
    | _ => exact .ignored _
  | scanComplete success found =>
    cases hp : s.phase with
    | selecting => exact .scanned success found hp
    | _ => exact .ignored _
  | selectionFailed =>
    cases hp : s.phase with
    | selecting => exact .fail _ (.inl hp)
    | _ => exact .ignored _
  | startSuccess =>
    cases hp : s.phase with
    | starting => exact .started hp
    | _ => exact .ignored _
  | startFailure status =>
    cases hp : s.phase with
    | starting => exact .fail _ (.inr hp)
    | _ => exact .ignored _
  | stopRequest =>
    cases hp : s.phase with
    | selecting => exact .fail _ (.inl hp)
    | starting => exact .fail _ (.inr hp)
    | listening => exact .stopListening hp
    | started => exact .stop hp
    | _ => exact .ignored _
  | listeningOver =>
    cases hp : s.phase with
    | listening => exact .ended hp
    | _ => exact .ignored _
  | radarDetected channels =>
    cases hp : s.phase with
    | listening => exact .radar channels (.inl hp)
    | started => exact .radar channels (.inr hp)
    | _ => exact .ignored _
  | switchAnnounced =>
    cases hp : s.phase with
    | started => exact .announced hp
    | _ => exact .ignored _
  | changeRequest target =>
    cases hp : s.phase with
    | disconnecting => exact .change target hp
    | _ => exact .ignored _
  | channelChanged tuning =>
    cases hp : s.phase with
    | starting => exact .confirmed tuning hp
    | disconnecting =>
      by_cases htg : s.target.isSome = true
      · simp only [htg, if_true]
        exact .arrived tuning hp htg
      · simp only [htg]
        exact .ignored _
    | _ => exact .ignored _
  | networkStopped =>
    cases hp : s.phase with
    | disconnecting => exact .stopped hp
    | _ => exact .ignored _
  | stationJoined address number elements =>
    cases hp : s.phase with
    | started => exact .joined address number elements hp
    | _ => exact .ignored _
  | stationLeft address reason =>
    cases hp : s.phase with
    | started => exact .left address reason hp
    | _ => exact .ignored _

/-- The answer to an event and to its own repetition: a session that arrives while it is off the air
hears twice of the channel, once to start and once to go on. -/
def react (env : Surroundings) (now : Instant) (t : Turn) (id : SessionId) (e : Event) : Turn :=
  match t.session? id with
  | none => t
  | some s =>
    match s.phase, e with
    | .disconnecting, .channelChanged tuning =>
      if s.target.isSome then
        (t.enter id .starting).onChannelChanged env { s with phase := .starting } tuning now
      else t
    | _, _ => t.handle env now id e

theorem path_handle (hsess : t.session? id = some s) {e : Event}
    (hproper : s.stance.Proper t.airspace) (hreport : s.reports? e = none)
    (hover : s.awaits e = false) (hheard : e.heard? = none) :
    Path now t.scene (t.handle env now id e).scene := by
  have hs : t.scene.stance id = some ⟨s.phase, s.tuning, s.target⟩ :=
    Controller.stance?_of_session? hsess
  have hseed : s.phase ≠ .disconnected → t.airspace.seeded = true := hproper.seeded
  have hanswer := answers_handle env now hsess e
  rw [← Controller.id_of_session? hsess] at hs
  generalize t.handle env now id e = t' at hanswer ⊢
  cases hanswer with
  | start hp => exact path_onStartRequest (hp ▸ hs)
  | tunedStart target hp => exact path_onTunedStartRequest (hp ▸ hs)
  | scanned success found hp => exact path_onScanComplete (hp ▸ hs) (hseed (by simp [hp]))
  | fail e hp =>
    rcases hp with hp | hp
    · exact path_failStart hs (by simp [hp]) (by simp [hp])
    · exact path_failStart hs (by simp [hp]) (by simp [hp])
  | started hp => exact path_onStartSuccess (hp ▸ hs) rfl (hseed (by simp [hp]))
  | confirmed | arrived => cases hheard
  | ended hp => simp [Session.awaits, hp] at hover
  | radar channels hp => simp [Session.reports?, hp] at hreport
  | stopListening hp => exact path_onListeningStop hs hp (hseed (by simp [hp]))
  | stop hp => exact path_beginStop hs (hseed (by simp [hp]))
  | announced hp => exact path_onSwitchAnnounced hs (hseed (by simp [hp]))
  | joined => rw [scene_onStationJoined]
  | left => rw [scene_onStationLeft]
  | change target hp => exact path_onChangeRequest (hp ▸ hs) (hseed (by simp [hp]))
  | stopped hp => exact path_finishStop hs (by simp [hp]) (by simp [hp])
  | ignored => exact .refl

/-- A session that starts takes over the tuning it is said to be on; in no other phase does the
event count, unless the session was moving. -/
private theorem reported_channelChanged (env : Surroundings) (now : Instant)
    (hsess : t.session? id = some s) (hproper : s.stance.Proper t.airspace) (tuning : Tuning)
    (hp : s.phase ≠ .disconnecting) :
    Scene.Reported (some (id, tuning)) t.scene
      (t.handle env now id (.channelChanged tuning)).scene := by
  have hs : t.scene.stance id = some s.stance := Controller.stance?_of_session? hsess
  by_cases hstart : s.phase = .starting
  · -- A session that starts has no target, so the report only confirms where it starts.
    have htarget : s.target = none :=
      hproper.target (by simp [Session.stance, hstart]) (by simp [Session.stance, hstart])
    have hconfirm := scene_confirm htarget env t tuning now
    rw [Controller.id_of_session? hsess, t.scene.alter_congr id
      (g := fun _ => ⟨.starting, some tuning, none⟩)] at hconfirm
    · have hhandle : t.handle env now id (.channelChanged tuning) =
          t.onChannelChanged env s tuning now := by
        rw [handle, hsess]
        simp only [hstart]
      rw [hhandle, hconfirm]
      exact .taken t.scene id s.stance tuning rfl hs (.inl ⟨hstart, htarget⟩)
    · intro st hst
      rw [hs] at hst
      cases hst
      simp [Session.stance, hstart, htarget]
  · have hhandle : t.handle env now id (.channelChanged tuning) = t := by
      rw [handle, hsess]
      cases hphase : s.phase <;> simp_all
    rw [hhandle]
    exact .nothing t.scene

/-- In the answer to an event that neither reports radar nor ends listening, a reported tuning is
taken over, and then moves follow. -/
theorem path_react (env : Surroundings) (now : Instant) (hsess : t.session? id = some s) {e : Event}
    (hproper : s.stance.Proper t.airspace) (hreport : s.reports? e = none)
    (hover : s.awaits e = false) :
    ∃ σ, Scene.Reported (e.heard?.map (Prod.mk id)) t.scene σ ∧
      Path now σ (t.react env now id e).scene := by
  have hs : t.scene.stance id = some s.stance := Controller.stance?_of_session? hsess
  have hid := Controller.id_of_session? hsess
  rw [react, hsess]
  dsimp only
  -- Only a report of a channel is heard twice, by a session on its way off the air.
  cases e with
  | channelChanged tuning =>
    by_cases hp : s.phase = .disconnecting
    · simp only [hp]
      split
      next htg =>
        obtain ⟨tg, hsome⟩ := Option.isSome_iff_exists.mp htg
        have hd := hproper.seeded (by simp [Session.stance, hp])
        exact ⟨_, .taken t.scene id s.stance tuning rfl hs (.inr ⟨hp, htg⟩),
          path_arrive (s := { s with phase := .starting }) hs hid hsome hd⟩
      next => exact ⟨_, .nothing t.scene, .refl⟩
    · have hreported := reported_channelChanged env now hsess hproper tuning hp
      refine ⟨_, hreported, ?_⟩
      split
      next hd _ => exact absurd hd hp
      next => exact .refl
  | _ =>
    exact ⟨_, .nothing t.scene, by simpa using path_handle hsess hproper hreport hover rfl⟩

theorem queue_onChannelChanged (env : Surroundings) (t : Turn) (s : Session) (tuning : Tuning)
    (now : Instant) : (t.onChannelChanged env s tuning now).queue = t.queue ∨
      (t.onChannelChanged env s tuning now).queue = t.queue ++ [(s.id, .networkStopped)] := by
  cases htg : s.target with
  | none =>
    rw [onChannelChanged, htg]
    exact .inl rfl
  | some tg =>
    rw [onChannelChanged_of_target htg, goOn]
    split
    · exact queue_beginListening env (Turn.notify _ s.id _) (arrive tuning s) tuning now
    · exact .inl (queue_enter (Turn.notify _ s.id _) s.id .started)

private theorem leaves_onChannelChanged (env : Surroundings) (t : Turn) (s : Session)
    (tuning : Tuning) (now : Instant) : Leaves s.id t (t.onChannelChanged env s tuning now) :=
  (queue_onChannelChanged env t s tuning now).imp_right fun h => ⟨.networkStopped, rfl, h⟩

theorem leaves_handle (hsess : t.session? id = some s) {e : Event} (hreport : s.reports? e = none)
    (hover : s.awaits e = false) (harrive : s.phase = .disconnecting → e.heard? = none) :
    Leaves id t (t.handle env now id e) := by
  have hanswer := answers_handle env now hsess e
  rw [← Controller.id_of_session? hsess] at hanswer ⊢
  generalize t.handle env now s.id e = t' at hanswer ⊢
  cases hanswer with
  | start => exact leaves_onStartRequest env t s now
  | tunedStart target => exact leaves_onTunedStartRequest env t s target now
  | scanned success => exact leaves_onScanComplete env t s success now
  | fail => exact .of_queue_eq (queue_failStart env t s)
  | started => exact leaves_onStartSuccess env t s now
  | confirmed tuning => exact leaves_onChannelChanged env t s tuning now
  | ended hp => simp [Session.awaits, hp] at hover
  | radar channels hp => simp [Session.reports?, hp] at hreport
  | stopListening => exact leaves_onListeningStop env t s.id
  | stop => exact leaves_beginStop env t s.id
  | announced => exact leaves_onSwitchAnnounced t s
  | joined | left | ignored => exact .of_queue_eq rfl
  | change target => exact leaves_onChangeRequest env t s.id target
  | arrived tuning hp => exact absurd (harrive hp) (by simp [Event.heard?])
  | stopped => exact .of_queue_eq (queue_finishStop env t s)

theorem leaves_react (env : Surroundings) (now : Instant) (hsess : t.session? id = some s)
    {e : Event} (hreport : s.reports? e = none) (hover : s.awaits e = false) :
    Leaves id t (t.react env now id e) := by
  have hid := Controller.id_of_session? hsess
  rw [react, hsess]
  dsimp only
  split
  next =>
    split
    · subst hid
      exact (leaves_onChannelChanged env _ { s with phase := .starting } _ now).after
        (queue_enter t s.id .starting)
    · exact .of_queue_eq rfl
  next hne =>
    exact leaves_handle hsess hreport hover fun hp => Event.heard?_eq_none (hne · hp)

/-- The event puts the session on the air on a tuning: a network was started on it, or a session
that was moving has arrived there. -/
def Launches (s : Session) (e : Event) (tu : Tuning) : Prop :=
  s.phase = .starting ∧ s.tuning = some tu ∧ e = .startSuccess ∨
    s.phase = .disconnecting ∧ s.target.isSome = true ∧ e = .channelChanged tu

def Silent (t t' : Turn) : Prop :=
  t'.journal.aired = t.journal.aired

structure Puts (id : SessionId) (tu : Tuning) (t t' : Turn) : Prop where
  stance : ∃ tg, t'.scene.stance id = some ⟨.started, some tu, tg⟩
  aired (e : Entry) : e ∈ t'.journal.aired → e ∈ t.journal.aired ∨ e.aired? = some id

private theorem puts_enter {t : Turn} {tu : Tuning} {p : Phase} {tg : Option Tuning}
    (hs : t.scene.stance id = some ⟨p, some tu, tg⟩) : Puts id tu t (t.enter id .started) where
  stance := ⟨tg, by rw [scene_enter, Scene.alter_stance_self, hs]; rfl⟩
  aired e he := by
    obtain ⟨more, hmore, hmoved⟩ := aired_enter_started t id
    rw [hmore] at he
    refine (List.mem_append.mp he).imp_right fun he => ?_
    obtain ⟨before, rfl⟩ := hmoved e he
    rfl

private theorem Puts.congr {t t' t'' : Turn} {tu : Tuning} (h : Puts id tu t' t'')
    (ha : t'.journal.aired = t.journal.aired) : Puts id tu t t'' :=
  ⟨h.stance, ha ▸ h.aired⟩

private theorem silent_or_puts_onStartSuccess {tg : Option Tuning}
    (hs : t.scene.stance s.id = some ⟨.starting, s.tuning, tg⟩) :
    Silent t (t.onStartSuccess env s now) ∨
      ∃ tu, s.tuning = some tu ∧ Puts s.id tu t (t.onStartSuccess env s now) := by
  rcases onStartSuccess_cases env t s now with heq | ⟨tu, htu, ⟨-, heq⟩ | ⟨-, heq⟩⟩ <;> rw [heq]
  · exact .inl (aired_failStart env t s)
  · exact .inl (aired_beginListening env t s tu now)
  · rw [htu] at hs
    have h := puts_enter hs
    refine .inr ⟨tu, htu, h.stance, fun e he => h.aired e ?_⟩
    rwa [markStarted, aired_notify] at he

private theorem silent_or_puts_arrive (env : Surroundings) (now : Instant) {tg : Tuning}
    (tuning : Tuning)
    {st : Stance} (hs : t.scene.stance s.id = some st) (htg : s.target = some tg) :
    Silent t ((t.enter s.id .starting).onChannelChanged env s tuning now) ∨
      Puts s.id tuning t ((t.enter s.id .starting).onChannelChanged env s tuning now) := by
  have ha := aired_enter t s.id (p := .starting) (by simp)
  have hs₁ : ((t.enter s.id .starting).modify s.id (arrive tuning)).scene.stance s.id =
      some ⟨.starting, some tuning, none⟩ := by
    rw [scene_arrive, Scene.alter_stance_self, hs]
    rfl
  rw [onChannelChanged_of_target htg, goOn]
  split
  · refine .inl ((aired_beginListening env _ (arrive tuning s) tuning now).trans ?_)
    rw [aired_notify, aired_modify, ha]
  · have hput := puts_enter (t := ((t.enter s.id .starting).modify s.id (arrive tuning)).notify s.id
      (.channelChanged tuning)) hs₁
    refine .inr (hput.congr ?_)
    rw [aired_notify, aired_modify, ha]

private theorem silent_or_puts_handle (hsess : t.session? id = some s) {e : Event}
    (hproper : s.stance.Proper t.airspace) (hreport : s.reports? e = none)
    (hover : s.awaits e = false) (harrive : s.phase = .disconnecting → e.heard? = none) :
    Silent t (t.handle env now id e) ∨
      ∃ tu, Launches s e tu ∧ Puts id tu t (t.handle env now id e) := by
  have hs : t.scene.stance id = some ⟨s.phase, s.tuning, s.target⟩ :=
    Controller.stance?_of_session? hsess
  have htarget (hp : s.phase = .starting) : s.target = none :=
    hproper.target (by simp [Session.stance, hp]) (by simp [Session.stance, hp])
  have hanswer := answers_handle env now hsess e
  rw [← Controller.id_of_session? hsess] at hs hanswer ⊢
  generalize t.handle env now s.id e = t' at hanswer ⊢
  cases hanswer with
  | start => exact .inl (aired_onStartRequest env t s now)
  | tunedStart target => exact .inl (aired_onTunedStartRequest env t s target now)
  | scanned success => exact .inl (aired_onScanComplete env t s success now)
  | fail => exact .inl (aired_failStart env t s)
  | started hp =>
    rw [hp] at hs
    refine (silent_or_puts_onStartSuccess hs).imp_right ?_
    rintro ⟨tu, htu, hput⟩
    exact ⟨tu, .inl ⟨hp, htu, rfl⟩, hput⟩
  | confirmed tuning hp =>
    rw [onChannelChanged, htarget hp]
    exact .inl rfl
  | ended hp => simp [Session.awaits, hp] at hover
  | radar channels hp => simp [Session.reports?, hp] at hreport
  | stopListening => exact .inl (aired_onListeningStop env t s.id)
  | stop => exact .inl (aired_beginStop env t s.id)
  | announced => exact .inl (aired_onSwitchAnnounced t s)
  | joined | left => exact .inl (aired_notify _ s.id _)
  | change target => exact .inl (aired_onChangeRequest env t s.id target)
  | arrived tuning hp => exact absurd (harrive hp) (by simp [Event.heard?])
  | stopped => exact .inl (aired_finishStop env t s)
  | ignored => exact .inl rfl

/-- An answer that neither reports radar nor ends listening puts nobody on the air, or the session
itself on the tuning that was set up. -/
theorem silent_or_puts_react (env : Surroundings) (now : Instant) (hsess : t.session? id = some s)
    {e : Event} (hproper : s.stance.Proper t.airspace) (hreport : s.reports? e = none)
    (hover : s.awaits e = false) :
    Silent t (t.react env now id e) ∨
      ∃ tu, Launches s e tu ∧ Puts id tu t (t.react env now id e) := by
  have hid := Controller.id_of_session? hsess
  have hs := Controller.stance?_of_session? hsess
  rw [react, hsess]
  dsimp only
  split
  next tuning hp =>
    split
    next htg =>
      obtain ⟨tg, hsome⟩ := Option.isSome_iff_exists.mp htg
      subst hid
      have harrive := silent_or_puts_arrive env now tuning (s := { s with phase := .starting }) hs
        hsome
      exact harrive.imp_right fun hput => ⟨tuning, .inr ⟨hp, htg, rfl⟩, hput⟩
    next => exact .inl rfl
  next hne =>
    exact silent_or_puts_handle hsess hproper hreport hover fun hp =>
      Event.heard?_eq_none (hne · hp)

end Hotspot.Turn

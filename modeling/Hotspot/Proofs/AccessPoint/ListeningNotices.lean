import Hotspot.Proofs.AccessPoint.JournalWrites
import Hotspot.Proofs.AccessPoint.ListeningCues
import Hotspot.Proofs.AccessPoint.Shape

/-!
What the application hears of listening for radar. Whenever a session begins to listen, it is told
so once, with what the session is tuned to and how long the run lasts that it waits for; when the
run is over, it is told so once, before the session is told to send. Nothing else makes it hear of
either.
-/

set_option autoImplicit false
set_option relaxedAutoImplicit false

namespace Hotspot

namespace Turn

variable {env : Surroundings} {now : Instant} {t t' t₁ t₂ : Turn} {s s₀ : Session}
  {id : SessionId} {w : Option (Option Tuning)} {ks : List Cue} {tu : Tuning} {e : Event}

private theorem givesCues_record (hw : t.watch id = w) {e : Entry} {k : Cue}
    (hk : e.cue? = some (id, k)) : GivesCues id [k] w t (t.record e) := by
  refine .of_each (fun j => ?_) fun j => t.journal.cues_concat hk j
  split
  · rename_i h
    rw [h, ← hw]
    rfl
  · rfl

private theorem givesCues_awaitListening (hsess : t.session? id = some s)
    (hoff : s.phase ≠ .listening)
    (hnew : s.listeningAnnounced = false) (htuned : s.tuning = some tu) (d : Duration) :
    GivesCues id [.entered s.phase, .begun tu d] (some (some tu)) t (t.awaitListening id tu d) := by
  have hlistens := givesCues_listen hsess hoff
  have hsess₁ := session?_enter hsess .listening
  rw [htuned] at hlistens
  unfold awaitListening
  generalize t.enter id .listening = t₁ at *
  have hannounced : (t₁.modify id fun s => { s with listeningAnnounced := true }).cueView =
      t₁.cueView := cueView_modify t₁ id (fun _ => rfl) fun _ => rfl
  have hw : (t₁.modify id fun s => { s with listeningAnnounced := true }).watch id =
      some (some tu) := by
    rw [watch_of_cueView hannounced]
    exact congrArg Prod.fst hlistens.own
  dsimp only
  rw [hsess₁, Option.any_some, hnew, Bool.not_false, if_pos rfl]
  exact (hlistens.to_eq hannounced).trans (givesCues_record hw rfl)

/-- What a session does about listening, radar and the end of a run aside: nothing, or it begins to
listen, or it leaves off. -/
inductive ListeningStep (id : SessionId) (t t' : Turn) : Prop
  | hush (same : t'.cueView = t.cueView) : ListeningStep id t t'
  | listen (p : Phase) (tu : Tuning) (run : ListeningRun) (off : t.watch id = none)
      (told : GivesCues id [.entered p, .begun tu run.duration] (some (some tu)) t t')
      (running : t'.airspace.run = some run) (shared : ∃ ch ∈ tu.channels, ch ∈ run.channels) :
      ListeningStep id t t'
  | leave (p : Phase) (told : GivesCues id (Cue.farewell (t.watch id) p) none t t') :
      ListeningStep id t t'

namespace ListeningStep

private theorem from_eq (h : ListeningStep id t₁ t') (ht : t₁.cueView = t.cueView) :
    ListeningStep id t t' := by
  have hw := congrFun (watch_of_cueView ht) id
  cases h with
  | hush same => exact .hush (same.trans ht)
  | listen p tu run off told running shared =>
    exact .listen p tu run (hw ▸ off) (told.from_eq ht) running shared
  | leave p told => exact .leave p (hw ▸ told.from_eq ht)

private theorem of_endsListening (hoff : t.watch id = none) (h : EndsListening id t t') :
    ListeningStep id t t' :=
  .hush (h hoff)

end ListeningStep

private theorem watch_of_off (hsess : t.session? id = some s) (hoff : s.phase ≠ .listening) :
    t.watch id = none := by
  rw [Controller.watch_of_session? hsess]
  exact Stance.watch_eq_none_iff.mpr hoff

private theorem listeningStep_beginListening (env : Surroundings) (now : Instant)
    (hsess : t.session? s.id = some s) (hoff : s.phase ≠ .listening)
    (hnew : s.listeningAnnounced = false) (htuned : s.tuning = some tu)
    (hmust : ∃ ch ∈ tu.channels, t.airspace.domain.isRadar ch = true) :
    ListeningStep s.id t (t.beginListening env s tu now) := by
  obtain ⟨ch, hch, hradar⟩ := hmust
  have hquiet := watch_of_off hsess hoff
  unfold beginListening
  split
  · rename_i run hrun
    split
    · rename_i hcovers
      have hrun' : (t.awaitListening s.id tu run.duration).airspace.run = some run :=
        (writes_awaitListening (S := fun _ => True) t trivial tu run.duration).run.trans hrun
      exact .listen s.phase tu run hquiet
        (givesCues_awaitListening hsess hoff hnew htuned run.duration) hrun'
        ⟨ch, hch, Airspace.covers_iff.mp hcovers ch hch hradar⟩
    · have htold : (t.notify s.id (.startComplete .failure s.settings.address (some tu))).cueView =
          t.cueView := cueView_record t rfl
      exact .of_endsListening hquiet
        ((EndsListening.of_eq htold).trans (endsListening_beginStop env _ s.id))
  · let run : ListeningRun :=
      ⟨tu.channel, tu.channels, t.airspace.table.listening tu.channels, now⟩
    let begun : Turn := (t.arm run.duration).share fun a => { a with run := some run }
    have hbegun : begun.cueView = t.cueView := cueView_record t rfl
    have hrun' : (begun.awaitListening s.id tu run.duration).airspace.run = some run :=
      (writes_awaitListening (S := fun _ => True) begun trivial tu run.duration).run
    have hsess₁ : begun.session? s.id = some s := hsess
    exact .listen s.phase tu run hquiet
      ((givesCues_awaitListening hsess₁ hoff hnew htuned run.duration).from_eq hbegun) hrun'
      ⟨ch, hch, hch⟩

private theorem listeningStep_startGiven (env : Surroundings) (now : Instant)
    (hsess : t.session? s.id = some s)
    (hoff : s.phase ≠ .listening) (hnew : s.listeningAnnounced = false)
    (htuned : s.tuning = some tu) : ListeningStep s.id t (startGiven env tu now t s) := by
  have hquiet := watch_of_off hsess hoff
  unfold startGiven
  split
  · rename_i hmust
    obtain ⟨ok, hc⟩ := exists_command_eq env t s.id (.startNetwork (t.startParameters s tu))
    have htold : (t.record (.command s.id (.startNetwork (t.startParameters s tu)) ok)).cueView =
        t.cueView := cueView_record t rfl
    rw [hc]
    cases ok with
    | false =>
      exact .of_endsListening hquiet
        ((EndsListening.of_eq htold).trans (endsListening_failStart env _ s))
    | true =>
      exact (listeningStep_beginListening (t := t.record _) env now hsess hoff hnew htuned
        (exists_isRadar_of_mustListen hmust)).from_eq htold
  · exact .of_endsListening hquiet (endsListening_beginStart env t s tu)

private theorem listeningStep_tuneAndStart (env : Surroundings) (now : Instant) (target : Tuning)
    (hsess : t.session? s.id = some s) (hoff : s.phase ≠ .listening)
    (hnew : s.listeningAnnounced = false) :
    ListeningStep s.id t (tuneAndStart env target now t s) := by
  have hlooked := cueView_usable t target now
  obtain ⟨table, -, htable, -⟩ := usable_spec t target now
  unfold tuneAndStart
  generalize t.usable target now = found at *
  obtain ⟨usable, t₁⟩ := found
  dsimp only at htable hlooked ⊢
  refine ListeningStep.from_eq ?_ hlooked
  have hsess₁ : t₁.session? s.id = some s := by
    rw [htable]
    exact hsess
  have hquiet := watch_of_off hsess₁ hoff
  cases usable with
  | false =>
    have htold : (t₁.notify s.id .noChannel).cueView = t₁.cueView := cueView_record t₁ rfl
    exact .of_endsListening hquiet
      ((EndsListening.of_eq htold).trans (endsListening_failStart env _ s))
  | true =>
    let tuned (s : Session) : Session := { s with ceiling := some s.widest, tuning := some target }
    have htuned := (posts_modify now hsess₁ (f := tuned) fun _ => rfl).session
    have hsame : (t₁.modify s.id tuned).cueView = t₁.cueView :=
      endsListening_modify t₁ s.id (fun _ => rfl) (fun _ h => h) hquiet
    exact (listeningStep_startGiven (s := tuned s) env now htuned hoff hnew rfl).from_eq hsame

private theorem listeningStep_onTunedStartRequest (env : Surroundings) (now : Instant)
    (target : Tuning) (hsess : t.session? s.id = some s) (hoff : s.phase ≠ .listening)
    (hnew : s.listeningAnnounced = false) :
    ListeningStep s.id t (t.onTunedStartRequest env s target now) := by
  rw [onTunedStartRequest_eq]
  obtain ⟨t₁, control, hsess₁, hcueView, heq | heq⟩ :=
    exists_prepared_of_session? env now hsess _ <;>
    rw [heq] <;> refine ListeningStep.from_eq ?_ hcueView
  · exact .of_endsListening (watch_of_off hsess₁ hoff)
      (endsListening_failStart env t₁ { s with controlOpen := control })
  · exact listeningStep_tuneAndStart
      (s := { s with controlOpen := control }) env now target hsess₁ hoff
      hnew

private theorem listeningStep_onStartSuccess (env : Surroundings) (now : Instant)
    (hsess : t.session? s.id = some s) (hoff : s.phase ≠ .listening)
    (hnew : s.listeningAnnounced = false) : ListeningStep s.id t (t.onStartSuccess env s now) := by
  have hquiet := watch_of_off hsess hoff
  rcases onStartSuccess_cases env t s now with heq | ⟨tu, htu, ⟨hmust, heq⟩ | ⟨-, heq⟩⟩ <;> rw [heq]
  · exact .of_endsListening hquiet (endsListening_failStart env t s)
  · exact listeningStep_beginListening env now hsess hoff hnew htu
      (exists_isRadar_of_mustListen hmust)
  · exact .of_endsListening hquiet (endsListening_markStarted t s)

private theorem listeningStep_of_arrives (env : Surroundings) (now : Instant)
    (hsess : t.session? id = some s)
    (harr : Arrives s e) : ListeningStep id t (t.react env now id e) := by
  have hreact := (react_of_arrives env now hsess harr).2
  obtain ⟨hp, htg, new, rfl⟩ := harr
  have hid := Controller.id_of_session? hsess
  subst hid
  obtain ⟨tg, hsome⟩ := Option.isSome_iff_exists.mp htg
  have hstarts := session?_enter hsess .starting
  -- A session that moves does not listen, so that arriving ends nothing.
  have hquiet := watch_of_off hsess (by simp [hp])
  have hentered : (t.enter s.id .starting).cueView = t.cueView :=
    endsListening_enter t s.id .starting (by decide) hquiet
  have hhandle : (t.enter s.id .starting).handle env now s.id (.channelChanged new) =
      (t.enter s.id .starting).onChannelChanged env { s with phase := .starting } new now := by
    rw [handle, hstarts]
  rw [hreact, hhandle,
    onChannelChanged_of_target (s := { s with phase := .starting }) hsome]
  generalize t.enter s.id .starting = t₁ at *
  let moved : Session := arrive new { s with phase := .starting }
  have hmoved : (t₁.modify s.id (arrive new)).session? s.id = some moved :=
    (posts_modify now hstarts (f := arrive new) fun _ => rfl).session
  have hquiet₁ : t₁.watch s.id = none := by
    rw [watch_of_cueView hentered]
    exact hquiet
  have harrived : ((t₁.modify s.id (arrive new)).notify s.id (.channelChanged new)).cueView =
      t.cueView := by
    rw [notify, cueView_record _ rfl]
    exact
      (endsListening_modify t₁ s.id (f := arrive new) (fun _ => rfl) (fun _ h => h) hquiet₁).trans
      hentered
  refine ListeningStep.from_eq ?_ harrived
  unfold goOn
  split
  · rename_i hmust
    have hoff : Phase.starting ≠ .listening := by decide
    exact listeningStep_beginListening (s := moved)
      (t := (t₁.modify s.id (arrive new)).notify s.id (.channelChanged new)) env now hmoved hoff
      rfl rfl (exists_isRadar_of_mustListen hmust)
  · refine .of_endsListening ?_ (endsListening_enter _ s.id .started (by decide))
    rw [watch_of_cueView harrived]
    exact hquiet

private theorem listeningStep_onListeningStop (env : Surroundings) (t : Turn) (id : SessionId) :
    ListeningStep id t (t.onListeningStop env id) := by
  unfold onListeningStop
  dsimp only
  split
  · have hended : (t.share fun a => { a with run := none }).disarm.cueView = t.cueView :=
      cueView_record _ rfl
    exact (ListeningStep.leave .disconnecting (givesCues_beginStop env _ id)).from_eq hended
  · exact .leave .disconnecting (givesCues_beginStop env t id)

private theorem listeningStep_handle (env : Surroundings) (now : Instant)
    (hsess : t.session? id = some s)
    (hshaped : s.Shaped) (hreport : s.reports? e = none) (hover : s.awaits e = false)
    (hstay : ¬ Arrives s e) : ListeningStep id t (t.handle env now id e) := by
  have hanswer := answers_handle env now hsess e
  have hid := Controller.id_of_session? hsess
  subst hid
  generalize t.handle env now s.id e = t' at hanswer ⊢
  have hquiet (hp : s.phase ≠ .listening) : t.watch s.id = none := watch_of_off hsess hp
  cases hanswer with
  | start hp =>
    exact .of_endsListening (hquiet (by simp [hp])) (endsListening_onStartRequest env now hsess)
  | tunedStart target hp =>
    obtain ⟨-, -, hnew, -⟩ := (Session.shaped_iff_of_off (.inl hp)).mp hshaped
    exact listeningStep_onTunedStartRequest env now target hsess (by simp [hp]) hnew
  | scanned success found hp =>
    exact .of_endsListening (hquiet (by simp [hp]))
      (endsListening_onScanComplete env t s success now)
  | fail e hp =>
    refine .of_endsListening (hquiet ?_) (endsListening_failStart env t s)
    rcases hp with hp | hp <;> simp [hp]
  | started hp =>
    obtain ⟨-, -, hnew, -⟩ := (Session.shaped_iff_of_starting hp).mp hshaped
    exact listeningStep_onStartSuccess env now hsess (by simp [hp]) hnew
  | confirmed tuning hp =>
    obtain ⟨-, htarget, -⟩ := (Session.shaped_iff_of_starting hp).mp hshaped
    rw [onChannelChanged, htarget]
    exact .of_endsListening (hquiet (by simp [hp]))
      (endsListening_modify t s.id (f := fun s => { s with tuning := some tuning }) (fun _ => rfl)
        fun _ h => h)
  | ended hp => simp [Session.awaits, hp] at hover
  | radar channels hp => simp [Session.reports?, hp] at hreport
  | stopListening hp => exact listeningStep_onListeningStop env t s.id
  | stop hp => exact .leave .disconnecting (givesCues_beginStop env t s.id)
  | announced hp =>
    exact .of_endsListening (hquiet (by simp [hp])) (endsListening_onSwitchAnnounced t s)
  | joined address number elements hp =>
    have hjoined : (t.modify s.id fun s =>
        { s with stations := Station.insert address number s.stations }).cueView = t.cueView :=
      cueView_modify t s.id (fun _ => rfl) fun _ => rfl
    exact .hush ((cueView_record _ rfl).trans hjoined)
  | left address reason hp =>
    have hleft : (t.modify s.id fun s =>
        { s with stations := s.stations.filter fun st => st.1 != address }).cueView = t.cueView :=
      cueView_modify t s.id (fun _ => rfl) fun _ => rfl
    exact .hush ((cueView_record _ rfl).trans hleft)
  | change target hp =>
    exact .of_endsListening (hquiet (by simp [hp]))
      (endsListening_onChangeRequest env t s.id target)
  | arrived tuning hp htg => exact absurd ⟨hp, htg, tuning, rfl⟩ hstay
  | stopped hp => exact .of_endsListening (hquiet (by simp [hp])) (endsListening_finishStop env t s)
  | ignored => exact .hush rfl

theorem listeningStep_react (env : Surroundings) (now : Instant) (hsess : t.session? id = some s)
    (hshaped : s.Shaped) (hreport : s.reports? e = none) (hover : s.awaits e = false) :
    ListeningStep id t (t.react env now id e) := by
  by_cases harr : Arrives s e
  · exact listeningStep_of_arrives env now hsess harr
  · rw [react_of_not_arrives hsess harr]
    exact listeningStep_handle env now hsess hshaped hreport hover harr

/-- Each session of the list gives its cues and does not listen any more; the others are left
alone. -/
structure EachEndsListening (R : Session → List Cue → Prop) (l : List Session) (t t' : Turn) :
    Prop where
  own (s : Session) : s ∈ l → ∃ ks, R s ks ∧ t'.cueView s.id = (none, (t.cueView s.id).2 ++ ks)
  others (id : SessionId) : (∀ s ∈ l, s.id ≠ id) → t'.cueView id = t.cueView id

variable {R : Session → List Cue → Prop} {l : List Session}

namespace EachEndsListening

private theorem nil (R : Session → List Cue → Prop) (t : Turn) : EachEndsListening R [] t t where
  own _ h := absurd h List.not_mem_nil
  others _ _ := rfl

private theorem cons (hr : R s ks) (hcues : GivesCues s.id ks none t t₁)
    (hrest : EachEndsListening R l t₁ t')
    (hd : ∀ o ∈ l, s.id ≠ o.id) : EachEndsListening R (s :: l) t t' := by
  constructor
  · intro o ho
    rcases List.mem_cons.mp ho with rfl | ho
    · refine ⟨ks, hr, ?_⟩
      rw [hrest.others o.id fun x hx => (hd x hx).symm]
      exact hcues.own
    · obtain ⟨ks', hr', hcueView⟩ := hrest.own o ho
      refine ⟨ks', hr', ?_⟩
      rw [hcueView, hcues.other (hd o ho).symm]
  · intro id hid
    rw [hrest.others id fun o ho => hid o (List.mem_cons_of_mem s ho),
      hcues.other (hid s List.mem_cons_self).symm]

private theorem from_eq (h : EachEndsListening R l t₁ t') (ht : t₁.cueView = t.cueView) :
    EachEndsListening R l t t' :=
  ⟨ht ▸ h.own, ht ▸ h.others⟩

end EachEndsListening

private theorem eachEndsListening_foldl {β : Type} (proj : β → Turn) (step : β → Session → β)
    (hstep : ∀ b, ∀ s ∈ l, (proj b).watch s.id = s.stance.watch →
      ∃ ks, R s ks ∧ GivesCues s.id ks none (proj b) (proj (step b s)))
    (hn : (l.map (·.id)).Nodup) (b : β) (hw : ∀ s ∈ l, (proj b).watch s.id = s.stance.watch) :
    EachEndsListening R l (proj b) (proj (l.foldl step b)) := by
  refine Session.foldl_each (fun b s => (proj b).watch s.id = s.stance.watch)
    (fun s b b' => ∃ ks, R s ks ∧ GivesCues s.id ks none (proj b) (proj b'))
    (fun l b b' => EachEndsListening R l (proj b) (proj b')) ?_ ?_ ?_ hstep hn b hw
  · exact fun b => .nil R (proj b)
  · rintro s rest b b' ⟨ks, hr, hcues⟩ hne hrest
    exact .cons hr hcues hrest hne
  · rintro s o b ⟨ks, hr, hcues⟩ hne ho
    exact (congrArg Prod.fst (hcues.other hne.symm)).trans ho

private theorem givesCues_leaveFor (t : Turn) (id : SessionId) (target : Tuning) :
    GivesCues id (Cue.farewell (t.watch id) .disconnecting) none t (t.leaveFor id target) :=
  (givesCues_depart t id .disconnecting (by decide)).to_eq rfl

private theorem givesCues_moveTo (env : Surroundings) (hw : t.watch s.id = s.stance.watch)
    (target : Tuning) :
    GivesCues s.id (Cue.farewell s.stance.watch .disconnecting) none t (moveTo env t s target) := by
  have haimed : (t.modify s.id fun s => { s with target := some target }).cueView = t.cueView :=
    cueView_modify t s.id (fun _ => rfl) fun _ => rfl
  have hleave (t₁ : Turn) (h : t₁.cueView = t.cueView) :
      GivesCues s.id (Cue.farewell s.stance.watch .disconnecting) none t
        (t₁.leaveFor s.id target) := by
    have hleft := givesCues_leaveFor t₁ s.id target
    rw [watch_of_cueView h, hw] at hleft
    exact hleft.from_eq h
  unfold moveTo
  dsimp only
  split
  · rename_i hon
    obtain ⟨ok, hc⟩ := exists_command_eq env
      (t.modify s.id fun s => { s with target := some target }) s.id (.announceSwitch target)
    rw [hc]
    have htold :=
      (cueView_record _ (e := .command s.id (.announceSwitch target) ok) rfl).trans haimed
    cases ok with
    | false => exact hleave _ htold
    | true =>
      have hoff : s.stance.watch = none :=
        Stance.watch_eq_none_iff.mpr (by simp [Session.stance, hon])
      rw [hoff]
      exact .of_eq (hw.trans hoff) ((cueView_record _ rfl).trans htold)
  · exact hleave _ haimed

private theorem givesCues_evade (env : Surroundings) (now : Instant)
    {progress : Turn × Option Tuning} (hw : progress.1.watch s.id = s.stance.watch) :
    GivesCues s.id (Cue.farewell s.stance.watch .disconnecting) none progress.1
      (evade env now progress s).1 := by
  obtain ⟨t, shared⟩ := progress
  have hfound := cueView_findPlace env now t shared s
  rw [evade_eq]
  generalize findPlace env now t shared s = found at *
  have hw₁ : found.2.watch s.id = s.stance.watch := by
    rw [watch_of_cueView hfound]
    exact hw
  split
  · have htold : (found.2.notify s.id .noChannel).cueView = found.2.cueView := cueView_record _ rfl
    have hstop := givesCues_beginStop env (found.2.notify s.id .noChannel) s.id
    rw [watch_of_cueView htold, hw₁] at hstop
    exact hstop.from_eq (htold.trans hfound)
  · exact (givesCues_moveTo env hw₁ _).from_eq hfound

private theorem cueView_warn (t : Turn) (channels : List Channel) (l : List Session) :
    (t.warn channels l).cueView = t.cueView := by
  unfold warn
  induction l generalizing t with
  | nil => rfl
  | cons s rest ih =>
    exact (ih (t.notify s.id (.radarDetected channels))).trans (cueView_record t rfl)

private theorem cueView_abortListening (t : Turn) (channels : List Channel) :
    (t.abortListening channels).cueView = t.cueView := by
  unfold abortListening
  split
  · exact cueView_record _ rfl
  · rfl

theorem watch_of_mem (hn : t.scene.ids.Nodup) (hs : s ∈ t.sessions) :
    t.watch s.id = s.stance.watch :=
  Controller.watch_of_session? (Controller.session?_of_mem hn hs)

theorem eachEndsListening_onRadar (env : Surroundings) (s : Session) (channels : List Channel)
    (now : Instant) (hn : t.scene.ids.Nodup) :
    EachEndsListening (fun s ks => ks = Cue.farewell s.stance.watch .disconnecting)
      (t.affected (if channels.isEmpty then s.occupied else channels)) t
      (t.onRadar env s channels now) := by
  rw [onRadar_eq]
  generalize (if channels.isEmpty then s.occupied else channels) = chs
  let listed := (t.share (struck now chs)).notify s.id
    (.listChanged ((t.share (struck now chs)).airspace.table.records now))
  have hlisted : listed.cueView = t.cueView := cueView_record _ rfl
  have haffected : listed.affected chs = t.affected chs := rfl
  change EachEndsListening _ _ _ (listed.disperse env chs now s.id)
  unfold disperse
  rw [haffected]
  refine EachEndsListening.from_eq ?_ hlisted
  split
  · rename_i hempty
    have htold : (listed.notify s.id (.radarDetected chs)).cueView = listed.cueView :=
      cueView_record listed rfl
    rw [List.isEmpty_iff.mp hempty]
    exact ⟨fun _ h => absurd h List.not_mem_nil, fun _ _ => congrFun htold _⟩
  · have hready : ((listed.warn chs (t.affected chs)).abortListening chs).cueView =
      listed.cueView :=
      (cueView_abortListening _ chs).trans (cueView_warn listed chs _)
    refine EachEndsListening.from_eq ?_ hready
    refine eachEndsListening_foldl
      (R := fun s ks => ks = Cue.farewell s.stance.watch .disconnecting)
      (l := t.affected chs) Prod.fst (evade env now)
      (fun b o _ hw => ⟨_, rfl, givesCues_evade env now hw⟩)
      (List.Nodup.sublist (List.filter_sublist.map _) hn)
      ((listed.warn chs (t.affected chs)).abortListening chs, none) fun o ho => ?_
    rw [watch_of_cueView (hready.trans hlisted)]
    exact watch_of_mem hn (mem_affected.mp ho).1

def sentTo (accepted : Bool) : Phase :=
  if accepted then .started else .disconnecting

private theorem givesCues_sendOrStop (env : Surroundings) {tuning : Option Tuning}
    (hw : t.watch s.id = some tuning) :
    ∃ ok, GivesCues s.id [.beacon ok, .left (sentTo ok)] none t (sendOrStop env t s) := by
  obtain ⟨ok, hc⟩ := exists_command_eq env t s.id .startBeacon
  have hbid : GivesCues s.id [.beacon ok] (some tuning) t
      (t.record (.command s.id .startBeacon ok)) := givesCues_record hw rfl
  have hw₁ : (t.record (.command s.id .startBeacon ok)).watch s.id = some tuning := hw
  refine ⟨ok, ?_⟩
  rw [sendOrStop, hc]
  generalize t.record (.command s.id .startBeacon ok) = t₁ at *
  cases ok with
  | true =>
    have hstarted := givesCues_depart t₁ s.id .started (by decide)
    rw [hw₁] at hstarted
    exact hbid.trans (hstarted.to_eq (cueView_record _ rfl))
  | false =>
    have hstop := givesCues_beginStop env t₁ s.id
    rw [hw₁] at hstop
    exact hbid.trans hstop

def Ends (s : Session) (ks : List Cue) : Prop :=
  ∃ tu ok, s.tuning = some tu ∧ ks = [.ended tu, .beacon ok, .left (sentTo ok)]

private theorem ends_wake (env : Surroundings) (hw : t.watch s.id = s.stance.watch)
    (hp : s.phase = .listening) (hshaped : s.Shaped) :
    ∃ ks, Ends s ks ∧ GivesCues s.id ks none t (wake env t s) := by
  obtain ⟨htuned, -, -, hnew⟩ := (Session.shaped_iff_of_listening hp).mp hshaped
  obtain ⟨tu, htu⟩ := Option.isSome_iff_exists.mp htuned
  have hlistens : s.stance.watch = some s.tuning := Stance.watch_of_listening hp
  rw [hlistens] at hw
  have hannounced : (t.modify s.id fun s => { s with listeningEndAnnounced := true }).cueView =
      t.cueView := cueView_modify t s.id (fun _ => rfl) fun _ => rfl
  rw [wake, htu]
  dsimp only
  rw [endListening_eq, hnew]
  generalize (t.modify s.id fun s => { s with listeningEndAnnounced := true }) = t₁ at *
  have hw₁ : t₁.watch s.id = some s.tuning := by
    rw [watch_of_cueView hannounced]
    exact hw
  have htold :
    GivesCues s.id [.ended tu] (some s.tuning) t₁ (t₁.notify s.id (.listeningEnded tu)) :=
    givesCues_record hw₁ rfl
  obtain ⟨ok, hsent⟩ := givesCues_sendOrStop (t := t₁.notify s.id (.listeningEnded tu)) env hw₁
  exact ⟨_, ⟨tu, ok, htu, rfl⟩, (htold.trans hsent).from_eq hannounced⟩

theorem eachEndsListening_onListeningOver {run : ListeningRun} (h : t.airspace.run = some run)
    (hn : t.scene.ids.Nodup) (hshaped : ∀ s ∈ t.sessions, s.Shaped) (env : Surroundings) :
    EachEndsListening Ends (t.waiting run) t (t.onListeningOver env) := by
  rw [onListeningOver_of_run h]
  have hshared : (t.share (credited run)).cueView = t.cueView := rfl
  refine EachEndsListening.from_eq ?_ hshared
  refine eachEndsListening_foldl (fun t => t) (wake env) (fun b s hs hw => ?_)
    (List.Nodup.sublist (List.filter_sublist.map _) hn) (t.share (credited run)) fun s hs => ?_
  · obtain ⟨hmem, hp, -⟩ := mem_waiting.mp hs
    exact ends_wake env hw hp (hshaped s hmem)
  · exact watch_of_mem hn (mem_waiting.mp hs).1

end Turn

end Hotspot

import Hotspot.Proofs.AccessPoint.ListeningNotices

/-!
What the application is told of listening in one operation, and in a whole run. An operation lets a
session listen on, or not listen; makes it listen; makes it leave off; or ends its wait. The cues of
each of the four are always the same, so in a whole run none of them is ever missing.
-/

set_option autoImplicit false
set_option relaxedAutoImplicit false

namespace Hotspot

open Turn (ListeningStep sentTo)

namespace Controller

/-- The cues of a session in an operation that leads to a controller. -/
inductive OperationCues (c : Controller) (op : Operation) (id : SessionId) (c' : Controller) :
    List Cue → Prop
  /-- The session does not begin to listen, and does not stop. -/
  | still (sleeps : ¬ c.CompletesWait op (c.standing id)) (same : c'.watch id = c.watch id) :
      OperationCues c op id c' []
  /-- It begins to listen, and waits for the run that is under way then. -/
  | enter (p : Phase) (tu : Tuning) (run : ListeningRun) (off : c.watch id = none)
      (on : c'.watch id = some (some tu)) (running : c'.airspace.run = some run)
      (waits : (c'.standing id).Waits run) :
      OperationCues c op id c' [.entered p, .begun tu run.duration]
  /-- It stops to listen before its wait is over. -/
  | leave (tuning : Option Tuning) (p : Phase) (sleeps : ¬ c.CompletesWait op (c.standing id))
      (on : c.watch id = some tuning) (off : c'.watch id = none) :
        OperationCues c op id c' [.left p]
  /-- Its wait is over. -/
  | waitOut (tu : Tuning) (accepted : Bool) (completesWait : c.CompletesWait op (c.standing id))
      (on : c.watch id = some (some tu)) (off : c'.watch id = none) :
      OperationCues c op id c' [.ended tu, .beacon accepted, .left (sentTo accepted)]

variable {c c' : Controller} {env : Surroundings} {now : Instant} {id : SessionId} {s : Session}
  {e : Event} {op : Operation} {t t' : Turn}

private theorem waits_of_watch {tu : Tuning} {run : ListeningRun} (hw : c.watch id = some (some tu))
    (hshared : ∃ ch ∈ tu.channels, ch ∈ run.channels) : (c.standing id).Waits run := by
  obtain ⟨s, hsess, hp, htu⟩ := exists_session_of_watch hw
  rw [standing_of_session? hsess]
  refine ⟨hp, ?_⟩
  simpa [Session.stance, Stance.occupied, htu] using hshared

private theorem not_completesWait_of_pending (hpending : c.completes? op = none) (st : Stance) :
    ¬ c.CompletesWait op st := by
  rintro ⟨run, hended, -⟩
  cases hpending.symm.trans hended

private theorem operationCues_of_still (hcueView : t'.cueView id = c.turn.cueView id)
    (hsleeps : ¬ c.CompletesWait op (c.standing id)) :
    c.OperationCues op id t'.toController (t'.journal.cues id) := by
  have hcues : t'.journal.cues id = [] := congrArg Prod.snd hcueView
  rw [hcues]
  exact .still hsleeps (congrArg Prod.fst hcueView)

private theorem operationCues_of_farewell {p : Phase}
    (hcueView : t'.cueView id = (none, (c.turn.cueView id).2 ++ Cue.farewell (c.watch id) p))
    (hsleeps : ¬ c.CompletesWait op (c.standing id)) :
    c.OperationCues op id t'.toController (t'.journal.cues id) := by
  cases hw : c.watch id with
  | none =>
    rw [hw] at hcueView
    have hquiet : c.turn.cueView id = (none, []) := Prod.ext hw rfl
    refine operationCues_of_still (hcueView.trans ?_) hsleeps
    rw [hquiet]
    rfl
  | some tuning =>
    rw [hw] at hcueView
    have hcues : t'.journal.cues id = [.left p] := congrArg Prod.snd hcueView
    rw [hcues]
    exact .leave tuning p hsleeps hw (congrArg Prod.fst hcueView)

private theorem operationCues_of_listeningStep (h : ListeningStep id c.turn t)
    (hcueView : t'.cueView = t.cueView)
    (hrun : t'.airspace.run = t.airspace.run) (hpending : c.completes? op = none) :
    c.OperationCues op id t'.toController (t'.journal.cues id) := by
  have hsleeps := not_completesWait_of_pending hpending (c.standing id)
  cases h with
  | hush same => exact operationCues_of_still (congrFun (hcueView.trans same) id) hsleeps
  | listen p tu run off told running shared =>
    have hown := (told.to_eq hcueView).own
    have hcues : t'.journal.cues id = [.entered p, .begun tu run.duration] := congrArg Prod.snd hown
    have hon : t'.toController.watch id = some (some tu) := congrArg Prod.fst hown
    rw [hcues]
    exact .enter p tu run off hon (hrun.trans running) (waits_of_watch hon shared)
  | leave p told => exact operationCues_of_farewell (told.to_eq hcueView).own hsleeps

private theorem operationCues_of_quiet (hs : c.Sound) (hshaped : ∀ s ∈ c.sessions, s.Shaped)
    (h : c.session? id = some s) (hreport : s.reports? e = none) (hover : s.awaits e = false)
    (env : Surroundings) (now : Instant) (j : SessionId) :
    c.OperationCues (.dispatch env now id e) j (c.perform (.dispatch env now id e)).1
      ((c.perform (.dispatch env now id e)).2.cues j) := by
  have hclosing := (closing_react hs h env now e).1
  have hpending : c.completes? (.dispatch env now id e) = none := by simp [completes?, h, hover]
  have hstep :=
    Turn.listeningStep_react (t := c.turn) env now h (hshaped s (mem_of_session? h)) hreport hover
  obtain ⟨n, hsettle, -⟩ := Turn.settle_enqueue env now e hs.queue h
  rw [perform_dispatch h, hsettle]
  have hcueView := Turn.cueView_drain env now n hclosing
  have hrun := (Turn.writes_drain (S := fun _ => True) env now n fun p hp =>
    ⟨hclosing p hp, trivial⟩).run
  by_cases hj : j = id
  · subst hj
    exact operationCues_of_listeningStep hstep hcueView hrun hpending
  · refine operationCues_of_still ?_ (not_completesWait_of_pending hpending _)
    rw [hcueView]
    cases hstep with
    | hush same => exact congrFun same j
    | listen _ _ _ _ told => exact told.other hj
    | leave _ told => exact told.other hj

private theorem operationCues_of_report (hs : c.Sound) (h : c.session? id = some s)
    {chs : List Channel}
    (hreport : s.reports? e = some chs) (env : Surroundings) (now : Instant) (j : SessionId) :
    c.OperationCues (.dispatch env now id e) j (c.perform (.dispatch env now id e)).1
      ((c.perform (.dispatch env now id e)).2.cues j) := by
  have hclosing := (closing_react hs h env now e).1
  have hpending : c.completes? (.dispatch env now id e) = none := by
    cases e <;> simp_all [completes?, Session.awaits, Session.reports?]
  have hsleeps := not_completesWait_of_pending hpending (c.standing j)
  obtain ⟨channels, -, hreact⟩ := Turn.react_of_reports env now (t := c.turn) h hreport
  obtain ⟨n, hsettle, -⟩ := Turn.settle_enqueue env now e hs.queue h
  rw [perform_dispatch h, hsettle]
  have hcueView := Turn.cueView_drain env now n hclosing
  rw [hreact] at hcueView ⊢
  have heach :=
    Turn.eachEndsListening_onRadar (t := c.turn) env s channels now hs.scene.nodup
  generalize (if channels.isEmpty then s.occupied else channels) = chs at heach
  by_cases hj : ∃ o ∈ c.turn.affected chs, o.id = j
  · obtain ⟨o, ho, rfl⟩ := hj
    obtain ⟨_, rfl, hown⟩ := heach.own o ho
    have hw := Turn.watch_of_mem (t := c.turn) hs.scene.nodup (Turn.mem_affected.mp ho).1
    rw [← hw] at hown
    exact operationCues_of_farewell ((congrFun hcueView o.id).trans hown) hsleeps
  · have hother := heach.others j fun o ho hid => hj ⟨o, ho, hid⟩
    exact operationCues_of_still ((congrFun hcueView j).trans hother) hsleeps

private theorem operationCues_of_end (hs : c.Sound) (hshaped : ∀ s ∈ c.sessions, s.Shaped)
    {run : ListeningRun} (hrun : c.airspace.run = some run) (hended : c.completes? op = some run)
    (env : Surroundings) (now : Instant) (n : Nat) (j : SessionId) :
    c.OperationCues op j ((c.turn.onListeningOver env).drain env now n).toController
      (((c.turn.onListeningOver env).drain env now n).journal.cues j) := by
  obtain ⟨-, hclosing, -⟩ := onListeningOver_spec hs hrun env
  have hcueView := Turn.cueView_drain env now n hclosing
  have heach :=
    Turn.eachEndsListening_onListeningOver (t := c.turn) hrun hs.scene.nodup hshaped env
  by_cases hj : ∃ o ∈ c.turn.waiting run, o.id = j
  · obtain ⟨o, ho, rfl⟩ := hj
    obtain ⟨_, ⟨tu, accepted, htu, rfl⟩, hown⟩ := heach.own o ho
    obtain ⟨hmem, hwait⟩ := Turn.mem_waiting.mp ho
    have hw := Turn.watch_of_mem (t := c.turn) hs.scene.nodup hmem
    have hlistens : o.stance.watch = some o.tuning := Stance.watch_of_listening hwait.1
    rw [hlistens] at hw
    have hafter := (congrFun hcueView o.id).trans hown
    have hcues : ((c.turn.onListeningOver env).drain env now n).journal.cues o.id =
        [.ended tu, .beacon accepted, .left (sentTo accepted)] := congrArg Prod.snd hafter
    have hcompletes : c.CompletesWait op (c.standing o.id) := by
      rw [standing_of_session? (session?_of_mem hs.scene.nodup hmem)]
      exact ⟨run, hended, Turn.waits_stance.mpr hwait⟩
    have hon : c.watch o.id = some (some tu) := hw.trans (congrArg some htu)
    rw [hcues]
    exact .waitOut tu accepted hcompletes hon (congrArg Prod.fst hafter)
  · have hnot (o : Session) (ho : o ∈ c.turn.waiting run) : o.id ≠ j := fun hid => hj ⟨o, ho, hid⟩
    refine operationCues_of_still
      ((congrFun hcueView j).trans (heach.others j hnot)) ?_
    rintro ⟨run', hended', hwait⟩
    obtain rfl := Option.some.inj (hended.symm.trans hended')
    have hon : (c.standing j).phase ≠ .disconnected := by simp [hwait.1]
    obtain ⟨o, hsess, hstance⟩ := exists_session_of_standing hon
    rw [← hstance] at hwait
    have ho : o ∈ c.turn.waiting run :=
      Turn.mem_waiting.mpr ⟨mem_of_session? hsess, Turn.waits_stance.mp hwait⟩
    exact hnot o ho (id_of_session? hsess)

private theorem operationCues_of_over (hs : c.Sound) (hshaped : ∀ s ∈ c.sessions, s.Shaped)
    (hended : c.completes? op = c.airspace.run) (env : Surroundings) (now : Instant) (n : Nat)
    (j : SessionId) :
    c.OperationCues op j ((c.turn.onListeningOver env).drain env now n).toController
      (((c.turn.onListeningOver env).drain env now n).journal.cues j) := by
  cases hrun : c.airspace.run with
  | some run => exact operationCues_of_end hs hshaped hrun (hended.trans hrun) env now n j
  | none =>
    have hcueView := Turn.cueView_drain env now n (closing_onListeningOver hs env).1
    rw [Turn.onListeningOver_of_none (t := c.turn) hrun env] at hcueView ⊢
    exact operationCues_of_still (congrFun hcueView j)
      (not_completesWait_of_pending (hended.trans hrun) _)

theorem watch_perform_of_untimed (htime : op.now? = none) (id : SessionId) :
    (c.perform op).1.watch id = c.watch id := by
  rcases session?_untimed_cases (c := c) htime id with
    hsame | ⟨hnone, settings, hnew⟩ | ⟨⟨s, hsess, hp⟩, hgone⟩
  · rw [watch, watch, standing, standing, stance?, stance?, hsame]
  · rw [watch_of_session? hnew, watch, standing, stance?, hnone]
    rfl
  · have hoff : c.watch id = none := by
      rw [watch_of_session? hsess]
      exact Stance.watch_eq_none_iff.mpr (by simp [Session.stance, hp])
    rw [hoff, watch, standing, stance?, hgone]
    rfl

/-- What one operation tells of one session. -/
theorem operationCues_perform (hs : c.Sound) (hshaped : ∀ s ∈ c.sessions, s.Shaped) (op : Operation)
    (id : SessionId) : c.OperationCues op id (c.perform op).1 ((c.perform op).2.cues id) := by
  have huntimed (htime : op.now? = none) (hpending : c.completes? op = none) :
      c.OperationCues op id (c.perform op).1 ((c.perform op).2.cues id) := by
    rw [journal_perform_of_untimed htime]
    exact .still (not_completesWait_of_pending hpending _) (watch_perform_of_untimed htime id)
  cases op with
  | openSession | closeSession | setDomain => exact huntimed rfl rfl
  | listeningOver env now => exact operationCues_of_over hs hshaped rfl env now _ id
  | dispatch env now addressee e =>
    cases h : c.session? addressee with
    | none =>
      rw [perform_dispatch_of_none h]
      exact .still (not_completesWait_of_pending (by simp [completes?, h]) _) rfl
    | some s =>
      cases hreport : s.reports? e with
      | some chs => exact operationCues_of_report hs h hreport env now id
      | none =>
        cases hover : s.awaits e with
        | false => exact operationCues_of_quiet hs hshaped h hreport hover env now id
        | true =>
          obtain ⟨n, hsettle, -⟩ := Turn.settle_enqueue env now e hs.queue h
          have hreact := Turn.react_of_awaits env now (t := c.turn) h hover
          rw [perform_dispatch h, hsettle, hreact]
          exact operationCues_of_over hs hshaped (by simp [completes?, h, hover]) env now n id

/-- The cues of a session up to a time, and what it listens on then: stretches of listening one
after the other, each told of when it begins, and when it ends unless it is broken off. -/
inductive ListeningCues : List Cue → Option (Option Tuning) → Prop
  | none : ListeningCues [] none
  | enter (ks : List Cue) (p : Phase) (tu : Tuning) (d : Duration)
      (before : ListeningCues ks .none) :
      ListeningCues (ks ++ [.entered p, .begun tu d]) (some (some tu))
  | leave (ks : List Cue) (tuning : Option Tuning) (p : Phase)
      (before : ListeningCues ks (some tuning)) : ListeningCues (ks ++ [.left p]) .none
  | waitOut (ks : List Cue) (tu : Tuning) (accepted : Bool)
      (before : ListeningCues ks (some (some tu))) :
      ListeningCues (ks ++ [.ended tu, .beacon accepted, .left (sentTo accepted)]) .none

private theorem OperationCues.listeningCues {ks more : List Cue} (h : c.OperationCues op id c' more)
    (hbefore : ListeningCues ks (c.watch id)) : ListeningCues (ks ++ more) (c'.watch id) := by
  cases h with
  | still _ same =>
    rw [List.append_nil, same]
    exact hbefore
  | enter p tu run off on =>
    rw [off] at hbefore
    rw [on]
    exact .enter ks p tu run.duration hbefore
  | leave tuning p _ on off =>
    rw [on] at hbefore
    rw [off]
    exact .leave ks tuning p hbefore
  | waitOut tu accepted _ on off =>
    rw [on] at hbefore
    rw [off]
    exact .waitOut ks tu accepted hbefore

theorem shaped_sessions_after {settings : Settings} {domain : Domain}
    (h : create settings domain = .ok c) (ops : List Operation) :
    ∀ s ∈ (c.after ops).sessions, s.Shaped := by
  intro s hs
  have hopen := session?_of_mem (sound_after (sound_create h) ops).scene.nodup hs
  exact lasting_after h Session.lasting_shaped ops s.id s hopen

theorem listeningCues_history {settings : Settings} {domain : Domain}
    (h : create settings domain = .ok c) (ops : List Operation) (id : SessionId) :
    ListeningCues ((c.history ops).cues id) ((c.after ops).watch id) := by
  -- By induction on the operations, the last one apart.
  induction ops using List.reverseRecOn with
  | nil =>
    obtain ⟨table, -, rfl⟩ := create_eq h
    exact .none
  | append_singleton ops op ih =>
    have hsound := sound_after (sound_create h) ops
    rw [history_concat, Journal.cues_append, after_concat]
    exact (operationCues_perform hsound (shaped_sessions_after h ops) op id).listeningCues ih

/-- Whatever was done, the application has been told of every stretch of listening of a session when
it began, and of every one that was waited out when it was over, once each and with what the session
was tuned to. The next operation, whichever it is, tells that a session begins to listen exactly if
it does, for as long as the run takes that the session waits for; it tells that listening is over
exactly if it completes that run, before the session is told to send; and nothing else of listening
is told. -/
theorem listeningCues_after {settings : Settings} {domain : Domain}
    (h : create settings domain = .ok c) (ops : List Operation) (id : SessionId) :
    ListeningCues ((c.history ops).cues id) ((c.after ops).watch id) ∧
      ∀ op, (c.after ops).OperationCues op id ((c.after ops).perform op).1
        (((c.after ops).perform op).2.cues id) :=
  ⟨listeningCues_history h ops id, fun op =>
    operationCues_perform (sound_after (sound_create h) ops) (shaped_sessions_after h ops) op id⟩

end Controller

namespace FourChannels

open Controller (ListeningCues listeningCues_after)

theorem listeningCues_heardOut : Controller.create {} domain = .ok controller ∧
    (controller.history heardOut).cues 1 =
      [.entered .disconnected, .begun ⟨52, .mhz20, .alone⟩ (Duration.millis 60000),
        .ended ⟨52, .mhz20, .alone⟩, .beacon true, .left .started] ∧
    ListeningCues ((controller.history heardOut).cues 1) ((controller.after heardOut).watch 1) ∧
    ∀ op, (controller.after heardOut).OperationCues op 1 ((controller.after heardOut).perform op).1
      (((controller.after heardOut).perform op).2.cues 1) :=
  ⟨created, by decide +kernel, listeningCues_after created heardOut 1⟩

end FourChannels

end Hotspot

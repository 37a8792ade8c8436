import Hotspot.Proofs.AccessPoint.Choice

/-!
Listening, going on the air and the requests to start, each as a path of moves. None of this puts
anybody on the air but `markStarted`.
-/

set_option autoImplicit false
set_option relaxedAutoImplicit false

namespace Hotspot

open NonOccupancy (Table)

theorem Airspace.covers_iff {a : Airspace} {run : ListeningRun} {tu : Tuning} :
    a.covers run tu = true ↔
      ∀ c ∈ tu.channels, a.domain.isRadar c = true → c ∈ run.channels := by
  simp only [covers, List.all_eq_true, List.mem_filter, and_imp, List.contains_iff_mem]

namespace Turn

open Scene (Path)

variable {env : Surroundings} {now : Instant} {t : Turn} {s : Session}
  {id : SessionId} {st : Stance}

theorem mem_cleared_of_mustListen {tu : Tuning} (h : t.mustListen tu = false)
    (hskip : t.settings.skipListening = false) :
    ∀ c ∈ tu.channels, t.airspace.domain.isRadar c = true → c ∈ t.airspace.cleared := by
  intro c hc hr
  rw [mustListen, hskip, Bool.not_false, Bool.true_and, List.any_eq_false] at h
  simpa [hr] using h c hc

theorem exists_isRadar_of_mustListen {tu : Tuning} (h : t.mustListen tu = true) :
    ∃ c ∈ tu.channels, t.airspace.domain.isRadar c = true := by
  rw [mustListen, Bool.and_eq_true, List.any_eq_true] at h
  obtain ⟨-, c, hc, hr⟩ := h
  exact ⟨c, hc, (Bool.and_eq_true_iff.mp hr).1⟩

theorem scene_tuned (t : Turn) (id : SessionId) (tu : Tuning) :
    (t.modify id fun s => { s with tuning := some tu }).scene =
      t.scene.alter id fun st => { st with tuning := some tu } :=
  scene_modify t id (fun _ => rfl) fun _ => rfl

theorem beginStart_eq (env : Surroundings) (t : Turn) (s : Session) (tu : Tuning) :
    t.beginStart env s tu =
      ((t.modify s.id fun s => { s with tuning := some tu }).enter s.id .starting).commandElse env
        s.id (.startNetwork (t.startParameters s tu)) (.startFailure 1) := rfl

theorem scene_beginStart (env : Surroundings) (t : Turn) (s : Session) (tu : Tuning) :
    (t.beginStart env s tu).scene =
      t.scene.alter s.id fun st => ⟨.starting, some tu, st.target⟩ := by
  rw [beginStart_eq, scene_commandElse, scene_enter, scene_tuned, Scene.alter_alter]

theorem leaves_beginStart (env : Surroundings) (t : Turn) (s : Session) (tu : Tuning) :
    Leaves s.id t (t.beginStart env s tu) := by
  rw [beginStart_eq]
  exact (leaves_commandElse env _ s.id _ rfl).after (queue_enter (t.modify s.id _) s.id .starting)

theorem aired_beginStart (env : Surroundings) (t : Turn) (s : Session) (tu : Tuning) :
    (t.beginStart env s tu).journal.aired = t.journal.aired := by
  rw [beginStart_eq, aired_commandElse env _ s.id (by simp), aired_enter _ s.id (by simp),
    aired_modify]

theorem scene_awaitListening (t : Turn) (id : SessionId) (tu : Tuning) (d : Duration) :
    (t.awaitListening id tu d).scene =
      t.scene.alter id fun st => { st with phase := .listening } := by
  have hm : ((t.enter id .listening).modify id fun s =>
      { s with listeningAnnounced := true }).scene = (t.enter id .listening).scene :=
    scene_modify_same _ id (fun _ => rfl) fun _ => rfl
  rw [awaitListening]
  split
  · rw [scene_notify, hm, scene_enter]
  · exact scene_enter t id .listening

theorem path_beginListening {p : Phase} {tu : Tuning} {tg : Option Tuning}
    (hs : t.scene.stance s.id = some ⟨p, some tu, tg⟩) (hd : t.airspace.seeded = true)
    (hp : p = .starting ∨ p = .disconnected ∧ tu.FreeIn t.airspace.table)
    (hr : ∃ c ∈ tu.channels, t.airspace.domain.isRadar c = true) :
    Path now t.scene (t.beginListening env s tu now).scene := by
  unfold beginListening
  split
  · rename_i run hrun
    split
    · rename_i hcov
      rw [scene_awaitListening]
      exact Path.change hs (.listen p tu tg run hp hd hrun hcov hr)
    · exact path_beginStop (t := t.notify s.id _) hs hd
  · rename_i hrun
    let run : ListeningRun :=
      ⟨tu.channel, tu.channels, t.airspace.table.listening tu.channels, now⟩
    have hbegun : Path now t.scene (t.scene.share fun a => { a with run := some run }) :=
      .single (.beginRun t.scene run hrun hd)
    have hcov :
        (t.scene.share fun a => { a with run := some run }).airspace.covers run tu = true :=
       Airspace.covers_iff.mpr fun _ hc _ => hc
    rw [scene_awaitListening]
    refine hbegun.trans (Path.change hs (.listen p tu tg run hp hd rfl hcov hr))

private theorem queue_awaitListening (t : Turn) (id : SessionId) (tu : Tuning) (d : Duration) :
    (t.awaitListening id tu d).queue = t.queue := by
  rw [awaitListening]
  split
  · exact queue_enter t id .listening
  · exact queue_enter t id .listening

private theorem aired_awaitListening (t : Turn) (id : SessionId) (tu : Tuning) (d : Duration) :
    (t.awaitListening id tu d).journal.aired = t.journal.aired := by
  have he := aired_enter t id (p := .listening) (by simp)
  rw [awaitListening]
  split
  · rw [aired_notify, aired_modify, he]
  · exact he

theorem queue_beginListening (env : Surroundings) (t : Turn) (s : Session) (tu : Tuning)
    (now : Instant) : (t.beginListening env s tu now).queue = t.queue ∨
      (t.beginListening env s tu now).queue = t.queue ++ [(s.id, .networkStopped)] := by
  unfold beginListening
  split
  · split
    · exact .inl (queue_awaitListening t s.id tu _)
    · exact queue_beginStop env (t.notify s.id _) s.id
  · exact .inl (queue_awaitListening _ s.id tu _)

theorem leaves_beginListening (env : Surroundings) (t : Turn) (s : Session) (tu : Tuning)
    (now : Instant) : Leaves s.id t (t.beginListening env s tu now) :=
  (queue_beginListening env t s tu now).imp_right fun h => ⟨.networkStopped, rfl, h⟩

theorem aired_beginListening (env : Surroundings) (t : Turn) (s : Session) (tu : Tuning)
    (now : Instant) : (t.beginListening env s tu now).journal.aired = t.journal.aired := by
  unfold beginListening
  split
  · split
    · exact aired_awaitListening t s.id tu _
    · rw [aired_beginStop, aired_notify]
  · rw [aired_awaitListening, aired_share, arm, aired_record]
    simp [Entry.aired?]

theorem scene_markStarted (t : Turn) (s : Session) :
    (t.markStarted s).scene = t.scene.alter s.id fun st => { st with phase := .started } := by
  rw [markStarted, scene_notify, scene_enter]

theorem queue_markStarted (t : Turn) (s : Session) : (t.markStarted s).queue = t.queue :=
  queue_enter t s.id .started

theorem openControl_spec (env : Surroundings) (t : Turn) (s : Session) :
    (t.openControl env s).2.scene = t.scene ∧ (t.openControl env s).2.queue = t.queue ∧
      (t.openControl env s).2.journal.aired = t.journal.aired := by
  have ha := aired_command env t s.id (c := .openControl) (by simp)
  unfold openControl
  split
  · exact ⟨rfl, rfl, rfl⟩
  · dsimp only
    split
    · exact ⟨scene_modify_same _ s.id (fun _ => rfl) fun _ => rfl, rfl, ha⟩
    · exact ⟨rfl, rfl, ha⟩

theorem ensureTable_spec (env : Surroundings) (t : Turn) (id : SessionId) (now : Instant) :
    Path now t.scene (t.ensureTable env id now).2.scene ∧
      (t.ensureTable env id now).2.scene.stance = t.scene.stance ∧
      (t.ensureTable env id now).2.queue = t.queue ∧
      (t.ensureTable env id now).2.journal.aired = t.journal.aired ∧
      ((t.ensureTable env id now).1 = true →
        (t.ensureTable env id now).2.airspace.seeded = true) := by
  unfold ensureTable
  split
  · rename_i hd
    exact ⟨.refl, rfl, rfl, rfl, fun _ => hd⟩
  · rename_i hd
    have hd : t.scene.airspace.seeded = false := Bool.eq_false_iff.mpr hd
    split
    · exact ⟨.refl, rfl, rfl, rfl, nofun⟩
    · rename_i table _
      exact ⟨.single (.seed t.scene _ hd), rfl, rfl, aired_notify t id .listWanted, fun _ => rfl⟩

private theorem prepared_cases (env : Surroundings) (t : Turn) (s : Session) (now : Instant)
    (next : Turn → Session → Turn) :
    ∃ t₁ s₁, Path now t.scene t₁.scene ∧ t₁.scene.stance = t.scene.stance ∧
      t₁.queue = t.queue ∧ t₁.journal.aired = t.journal.aired ∧ s₁.id = s.id ∧
      (t.prepared env s now next = t₁.failStart env s₁ ∨
        t₁.airspace.seeded = true ∧ t.prepared env s now next = next t₁ s₁) := by
  obtain ⟨hscene, hqueue, haired⟩ := openControl_spec env t s
  unfold prepared
  generalize t.openControl env s = opened at *
  obtain ⟨opened, t₁⟩ := opened
  dsimp only at *
  cases opened with
  | false =>
    exact ⟨t₁, { s with controlOpen := false }, hscene ▸ .refl, by rw [hscene], hqueue, haired, rfl,
      .inl rfl⟩
  | true =>
    obtain ⟨hpath, hstance, hqueue₂, haired₂, hseeded⟩ :=
      ensureTable_spec env t₁ s.id now
    generalize t₁.ensureTable env s.id now = built at *
    obtain ⟨built, t₂⟩ := built
    dsimp only at *
    rw [hscene] at hpath hstance
    cases built with
    | false =>
      exact ⟨t₂, { s with controlOpen := true }, hpath, hstance, hqueue₂.trans hqueue,
        haired₂.trans haired, rfl, .inl rfl⟩
    | true =>
      exact ⟨t₂, { s with controlOpen := true }, hpath, hstance, hqueue₂.trans hqueue,
        haired₂.trans haired, rfl, .inr ⟨hseeded rfl, rfl⟩⟩

def startGiven (env : Surroundings) (target : Tuning) (now : Instant) (t : Turn) (s : Session) :
    Turn :=
  if t.mustListen target then
    let (accepted, t) := t.command env s.id (.startNetwork (t.startParameters s target))
    if accepted then t.beginListening env s target now else t.failStart env s
  else t.beginStart env s target

def tuneAndStart (env : Surroundings) (target : Tuning) (now : Instant) (t : Turn) (s : Session) :
    Turn :=
  let (usable, t) := t.usable target now
  if usable then
    let tuned (s : Session) : Session :=
      { s with ceiling := some s.widest, tuning := some target }
    (t.modify s.id tuned).startGiven env target now (tuned s)
  else (t.notify s.id .noChannel).failStart env s

theorem onStartRequest_eq (env : Surroundings) (t : Turn) (s : Session) (now : Instant) :
    t.onStartRequest env s now = t.prepared env s now fun t s =>
      (t.enter s.id .selecting).commandElse env s.id
        (.scan (scanChannels (t.enter s.id .selecting).airspace.domain s.settings))
        .selectionFailed := rfl

theorem onTunedStartRequest_eq (env : Surroundings) (t : Turn) (s : Session) (target : Tuning)
    (now : Instant) :
    t.onTunedStartRequest env s target now = t.prepared env s now (tuneAndStart env target now) :=
  rfl

theorem path_onStartRequest {tu tg : Option Tuning}
    (hs : t.scene.stance s.id = some ⟨.disconnected, tu, tg⟩) :
    Path now t.scene (t.onStartRequest env s now).scene := by
  rw [onStartRequest_eq]
  obtain ⟨t₁, s₁, hpath, hstance, -, -, hid, heq | ⟨hd, heq⟩⟩ := prepared_cases env t s now _
  all_goals
    rw [heq]
    rw [← hstance, ← hid] at hs
    refine hpath.trans ?_
  · exact path_failStart hs nofun nofun
  · rw [scene_commandElse, scene_enter]
    exact Path.change hs (.select tu tg hd)

theorem leaves_onStartRequest (env : Surroundings) (t : Turn) (s : Session) (now : Instant) :
    Leaves s.id t (t.onStartRequest env s now) := by
  rw [onStartRequest_eq]
  obtain ⟨t₁, s₁, -, -, hqueue, -, hid, heq | ⟨-, heq⟩⟩ := prepared_cases env t s now _
  all_goals
    rw [heq, ← hid]
    refine Leaves.after ?_ hqueue
  · exact .of_queue_eq (queue_failStart env t₁ s₁)
  · exact (leaves_commandElse env _ s₁.id _ rfl).after (queue_enter t₁ s₁.id .selecting)

theorem aired_onStartRequest (env : Surroundings) (t : Turn) (s : Session) (now : Instant) :
    (t.onStartRequest env s now).journal.aired = t.journal.aired := by
  rw [onStartRequest_eq]
  obtain ⟨t₁, s₁, -, -, -, haired, -, heq | ⟨-, heq⟩⟩ := prepared_cases env t s now _
  all_goals
    rw [heq, ← haired]
  · exact aired_failStart env t₁ s₁
  · rw [aired_commandElse env _ s₁.id (by simp), aired_enter t₁ s₁.id (by simp)]

private theorem path_startGiven {target : Tuning} {tg : Option Tuning}
    (hs : t.scene.stance s.id = some ⟨.disconnected, some target, tg⟩)
    (hd : t.airspace.seeded = true) (hfree : target.FreeIn t.airspace.table) :
    Path now t.scene (startGiven env target now t s).scene := by
  unfold startGiven
  split
  · rename_i hlisten
    obtain ⟨ok, hc⟩ := exists_command_eq env t s.id (.startNetwork (t.startParameters s target))
    rw [hc]
    cases ok
    · exact path_failStart (t := t.record _) hs nofun nofun
    · exact path_beginListening (t := t.record _) hs hd
        (.inr ⟨rfl, hfree⟩) (exists_isRadar_of_mustListen hlisten)
  · rw [scene_beginStart]
    exact Path.change hs (.launch .disconnected (some target) tg target (.inl rfl) hd hfree)

private theorem leaves_startGiven (env : Surroundings) (target : Tuning) (now : Instant) (t : Turn)
    (s : Session) : Leaves s.id t (startGiven env target now t s) := by
  unfold startGiven
  split
  · obtain ⟨ok, hc⟩ := exists_command_eq env t s.id (.startNetwork (t.startParameters s target))
    rw [hc]
    cases ok
    · exact .of_queue_eq (queue_failStart env (t.record _) s)
    · exact (leaves_beginListening env (t.record _) s target now).after rfl
  · exact leaves_beginStart env t s target

private theorem aired_startGiven (env : Surroundings) (target : Tuning) (now : Instant) (t : Turn)
    (s : Session) : (startGiven env target now t s).journal.aired = t.journal.aired := by
  have ha := aired_command env t s.id (c := .startNetwork (t.startParameters s target)) (by simp)
  unfold startGiven
  split
  · dsimp only
    split
    · rw [aired_beginListening, ha]
    · rw [aired_failStart, ha]
  · exact aired_beginStart env t s target

private theorem path_tuneAndStart {target : Tuning} {tu tg : Option Tuning}
    (hs : t.scene.stance s.id = some ⟨.disconnected, tu, tg⟩) (hd : t.airspace.seeded = true) :
    Path now t.scene (tuneAndStart env target now t s).scene := by
  obtain ⟨table, hlooked, heq, hfree⟩ := usable_spec t target now
  have hlook := path_withTable hlooked
  unfold tuneAndStart
  generalize t.usable target now = found at *
  obtain ⟨ok, t₁⟩ := found
  dsimp only at heq hfree
  subst heq
  refine hlook.trans ?_
  cases ok with
  | false => exact path_failStart (t := (t.withTable table).notify s.id _) hs nofun nofun
  | true =>
    have htuned : ((t.withTable table).modify s.id fun s =>
        { s with ceiling := some s.widest, tuning := some target }).scene =
          (t.withTable table).scene.alter s.id fun st => { st with tuning := some target } :=
      scene_modify _ s.id (fun _ => rfl) fun _ => rfl
    have hs₁ : ((t.withTable table).modify s.id fun s =>
        { s with ceiling := some s.widest, tuning := some target }).scene.stance s.id =
          some ⟨.disconnected, some target, tg⟩ := by
      rw [htuned, Scene.alter_stance_self]
      exact congrArg (Option.map _) hs
    refine Relation.ReflTransGen.trans ?_ (path_startGiven hs₁ hd (hfree rfl))
    rw [htuned]
    exact Path.change hs (.tune .disconnected tu tg target (.inl rfl))

private theorem leaves_tuneAndStart (env : Surroundings) (target : Tuning) (now : Instant)
    (t : Turn) (s : Session) : Leaves s.id t (tuneAndStart env target now t s) := by
  obtain ⟨table, -, heq, -⟩ := usable_spec t target now
  unfold tuneAndStart
  generalize t.usable target now = found at *
  obtain ⟨ok, t₁⟩ := found
  dsimp only at heq
  subst heq
  cases ok
  · exact .of_queue_eq (queue_failStart env ((t.withTable table).notify s.id _) s)
  · exact (leaves_startGiven env target now _ _).after rfl

private theorem aired_tuneAndStart (env : Surroundings) (target : Tuning) (now : Instant) (t : Turn)
    (s : Session) : (tuneAndStart env target now t s).journal.aired = t.journal.aired := by
  obtain ⟨table, -, heq, -⟩ := usable_spec t target now
  unfold tuneAndStart
  generalize t.usable target now = found at *
  obtain ⟨ok, t₁⟩ := found
  dsimp only at heq
  subst heq
  cases ok
  · exact (aired_failStart env _ s).trans (aired_notify _ s.id _)
  · exact aired_startGiven env target now _ _

theorem path_onTunedStartRequest {target : Tuning} {tu tg : Option Tuning}
    (hs : t.scene.stance s.id = some ⟨.disconnected, tu, tg⟩) :
    Path now t.scene (t.onTunedStartRequest env s target now).scene := by
  rw [onTunedStartRequest_eq]
  obtain ⟨t₁, s₁, hpath, hstance, -, -, hid, heq | ⟨hd, heq⟩⟩ := prepared_cases env t s now _
  all_goals
    rw [heq]
    rw [← hstance, ← hid] at hs
    refine hpath.trans ?_
  · exact path_failStart hs nofun nofun
  · exact path_tuneAndStart hs hd

theorem leaves_onTunedStartRequest (env : Surroundings) (t : Turn) (s : Session) (target : Tuning)
    (now : Instant) : Leaves s.id t (t.onTunedStartRequest env s target now) := by
  rw [onTunedStartRequest_eq]
  obtain ⟨t₁, s₁, -, -, hqueue, -, hid, heq | ⟨-, heq⟩⟩ := prepared_cases env t s now _
  all_goals
    rw [heq, ← hid]
    refine Leaves.after ?_ hqueue
  · exact .of_queue_eq (queue_failStart env t₁ s₁)
  · exact leaves_tuneAndStart env target now t₁ s₁

theorem aired_onTunedStartRequest (env : Surroundings) (t : Turn) (s : Session) (target : Tuning)
    (now : Instant) :
    (t.onTunedStartRequest env s target now).journal.aired = t.journal.aired := by
  rw [onTunedStartRequest_eq]
  obtain ⟨t₁, s₁, -, -, -, haired, -, heq | ⟨-, heq⟩⟩ := prepared_cases env t s now _
  all_goals
    rw [heq, ← haired]
  · exact aired_failStart env t₁ s₁
  · exact aired_tuneAndStart env target now t₁ s₁

end Turn

end Hotspot

import Hotspot.Proofs.AccessPoint.ScannedChannels
import Hotspot.Proofs.AccessPoint.StartFailure
import Hotspot.Proofs.Spectrum.ChoiceOutcomes

/-!
On which tunings an operation starts networks. A start on a given tuning starts a network there if
the tuning is usable; after a scan, a network is started on what is chosen: the channel that the
session is bound to if it is usable, or else what automatic choice finds. Nothing else that happens
starts a network.
-/

set_option autoImplicit false
set_option relaxedAutoImplicit false

namespace Hotspot

open NonOccupancy (Table)

def Command.launches? : Command → Option Tuning
  | .startNetwork parameters => some parameters.tuning
  | _ => none

def launches (cs : List (Command × Bool)) : List Tuning :=
  cs.filterMap fun c => c.1.launches?

private theorem launches_append (cs cs' : List (Command × Bool)) :
    launches (cs ++ cs') = launches cs ++ launches cs' :=
  List.filterMap_append

theorem mem_launches {cs : List (Command × Bool)} {tu : Tuning} : tu ∈ launches cs ↔
    ∃ parameters ok, (.startNetwork parameters, ok) ∈ cs ∧ parameters.tuning = tu := by
  unfold launches
  rw [List.mem_filterMap]
  constructor
  · rintro ⟨⟨c, ok⟩, hc, hlaunches⟩
    cases c <;> cases hlaunches
    exact ⟨_, ok, hc, rfl⟩
  · rintro ⟨parameters, ok, hc, rfl⟩
    exact ⟨_, hc, rfl⟩

private theorem launches_eq_nil {cs : List (Command × Bool)}
    (h : ∀ parameters ok, (Command.startNetwork parameters, ok) ∉ cs) : launches cs = [] := by
  rw [List.eq_nil_iff_forall_not_mem]
  intro tu htu
  obtain ⟨parameters, ok, hc, -⟩ := mem_launches.mp htu
  exact h parameters ok hc

namespace Session

private theorem launches_opening (s : Session) (ok : Bool) : launches (s.opening ok) = [] := by
  unfold opening
  split <;> rfl

private theorem launches_closing (s : Session) (ok : Bool) : launches (s.closing ok) = [] :=
  launches_eq_nil fun _ _ => startNetwork_notMem_closing s ok

/-- After a scan, a start is tried on what was chosen. Where nothing was, the scan has failed. -/
inductive Tries : Option Tuning → Rule
  | launch (s : Session) (parameters : StartParameters) (ok : Bool) :
      Tries (some parameters.tuning) s
        { s with
          ceiling := some s.widest, tuning := some parameters.tuning, phase := .starting }
        [(.startNetwork parameters, ok)] ((Event.startFailure 1).ifRefused ok)
  | miss (s : Session) : Tries none s { s with ceiling := some s.widest } [] [.selectionFailed]

private theorem Tries.launches_eq {choice : Option Tuning} {s s' : Session}
    {cs : List (Command × Bool)}
    {es : List Event} (h : Tries choice s s' cs es) : launches cs = choice.toList := by
  cases h <;> rfl

end Session

namespace Controller

def quest (c : Controller) (s : Session) (now : Instant) : Selection.Quest :=
  ⟨c.airspace.domain, c.settings.policy, s.settings.range, now, c.airspace.table⟩

def found? (c : Controller) (env : Surroundings) (s : Session) (now : Instant) : Option Tuning :=
  (c.quest s now).choice s.widest (env.octet c.drawn) (Turn.tick now)

end Controller

namespace Turn

open Session (SessionStep Tries)

variable {env : Surroundings} {now : Instant} {t t' : Turn} {s s₀ : Session} {id : SessionId}
  {e : Event} {tu : Tuning}

private theorem usable_fst (t : Turn) (tu : Tuning) (now : Instant) :
    (t.usable tu now).1 = (tu.channels.all t.airspace.domain.contains &&
      (t.airspace.table.available now tu.channel tu.bonding).1 &&
      !tu.channels.any (Isolation.leaks tu.width (t.airspace.table.unavailable now).1)) := by
  have hv := (Table.viewed_available now t.airspace.table tu.channel tu.bonding).unavailable
  unfold usable
  cases tu.channels.all t.airspace.domain.contains with
  | false => rfl
  | true =>
    cases hfree : (t.airspace.table.available now tu.channel tu.bonding).1 with
    | false => simp [hfree]
    | true => simp [hfree, withTable, share, hv]

private theorem usable_congr (h : t'.airspace = t.airspace) :
    (t'.usable tu now).1 = (t.usable tu now).1 := by
  rw [usable_fst, usable_fst, h]

private theorem select_fst (env : Surroundings) (t : Turn) (s : Session) (now : Instant) :
    (t.select env s now).1 = t.found? env s now := by
  unfold Controller.found? Selection.Quest.choice Controller.quest
  rw [select]
  dsimp only [modify]
  generalize Selection.select? t.airspace.domain t.settings.policy s.settings.range s.widest
    (env.octet t.drawn) (tick now) now t.airspace.table = found
  obtain ⟨choice, table⟩ := found
  cases choice <;> rfl

theorem choose_of_auto (h : s.settings.channel = .auto) (env : Surroundings) (t : Turn)
    (now : Instant) : (t.choose env s now).1 = t.found? env s now := by
  unfold choose
  rw [h]
  exact select_fst env t s now

theorem choose_of_fixed {ch : Channel} (hv : t.airspace.domain.validate = .ok ())
    (h : s.settings.channel = .fixed ch) (env : Surroundings) (now : Instant) :
    (t.choose env s now).1 =
      if (t.usable (Tuning.resolve ch s.widest) now).1 then some (Tuning.resolve ch s.widest)
      else t.found? env s now := by
  obtain ⟨table, hviewed, heq, -⟩ := usable_cases t (Tuning.resolve ch s.widest) now
  unfold choose
  rw [h]
  dsimp only
  split
  · rfl
  · rw [heq, select_fst]
    exact Selection.Quest.choice_of_viewed (q := t.quest s now) hv hviewed _ _ _

private theorem choose_modify (hv : t.airspace.domain.validate = .ok ()) (id : SessionId)
    (f : Session → Session) (env : Surroundings) (s : Session) (now : Instant) :
    ((t.modify id f).choose env s now).1 = (t.choose env s now).1 := by
  cases hch : s.settings.channel with
  | auto =>
    rw [choose_of_auto hch, choose_of_auto hch]
    rfl
  | fixed ch =>
    have hsame : (t.modify id f).airspace = t.airspace := rfl
    rw [choose_of_fixed hv hch, choose_of_fixed (hsame ▸ hv) hch, usable_congr hsame]
    rfl

theorem tries_onScanComplete (env : Surroundings) (now : Instant) (hs : t.session? s.id = some s)
    (hseeded : t.airspace.seeded = true) (hv : t.airspace.domain.validate = .ok ()) :
    Follows (Tries (t.choose env s now).1) now s.id s t (t.onScanComplete env s true now) := by
  have hwidth := posts_modify now hs
    (f := fun s => { s with ceiling := some s.widest }) fun _ => rfl
  rw [onScanComplete_eq, ← choose_modify hv s.id fun s => { s with ceiling := some s.widest }]
  generalize (t.modify s.id fun s => { s with ceiling := some s.widest }) = m at *
  obtain ⟨hplaced, hfit⟩ := places_choose (s := s) env now hwidth.session rfl
  have hchosen := hwidth.andThen hplaced
  unfold settleOn
  cases htu : (m.choose env s now).1 with
  | some tu =>
    have hsuits : (m.choose env s now).2.airspace.Suits now tu :=
      ⟨hchosen.keepsUsable.onlyLooks.seeded hseeded, hfit tu htu⟩
    obtain ⟨ok, hstart⟩ := posts_beginStart (s := s) env hchosen.session hsuits
    exact ⟨_, _, _, .launch s ((m.choose env s now).2.startParameters s tu) ok,
      hchosen.trans hstart⟩
  | none =>
    have htold := hchosen.andThen (posts_notify now hchosen.session s.id .noChannel)
    exact ⟨_, _, _, .miss s, htold.trans (posts_enqueue htold.session .selectionFailed)⟩

def Starts (tunings : List Tuning) (now : Instant) (id : SessionId) (t t' : Turn) : Prop :=
  ∃ s cs es, Posts now id s cs es t t' ∧ launches cs = tunings

private theorem Starts.trans {tunings tunings' : List Tuning} {t₁ t₂ : Turn}
    (h : Starts tunings now id t t₁) (h' : Starts tunings' now id t₁ t₂) :
    Starts (tunings ++ tunings') now id t t₂ := by
  obtain ⟨s, cs, es, hposts, rfl⟩ := h
  obtain ⟨s', cs', es', hposts', rfl⟩ := h'
  exact ⟨s', _, _, hposts.trans hposts', launches_append cs cs'⟩

private theorem starts_failStart (env : Surroundings) (now : Instant)
    (hs : t.session? s.id = some s) : Starts [] now s.id t (t.failStart env s) := by
  obtain ⟨ok, hfail⟩ := posts_failStart env now hs
  exact ⟨_, _, _, hfail, s.launches_closing ok⟩

private theorem starts_onStartRequest (env : Surroundings) (now : Instant)
    (hs : t.session? s.id = some s) : Starts [] now s.id t (t.onStartRequest env s now) := by
  rw [onStartRequest_eq]
  obtain ⟨t₁, control, -, hready, heq | ⟨-, -, heq⟩⟩ := posts_prepared env now hs _
  all_goals
    rw [heq]
    have hopened : Starts [] now s.id t t₁ := ⟨_, _, _, hready, s.launches_opening control⟩
    refine hopened.trans ?_
  · exact starts_failStart (s := { s with controlOpen := control }) env now hready.session
  · have hselects := posts_enter now hready.session .selecting
    obtain ⟨ok, hscan⟩ := posts_commandElse env now hselects.session
      (c := .scan (scanChannels (t₁.enter s.id .selecting).airspace.domain s.settings))
      .selectionFailed nofun
    exact ⟨_, _, _, hselects.trans hscan, rfl⟩

private theorem starts_beginListening (env : Surroundings) (now : Instant)
    (hs : t.session? s.id = some s₀) (tu : Tuning) :
    Starts [] now s.id t (t.beginListening env s tu now) := by
  rcases posts_beginListening env now hs tu with hlisten | ⟨ok, hrefuse⟩
  · exact ⟨_, _, _, hlisten, rfl⟩
  · exact ⟨_, _, _, hrefuse, rfl⟩

private theorem starts_startGiven (env : Surroundings) (now : Instant)
    (hs : t.session? s.id = some s)
    (hsuits : t.airspace.Suits now tu) : Starts [tu] now s.id t (startGiven env tu now t s) := by
  unfold startGiven
  split
  · obtain ⟨ok, hc⟩ := exists_command_eq env t s.id (.startNetwork (t.startParameters s tu))
    have htold := posts_told now (c := .startNetwork (t.startParameters s tu)) hs ok
      fun _ h => by cases h; exact hsuits
    have hstarted : Starts [tu] now s.id t _ := ⟨_, _, _, htold, rfl⟩
    rw [hc]
    cases ok with
    | false => exact hstarted.trans (starts_failStart env now htold.session)
    | true => exact hstarted.trans (starts_beginListening env now htold.session tu)
  · obtain ⟨ok, hstart⟩ := posts_beginStart env hs hsuits
    exact ⟨_, _, _, hstart, rfl⟩

private theorem starts_tuneAndStart (env : Surroundings) (target : Tuning) (now : Instant)
    (hs : t.session? s.id = some s) (hseeded : t.airspace.seeded = true) :
    Starts (if (t.usable target now).1 then [target] else []) now s.id t
      (tuneAndStart env target now t s) := by
  obtain ⟨table, hv, heq, hfit⟩ := usable_cases t target now
  have hlooked : Posts now s.id s [] [] t (t.withTable table) :=
    .of_ledger_eq hs rfl (keepsUsable_withTable hv)
  unfold tuneAndStart
  generalize t.usable target now = found at *
  obtain ⟨usable, t₂⟩ := found
  dsimp only at heq hfit ⊢
  subst heq
  cases usable with
  | false =>
    have htold := hlooked.andThen (posts_notify now hlooked.session s.id .noChannel)
    have hquiet : Starts [] now s.id t _ := ⟨_, _, _, htold, rfl⟩
    exact hquiet.trans (starts_failStart env now htold.session)
  | true =>
    have htuned := hlooked.andThen (posts_modify now hlooked.session
      (f := fun s => { s with ceiling := some s.widest, tuning := some target }) fun _ => rfl)
    have hquiet : Starts [] now s.id t _ := ⟨_, _, _, htuned, rfl⟩
    exact hquiet.trans (starts_startGiven
      (s := { s with ceiling := some s.widest, tuning := some target }) env now htuned.session
      ⟨hseeded, hfit rfl⟩)

private theorem airspace_openControl (env : Surroundings) (t : Turn) (s : Session) :
    (t.openControl env s).2.airspace = t.airspace :=
  congrArg Scene.airspace (openControl_spec env t s).1

private theorem airspace_ensureTable_congr (h : t'.airspace = t.airspace) (env : Surroundings)
    (id : SessionId) (now : Instant) :
    (t'.ensureTable env id now).2.airspace = (t.ensureTable env id now).2.airspace := by
  unfold ensureTable
  rw [h]
  split
  · exact h
  · split
    · exact h
    · simp only [share, notify, record, h]

/-- The control session is there or is taken, and the tuning is usable once the list is there. -/
def opensOn (env : Surroundings) (now : Instant) (t : Turn) (s : Session) (target : Tuning) :
    Bool :=
  (s.controlOpen || env.accepts t.journal s.id .openControl) &&
    ((t.ensureTable env s.id now).2.usable target now).1

private theorem starts_onTunedStartRequest (env : Surroundings) (now : Instant) (target : Tuning)
    (hs : t.session? s.id = some s) (hv : t.airspace.domain.validate = .ok ()) :
    Starts (if t.opensOn env now s target then [target] else []) now s.id t
      (t.onTunedStartRequest env s target now) := by
  obtain ⟨-, hopen⟩ := posts_openControl env now hs
  have hair := airspace_openControl env t s
  rw [onTunedStartRequest_eq, opensOn, ← openControl_fst]
  unfold prepared
  generalize t.openControl env s = opened at *
  obtain ⟨opened, t₁⟩ := opened
  dsimp only at *
  cases opened with
  | false =>
    have hopened : Starts [] now s.id t t₁ := ⟨_, _, _, hopen, s.launches_opening false⟩
    exact hopened.trans
      (starts_failStart (s := { s with controlOpen := false }) env now hopen.session)
  | true =>
    have hlisted := airspace_ensureTable_congr hair env s.id now
    have hbuilt := ensureTable_fst (hair ▸ hv) env s.id now
    obtain ⟨husable, hledger, hseeded⟩ := ensureTable_seeds env t₁ s.id now
    rw [← usable_congr hlisted]
    generalize t₁.ensureTable env s.id now = built at *
    obtain ⟨built, t₂⟩ := built
    dsimp only at *
    subst hbuilt
    have hready := hopen.before hledger husable
    have hopened : Starts [] now s.id t t₂ := ⟨_, _, _, hready, s.launches_opening true⟩
    exact hopened.trans (starts_tuneAndStart (s := { s with controlOpen := true }) env target now
      hready.session (hseeded rfl))

def launched (env : Surroundings) (now : Instant) (t : Turn) (s : Session) (e : Event) :
    List Tuning :=
  match e, s.phase with
  | .tunedStartRequest target, .disconnected =>
    if t.opensOn env now s target then [target] else []
  | .scanComplete true _, .selecting => (t.choose env s now).1.toList
  | _, _ => []

/-- The events that are the business of a session that is off the air or looks for a channel. -/
def begins : Event → Phase → Bool
  | .startRequest, .disconnected => true
  | .tunedStartRequest _, .disconnected => true
  | .scanComplete true _, .selecting => true
  | _, _ => false

private theorem launched_of_not_begins (h : begins e s.phase = false) :
    t.launched env now s e = [] := by
  unfold launched
  unfold begins at h
  split <;> simp_all

private theorem handle_of_not_begins (env : Surroundings) (now : Instant)
    (hs : t.session? id = some s)
    (hp : s.phase = .disconnected ∨ s.phase = .selecting) (he : begins e s.phase = false) :
    t.handle env now id e = t ∨ t.handle env now id e = t.failStart env s ∨
      t.handle env now id e = t.enqueue s.id .selectionFailed := by
  rw [handle, hs]
  dsimp only
  cases e with
  | scanComplete success found =>
    cases success <;> rcases hp with hp | hp <;> simp_all [begins, onScanComplete]
  | _ => rcases hp with hp | hp <;> simp_all [begins]

private theorem starts_handle (env : Surroundings) (now : Instant) (hs : t.session? s.id = some s)
    (hv : t.airspace.domain.validate = .ok ()) (hproper : s.stance.Proper t.airspace)
    (hreport : s.reports? e = none) (hover : s.awaits e = false) (hstay : ¬ Arrives s e) :
    Starts (t.launched env now s e) now s.id t (t.handle env now s.id e) := by
  cases hbegins : begins e s.phase with
  | true =>
    unfold begins at hbegins
    unfold launched
    rw [handle, hs]
    dsimp only
    split at hbegins
    · rename_i hp
      rw [hp]
      exact starts_onStartRequest env now hs
    · rename_i target hp
      rw [hp]
      exact starts_onTunedStartRequest env now target hs hv
    · rename_i found hp
      rw [hp]
      have hseeded := hproper.seeded (by simp [Session.stance, hp])
      obtain ⟨s', cs, es, htries, hposts⟩ := tries_onScanComplete env now hs hseeded hv
      exact ⟨s', cs, es, hposts, htries.launches_eq⟩
    · cases hbegins
  | false =>
    rw [launched_of_not_begins hbegins]
    by_cases hp : s.phase = .disconnected ∨ s.phase = .selecting
    · rcases handle_of_not_begins env now hs hp hbegins with heq | heq | heq <;> rw [heq]
      · exact ⟨s, [], [], .of_ledger_eq hs rfl (.refl now t), rfl⟩
      · exact starts_failStart env now hs
      · exact ⟨s, [], _, posts_enqueue hs .selectionFailed, rfl⟩
    · obtain ⟨s', cs, es, hstep, hposts⟩ :=
        sessionStep_handle env now hs hproper hreport hover hstay
      refine ⟨s', cs, es, hposts, launches_eq_nil fun _ _ hmem => ?_⟩
      exact hp (hstep.off_of_startNetwork hmem)

private theorem starts_react (env : Surroundings) (now : Instant) (hs : t.session? s.id = some s)
    (hv : t.airspace.domain.validate = .ok ()) (hproper : s.stance.Proper t.airspace)
    (hreport : s.reports? e = none) (hover : s.awaits e = false) :
    Starts (t.launched env now s e) now s.id t (t.react env now s.id e) := by
  by_cases harr : Arrives s e
  · obtain ⟨s', cs, es, hstep, hposts⟩ := sessionStep_react_of_arrives env now hs harr
    obtain ⟨hp, -, tuning, rfl⟩ := harr
    refine ⟨s', cs, es, hposts, ?_⟩
    rw [launched_of_not_begins rfl]
    refine launches_eq_nil fun _ _ hmem => ?_
    rcases hstep.off_of_startNetwork hmem with hoff | hoff <;> cases hp.symm.trans hoff
  · rw [react_of_not_arrives hs harr]
    exact starts_handle env now hs hv hproper hreport hover harr

private theorem endures_launches (expected : SessionId → List Tuning) :
    Endures fun k l => launches l.commands = expected k := by
  constructor
  · exact fun h => h
  · intro k s s' cs cs' e es es' h hconcludes
    have hnone : launches cs' = [] := launches_eq_nil fun _ _ => hconcludes.startNetwork_notMem
    rw [launches_append, hnone, List.append_nil]
    exact h

end Turn

namespace Controller

open Turn (EachFollows)

variable {c : Controller} {env : Surroundings} {now : Instant} {s : Session} {e : Event}
  {l : List Session} {t : Turn} {op : Operation} {k : SessionId} {tu : Tuning}

private theorem EachStepped.launches_eq (h : c.EachStepped now l t) (hs : c.Sound)
    (hon : ∀ s ∈ l, s.phase = .listening ∨ s.phase = .started) (k : SessionId) :
    launches (t.ledger k).commands = [] := by
  by_cases hmem : ∃ s ∈ l, s.id = k
  · obtain ⟨s, hmem, rfl⟩ := hmem
    obtain ⟨s', cs, es, hstep, hledger⟩ := h.eachFollows.own s hmem
    rw [hledger, ledger_turn hs]
    refine launches_eq_nil fun _ _ hstart => ?_
    rcases hstep.off_of_startNetwork hstart with hoff | hoff <;>
      rcases hon s hmem with hp | hp <;> cases hp.symm.trans hoff
  · rw [h.eachFollows.others k fun s hs hid => hmem ⟨s, hs, hid⟩, ledger_turn hs]
    rfl

private theorem launches_listeningOver (hs : c.Sound) (env : Surroundings) (now : Instant)
    (k : SessionId) (n : Nat) :
    launches (((c.turn.onListeningOver env).drain env now n).journal.commands k) = [] := by
  obtain ⟨l, hlistens, hstepped⟩ := exists_listening_eachStepped hs env now
  exact (Turn.drain_endures env now (Turn.endures_launches fun _ => []) n hstepped.closing
    (hstepped.launches_eq hs fun s h => .inl (hlistens s h))).1 k

private theorem launches_dispatch (hs : c.Sound) (hv : c.airspace.domain.validate = .ok ())
    (h : c.session? s.id = some s) (env : Surroundings) (now : Instant) (e : Event)
    (k : SessionId) :
    launches ((c.perform (.dispatch env now s.id e)).2.commands k) =
      if k = s.id then c.turn.launched env now s e else [] := by
  have hnone (hnil : c.turn.launched env now s e = []) :
      (if k = s.id then c.turn.launched env now s e else []) = [] := by simp [hnil]
  rw [perform_dispatch h]
  dsimp only
  -- Closing events start no network, so what is started is decided in the answer.
  cases hreport : s.reports? e with
  | some chs =>
    obtain ⟨t, n, -, hstepped, hsettle⟩ := exists_drain_of_reports hs env now h hreport
    obtain ⟨channels, -, hradar⟩ := Turn.react_of_reports env now (t := c.turn) h hreport
    have hidle : c.turn.launched env now s e = [] := by
      cases e <;> first | rfl | cases hreport
    rw [hsettle, hnone hidle]
    exact (Turn.drain_endures env now (Turn.endures_launches fun _ => []) n hstepped.closing
      (hstepped.launches_eq hs fun s h => (Turn.mem_affected.mp h).2.1)).1 k
  | none =>
    obtain ⟨n, hsettle, -⟩ := Turn.settle_enqueue env now e hs.queue h
    rw [hsettle]
    cases hwait : s.awaits e with
    | true =>
      have hidle : c.turn.launched env now s e = [] := by
        cases e <;> first | rfl | cases hwait
      rw [Turn.react_of_awaits env now (t := c.turn) h hwait, hnone hidle]
      exact launches_listeningOver hs env now k n
    | false =>
      obtain ⟨s', cs, es, hposts, hcs⟩ := Turn.starts_react env now (t := c.turn) h hv
        (proper_of_session? hs h) hreport hwait
      refine (Turn.drain_endures env now (Turn.endures_launches fun k =>
        if k = s.id then c.turn.launched env now s e else []) n (closing_react hs h env now e).1
        fun k => ?_).1 k
      by_cases hk : k = s.id
      · rw [if_pos hk, hk, hposts.own, ledger_turn hs, List.nil_append, hcs]
      · rw [if_neg hk, hposts.other hk, ledger_turn hs]
        rfl

/-- A network is started for a session only when it is told to start on a given tuning, or when its
scan is over. -/
theorem mem_launches_perform (hs : c.Sound) (hv : c.airspace.domain.validate = .ok ()) :
    tu ∈ launches ((c.perform op).2.commands k) ↔ ∃ env now e s, op = .dispatch env now k e ∧
      c.session? k = some s ∧ tu ∈ c.turn.launched env now s e := by
  cases op with
  | dispatch env now id e =>
    cases hsess : c.session? id with
    | none =>
      rw [perform_dispatch_of_none hsess]
      constructor
      · exact fun h => absurd h List.not_mem_nil
      · rintro ⟨_, _, _, s, ⟨⟩, hsome, -⟩
        cases hsess.symm.trans hsome
    | some s =>
      obtain rfl := id_of_session? hsess
      rw [launches_dispatch hs hv hsess]
      constructor
      · intro h
        by_cases hk : k = s.id
        · rw [if_pos hk] at h
          subst hk
          exact ⟨env, now, e, s, rfl, hsess, h⟩
        · rw [if_neg hk] at h
          exact absurd h List.not_mem_nil
      · rintro ⟨_, _, _, s', ⟨⟩, hsome, h⟩
        cases hsess.symm.trans hsome
        rwa [if_pos rfl]
  | listeningOver env now =>
    have hnone := launches_listeningOver hs env now k (c.turn.onListeningOver env).eventBound
    constructor
    · intro h
      have h : tu ∈ launches (((c.turn.onListeningOver env).drain env now
        (c.turn.onListeningOver env).eventBound).journal.commands k) := h
      rw [hnone] at h
      exact absurd h List.not_mem_nil
    · rintro ⟨_, _, _, _, ⟨⟩, -⟩
  | openSession | closeSession | setDomain =>
    rw [journal_perform_of_untimed rfl]
    constructor
    · exact fun h => absurd h List.not_mem_nil
    · rintro ⟨_, _, _, _, ⟨⟩, -⟩

end Controller

end Hotspot

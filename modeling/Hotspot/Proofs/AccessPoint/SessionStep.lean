import Hotspot.Proofs.AccessPoint.Ledger
import Hotspot.Proofs.AccessPoint.Settle

/-!
What one step makes of a session, what the layer below is told meanwhile, and which events are left
to do. Every answer to an event follows these rules.
-/

set_option autoImplicit false
set_option relaxedAutoImplicit false

namespace Hotspot

def Event.settles : Event → Phase → Bool
  | .selectionFailed, .selecting => true
  | .startFailure _, .starting => true
  | .changeRequest _, .disconnecting => true
  | .networkStopped, .disconnecting => true
  | _, _ => false

namespace Session

def rested (s : Session) : Session :=
  { s.clear with phase := .disconnected, controlOpen := false }

def closing (s : Session) (accepted : Bool) : List (Command × Bool) :=
  if s.controlOpen then [(.closeControl, accepted)] else []

def opening (s : Session) (accepted : Bool) : List (Command × Bool) :=
  if s.controlOpen then [] else [(.openControl, accepted)]

/-- What is told when a start fails at once: the control session is asked for, the network may be
refused, and a control session that is there is given up. -/
def FailsAtOnce (s : Session) (cs : List (Command × Bool)) : Prop :=
  ∃ control refused ok, (s.controlOpen = true → control = true) ∧
    (∀ p ∈ refused, ∃ parameters, p = (Command.startNetwork parameters, false)) ∧
    cs = s.opening control ++ (refused ++ ({ s with controlOpen := control } : Session).closing ok)

def tuned (s : Session) (tu : Tuning) : Session :=
  { s with controlOpen := true, ceiling := some s.widest, tuning := some tu }

def SettlesWidth (s : Session) (w : Option Width) : Prop :=
  w = s.ceiling ∨ w = some s.widest

/-- A closing event brings a session to rest or makes it move or stop, unless its phase does not
know the event. -/
inductive Concludes : Event → Session → Session → List (Command × Bool) → List Event → Prop
  | ignore (e : Event) (s : Session) (unknown : e.settles s.phase = false) : Concludes e s s [] []
  | rest (e : Event) (s : Session) (ok : Bool) (known : e.settles s.phase = true) :
      Concludes e s s.rested (s.closing ok) []
  | move (target : Tuning) (s : Session) (leaving : s.phase = .disconnecting) :
      Concludes (.changeRequest target) s s [(.changeChannel target, true)] []
  | abandon (target : Tuning) (s : Session) (ok : Bool) (leaving : s.phase = .disconnecting) :
      Concludes (.changeRequest target) s { s with target := none, phase := .disconnecting }
        [(.changeChannel target, false), (.stopNetwork, ok)] (Event.networkStopped.ifRefused ok)

/-- A session is about to listen or to send on a tuning: a start on it was asked for and taken, its
network was started, or it has moved there. -/
inductive Readies (tu : Tuning) : Session → Session → List (Command × Bool) → Prop
  | tuned (s : Session) (cs : List (Command × Bool)) (parameters : StartParameters)
      (off : s.phase = .disconnected) (opened : cs = s.opening true) :
      Readies tu s (s.tuned tu) (cs ++ [(.startNetwork parameters, true)])
  | started (s : Session) (on : s.phase = .starting) (tuned : s.tuning = some tu) :
      Readies tu s s []
  | arrived (s : Session) (on : s.phase = .disconnecting) :
      Readies tu s (Turn.arrive tu { s with phase := .starting }) []

/-- A session flees from radar: it stops, leaves for a place that suits it, or tells its stations of
one. -/
inductive Flees : Session → Session → List (Command × Bool) → List Event → Prop
  | stop (s : Session) (w : Option Width) (ok : Bool) (width : s.SettlesWidth w) :
      Flees s { s with ceiling := w, phase := .disconnecting } [(.stopNetwork, ok)]
        (Event.networkStopped.ifRefused ok)
  | leave (s : Session) (w : Option Width) (target : Tuning) (cs : List (Command × Bool))
      (width : s.SettlesWidth w) (told : ∀ c ∈ cs, c = (.announceSwitch target, false)) :
      Flees s { s with ceiling := w, target := some target, phase := .disconnecting } cs
        [.changeRequest target]
  | announce (s : Session) (w : Option Width) (target : Tuning) (on : s.phase = .started)
      (width : s.SettlesWidth w) (suits : Turn.suits s target = true) :
      Flees s { s with ceiling := w, target := some target } [(.announceSwitch target, true)] []

inductive WaitOver : Session → Session → List (Command × Bool) → List Event → Prop
  | send (s : Session) :
      WaitOver s { s with listeningEndAnnounced := true, phase := .started } [(.startBeacon, true)]
        []
  | stop (s : Session) (ok : Bool) :
      WaitOver s { s with listeningEndAnnounced := true, phase := .disconnecting }
        [(.startBeacon, false), (.stopNetwork, ok)] (Event.networkStopped.ifRefused ok)

inductive SessionStep : Session → Session → List (Command × Bool) → List Event → Prop
  | ignore (s : Session) : SessionStep s s [] []
  | conclude (e : Event) (s s' : Session) (cs : List (Command × Bool)) (es : List Event)
      (concludes : Concludes e s s' cs es) : SessionStep s s' cs es
  /-- A start that is asked for fails at once. -/
  | failAtOnce (s : Session) (w : Option Width) (cs : List (Command × Bool))
      (off : s.phase = .disconnected) (width : s.SettlesWidth w) (failsAtOnce : s.FailsAtOnce cs) :
      SessionStep s { s.rested with ceiling := w } cs []
  /-- A start under way is stopped. -/
  | quit (s : Session) (ok : Bool) (starts : s.phase = .selecting ∨ s.phase = .starting) :
      SessionStep s s.rested (s.closing ok) []
  | scan (s : Session) (cs : List (Command × Bool)) (channels : List (Channel × ScanKind))
      (ok : Bool) (off : s.phase = .disconnected) (opened : cs = s.opening true) :
      SessionStep s { s with controlOpen := true, phase := .selecting }
        (cs ++ [(.scan channels, ok)]) (Event.selectionFailed.ifRefused ok)
  | launch (s : Session) (cs : List (Command × Bool)) (control : Bool)
      (parameters : StartParameters) (ok : Bool)
      (starts : s.phase = .disconnected ∨ s.phase = .selecting)
      (opened : s.phase = .disconnected ∧ control = true ∧ cs = s.opening true ∨
        s.phase = .selecting ∧ control = s.controlOpen ∧ cs = []) :
      SessionStep s { s with
          controlOpen := control, ceiling := some s.widest, tuning := some parameters.tuning,
          phase := .starting }
        (cs ++ [(.startNetwork parameters, ok)]) ((Event.startFailure 1).ifRefused ok)
  /-- The scan has failed, or no channel was found. -/
  | miss (s : Session) (w : Option Width) (selects : s.phase = .selecting)
      (width : s.SettlesWidth w) : SessionStep s { s with ceiling := w } [] [.selectionFailed]
  | listen (tu : Tuning) (s s₀ : Session) (cs : List (Command × Bool))
      (readies : Readies tu s s₀ cs) :
      SessionStep s { s₀ with phase := .listening, listeningAnnounced := true } cs []
  /-- The run of listening that is under way does not cover the tuning. -/
  | refuse (tu : Tuning) (s s₀ : Session) (cs : List (Command × Bool)) (ok : Bool)
      (readies : Readies tu s s₀ cs) :
      SessionStep s { s₀ with phase := .disconnecting } (cs ++ [(.stopNetwork, ok)])
        (Event.networkStopped.ifRefused ok)
  | start (tu : Tuning) (s s₀ : Session) (cs : List (Command × Bool))
      (readies : Readies tu s s₀ cs) : SessionStep s { s₀ with phase := .started } cs []
  | confirm (s : Session) (tu : Tuning) (starts : s.phase = .starting) :
      SessionStep s { s with tuning := some tu } [] []
  | stop (s : Session) (ok : Bool) (on : s.phase = .listening ∨ s.phase = .started) :
      SessionStep s { s with phase := .disconnecting } [(.stopNetwork, ok)]
        (Event.networkStopped.ifRefused ok)
  /-- Stations know of the switch. -/
  | depart (s : Session) (target : Tuning) (on : s.phase = .started) :
      SessionStep s { s with phase := .disconnecting } [] [.changeRequest target]
  | associate (s : Session) (stations : List Station) (on : s.phase = .started) :
      SessionStep s { s with stations } [] []
  | flee (s s' : Session) (cs : List (Command × Bool)) (es : List Event)
      (on : s.phase = .listening ∨ s.phase = .started) (flees : Flees s s' cs es) :
      SessionStep s s' cs es
  | awaken (s s' : Session) (cs : List (Command × Bool)) (es : List Event)
      (on : s.phase = .listening) (waitOver : WaitOver s s' cs es) : SessionStep s s' cs es

end Session

namespace Turn

open Session (Concludes Readies SessionStep)

variable {env : Surroundings} {now : Instant} {t t' t₁ : Turn} {s s₀ : Session}
  {id : SessionId} {e : Event} {tu : Tuning} {cs : List (Command × Bool)}

theorem posts_beginStop (env : Surroundings) (now : Instant) (hs : t.session? id = some s) :
    ∃ ok, Posts now id { s with phase := .disconnecting } [(.stopNetwork, ok)]
      (Event.networkStopped.ifRefused ok) t (t.beginStop env id) := by
  have henter := posts_enter now hs .disconnecting
  obtain ⟨ok, hstop⟩ := posts_commandElse env now henter.session (c := .stopNetwork)
    .networkStopped nofun
  exact ⟨ok, henter.trans hstop⟩

private theorem posts_closeControl (env : Surroundings) (now : Instant)
    (hs : t.session? s.id = some s) :
    ∃ ok, Posts now s.id { s with controlOpen := false } (s.closing ok) [] t
      (t.closeControl env s) := by
  unfold closeControl Session.closing
  split
  · have hclosed := posts_modify now hs (f := fun s => { s with controlOpen := false })
      fun _ => rfl
    obtain ⟨ok, hc⟩ := exists_command_eq env
      (t.modify s.id fun s => { s with controlOpen := false }) s.id .closeControl
    rw [hc]
    exact ⟨ok, hclosed.trans (posts_told now hclosed.session ok nofun)⟩
  · rename_i hopen
    have hsame : { s with controlOpen := false } = s := by
      rw [← Bool.eq_false_iff.mpr hopen]
    rw [hsame]
    exact ⟨true, .of_ledger_eq hs rfl (.refl now t)⟩

private theorem posts_rest (env : Surroundings) (now : Instant) (hs : t.session? s.id = some s) :
    ∃ ok, Posts now s.id s.rested (s.closing ok) [] t (t.rest env s) := by
  obtain ⟨ok, hclosed⟩ := posts_closeControl env now hs
  refine ⟨ok, ?_⟩
  have hreleased : Posts now s.id { s with controlOpen := false } (s.closing ok) [] t
      ((t.closeControl env s).releaseCleared s) := by
    refine hclosed.before rfl ?_
    unfold releaseCleared
    exact keepsUsable_share ⟨rfl, fun h => h, fun _ => .refl now _⟩
  have hcleared := hreleased.andThen
    (posts_modify now hreleased.session (f := Session.clear) fun _ => rfl)
  exact hcleared.andThen (posts_enter now hcleared.session .disconnected)

theorem posts_failStart (env : Surroundings) (now : Instant) (hs : t.session? s.id = some s) :
    ∃ ok, Posts now s.id s.rested (s.closing ok) [] t (t.failStart env s) := by
  have htold := posts_notify now hs s.id
    (.startComplete .failure s.settings.address s.tuning)
  obtain ⟨ok, hrest⟩ := posts_rest env now htold.session
  exact ⟨ok, htold.trans hrest⟩

private theorem posts_finishStop (env : Surroundings) (now : Instant)
    (hs : t.session? s.id = some s) :
    ∃ ok, Posts now s.id s.rested (s.closing ok) [] t (t.finishStop env s) := by
  obtain ⟨ok, hrest⟩ := posts_rest env now hs
  exact ⟨ok, hrest.andThen (posts_notify now hrest.session s.id (.stopComplete .success))⟩

theorem posts_beginStart (env : Surroundings) (hs : t.session? s.id = some s₀)
    (hfit : t.airspace.Suits now tu) :
    ∃ ok, Posts now s.id { s₀ with tuning := some tu, phase := .starting }
      [(.startNetwork (t.startParameters s tu), ok)] ((Event.startFailure 1).ifRefused ok) t
      (t.beginStart env s tu) := by
  have htuned := posts_modify now hs (f := fun s => { s with tuning := some tu })
    fun _ => rfl
  have hstarts := htuned.trans (posts_enter now htuned.session .starting)
  obtain ⟨ok, htold⟩ := posts_commandElse env now hstarts.session
    (c := .startNetwork (t.startParameters s tu)) (.startFailure 1) (fun _ h => by
      cases h
      exact hfit.onlyLooks hstarts.keepsUsable.onlyLooks)
  exact ⟨ok, hstarts.trans htold⟩

private theorem posts_awaitListening (now : Instant) (hs : t.session? id = some s) (tu : Tuning)
    (d : Duration) :
    Posts now id { s with phase := .listening, listeningAnnounced := true } [] [] t
      (t.awaitListening id tu d) := by
  have henter := posts_enter now hs .listening
  unfold awaitListening
  dsimp only
  rw [henter.session]
  split
  · have hannounced := henter.trans (posts_modify now henter.session
      (f := fun s => { s with listeningAnnounced := true }) fun _ => rfl)
    exact hannounced.trans (posts_notify now hannounced.session id _)
  · rename_i hannounced
    have hsame : { s with phase := .listening, listeningAnnounced := true } =
        { s with phase := .listening } := by
      simp only [Option.any_some, Bool.not_eq_true', Bool.not_eq_false] at hannounced
      rw [← hannounced]
    rw [hsame]
    exact henter

theorem posts_beginListening (env : Surroundings) (now : Instant)
    (hs : t.session? s.id = some s₀) (tu : Tuning) :
    Posts now s.id { s₀ with phase := .listening, listeningAnnounced := true } [] [] t
        (t.beginListening env s tu now) ∨
      ∃ ok, Posts now s.id { s₀ with phase := .disconnecting } [(.stopNetwork, ok)]
        (Event.networkStopped.ifRefused ok) t (t.beginListening env s tu now) := by
  unfold beginListening
  split
  · rename_i run hrun
    split
    · exact .inl (posts_awaitListening now hs tu run.duration)
    · have htold := posts_notify now hs s.id
        (.startComplete .failure s.settings.address (some tu))
      obtain ⟨ok, hstop⟩ := posts_beginStop env now htold.session
      exact .inr ⟨ok, htold.trans hstop⟩
  · let d := t.airspace.table.listening tu.channels
    have harmed : Posts now s.id s₀ [] [] t (t.arm d) := posts_record hs (fun _ => rfl) rfl
    have hbegun : Posts now s.id s₀ [] [] t ((t.arm d).share fun a =>
        { a with run := some ⟨tu.channel, tu.channels, d, now⟩ }) :=
      harmed.before rfl (keepsUsable_share ⟨rfl, fun h => h, fun _ => .refl now _⟩)
    exact .inl (hbegun.trans (posts_awaitListening now hbegun.session tu d))

theorem posts_markStarted (now : Instant) (hs : t.session? s.id = some s₀) :
    Posts now s.id { s₀ with phase := .started } [] [] t (t.markStarted s) := by
  have henter := posts_enter now hs .started
  exact henter.trans (posts_notify now henter.session s.id _)

private theorem sessionStep_beginListening (env : Surroundings) (hready : Readies tu s s₀ cs)
    (hid : s₀.id = s.id) (hposts : Posts now s.id s₀ cs [] t t₁) :
    Follows SessionStep now s.id s t (t₁.beginListening env s₀ tu now) := by
  rw [← hid] at hposts ⊢
  rcases posts_beginListening env now hposts.session tu with hlisten | ⟨ok, hrefuse⟩
  · exact ⟨_, _, _, .listen tu s s₀ cs hready, hposts.andThen hlisten⟩
  · exact ⟨_, _, _, .refuse tu s s₀ cs ok hready, hposts.trans hrefuse⟩

theorem posts_openControl (env : Surroundings) (now : Instant) (hs : t.session? s.id = some s) :
    (s.controlOpen = true → (t.openControl env s).1 = true) ∧
      Posts now s.id { s with controlOpen := (t.openControl env s).1 }
        (s.opening (t.openControl env s).1) [] t (t.openControl env s).2 := by
  unfold openControl Session.opening
  by_cases hopen : s.controlOpen = true
  · have hsame : { s with controlOpen := true } = s := by rw [← hopen]
    rw [if_pos hopen, if_pos hopen]
    dsimp only
    rw [hsame]
    exact ⟨fun _ => rfl, .of_ledger_eq hs rfl (.refl now t)⟩
  · obtain ⟨ok, hc⟩ := exists_command_eq env t s.id .openControl
    have htold := posts_told now hs (c := .openControl) ok nofun
    rw [if_neg hopen, if_neg hopen, hc]
    refine ⟨fun h => absurd h hopen, ?_⟩
    cases ok with
    | false =>
      have hsame : { s with controlOpen := false } = s := by
        rw [← Bool.eq_false_iff.mpr hopen]
      dsimp only
      rw [hsame]
      exact htold
    | true =>
      exact htold.trans (posts_modify now htold.session
        (f := fun s => { s with controlOpen := true }) fun _ => rfl)

theorem ensureTable_seeds (env : Surroundings) (t : Turn) (id : SessionId) (now : Instant) :
    KeepsUsable now t (t.ensureTable env id now).2 ∧ (t.ensureTable env id now).2.ledger =
      t.ledger ∧ ((t.ensureTable env id now).1 = true →
        (t.ensureTable env id now).2.airspace.seeded = true) := by
  unfold ensureTable
  split
  · rename_i hd
    exact ⟨.refl now t, rfl, fun _ => hd⟩
  · rename_i hd
    split
    · exact ⟨.refl now t, rfl, nofun⟩
    · rename_i table _
      have hasked : KeepsUsable now t (t.notify id .listWanted) := keepsUsable_record nofun
      have hl : (t.notify id .listWanted).ledger = t.ledger := ledger_record fun _ => rfl
      have hseeded :
        KeepsUsable now (t.notify id .listWanted) ((t.notify id .listWanted).share fun a =>
          { a with table := table.seed now env.kept, seeded := true }) :=
        keepsUsable_share ⟨rfl, fun _ => rfl, fun h => absurd h hd⟩
      exact ⟨hasked.trans hseeded, hl, fun _ => rfl⟩

theorem posts_prepared (env : Surroundings) (now : Instant) (hs : t.session? s.id = some s)
    (next : Turn → Session → Turn) :
    ∃ t₁ control, (s.controlOpen = true → control = true) ∧
      Posts now s.id { s with controlOpen := control } (s.opening control) [] t t₁ ∧
      (t.prepared env s now next = t₁.failStart env { s with controlOpen := control } ∨
        control = true ∧ t₁.airspace.seeded = true ∧
          t.prepared env s now next = next t₁ { s with controlOpen := control }) := by
  obtain ⟨hkept, hopen⟩ := posts_openControl env now hs
  unfold prepared
  generalize t.openControl env s = opened at *
  obtain ⟨opened, t₁⟩ := opened
  dsimp only at *
  cases opened with
  | false => exact ⟨t₁, false, hkept, hopen, .inl rfl⟩
  | true =>
    obtain ⟨husable, hl, hseeded⟩ := ensureTable_seeds env t₁ s.id now
    generalize t₁.ensureTable env s.id now = built at *
    obtain ⟨built, t₂⟩ := built
    dsimp only at *
    cases built with
    | false => exact ⟨t₂, true, hkept, hopen.before hl husable, .inl rfl⟩
    | true => exact ⟨t₂, true, hkept, hopen.before hl husable, .inr ⟨rfl, hseeded rfl, rfl⟩⟩

private theorem sessionStep_failStart (env : Surroundings) (hoff : s.phase = .disconnected)
    {control : Bool} (hkept : s.controlOpen = true → control = true)
    (hposts : Posts now s.id { s with controlOpen := control } (s.opening control) [] t t₁) :
    Follows SessionStep now s.id s t (t₁.failStart env { s with controlOpen := control }) := by
  obtain ⟨ok, hfail⟩ := posts_failStart (s := { s with controlOpen := control }) env now
    hposts.session
  have hfails : s.FailsAtOnce (s.opening control ++
      ({ s with controlOpen := control } : Session).closing ok) :=
    ⟨control, [], ok, hkept, by simp, rfl⟩
  exact ⟨_, _, _, .failAtOnce s s.ceiling _ hoff (.inl rfl) hfails, hposts.trans hfail⟩

private theorem sessionStep_onStartRequest (env : Surroundings) (now : Instant)
    (hs : t.session? s.id = some s) (hoff : s.phase = .disconnected) :
    Follows SessionStep now s.id s t (t.onStartRequest env s now) := by
  rw [onStartRequest_eq]
  obtain ⟨t₁, control, hkept, hready, heq | ⟨rfl, -, heq⟩⟩ := posts_prepared env now hs _
  all_goals rw [heq]
  · exact sessionStep_failStart env hoff hkept hready
  · have hselects := hready.andThen (posts_enter now hready.session .selecting)
    let channels := scanChannels (t₁.enter s.id .selecting).airspace.domain s.settings
    obtain ⟨ok, hscan⟩ := posts_commandElse env now hselects.session
      (c := .scan channels) .selectionFailed nofun
    exact ⟨_, _, _, .scan s _ channels ok hoff rfl, hselects.trans hscan⟩

private theorem sessionStep_startGiven (env : Surroundings) (hoff : s.phase = .disconnected)
    (hposts : Posts now s.id (s.tuned tu) (s.opening true) [] t t₁)
    (hsuits : t₁.airspace.Suits now tu) :
    Follows SessionStep now s.id s t (startGiven env tu now t₁ (s.tuned tu)) := by
  let parameters := t₁.startParameters (s.tuned tu) tu
  unfold startGiven
  split
  · obtain ⟨ok, hc⟩ := exists_command_eq env t₁ s.id (.startNetwork parameters)
    have htold := hposts.trans (posts_told now (c := .startNetwork parameters) hposts.session ok
      fun _ h => by cases h; exact hsuits)
    have hcommand : t₁.command env (s.tuned tu).id (.startNetwork parameters) = _ := hc
    rw [hcommand]
    cases ok with
    | false =>
      obtain ⟨ok', hfail⟩ := posts_failStart (s := s.tuned tu) env now htold.session
      have hfails : s.FailsAtOnce (s.opening true ++ [(.startNetwork parameters, false)] ++
          (s.tuned tu).closing ok') :=
        ⟨true, [(.startNetwork parameters, false)], ok', fun _ => rfl, by simp,
          List.append_assoc _ _ _⟩
      exact
        ⟨_, _, _, .failAtOnce s (some s.widest) _ hoff (.inr rfl) hfails, htold.trans hfail⟩
    | true => exact sessionStep_beginListening env (.tuned s _ parameters hoff rfl) rfl htold
  · obtain ⟨ok, hstart⟩ := posts_beginStart (s := s.tuned tu) env hposts.session hsuits
    exact ⟨_, _, _, .launch s _ true parameters ok (.inl hoff) (.inl ⟨hoff, rfl, rfl⟩),
      hposts.trans hstart⟩

private theorem sessionStep_tuneAndStart (env : Surroundings) (target : Tuning)
    (hoff : s.phase = .disconnected)
    (hready : Posts now s.id { s with controlOpen := true } (s.opening true) [] t t₁)
    (hseeded : t₁.airspace.seeded = true) :
    Follows SessionStep now s.id s t
      (tuneAndStart env target now t₁ { s with controlOpen := true }) := by
  obtain ⟨table, hv, heq, hfit⟩ := usable_cases t₁ target now
  have hlooked : Posts now s.id { s with controlOpen := true } (s.opening true) [] t
      (t₁.withTable table) := hready.before rfl (keepsUsable_withTable hv)
  unfold tuneAndStart
  generalize t₁.usable target now = found at *
  obtain ⟨usable, t₂⟩ := found
  dsimp only at heq hfit ⊢
  subst heq
  cases usable with
  | false =>
    exact sessionStep_failStart env hoff (fun _ => rfl)
      (hlooked.andThen (posts_notify now hlooked.session s.id .noChannel))
  | true =>
    have htuned : Posts now s.id (s.tuned target) (s.opening true) [] t
        ((t₁.withTable table).modify s.id fun s =>
          { s with ceiling := some s.widest, tuning := some target }) :=
      hlooked.andThen (posts_modify now hlooked.session
        (f := fun s => { s with ceiling := some s.widest, tuning := some target }) fun _ => rfl)
    exact sessionStep_startGiven env hoff htuned ⟨hseeded, hfit rfl⟩

private theorem sessionStep_onTunedStartRequest (env : Surroundings) (now : Instant)
    (target : Tuning) (hs : t.session? s.id = some s) (hoff : s.phase = .disconnected) :
    Follows SessionStep now s.id s t (t.onTunedStartRequest env s target now) := by
  rw [onTunedStartRequest_eq]
  obtain ⟨t₁, control, hkept, hready, heq | ⟨rfl, hseeded, heq⟩⟩ := posts_prepared env now hs _
  all_goals rw [heq]
  · exact sessionStep_failStart env hoff hkept hready
  · exact sessionStep_tuneAndStart env target hoff hready hseeded

private theorem sessionStep_onScanComplete (env : Surroundings) (now : Instant) (success : Bool)
    (hs : t.session? s.id = some s) (hp : s.phase = .selecting)
    (hseeded : t.airspace.seeded = true) :
    Follows SessionStep now s.id s t (t.onScanComplete env s success now) := by
  cases success with
  | false =>
    exact ⟨_, _, _, .miss s s.ceiling hp (.inl rfl), posts_enqueue hs .selectionFailed⟩
  | true =>
    have hwidth := posts_modify now hs
      (f := fun s => { s with ceiling := some s.widest }) fun _ => rfl
    rw [onScanComplete_eq]
    generalize (t.modify s.id fun s => { s with ceiling := some s.widest }) = m at *
    obtain ⟨hplaced, hfit⟩ := places_choose (s := s) env now hwidth.session rfl
    have hchosen := hwidth.andThen hplaced
    unfold settleOn
    split
    · rename_i tu htu
      have hsuits : (m.choose env s now).2.airspace.Suits now tu :=
        ⟨hchosen.keepsUsable.onlyLooks.seeded hseeded, hfit tu htu⟩
      obtain ⟨ok, hstart⟩ := posts_beginStart (s := s) env hchosen.session hsuits
      let parameters := (m.choose env s now).2.startParameters s tu
      exact ⟨_, _, _, .launch s [] s.controlOpen parameters ok (.inr hp) (.inr ⟨hp, rfl, rfl⟩),
        hchosen.trans hstart⟩
    · have htold := hchosen.andThen (posts_notify now hchosen.session s.id .noChannel)
      exact ⟨_, _, _, .miss s (some s.widest) hp (.inr rfl),
        htold.trans (posts_enqueue htold.session .selectionFailed)⟩

private theorem sessionStep_onStartSuccess (env : Surroundings) (now : Instant)
    (hs : t.session? s.id = some s) (hp : s.phase = .starting) :
    Follows SessionStep now s.id s t (t.onStartSuccess env s now) := by
  rcases onStartSuccess_cases env t s now with heq | ⟨tu, htu, ⟨-, heq⟩ | ⟨-, heq⟩⟩ <;> rw [heq]
  · obtain ⟨ok, hfail⟩ := posts_failStart env now hs
    exact ⟨_, _, _, .quit s ok (.inr hp), hfail⟩
  · have hready : Posts now s.id s [] [] t t := .of_ledger_eq hs rfl (.refl now t)
    exact sessionStep_beginListening env (.started s hp htu) rfl hready
  · exact ⟨_, _, _, .start tu s s [] (.started s hp htu), posts_markStarted now hs⟩

private theorem sessionStep_onListeningStop (env : Surroundings) (now : Instant)
    (hs : t.session? id = some s) (hp : s.phase = .listening) :
    Follows SessionStep now id s t (t.onListeningStop env id) := by
  unfold onListeningStop
  dsimp only
  split
  · have hended : KeepsUsable now t (t.share fun a => { a with run := none }) :=
      keepsUsable_share ⟨rfl, fun h => h, fun _ => .refl now _⟩
    have hquiet : Posts now id s [] [] t (t.share fun a => { a with run := none }) :=
      .of_ledger_eq hs rfl hended
    have hdisarmed := hquiet.andThen
      (posts_record hquiet.session (e := .disarmed) (fun _ => rfl) rfl)
    obtain ⟨ok, hstop⟩ := posts_beginStop env now hdisarmed.session
    exact ⟨_, _, _, .stop s ok (.inl hp), hdisarmed.trans hstop⟩
  · obtain ⟨ok, hstop⟩ := posts_beginStop env now hs
    exact ⟨_, _, _, .stop s ok (.inl hp), hstop⟩

private theorem sessionStep_onSwitchAnnounced (now : Instant) (hs : t.session? s.id = some s)
    (hp : s.phase = .started) :
    Follows SessionStep now s.id s t (t.onSwitchAnnounced s) := by
  unfold onSwitchAnnounced
  split
  · exact ⟨_, _, _, .ignore s, .of_ledger_eq hs rfl (.refl now t)⟩
  · rename_i target _
    have henter := posts_enter now hs .disconnecting
    exact ⟨_, _, _, .depart s target hp, henter.trans (posts_enqueue henter.session _)⟩

private theorem concludes_onChangeRequest (env : Surroundings) (now : Instant) (target : Tuning)
    (hs : t.session? id = some s) (hp : s.phase = .disconnecting) :
    Follows (Concludes (.changeRequest target)) now id s t (t.onChangeRequest env id target) := by
  obtain ⟨ok, heq⟩ := onChangeRequest_cases env t id target
  have htold := posts_told now hs (c := .changeChannel target) ok nofun
  rw [heq]
  cases ok with
  | true => exact ⟨_, _, _, .move target s hp, htold⟩
  | false =>
    have hdropped := htold.andThen
      (posts_modify now htold.session (f := fun s => { s with target := none }) fun _ => rfl)
    obtain ⟨ok, hstop⟩ := posts_beginStop env now hdropped.session
    exact ⟨_, _, _, .abandon target s ok hp, hdropped.trans hstop⟩

theorem sessionStep_react_of_arrives (env : Surroundings) (now : Instant)
    (hs : t.session? id = some s) (harr : Arrives s e) :
    Follows SessionStep now id s t (t.react env now id e) := by
  obtain ⟨hp, htg, tuning, rfl⟩ := harr
  have hid := Controller.id_of_session? hs
  subst hid
  obtain ⟨tg, hsome⟩ := Option.isSome_iff_exists.mp htg
  have hreact : t.react env now s.id (.channelChanged tuning) =
      (t.enter s.id .starting).onChannelChanged env { s with phase := .starting } tuning now := by
    rw [react, hs]
    simp [hp, htg]
  have hstarts := posts_enter now hs .starting
  have harrived := hstarts.andThen
    (posts_modify now hstarts.session (f := arrive tuning) fun _ => rfl)
  have htold := harrived.andThen
    (posts_notify now harrived.session s.id (.channelChanged tuning))
  have hready : Readies tuning s (arrive tuning { s with phase := .starting }) [] := .arrived s hp
  rw [hreact, onChannelChanged_of_target (s := { s with phase := .starting }) hsome]
  unfold goOn
  split
  · exact sessionStep_beginListening env hready rfl htold
  · exact ⟨_, _, _, .start tuning s _ [] hready,
      htold.andThen (posts_enter now htold.session .started)⟩

theorem concludes_handle (env : Surroundings) (now : Instant) (hs : t.session? id = some s)
    (he : e.isClosing = true) :
    Follows (Concludes e) now id s t (t.handle env now id e) := by
  have hid := Controller.id_of_session? hs
  subst hid
  have hsame : Posts now s.id s [] [] t t := .of_ledger_eq hs rfl (.refl now t)
  have hfail (hknown : e.settles s.phase = true) :
      Follows (Concludes e) now s.id s t (t.failStart env s) := by
    obtain ⟨ok, hrest⟩ := posts_failStart env now hs
    exact ⟨_, _, _, .rest e s ok hknown, hrest⟩
  rw [handle, hs]
  dsimp only
  cases e with
  | selectionFailed =>
    cases hp : s.phase with
    | selecting => exact hfail (by rw [hp]; rfl)
    | _ => exact ⟨_, _, _, .ignore _ s (by rw [hp]; rfl), hsame⟩
  | startFailure status =>
    cases hp : s.phase with
    | starting => exact hfail (by rw [hp]; rfl)
    | _ => exact ⟨_, _, _, .ignore _ s (by rw [hp]; rfl), hsame⟩
  | changeRequest target =>
    cases hp : s.phase with
    | disconnecting => exact concludes_onChangeRequest env now target hs hp
    | _ => exact ⟨_, _, _, .ignore _ s (by rw [hp]; rfl), hsame⟩
  | networkStopped =>
    cases hp : s.phase with
    | disconnecting =>
      obtain ⟨ok, hrest⟩ := posts_finishStop env now hs
      exact ⟨_, _, _, .rest _ s ok (by rw [hp]; rfl), hrest⟩
    | _ => exact ⟨_, _, _, .ignore _ s (by rw [hp]; rfl), hsame⟩
  | _ => cases he

theorem sessionStep_handle (env : Surroundings) (now : Instant) (hs : t.session? id = some s)
    (hproper : s.stance.Proper t.airspace) (hreport : s.reports? e = none)
    (hover : s.awaits e = false) (hstay : ¬ Arrives s e) :
    Follows SessionStep now id s t (t.handle env now id e) := by
  have hid := Controller.id_of_session? hs
  subst hid
  have hsame : Posts now s.id s [] [] t t := .of_ledger_eq hs rfl (.refl now t)
  have hanswer := answers_handle env now hs e
  generalize t.handle env now s.id e = t' at hanswer ⊢
  cases hanswer with
  | start hp => exact sessionStep_onStartRequest env now hs hp
  | tunedStart target hp => exact sessionStep_onTunedStartRequest env now target hs hp
  | scanned success found hp =>
    have hseeded := hproper.seeded (by simp [Session.stance, hp])
    exact sessionStep_onScanComplete env now success hs hp hseeded
  | fail e hp =>
    obtain ⟨ok, hfail⟩ := posts_failStart env now hs
    exact ⟨_, _, _, .quit s ok hp, hfail⟩
  | started hp => exact sessionStep_onStartSuccess env now hs hp
  | confirmed tuning hp =>
    have htarget : s.target = none :=
      hproper.target (by simp [Session.stance, hp]) (by simp [Session.stance, hp])
    rw [onChannelChanged, htarget]
    exact ⟨_, _, _, .confirm s tuning hp,
      posts_modify now hs (f := fun s => { s with tuning := some tuning }) fun _ => rfl⟩
  | ended hp => simp [Session.awaits, hp] at hover
  | radar channels hp => simp [Session.reports?, hp] at hreport
  | stopListening hp => exact sessionStep_onListeningStop env now hs hp
  | stop hp =>
    obtain ⟨ok, hstop⟩ := posts_beginStop env now hs
    exact ⟨_, _, _, .stop s ok (.inr hp), hstop⟩
  | announced hp => exact sessionStep_onSwitchAnnounced now hs hp
  | joined address number elements hp =>
    have hjoined := posts_modify now hs (f := fun s =>
      { s with stations := Station.insert address number s.stations }) fun _ => rfl
    exact ⟨_, _, _, .associate s _ hp, hjoined.andThen (posts_notify now hjoined.session s.id _)⟩
  | left address reason hp =>
    have hleft := posts_modify now hs (f := fun s =>
      { s with stations := s.stations.filter fun st => st.1 != address }) fun _ => rfl
    exact ⟨_, _, _, .associate s _ hp, hleft.andThen (posts_notify now hleft.session s.id _)⟩
  | change target hp =>
    obtain ⟨s', cs, es, hconcludes, hposts⟩ := concludes_onChangeRequest env now target hs hp
    exact ⟨s', cs, es, .conclude _ s s' cs es hconcludes, hposts⟩
  | arrived tuning hp htg => exact absurd ⟨hp, htg, tuning, rfl⟩ hstay
  | stopped hp =>
    obtain ⟨ok, hrest⟩ := posts_finishStop env now hs
    exact ⟨_, _, _, .conclude .networkStopped s _ _ _ (.rest _ s ok (by rw [hp]; rfl)), hrest⟩
  | ignored => exact ⟨_, _, _, .ignore s, hsame⟩

theorem sessionStep_react (env : Surroundings) (now : Instant) (hs : t.session? id = some s)
    (hproper : s.stance.Proper t.airspace) (hreport : s.reports? e = none)
    (hover : s.awaits e = false) :
    Follows SessionStep now id s t (t.react env now id e) := by
  by_cases harr : Arrives s e
  · exact sessionStep_react_of_arrives env now hs harr
  · rw [react_of_not_arrives hs harr]
    exact sessionStep_handle env now hs hproper hreport hover harr

end Turn

end Hotspot

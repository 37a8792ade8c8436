import Hotspot.Proofs.AccessPoint.Agreement

/-!
What is scanned before a start. A session that looks for a channel in its range scans channels of
the domain. A session that is bound to a channel scans that channel, whatever the domain: it was one
of the domain when the session was opened, but the domain may be left while sessions are open.
-/

set_option autoImplicit false
set_option relaxedAutoImplicit false

namespace Hotspot

def SessionSettings.BoundOutside (s : SessionSettings) (d : Domain) : Prop :=
  ∃ ch, s.channel = .fixed ch ∧ d.contains ch = false

theorem SessionSettings.channelFault?_of_validate {s : SessionSettings} {d : Domain}
    (h : s.validate d = .ok ()) : s.channelFault? d = none := by
  cases hf : s.channelFault? d with
  | none => rfl
  | some fault =>
    unfold validate at h
    rw [hf] at h
    grind

private theorem SessionSettings.not_boundOutside_of_validate {s : SessionSettings} {d : Domain}
    (h : s.validate d = .ok ()) : ¬ s.BoundOutside d := by
  rintro ⟨ch, hch, hout⟩
  have hnone := channelFault?_of_validate h
  simp [channelFault?, hch, hout] at hnone

namespace Turn

variable {d : Domain} {s : SessionSettings} {p : Channel × ScanKind}

private theorem kind_of_mem_scanChannels (h : p ∈ scanChannels d s) :
    p.2 = .passive ↔ d.isRadar p.1 = true := by
  obtain ⟨ch, -, rfl⟩ := List.mem_map.mp h
  cases d.isRadar ch <;> simp

private theorem contains_of_mem_scanChannels (hs : ¬ s.BoundOutside d) (h : p ∈ scanChannels d s) :
    d.contains p.1 = true := by
  obtain ⟨ch, hch, rfl⟩ := List.mem_map.mp h
  cases hc : s.channel with
  | fixed c =>
    rw [hc] at hch
    obtain rfl := List.mem_singleton.mp hch
    by_contra hout
    exact hs ⟨ch, hc, Bool.eq_false_iff.mpr hout⟩
  | auto =>
    rw [hc] at hch
    exact Domain.contains_of_mem (List.mem_filter.mp hch).1

private theorem exists_mem_scanChannels (h : s.BoundOutside d) :
    ∃ p ∈ scanChannels d s, p.2 = .active ∧ d.contains p.1 = false := by
  obtain ⟨ch, hch, hout⟩ := h
  have hradar : d.isRadar ch = false := by
    have hnone : d.allowance? ch = none := by simpa [Domain.contains] using hout
    simp [Domain.isRadar, hnone]
  refine ⟨(ch, .active), ?_, rfl, hout⟩
  simp [scanChannels, hch, hradar]

end Turn

def Command.scans? : Command → Option (List (Channel × ScanKind))
  | .scan channels => some channels
  | _ => none

def scanCommands (cs : List (Command × Bool)) : List (List (Channel × ScanKind)) :=
  cs.filterMap fun c => c.1.scans?

private theorem scanCommands_append (cs cs' : List (Command × Bool)) :
    scanCommands (cs ++ cs') = scanCommands cs ++ scanCommands cs' :=
  List.filterMap_append

private theorem mem_scanCommands {cs : List (Command × Bool)}
    {channels : List (Channel × ScanKind)} :
    channels ∈ scanCommands cs ↔ ∃ ok, (.scan channels, ok) ∈ cs := by
  unfold scanCommands
  rw [List.mem_filterMap]
  constructor
  · rintro ⟨⟨c, ok⟩, hc, hscans⟩
    cases c <;> cases hscans
    exact ⟨ok, hc⟩
  · rintro ⟨ok, hc⟩
    exact ⟨_, hc, rfl⟩

private theorem Session.scanCommands_opening (s : Session) (ok : Bool) :
    scanCommands (s.opening ok) = [] := by
  unfold opening
  split <;> rfl

private theorem Session.scanCommands_closing (s : Session) (ok : Bool) :
    scanCommands (s.closing ok) = [] := by
  unfold closing
  split <;> rfl

private theorem Session.Concludes.scanCommands_eq {e : Event} {s s' : Session}
    {cs : List (Command × Bool)}
    {es : List Event} (h : Concludes e s s' cs es) : scanCommands cs = [] := by
  cases h with
  | rest e s ok => exact s.scanCommands_closing ok
  | ignore | move | abandon => rfl

namespace Turn

variable {env : Surroundings} {now : Instant} {t : Turn} {s : Session} {id : SessionId}

theorem openControl_fst (env : Surroundings) (t : Turn) (s : Session) :
    (t.openControl env s).1 = (s.controlOpen || env.accepts t.journal s.id .openControl) := by
  unfold openControl
  split
  · rename_i hopen
    rw [hopen, Bool.true_or]
  · rename_i hopen
    rw [Bool.eq_false_iff.mpr hopen, Bool.false_or]
    rfl

private theorem scanCommands_onStartRequest (env : Surroundings) (now : Instant)
    (hs : t.session? s.id = some s) (hv : t.airspace.domain.validate = .ok ()) :
    ∃ s' cs es, Posts now s.id s' cs es t (t.onStartRequest env s now) ∧
      scanCommands cs = if s.controlOpen || env.accepts t.journal s.id .openControl
        then [scanChannels t.airspace.domain s.settings] else [] := by
  obtain ⟨-, hopen⟩ := posts_openControl env now hs
  rw [onStartRequest_eq, ← openControl_fst]
  unfold prepared
  generalize t.openControl env s = opened at *
  obtain ⟨opened, t₁⟩ := opened
  dsimp only at *
  cases opened with
  | false =>
    obtain ⟨ok, hfail⟩ := posts_failStart (s := { s with controlOpen := false }) env now
      hopen.session
    refine ⟨_, _, _, hopen.trans hfail, ?_⟩
    rw [scanCommands_append, Session.scanCommands_opening, Session.scanCommands_closing]
    rfl
  | true =>
    have hdomain : t₁.airspace.domain = t.airspace.domain := hopen.keepsUsable.onlyLooks.domain
    have hbuilt := ensureTable_fst (hdomain ▸ hv) env s.id now
    obtain ⟨husable, hledger, -⟩ := ensureTable_seeds env t₁ s.id now
    generalize t₁.ensureTable env s.id now = built at *
    obtain ⟨built, t₂⟩ := built
    dsimp only at *
    subst hbuilt
    have hready := hopen.before hledger husable
    have hselects := hready.andThen (posts_enter now hready.session .selecting)
    obtain ⟨ok, hscan⟩ := posts_commandElse env now hselects.session
      (c := .scan (scanChannels (t₂.enter s.id .selecting).airspace.domain s.settings))
      .selectionFailed nofun
    refine ⟨_, _, _, hselects.trans hscan, ?_⟩
    rw [scanCommands_append, Session.scanCommands_opening, hselects.keepsUsable.onlyLooks.domain]
    rfl

private theorem handle_startRequest (env : Surroundings) (now : Instant)
    (hs : t.session? id = some s)
    (hoff : s.phase ≠ .disconnected) : t.handle env now id .startRequest = t := by
  rw [handle, hs]
  dsimp only
  cases hp : s.phase with
  | disconnected => exact absurd hp hoff
  | _ => rfl

end Turn

namespace Session

variable {tu : Tuning} {e : Event} {s s' : Session} {cs : List (Command × Bool)} {es : List Event}

private theorem Concludes.settings (h : Concludes e s s' cs es) : s'.settings = s.settings := by
  cases h <;> rfl

private theorem Readies.settings (h : Readies tu s s' cs) : s'.settings = s.settings := by
  cases h <;> rfl

private theorem SessionStep.settings (h : SessionStep s s' cs es) : s'.settings = s.settings := by
  cases h with
  | conclude e _ _ _ _ concludes => exact concludes.settings
  | listen tu _ _ _ readies | refuse tu _ _ _ _ readies | start tu _ _ _ readies =>
    exact readies.settings
  | flee _ _ _ _ on flees => cases flees <;> rfl
  | awaken _ _ _ _ on waitOver => cases waitOver <;> rfl
  | _ => rfl

end Session

namespace Controller

variable {c : Controller} {env : Surroundings} {now : Instant} {s s' : Session} {id : SessionId}
  {op : Operation}

private theorem endures_settings (c : Controller) :
    Turn.Endures fun id l => ∀ s', l.session = some s' →
      ∃ s, c.session? id = some s ∧ s'.settings = s.settings := by
  constructor
  · intro id cs e es _ s' hs'
    cases hs'
  · intro id s₁ s₂ cs cs' e es es' hbefore hconcludes s' hs'
    cases hs'
    obtain ⟨s, hs, hsame⟩ := hbefore s₁ rfl
    exact ⟨s, hs, hconcludes.settings.trans hsame⟩

private theorem validate_of_openSession {settings : SessionSettings}
    {result : SessionId × Controller} (h : c.openSession settings = .ok result) :
    settings.validate c.airspace.domain = .ok () := by
  unfold openSession at h
  by_cases hfull : c.settings.maxSessions ≤ c.sessions.length
  · rw [if_pos hfull] at h
    cases h
  · rw [if_neg hfull] at h
    cases hv : settings.validate c.airspace.domain with
    | ok _ => rfl
    | error fault =>
      rw [hv] at h
      cases h

private theorem validate_of_new (htime : op.now? = none) (hnone : c.session? id = none)
    (h : (c.perform op).1.session? id = some s') :
    (c.perform op).1.airspace = c.airspace ∧ s'.settings.validate c.airspace.domain = .ok () := by
  cases op with
  | dispatch | listeningOver => cases htime
  | openSession settings =>
    cases hopen : c.openSession settings with
    | error fault =>
      simp only [perform, hopen] at h
      cases hnone.symm.trans h
    | ok result =>
      have hvalid := validate_of_openSession hopen
      obtain ⟨new, c'⟩ := result
      obtain ⟨hnew, rfl⟩ := openSession_eq hopen
      have hfresh : ∀ o ∈ c.sessions, o.id ≠ (Session.fresh new settings).id := hnew
      simp only [perform, hopen, session?, find?_insert hfresh] at h ⊢
      split at h
      · cases h
        exact ⟨trivial, hvalid⟩
      · cases hnone.symm.trans h
  | closeSession closed =>
    cases hclose : c.closeSession closed with
    | error fault =>
      simp only [perform, hclose] at h
      cases hnone.symm.trans h
    | ok c' =>
      obtain ⟨-, rfl⟩ := closeSession_eq hclose
      simp only [perform, hclose, session?, find?_filter_ne] at h
      split at h
      · cases h
      · cases hnone.symm.trans h
  | setDomain domain =>
    cases hset : c.setDomain domain with
    | error fault =>
      simp only [perform, hset] at h
      cases hnone.symm.trans h
    | ok c' =>
      obtain ⟨-, table, -, rfl⟩ := setDomain_eq hset
      simp only [perform, hset, session?] at h
      cases hnone.symm.trans h

theorem settings_perform (hs : c.Sound) (h : (c.perform op).1.session? id = some s') :
    (∃ s, c.session? id = some s ∧ s'.settings = s.settings) ∨
      (c.perform op).1.airspace = c.airspace ∧ s'.settings.validate c.airspace.domain = .ok () := by
  cases htime : op.now? with
  | some now =>
    left
    have hkept := endures_perform (endures_settings c) hs (fun _ s h => ⟨s, h, rfl⟩)
      (fun s _ _ _ hopen hstep s' hs' =>
        ⟨s, hopen, by cases hs'; exact hstep.settings⟩)
      htime id
    exact hkept s' h
  | none =>
    rcases session?_untimed_cases (c := c) htime id with hsame | ⟨hnone, -⟩ | ⟨-, hgone⟩
    · exact .inl ⟨s', hsame ▸ h, rfl⟩
    · exact .inr (validate_of_new htime hnone h)
    · cases hgone.symm.trans h

private theorem domain_cases (hs : c.Sound) (op : Operation) :
    (c.perform op).1.airspace.domain = c.airspace.domain ∨
      op = .setDomain (c.perform op).1.airspace.domain := by
  cases htime : op.now? with
  | some now => exact .inl (domain_perform hs htime)
  | none =>
    rcases airspace_perform_of_untimed (c := c) htime with hsame | ⟨domain, table, rfl, -, hair⟩
    · exact .inl (congrArg Airspace.domain hsame)
    · refine .inr ?_
      rw [hair]
      rfl

/-- The domain was changed under a session that is bound to a channel: the channel was one of the
domain, and is none of the new one. -/
structure RemovesBound (c : Controller) (done : List Operation) (domain : Domain) (id : SessionId)
    (settings : SessionSettings) : Prop where
  session : ∃ s, (c.after done).session? id = some s ∧ s.settings = settings
  before : ¬ settings.BoundOutside (c.after done).airspace.domain
  changed : (c.after (done ++ [.setDomain domain])).airspace.domain = domain
  after : settings.BoundOutside domain

private theorem exists_removesBound {settings : Settings} {domain : Domain}
    (h : create settings domain = .ok c)
    (ops : List Operation) (hsess : (c.after ops).session? id = some s)
    (houtside : s.settings.BoundOutside (c.after ops).airspace.domain) :
    ∃ done d, done ++ [.setDomain d] <+: ops ∧ c.RemovesBound done d id s.settings := by
  -- By induction on the run from its end: the last operation changed the domain under the session,
  -- or the channel was missing before.
  induction ops using List.reverseRecOn generalizing s with
  | nil =>
    obtain ⟨table, -, rfl⟩ := create_eq h
    cases hsess
  | append_singleton ops op ih =>
    have hs : (c.after ops).Sound := sound_after (sound_create h) ops
    rw [after_concat] at hsess houtside
    rcases settings_perform hs hsess with ⟨s₀, hs₀, hsame⟩ | ⟨hair, hvalid⟩
    · rw [hsame] at houtside ⊢
      by_cases hbefore : s₀.settings.BoundOutside (c.after ops).airspace.domain
      · obtain ⟨done, d, hdone, hremoved⟩ := ih hs₀ hbefore
        exact ⟨done, d, hdone.trans (List.prefix_append ops [op]), hremoved⟩
      · rcases domain_cases hs op with hkept | hset
        · rw [hkept] at houtside
          exact absurd houtside hbefore
        · generalize hd : ((c.after ops).perform op).1.airspace.domain = d at hset houtside
          subst hset
          have hchanged : (c.after (ops ++ [.setDomain d])).airspace.domain = d := by
            rw [after_concat, hd]
          exact ⟨ops, d, List.prefix_rfl, ⟨s₀, hs₀, rfl⟩, hbefore, hchanged, houtside⟩
    · rw [hair] at houtside
      exact absurd houtside (SessionSettings.not_boundOutside_of_validate hvalid)

def scansOnStart (c : Controller) (env : Surroundings) (s : Session) :
    List (List (Channel × ScanKind)) :=
  if s.phase = .disconnected ∧ (s.controlOpen || env.accepts [] s.id .openControl) = true
    then [Turn.scanChannels c.airspace.domain s.settings] else []

private theorem endures_scanCommands (expected : SessionId → List (List (Channel × ScanKind))) :
    Turn.Endures fun k l => scanCommands l.commands = expected k := by
  constructor
  · exact fun h => h
  · intro k s s' cs cs' e es es' h hconcludes
    rw [scanCommands_append, hconcludes.scanCommands_eq, List.append_nil]
    exact h

private theorem scanCommands_react (hs : c.Sound) (hv : c.airspace.domain.validate = .ok ())
    (h : c.session? s.id = some s) (env : Surroundings) (now : Instant) (k : SessionId) :
    scanCommands ((c.turn.react env now s.id .startRequest).ledger k).commands =
      if k = s.id then c.scansOnStart env s else [] := by
  have hidle : scanCommands (c.turn.ledger k).commands = [] := by
    rw [ledger_turn hs]
    rfl
  rw [Turn.react_of_not_arrives (t := c.turn) h fun ⟨_, _, _, he⟩ => nomatch he]
  by_cases hoff : s.phase = .disconnected
  · have hhandle : c.turn.handle env now s.id .startRequest = c.turn.onStartRequest env s now := by
      rw [Turn.handle, h]
      simp [hoff]
    obtain ⟨s', cs, es, hposts, hcs⟩ := Turn.scanCommands_onStartRequest env now (t := c.turn) h hv
    rw [hhandle]
    by_cases hk : k = s.id
    · rw [if_pos hk, hk, hposts.own, scanCommands_append, ← hk, hidle, hcs, List.nil_append]
      simp [scansOnStart, hoff]
    · rw [if_neg hk, hposts.other hk, hidle]
  · rw [Turn.handle_startRequest env now (t := c.turn) h hoff, hidle]
    simp [scansOnStart, hoff]

theorem scanCommands_perform (hs : c.Sound) (hv : c.airspace.domain.validate = .ok ())
    (h : c.session? s.id = some s) (env : Surroundings) (now : Instant) (k : SessionId) :
    scanCommands ((c.perform (.dispatch env now s.id .startRequest)).2.commands k) =
      if k = s.id then c.scansOnStart env s else [] := by
  obtain ⟨n, hsettle, -⟩ := Turn.settle_enqueue env now .startRequest hs.queue h
  have hclosing := (closing_react hs h env now .startRequest).1
  have hdrained := (Turn.drain_endures env now (endures_scanCommands _) n hclosing
    (scanCommands_react hs hv h env now)).1 k
  rw [perform_dispatch h]
  dsimp only
  rw [hsettle]
  exact hdrained

/-- On a start of a session, the layer below is told to scan channels for some session. -/
def Scans (c : Controller) (env : Surroundings) (now : Instant) (id k : SessionId)
    (channels : List (Channel × ScanKind)) : Prop :=
  ∃ ok, .command k (.scan channels) ok ∈ (c.perform (.dispatch env now id .startRequest)).2

private theorem scans_iff (hs : c.Sound) (hv : c.airspace.domain.validate = .ok ()) {k : SessionId}
    {channels : List (Channel × ScanKind)} : c.Scans env now id k channels ↔
      k = id ∧ ∃ s, c.session? id = some s ∧ channels ∈ c.scansOnStart env s := by
  have hmem : c.Scans env now id k channels ↔
      channels ∈ scanCommands ((c.perform (.dispatch env now id .startRequest)).2.commands k) := by
    rw [mem_scanCommands]
    exact exists_congr fun _ => Journal.mem_commands.symm
  rw [hmem]
  cases hsess : c.session? id with
  | none => simp [perform_dispatch_of_none hsess, scanCommands]
  | some s =>
    obtain rfl := id_of_session? hsess
    rw [scanCommands_perform hs hv hsess]
    by_cases hk : k = s.id <;> simp [hk]

/-- A start of the session gets as far as a scan, and the session is bound to a channel that the
domain does not have. -/
def ScansOutside (c : Controller) (env : Surroundings) (id : SessionId) : Prop :=
  ∃ s, c.session? id = some s ∧ s.phase = .disconnected ∧
    (s.controlOpen || env.accepts [] s.id .openControl) = true ∧
    s.settings.BoundOutside c.airspace.domain

variable {k : SessionId} {channels : List (Channel × ScanKind)} {p : Channel × ScanKind}

private theorem mem_scansOnStart : channels ∈ c.scansOnStart env s ↔
    (s.phase = .disconnected ∧ (s.controlOpen || env.accepts [] s.id .openControl) = true) ∧
      channels = Turn.scanChannels c.airspace.domain s.settings := by
  unfold scansOnStart
  split
  · rename_i hgiven
    rw [and_iff_right hgiven, List.mem_singleton]
  · rename_i hnot
    exact ⟨fun h => absurd h List.not_mem_nil, fun h => absurd h.1 hnot⟩

private theorem kind_of_scans (hs : c.Sound) (hv : c.airspace.domain.validate = .ok ())
    (h : c.Scans env now id k channels) (hp : p ∈ channels) :
    p.2 = .passive ↔ c.airspace.domain.isRadar p.1 = true := by
  obtain ⟨-, s, -, hmem⟩ := (scans_iff hs hv).mp h
  obtain ⟨-, rfl⟩ := mem_scansOnStart.mp hmem
  exact Turn.kind_of_mem_scanChannels hp

private theorem contains_of_scans (hs : c.Sound) (hv : c.airspace.domain.validate = .ok ())
    (hscans : ¬ c.ScansOutside env id) (h : c.Scans env now id k channels)
    (hp : p ∈ channels) : c.airspace.domain.contains p.1 = true := by
  obtain ⟨-, s, hsess, hmem⟩ := (scans_iff hs hv).mp h
  obtain ⟨⟨hoff, hcontrol⟩, rfl⟩ := mem_scansOnStart.mp hmem
  exact Turn.contains_of_mem_scanChannels
    (fun houtside => hscans ⟨s, hsess, hoff, hcontrol, houtside⟩) hp

private theorem exists_scans_of_scansOutside (hs : c.Sound)
    (hv : c.airspace.domain.validate = .ok ()) (h : c.ScansOutside env id) (now : Instant) :
    ∃ channels, c.Scans env now id id channels ∧
      ∃ p ∈ channels, p.2 = .active ∧ c.airspace.domain.contains p.1 = false := by
  obtain ⟨s, hsess, hoff, hcontrol, houtside⟩ := h
  have hmem : _ ∈ c.scansOnStart env s := mem_scansOnStart.mpr ⟨⟨hoff, hcontrol⟩, rfl⟩
  exact ⟨_, (scans_iff hs hv).mpr ⟨rfl, s, hsess, hmem⟩, Turn.exists_mem_scanChannels houtside⟩

/-- Whatever was done before, a start scans in silence exactly the channels where radar is possible.
It scans no channel but of the domain, and probes none but of the domain by sending, exactly if the
session does not scan outside it; and a session does so only after the domain was changed while it
was open. -/
theorem scans_within_iff {settings : Settings} {domain : Domain}
    (h : create settings domain = .ok c) (ops : List Operation) (env : Surroundings)
    (now : Instant) (id : SessionId) :
    (∀ k channels, (c.after ops).Scans env now id k channels → ∀ p ∈ channels,
        (p.2 = .passive ↔ (c.after ops).airspace.domain.isRadar p.1 = true)) ∧
      ((∀ k channels, (c.after ops).Scans env now id k channels → ∀ p ∈ channels,
        (c.after ops).airspace.domain.contains p.1 = true) ↔ ¬ (c.after ops).ScansOutside env id) ∧
      ((∀ k channels, (c.after ops).Scans env now id k channels → ∀ p ∈ channels,
        p.2 = .active → (c.after ops).airspace.domain.contains p.1 = true) ↔
          ¬ (c.after ops).ScansOutside env id) ∧
      ((c.after ops).ScansOutside env id → ∃ s done d, (c.after ops).session? id = some s ∧
        done ++ [.setDomain d] <+: ops ∧ c.RemovesBound done d id s.settings) := by
  have hs : (c.after ops).Sound := sound_after (sound_create h) ops
  have hv := (agrees_after h ops).sound
  have hwithin (hscans : ¬ (c.after ops).ScansOutside env id) : ∀ k channels,
      (c.after ops).Scans env now id k channels → ∀ p ∈ channels,
        (c.after ops).airspace.domain.contains p.1 = true :=
    fun k channels hscan p hp => contains_of_scans hs hv hscans hscan hp
  refine ⟨fun k channels hscan p hp => kind_of_scans hs hv hscan hp,
    ⟨fun hall hscans => ?_, hwithin⟩,
    ⟨fun hall hscans => ?_, fun hscans k channels hscan p hp _ =>
      hwithin hscans k channels hscan p hp⟩, ?_⟩
  · obtain ⟨channels, hscan, p, hp, -, hout⟩ := exists_scans_of_scansOutside hs hv hscans now
    rw [hall id channels hscan p hp] at hout
    cases hout
  · obtain ⟨channels, hscan, p, hp, hactive, hout⟩ :=
      exists_scans_of_scansOutside hs hv hscans now
    rw [hall id channels hscan p hp hactive] at hout
    cases hout
  · rintro ⟨s, hsess, -, -, houtside⟩
    obtain ⟨done, d, hdone, hremoved⟩ := exists_removesBound h ops hsess houtside
    exact ⟨s, done, d, hsess, hdone, hremoved⟩

end Controller

namespace TwoChannels

open FourChannels (willing)

def narrow : Domain := ⟨"UU", .world, [⟨36, false, false, 20⟩]⟩

def unbound : List Operation := [.openSession accessPoint, .setDomain narrow]

theorem scans_within_opened :
    Controller.create {} domain = .ok controller ∧
      (controller.after [.openSession accessPoint]).Scans willing 0 0 0 [(52, .passive)] ∧
      ∀ k channels, (controller.after [.openSession accessPoint]).Scans willing 0 0 k channels →
        ∀ p ∈ channels, domain.contains p.1 = true := by
  have hkept : ¬ (controller.after [.openSession accessPoint]).ScansOutside willing 0 := by
    rintro ⟨s, hsess, -, -, ch, hch, hout⟩
    cases hsess
    cases hch
    cases hout
  obtain ⟨-, hwithin, -, -⟩ :=
    Controller.scans_within_iff created [.openSession accessPoint] willing 0 0
  exact ⟨created, ⟨true, by decide +kernel⟩, hwithin.mpr hkept⟩

/-- In the new domain, channel 52 is probed by sending. -/
theorem not_scans_within_unbound :
    Controller.create {} domain = .ok controller ∧
      (controller.after unbound).airspace.domain = narrow ∧
      (controller.after unbound).Scans willing 0 0 0 [(52, .active)] ∧
      narrow.contains 52 = false := by
  exact ⟨created, rfl, ⟨true, by decide +kernel⟩, rfl⟩

end TwoChannels

end Hotspot

import Hotspot.Proofs.AccessPoint.Lasting

/-!
Radar clears the channels on which it is found: nobody goes on listening there, and whoever goes on
sending there has just told its stations of a place that is fit for it. All others who were there
are on their way out, and nobody else is touched.
-/

set_option autoImplicit false
set_option relaxedAutoImplicit false

namespace Hotspot

def Phase.hasChannel : Phase → Bool
  | .disconnected | .selecting => false
  | _ => true

namespace Session

variable {s s' s'' s₀ : Session} {tu : Tuning} {e : Event} {cs told : List (Command × Bool)}
  {es : List Event} {struck : List Channel}

def Sized (s : Session) : Prop :=
  s.phase.hasChannel = true → s.ceiling.isSome = true

private theorem hasChannel_of_on (on : s.phase = .listening ∨ s.phase = .started) :
    s.phase.hasChannel = true := by
  rcases on with on | on <;> rw [on] <;> rfl

private theorem widest_of_ceiling {w : Width} (hw : s.ceiling = some w) : s.widest = w := by
  rw [widest, hw, Option.getD_some]

private theorem SettlesWidth.isSome {w : Option Width} (hw : s.SettlesWidth w)
    (h : s.ceiling.isSome = true) : w.isSome = true := by
  rcases hw with rfl | rfl
  · exact h
  · rfl

private theorem Sized.conclude (h : s.Sized) (hc : Concludes e s s' cs es) : s'.Sized := by
  cases hc with
  | ignore | move => exact h
  | rest => exact nofun
  | abandon target _ ok leaving =>
    intro _
    exact h (congrArg Phase.hasChannel leaving)

private theorem Sized.readies (h : s.Sized) (hr : Readies tu s s₀ cs) :
    s₀.ceiling.isSome = true := by
  cases hr with
  | tuned => rfl
  | started on => exact h (congrArg Phase.hasChannel on)
  | arrived on => exact h (congrArg Phase.hasChannel on)

private theorem Sized.sessionStep (h : s.Sized) (hc : SessionStep s s' cs es) : s'.Sized := by
  cases hc with
  | ignore | confirm | associate => exact h
  | conclude e _ _ _ _ concludes => exact h.conclude concludes
  | failAtOnce | quit | scan => exact nofun
  | launch =>
    intro _
    rfl
  | miss _ w selects =>
    intro hp
    have hnone : s.phase.hasChannel = false := congrArg Phase.hasChannel selects
    cases hnone.symm.trans hp
  | listen tu _ s₀ _ readies | refuse tu _ s₀ _ _ readies | start tu _ s₀ _ readies =>
    have hw := h.readies readies
    intro _
    exact hw
  | stop _ ok on =>
    intro _
    exact h (hasChannel_of_on on)
  | depart _ target on =>
    intro _
    exact h (hasChannel_of_on (.inr on))
  | flee _ _ _ _ on flees =>
    have hw := h (hasChannel_of_on on)
    intro _
    cases flees with
    | stop w ok width => exact width.isSome hw
    | leave w target _ width => exact width.isSome hw
    | announce w target _ width => exact width.isSome hw
  | awaken _ _ _ _ on waitOver =>
    have hw := h (hasChannel_of_on (.inl on))
    intro _
    cases waitOver <;> exact hw

private theorem lasting_sized : Lasting fun s _ _ => s.Sized where
  fresh _ _ := nofun
  sessionStep h hc := h.sessionStep hc
  conclude h hc := h.conclude hc

def Affected (s : Session) (struck : List Channel) : Prop :=
  (s.phase = .listening ∨ s.phase = .started) ∧ s.overlaps struck = true

/-- A session has fled: it is on its way out or gone, or it sends and has told its stations of a
place that suits it. -/
inductive Fled (s : Session) : Session → List (Command × Bool) → Prop
  | gone (s' : Session) (told : List (Command × Bool))
      (off : s'.phase = .disconnecting ∨ s'.phase = .disconnected) : Fled s s' told
  | announced (w : Option Width) (target : Tuning) (told : List (Command × Bool))
      (on : s.phase = .started) (suits : Turn.suits s target = true)
      (sent : (.announceSwitch target, true) ∈ told) :
      Fled s { s with ceiling := w, target := some target } told

private theorem Fled.phase (h : Fled s s' told) :
    s'.phase = .started ∨ s'.phase = .disconnecting ∨ s'.phase = .disconnected := by
  cases h with
  | gone _ _ off => exact .inr off
  | announced w target _ on => exact .inl on

private theorem Fled.announces (h : Fled s s' told) (hp : s'.phase = .started) :
    s.phase = .started ∧ s'.settings = s.settings ∧ ∃ target, s'.target = some target ∧
      Turn.suits s target = true ∧ (.announceSwitch target, true) ∈ told := by
  cases h with
  | gone _ _ off => rcases off with off | off <;> cases off.symm.trans hp
  | announced w target _ on suits sent => exact ⟨on, rfl, target, rfl, suits, sent⟩

private theorem Flees.fled (h : Flees s s' cs es) : Fled s s' cs := by
  cases h with
  | stop | leave => exact .gone _ _ (.inl rfl)
  | announce w target on width suits =>
    exact .announced w target _ on suits (List.mem_singleton_self _)

private theorem Fled.conclude (h : Fled s s' told) (hc : Concludes e s' s'' cs es) :
    Fled s s'' (told ++ cs) := by
  cases hc with
  | ignore =>
    rw [List.append_nil]
    exact h
  | rest => exact .gone _ _ (.inr rfl)
  | move target _ leaving => exact .gone _ _ (.inl leaving)
  | abandon => exact .gone _ _ (.inl rfl)

end Session

/-- What radar on some channels leaves in the ledger of a session: it has fled if it was concerned,
and else is as it was. -/
structure Ledger.Evacuated (before : Option Session) (struck : List Channel) (l : Ledger) :
    Prop where
  fled (s : Session) : before = some s → s.Affected struck →
    ∃ s', l.session = some s' ∧ s.Fled s' l.commands
  spared : (∀ s, before = some s → ¬ s.Affected struck) → l.session = before ∧ l.pending = []

namespace Controller

variable {c c' : Controller} {struck : List Channel} {id : SessionId} {s : Session} {t : Turn}
  {now : Instant}

private theorem endures_evacuated (c : Controller) (struck : List Channel) :
    Turn.Endures fun id l => l.Evacuated (c.session? id) struck := by
  constructor
  · intro id cs e es h
    constructor
    · intro s hs haffected
      obtain ⟨s', hs', -⟩ := h.fled s hs haffected
      cases hs'
    · intro hspared
      cases (h.spared hspared).2
  · intro id s₁ s₂ cs cs' e es es' h hconcludes
    constructor
    · intro s hs haffected
      obtain ⟨s', hs', hfled⟩ := h.fled s hs haffected
      cases hs'
      exact ⟨s₂, rfl, hfled.conclude hconcludes⟩
    · intro hspared
      cases (h.spared hspared).2

private theorem evacuated_of_eachFollows (hs : c.Sound)
    (h : Turn.EachFollows Session.Flees (c.turn.affected struck) c.turn t) (id : SessionId) :
    (t.ledger id).Evacuated (c.session? id) struck := by
  have hidle : c.turn.ledger id = ⟨c.session? id, [], []⟩ := ledger_turn hs id
  constructor
  · intro s hopen haffected
    obtain rfl := id_of_session? hopen
    have hmem : s ∈ c.turn.affected struck :=
      Turn.mem_affected.mpr ⟨mem_of_session? hopen, haffected⟩
    obtain ⟨s', cs, es, hflees, hledger⟩ := h.own s hmem
    rw [hledger, hidle]
    exact ⟨s', rfl, hflees.fled⟩
  · intro hspared
    have hnone : ∀ o ∈ c.turn.affected struck, o.id ≠ id := by
      rintro o ho rfl
      obtain ⟨hmem, haffected⟩ := Turn.mem_affected.mp ho
      exact hspared o (session?_of_mem hs.scene.nodup hmem) haffected
    rw [h.others id hnone, hidle]
    exact ⟨rfl, rfl⟩

/-- Radar on some channels leaves nobody there but who moves on, and leaves all others alone. -/
structure Evacuated (c : Controller) (struck : List Channel) (c' : Controller) (j : Journal) :
    Prop where
  /-- Nobody listens there. -/
  silent : ∀ s' ∈ c'.sessions, s'.phase = .listening → s'.overlaps struck = false
  /-- Whoever still sends there has just told its stations where to go: to free channels of the
  domain in the range of the session, no wider than it was to be from the start. -/
  announced : ∀ s' ∈ c'.sessions, s'.phase = .started → s'.overlaps struck = true →
    ∃ s target w, c.session? s'.id = some s ∧ s.ceiling = some w ∧ s'.target = some target ∧
      .command s'.id (.announceSwitch target) true ∈ j ∧
      (∀ ch ∈ target.channels, c'.airspace.domain.contains ch = true ∧
        s'.settings.range.contains ch = true ∧ c'.airspace.table.isFree ch = true) ∧
      target.width.megahertz ≤ w.megahertz
  /-- Everybody else who was there is on the way out, or gone. -/
  gone : ∀ s ∈ c.sessions, s.Affected struck → ∃ s', c'.session? s.id = some s' ∧
    (s'.phase = .started ∧ s'.overlaps struck = true ∨
      s'.phase = .disconnecting ∨ s'.phase = .disconnected)
  spared : ∀ id, (∀ s, c.session? id = some s → ¬ s.Affected struck) →
    c'.session? id = c.session? id

private theorem fled_or_spared (hn : t.scene.ids.Nodup)
    (h : ∀ id, (t.ledger id).Evacuated (c.session? id) struck) {s' : Session}
    (hmem : s' ∈ t.sessions) :
    (∃ s, c.session? s'.id = some s ∧ s.Fled s' (t.journal.commands s'.id)) ∨
      ¬ s'.Affected struck := by
  have hopen : t.session? s'.id = some s' := session?_of_mem hn hmem
  by_cases haffected : ∃ s, c.session? s'.id = some s ∧ s.Affected struck
  · obtain ⟨s, hs, haffected⟩ := haffected
    obtain ⟨s'', hs'', hfled⟩ := (h s'.id).fled s hs haffected
    obtain rfl : s' = s'' := Option.some.inj (hopen.symm.trans hs'')
    exact .inl ⟨s, hs, hfled⟩
  · have hspared : ∀ s, c.session? s'.id = some s → ¬ s.Affected struck :=
      fun s hs ha => haffected ⟨s, hs, ha⟩
    have hbefore : t.session? s'.id = c.session? s'.id := ((h s'.id).spared hspared).1
    exact .inr (hspared s' (hbefore.symm.trans hopen))

private theorem evacuated_of_ledgers (hs : c.Sound) (hn : t.scene.ids.Nodup)
    (hsized : ∀ s ∈ c.sessions, s.Sized) (hsends : t.SendsUsable now)
    (h : ∀ id, (t.ledger id).Evacuated (c.session? id) struck) :
    c.Evacuated struck t.toController t.journal := by
  constructor
  · intro s' hmem hp
    rcases fled_or_spared hn h hmem with ⟨s, -, hfled⟩ | hnot
    · rcases hfled.phase with hp' | hp' | hp' <;> cases hp'.symm.trans hp
    · exact Bool.eq_false_iff.mpr fun hover => hnot ⟨.inl hp, hover⟩
  · intro s' hmem hp hover
    rcases fled_or_spared hn h hmem with ⟨s, hs, hfled⟩ | hnot
    · obtain ⟨on, hsettings, target, htarget, hsuits, hsent⟩ := hfled.announces hp
      obtain ⟨w, hw⟩ := Option.isSome_iff_exists.mp
        (hsized s (mem_of_session? hs) (Session.hasChannel_of_on (.inr on)))
      obtain ⟨hwidth, hrange⟩ := Turn.suits_iff.mp hsuits
      have htold : .command s'.id (.announceSwitch target) true ∈ t.journal :=
        Journal.mem_commands.mp hsent
      -- That the announced tuning is free is read off the command, not off the session.
      obtain ⟨-, hfit⟩ := hsends _ htold target rfl
      rw [Session.widest_of_ceiling hw] at hwidth
      refine ⟨s, target, w, hs, hw, htarget, htold, fun ch hch => ?_, hwidth⟩
      rw [hsettings]
      exact ⟨hfit.allowed ch hch, hrange ch hch, hfit.free ch hch⟩
    · exact absurd ⟨.inr hp, hover⟩ hnot
  · intro s hmem haffected
    have hbefore := session?_of_mem hs.scene.nodup hmem
    obtain ⟨s', hs', hfled⟩ := (h s.id).fled s hbefore haffected
    refine ⟨s', hs', ?_⟩
    cases hfled with
    | gone _ _ off => exact .inr off
    | announced w target _ on => exact .inl ⟨on, haffected.2⟩
  · intro id hspared
    exact ((h id).spared hspared).1

private theorem evacuated_dispatch (hs : c.Sound) (hsized : ∀ s ∈ c.sessions, s.Sized)
    (h : c.session? id = some s) (on : s.phase = .listening ∨ s.phase = .started)
    (env : Surroundings) (now : Instant) (channels : List Channel) :
    ∃ c' j, c.dispatch env now id (.radarDetected channels) = .ok (c', j) ∧
      c.Evacuated (if channels.isEmpty then s.occupied else channels) c' j := by
  have hreport : s.reports? (.radarDetected channels) =
      some (if channels.isEmpty then s.occupied else channels) := if_pos on
  obtain ⟨t, n, hfollows, hstepped, hsettle⟩ := exists_drain_of_reports hs env now h hreport
  generalize (if channels.isEmpty then s.occupied else channels) = struck at *
  obtain ⟨hend, husable⟩ := Turn.drain_endures env now (endures_evacuated c struck) n
    hstepped.closing (evacuated_of_eachFollows hs hfollows)
  have hsound := sound_perform hs (.dispatch env now id (.radarDetected channels))
  rw [perform_dispatch h, hsettle] at hsound
  refine ⟨_, _, ?_,
    evacuated_of_ledgers hs hsound.scene.nodup hsized
      (husable.sendsUsable hstepped.sendsUsable) hend⟩
  rw [dispatch, h, ← hsettle]

/-- Radar that a session reports while it listens or sends clears the channels. -/
theorem evacuated_after {settings : Settings} {domain : Domain}
    (h : create settings domain = .ok c) (ops : List Operation) {id : SessionId} {s : Session}
    (hs : (c.after ops).session? id = some s) (on : s.phase = .listening ∨ s.phase = .started)
    (env : Surroundings) (now : Instant) (channels : List Channel) :
    ∃ c' j, (c.after ops).dispatch env now id (.radarDetected channels) = .ok (c', j) ∧
      (c.after ops).Evacuated (if channels.isEmpty then s.occupied else channels) c' j := by
  have hsound := sound_after (sound_create h) ops
  have hsized : ∀ o ∈ (c.after ops).sessions, o.Sized := by
    intro o ho
    have hopen := session?_of_mem hsound.scene.nodup ho
    exact lasting_after h Session.lasting_sized ops o.id o hopen
  exact evacuated_dispatch hsound hsized hs on env now channels

open FourChannels in
theorem evacuated_after_heardOut : create {} domain = .ok controller ∧
    ∃ s, (controller.after heardOut).session? 1 = some s ∧ s.phase = .started ∧
      ∃ c' j, (controller.after heardOut).dispatch willing (Duration.millis 61000 : Nat) 1
          (.radarDetected []) = .ok (c', j) ∧
        (controller.after heardOut).Evacuated s.occupied c' j := by
  have hsends : ∃ s ∈ (controller.after heardOut).session? 1, s.phase = .started := by
    decide +kernel
  obtain ⟨s, hs, on⟩ := hsends
  exact ⟨created, s, hs, on,
    evacuated_after created heardOut hs (.inr on) willing (Duration.millis 61000 : Nat) []⟩

end Controller

end Hotspot

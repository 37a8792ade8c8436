import Hotspot.Proofs.AccessPoint.SessionStep
import Hotspot.Proofs.AccessPoint.Effect

/-!
What a whole operation does to the ledgers: some sessions take a step each, and then the events that
are left to do are handled until none waits. What each single step keeps of a ledger holds when the
operation is over.
-/

set_option autoImplicit false
set_option relaxedAutoImplicit false

namespace Hotspot

namespace Turn

open Session (Concludes SessionStep Flees WaitOver SettlesWidth)

variable {env : Surroundings} {now : Instant} {t t' t₁ : Turn} {s : Session} {id : SessionId}
  {e : Event} {l : List Session} {R : Rule}

/-- Each session of a list follows a rule, once; the others are left alone. -/
structure EachFollows (R : Rule) (l : List Session) (t t' : Turn) : Prop where
  own (s : Session) : s ∈ l → ∃ s' cs es, R s s' cs es ∧ t'.ledger s.id =
    ⟨some s', (t.ledger s.id).commands ++ cs, (t.ledger s.id).pending ++ es⟩
  others (id : SessionId) : (∀ s ∈ l, s.id ≠ id) → t'.ledger id = t.ledger id

namespace EachFollows

private theorem nil (R : Rule) (t : Turn) : EachFollows R [] t t where
  own _ h := absurd h List.not_mem_nil
  others _ _ := rfl

private theorem cons {s' : Session} {cs : List (Command × Bool)} {es : List Event}
    (hr : R s s' cs es) (hposts : Posts now s.id s' cs es t t₁) (hrest : EachFollows R l t₁ t')
    (hd : ∀ o ∈ l, s.id ≠ o.id) : EachFollows R (s :: l) t t' := by
  constructor
  · intro o ho
    rcases List.mem_cons.mp ho with rfl | ho
    · refine ⟨s', cs, es, hr, ?_⟩
      rw [hrest.others o.id fun x hx => (hd x hx).symm]
      exact hposts.own
    · obtain ⟨o', cs', es', hr', hledger⟩ := hrest.own o ho
      refine ⟨o', cs', es', hr', ?_⟩
      rw [hledger, hposts.other (hd o ho).symm]
  · intro id hid
    have hother : id ≠ s.id := (hid s List.mem_cons_self).symm
    rw [hrest.others id fun o ho => hid o (List.mem_cons_of_mem s ho), hposts.other hother]

private theorem single (h : Follows R now s.id s t t') : EachFollows R [s] t t' := by
  obtain ⟨s', cs, es, hr, hposts⟩ := h
  exact cons hr hposts (nil R t') fun _ ho => absurd ho List.not_mem_nil

private theorem mono {R' : Rule} (h : EachFollows R l t t')
    (hr : ∀ s ∈ l, ∀ s' cs es, R s s' cs es → R' s s' cs es) : EachFollows R' l t t' := by
  refine ⟨fun s hs => ?_, h.others⟩
  obtain ⟨s', cs, es, hold, hledger⟩ := h.own s hs
  exact ⟨s', cs, es, hr s hs s' cs es hold, hledger⟩

private theorem after (h : EachFollows R l t₁ t') (hl : t₁.ledger = t.ledger) :
    EachFollows R l t t' :=
  ⟨hl ▸ h.own, hl ▸ h.others⟩

end EachFollows

private theorem eachFollows_foldl {β : Type} (now : Instant) (proj : β → Turn) {I : β → Prop}
    (step : β → Session → β)
    (hstep : ∀ b, I b → ∀ s ∈ l, (proj b).session? s.id = some s →
      I (step b s) ∧ Follows R now s.id s (proj b) (proj (step b s)))
    (hn : (l.map (·.id)).Nodup) (b : β) (hb : I b)
    (hs : ∀ s ∈ l, (proj b).session? s.id = some s) :
    EachFollows R l (proj b) (proj (l.foldl step b)) ∧
      KeepsUsable now (proj b) (proj (l.foldl step b)) := by
  refine Session.foldl_each (fun b s => (proj b).session? s.id = some s ∧ I b)
    (fun s b b' => I b' ∧ Follows R now s.id s (proj b) (proj b'))
    (fun l b b' => EachFollows R l (proj b) (proj b') ∧ KeepsUsable now (proj b) (proj b'))
    ?_ ?_ ?_ ?_ hn b ?_
  · exact fun b => ⟨.nil R (proj b), .refl now (proj b)⟩
  · rintro s rest b b' ⟨-, s', cs, es, hr, hposts⟩ hne ⟨hfollows, husable⟩
    exact ⟨.cons hr hposts hfollows hne, hposts.keepsUsable.trans husable⟩
  · rintro s o b ⟨hb, s', cs, es, hr, hposts⟩ hne ⟨ho, -⟩
    exact ⟨(congrArg Ledger.session (hposts.other hne.symm)).trans ho, hb⟩
  · exact fun b s hmem hdue => hstep b hdue.2 s hmem hdue.1
  · exact fun s hmem => ⟨hs s hmem, hb⟩

private theorem posts_leaveFor (now : Instant) (hs : t.session? id = some s) (target : Tuning) :
    Posts now id { s with phase := .disconnecting } [] [.changeRequest target] t
      (t.leaveFor id target) := by
  have henter := posts_enter now hs .disconnecting
  exact henter.trans (posts_enqueue henter.session _)

private theorem flees_moveTo (env : Surroundings) {w : Option Width} (hw : s.SettlesWidth w)
    (hs : t.session? s.id = some { s with ceiling := w }) {target : Tuning}
    (hsuits : suits s target = true) (hfit : t.airspace.Suits now target) :
    Follows Flees now s.id s t (moveTo env t s target) := by
  have haimed := posts_modify now hs (f := fun s => { s with target := some target }) fun _ => rfl
  unfold moveTo
  dsimp only
  split
  · rename_i hon
    obtain ⟨ok, hc⟩ := exists_command_eq env
      (t.modify s.id fun s => { s with target := some target }) s.id (.announceSwitch target)
    have htold := haimed.trans (posts_told now haimed.session (c := .announceSwitch target) ok
      fun _ h => by cases h; exact hfit)
    rw [hc]
    cases ok with
    | true =>
      exact ⟨_, _, _, .announce s w target hon hw hsuits,
        htold.andThen (posts_notify now htold.session s.id _)⟩
    | false =>
      exact ⟨_, _, _, .leave s w target _ hw (by simp),
        htold.trans (posts_leaveFor now htold.session target)⟩
  · exact ⟨_, _, _, .leave s w target _ hw (by simp),
      haimed.trans (posts_leaveFor now haimed.session target)⟩

def Sharing (now : Instant) (progress : Turn × Option Tuning) : Prop :=
  progress.1.airspace.seeded = true ∧
    ∀ tu, progress.2 = some tu → progress.1.airspace.Suits now tu

private theorem flees_evade (env : Surroundings) {progress : Turn × Option Tuning}
    (hshare : Sharing now progress) (hs : progress.1.session? s.id = some s) :
    Sharing now (evade env now progress s) ∧
      Follows Flees now s.id s progress.1 (evade env now progress s).1 := by
  obtain ⟨t, shared⟩ := progress
  obtain ⟨hseeded, hshared⟩ := hshare
  obtain ⟨w, hw, hplaces, hsuits⟩ :=
    places_findPlace env now hs fun tu htu => (hshared tu htu).2
  have hfound := hplaces.posts
  have hseeded₁ := hfound.keepsUsable.onlyLooks.seeded hseeded
  rw [evade_eq]
  generalize findPlace env now t shared s = found at *
  cases hchoice : found.1 with
  | none =>
    have htold := hfound.andThen (posts_notify now hfound.session s.id .noChannel)
    obtain ⟨ok, hstop⟩ := posts_beginStop env now htold.session
    have hposts := htold.trans hstop
    refine ⟨⟨hposts.keepsUsable.onlyLooks.seeded hseeded, fun tu htu => ?_⟩,
      _, _, _, .stop s w ok hw, hposts⟩
    exact (hshared tu htu).onlyLooks hposts.keepsUsable.onlyLooks
  | some target =>
    have hfit : found.2.airspace.Suits now target := ⟨hseeded₁, hplaces.fit target hchoice⟩
    obtain ⟨s', cs, es, hflees, hmoves⟩ :=
      flees_moveTo env hw hfound.session (hsuits target hchoice) hfit
    have hposts := hfound.trans hmoves
    refine
      ⟨⟨hposts.keepsUsable.onlyLooks.seeded hseeded, fun tu htu => ?_⟩, s', cs, es, hflees, hposts⟩
    cases hsh : shared with
    | none =>
      rw [hsh] at htu
      cases htu
      exact hfit.onlyLooks hmoves.keepsUsable.onlyLooks
    | some place =>
      rw [hsh] at htu
      cases htu
      exact (hshared place hsh).onlyLooks hposts.keepsUsable.onlyLooks

private theorem keepsUsable_warn (now : Instant) (t : Turn) (channels : List Channel)
    (l : List Session) :
    KeepsUsable now t (t.warn channels l) ∧ (t.warn channels l).ledger = t.ledger := by
  unfold warn
  induction l generalizing t with
  | nil => exact ⟨.refl now t, rfl⟩
  | cons s rest ih =>
    have htold : KeepsUsable now t (t.notify s.id (.radarDetected channels)) :=
      keepsUsable_record nofun
    have hl : (t.notify s.id (.radarDetected channels)).ledger = t.ledger :=
      ledger_record fun _ => rfl
    obtain ⟨husable, hledger⟩ := ih (t.notify s.id (.radarDetected channels))
    exact ⟨htold.trans husable, hledger.trans hl⟩

private theorem keepsUsable_abortListening (now : Instant) (t : Turn) (channels : List Channel) :
    KeepsUsable now t (t.abortListening channels) ∧ (t.abortListening channels).ledger =
      t.ledger := by
  unfold abortListening
  split
  · have hended : KeepsUsable now t (t.share fun a => { a with run := none }) :=
      keepsUsable_share ⟨rfl, fun h => h, fun _ => .refl now _⟩
    exact ⟨hended.trans (keepsUsable_record nofun), ledger_record fun _ => rfl⟩
  · exact ⟨.refl now t, rfl⟩

/-- Radar makes every session flee that it concerns, and no other one; no network is told to send on
a tuning that is not fit. -/
private theorem eachFollows_onRadar (env : Surroundings) (now : Instant) (s : Session)
    (channels : List Channel) (hn : t.scene.ids.Nodup) (hseeded : t.airspace.seeded = true)
    (hj : t.journal = []) :
    EachFollows Flees (t.affected (if channels.isEmpty then s.occupied else channels)) t
        (t.onRadar env s channels now) ∧
      (t.onRadar env s channels now).SendsUsable now := by
  rw [onRadar_eq]
  generalize (if channels.isEmpty then s.occupied else channels) = chs
  let listed := (t.share (struck now chs)).notify s.id
    (.listChanged ((t.share (struck now chs)).airspace.table.records now))
  have hledger : listed.ledger = t.ledger := ledger_record fun _ => rfl
  have hsends : listed.SendsUsable now := by
    intro e he tu htu
    have he : e ∈ t.journal ++ [_] := he
    rw [hj, List.nil_append, List.mem_singleton] at he
    subst he
    cases htu
  have hseeded₁ : listed.airspace.seeded = true := hseeded
  have haffected : listed.affected chs = t.affected chs := rfl
  change EachFollows _ _ _ (listed.disperse env chs now s.id) ∧
    (listed.disperse env chs now s.id).SendsUsable now
  unfold disperse
  rw [haffected]
  split
  · rename_i hempty
    have htold : KeepsUsable now listed (listed.notify s.id (.radarDetected chs)) :=
      keepsUsable_record nofun
    have hl : (listed.notify s.id (.radarDetected chs)).ledger = listed.ledger :=
      ledger_record fun _ => rfl
    rw [List.isEmpty_iff.mp hempty]
    exact ⟨(EachFollows.nil _ _).after (hl.trans hledger), htold.sendsUsable hsends⟩
  · obtain ⟨hwarn, hwarnl⟩ := keepsUsable_warn now listed chs (t.affected chs)
    obtain ⟨habort, habortl⟩ :=
      keepsUsable_abortListening now (listed.warn chs (t.affected chs)) chs
    have hready := hwarn.trans habort
    have hreadyl := (habortl.trans hwarnl).trans hledger
    generalize (listed.warn chs (t.affected chs)).abortListening chs = ready at *
    -- Warnings and the end of the run touch no ledger: each session is found as it was.
    have hsess : ∀ o ∈ t.affected chs, ready.session? o.id = some o := by
      intro o ho
      have hsame : ready.session? o.id = t.session? o.id :=
        congrArg Ledger.session (congrFun hreadyl o.id)
      rw [hsame]
      exact Controller.session?_of_mem hn (mem_affected.mp ho).1
    obtain ⟨hfollows, husable⟩ :=
      eachFollows_foldl (R := Flees) now Prod.fst (I := Sharing now)
      (evade env now) (fun b hb o _ ho => flees_evade env hb ho)
      (List.Nodup.sublist (List.filter_sublist.map _) hn) (ready, none)
      ⟨hready.onlyLooks.seeded hseeded₁, nofun⟩ hsess
    exact ⟨hfollows.after hreadyl, husable.sendsUsable (hready.sendsUsable hsends)⟩

private theorem waitOver_sendOrStop (env : Surroundings) (now : Instant)
    (hs : t.session? s.id = some { s with listeningEndAnnounced := true }) :
    Follows WaitOver now s.id s t (sendOrStop env t s) := by
  obtain ⟨ok, hc⟩ := exists_command_eq env t s.id .startBeacon
  have htold := posts_told now hs (c := .startBeacon) ok nofun
  rw [sendOrStop, hc]
  cases ok with
  | true => exact ⟨_, _, _, .send s, htold.trans (posts_markStarted now htold.session)⟩
  | false =>
    obtain ⟨ok, hstop⟩ := posts_beginStop env now htold.session
    exact ⟨_, _, _, .stop s ok, htold.trans hstop⟩

private theorem waitOver_wake (env : Surroundings) (now : Instant) (hs : t.session? s.id = some s)
    (htu : s.tuning.isSome = true) :
    Follows WaitOver now s.id s t (wake env t s) := by
  obtain ⟨tu, htu⟩ := Option.isSome_iff_exists.mp htu
  rw [wake, htu]
  dsimp only
  rw [endListening_eq]
  split
  · rename_i hannounced
    have hsame : { s with listeningEndAnnounced := true } = s := by rw [← hannounced]
    exact waitOver_sendOrStop env now (by rw [hsame]; exact hs)
  · have hannounced := posts_modify now hs
      (f := fun s => { s with listeningEndAnnounced := true }) fun _ => rfl
    have htold := hannounced.andThen
      (posts_notify now hannounced.session s.id (.listeningEnded tu))
    obtain ⟨s', cs, es, hover, hposts⟩ := waitOver_sendOrStop env now htold.session
    exact ⟨s', cs, es, hover, htold.trans hposts⟩

private theorem eachFollows_onListeningOver {run : ListeningRun} (h : t.airspace.run = some run)
    (hn : t.scene.ids.Nodup) (env : Surroundings) (now : Instant) :
    EachFollows WaitOver (t.waiting run) t (t.onListeningOver env) ∧
      KeepsUsable now t (t.onListeningOver env) := by
  rw [onListeningOver_of_run h]
  have hcredited : KeepsUsable now t (t.share (credited run)) :=
    keepsUsable_share ⟨rfl, fun h => h, fun _ => .refl now _⟩
  have hstep : ∀ b : Turn, True → ∀ o ∈ t.waiting run, b.session? o.id = some o →
      True ∧ Follows WaitOver now o.id o b (wake env b o) := by
    intro b _ o ho hs
    have hover := (mem_waiting.mp ho).2.2
    refine ⟨trivial, waitOver_wake env now hs ?_⟩
    cases htu : o.tuning with
    | none => simp [Session.overlaps, htu] at hover
    | some tu => rfl
  obtain ⟨hfollows, husable⟩ := eachFollows_foldl now (fun t => t) (wake env) hstep
    (List.Nodup.sublist (List.filter_sublist.map _) hn) (t.share (credited run)) trivial
    fun o ho => Controller.session?_of_mem hn (mem_waiting.mp ho).1
  exact ⟨hfollows.after rfl, hcredited.trans husable⟩

private theorem mem_pending : e ∈ t.pending id ↔ (id, e) ∈ t.queue := by
  unfold pending
  simp only [List.mem_filterMap, Option.ite_none_right_eq_some, Option.some.injEq]
  constructor
  · rintro ⟨p, hp, rfl, rfl⟩
    exact hp
  · intro h
    exact ⟨(id, e), h, rfl, rfl⟩

/-- A property of ledgers that a closing event keeps when it is handled. -/
structure Endures (P : SessionId → Ledger → Prop) : Prop where
  skip {id : SessionId} {cs : List (Command × Bool)} {e : Event} {es : List Event} :
    P id ⟨none, cs, e :: es⟩ → P id ⟨none, cs, es⟩
  conclude {id : SessionId} {s s' : Session} {cs cs' : List (Command × Bool)} {e : Event}
    {es es' : List Event} : P id ⟨some s, cs, e :: es⟩ → Concludes e s s' cs' es' →
      P id ⟨some s', cs ++ cs', es ++ es'⟩

private theorem isClosing_of_concludes {s' : Session} {cs : List (Command × Bool)} {es : List Event}
    (h : Concludes e s s' cs es) : ∀ x ∈ es, x.isClosing = true := by
  cases h with
  | ignore | rest | move => exact fun x hx => absurd hx List.not_mem_nil
  | abandon target s ok =>
    intro x hx
    cases ok with
    | true => exact absurd hx List.not_mem_nil
    | false =>
      obtain rfl := List.mem_singleton.mp hx
      rfl

private theorem ledger_of_queue {rest : List (SessionId × Event)} (hq : t.queue = (id, e) :: rest) :
    t.ledger id = ⟨t.session? id, t.journal.commands id,
        e :: ({ t with queue := rest } : Turn).pending id⟩ ∧
      ∀ j, j ≠ id → ({ t with queue := rest } : Turn).ledger j = t.ledger j := by
  constructor
  · simp [ledger, pending, hq]
  · intro j hj
    have hpending : t.pending j = ({ t with queue := rest } : Turn).pending j := by
      simp [pending, hq, Ne.symm hj]
    rw [ledger, ledger, hpending]
    rfl

/-- One closing event is handled: what it keeps of a ledger holds, and again only closing events are
left to do. -/
theorem endures_next (env : Surroundings) (now : Instant) {P : SessionId → Ledger → Prop}
    (hP : Endures P) {rest : List (SessionId × Event)} (hq : t.queue = (id, e) :: rest)
    (hclosing : ∀ p ∈ t.queue, p.2.isClosing = true) (hall : ∀ j, P j (t.ledger j)) :
    (∀ j, P j ((handle env now { t with queue := rest } id e).ledger j)) ∧
      (∀ p ∈ (handle env now { t with queue := rest } id e).queue, p.2.isClosing = true) ∧
      KeepsUsable now t (handle env now { t with queue := rest } id e) := by
  have he : e.isClosing = true := hclosing (id, e) (by simp [hq])
  have hrest : ∀ p ∈ rest, p.2.isClosing = true := by
    intro p hp
    exact hclosing p (by rw [hq]; exact List.mem_cons_of_mem _ hp)
  obtain ⟨hown, hothers⟩ := ledger_of_queue hq
  have hid := hall id
  rw [hown] at hid
  let t₁ : Turn := { t with queue := rest }
  have htaken : KeepsUsable now t t₁ := .of_eq rfl rfl
  -- An event for a session that is gone is dropped; otherwise the session concludes it.
  cases hsess : t.session? id with
  | none =>
    have hhandled : t₁.handle env now id e = t₁ := handle_closing_of_none (t := t₁) hsess e
    rw [hsess] at hid
    rw [hhandled]
    refine ⟨fun j => ?_, hrest, htaken⟩
    by_cases hj : j = id
    · subst hj
      have hledger : t₁.ledger j = ⟨none, t.journal.commands j, t₁.pending j⟩ := by
        rw [← hsess]
        rfl
      rw [hledger]
      exact hP.skip hid
    · rw [hothers j hj]
      exact hall j
  | some s =>
    obtain ⟨s', cs, es, hconcludes, hposts⟩ :=
      concludes_handle (t := t₁) env now hsess he
    rw [hsess] at hid
    refine ⟨fun j => ?_, ?_, htaken.trans hposts.keepsUsable⟩
    · by_cases hj : j = id
      · subst hj
        rw [hposts.own]
        exact hP.conclude hid hconcludes
      · rw [hposts.other hj, hothers j hj]
        exact hall j
    · rintro ⟨j, x⟩ hp
      have hx := mem_pending.mpr hp
      by_cases hj : j = id
      · subst hj
        have hpending : (t₁.handle env now j e).pending j = t₁.pending j ++ es :=
          congrArg Ledger.pending hposts.own
        rw [hpending] at hx
        rcases List.mem_append.mp hx with hold | hnew
        · exact hrest _ (mem_pending.mp hold)
        · exact isClosing_of_concludes hconcludes x hnew
      · have hpending : (t₁.handle env now id e).pending j = t₁.pending j :=
          congrArg Ledger.pending (hposts.other hj)
        rw [hpending] at hx
        exact hrest _ (mem_pending.mp hx)

theorem drain_endures (env : Surroundings) (now : Instant) {P : SessionId → Ledger → Prop}
    (hP : Endures P) (n : Nat) (hclosing : ∀ p ∈ t.queue, p.2.isClosing = true)
    (hall : ∀ id, P id (t.ledger id)) :
    (∀ id, P id ((t.drain env now n).ledger id)) ∧ KeepsUsable now t (t.drain env now n) := by
  -- By induction on the steps that are left.
  induction n generalizing t with
  | zero => exact ⟨hall, .refl now t⟩
  | succ n ih =>
    rw [drain]
    cases hq : t.queue with
    | nil => exact ⟨hall, .refl now t⟩
    | cons p rest =>
      obtain ⟨id, e⟩ := p
      obtain ⟨hnext, hclosing₁, husable₁⟩ := endures_next env now hP hq hclosing hall
      obtain ⟨hend, husable⟩ := ih hclosing₁ hnext
      exact ⟨hend, husable₁.trans husable⟩

end Turn

private theorem Scene.Strikes.keepsBars {now : Instant} {channels : List Channel} {σ σ' : Scene}
    (h : Strikes now channels σ σ') : Airspace.KeepsBars now σ.airspace σ'.airspace := by
  obtain ⟨run, hair, -⟩ := h.airspace
  constructor
  · rw [hair]
  · rw [hair]
    exact fun hd => hd
  · intro _ ch hb
    exact h.looked.barred (hb.markEach channels)

namespace Controller

open Session (SessionStep Flees)
open Turn (EachFollows)

variable {c : Controller} {now : Instant} {id : SessionId} {s : Session} {e : Event}

/-- Sessions of the controller have taken a step each, and only closing events are left to do. -/
structure EachStepped (c : Controller) (now : Instant) (l : List Session) (t : Turn) : Prop where
  mem : ∀ s ∈ l, s ∈ c.sessions
  eachFollows : EachFollows SessionStep l c.turn t
  keepsBars : Airspace.KeepsBars now c.airspace t.airspace
  sendsUsable : t.SendsUsable now
  closing : ∀ p ∈ t.queue, p.2.isClosing = true

private theorem eachStepped_turn (hs : c.Sound) (now : Instant) : c.EachStepped now [] c.turn where
  mem _ h := absurd h List.not_mem_nil
  eachFollows := .nil _ _
  keepsBars := (Airspace.OnlyLooks.refl now c.airspace).keepsBars
  sendsUsable e he := absurd he List.not_mem_nil
  closing p hp := by
    have hq : c.turn.queue = [] := hs.queue
    rw [hq] at hp
    exact absurd hp List.not_mem_nil

theorem exists_drain_of_reports (hs : c.Sound) (env : Surroundings) (now : Instant)
    (h : c.session? id = some s) {chs : List Channel} (hreport : s.reports? e = some chs) :
    ∃ t n, EachFollows Flees (c.turn.affected chs) c.turn t ∧
      c.EachStepped now (c.turn.affected chs) t ∧
      (c.turn.enqueue id e).settle env now = t.drain env now n := by
  obtain ⟨channels, rfl, hreact⟩ := Turn.react_of_reports env now (t := c.turn) h hreport
  obtain ⟨n, hsettle, -⟩ := Turn.settle_enqueue env now e hs.queue h
  have hseeded : c.airspace.seeded = true := by
    refine (proper_of_session? hs h).seeded fun hp => ?_
    have hp : s.phase = .disconnected := hp
    cases e <;> simp [Session.reports?, hp] at hreport
  obtain ⟨hfollows, hsends⟩ :=
    Turn.eachFollows_onRadar (t := c.turn) env now s channels hs.scene.nodup hseeded rfl
  obtain ⟨hstrikes, -⟩ :=
    Turn.strikes_onRadar (t := c.turn) env s channels now hs.scene.nodup
  have hclosing := (closing_react hs h env now e).1
  rw [hreact] at hclosing
  refine
    ⟨_, n, hfollows,
      ⟨fun o ho => (Turn.mem_affected.mp ho).1, ?_, hstrikes.keepsBars, hsends,
    hclosing⟩, by rw [hsettle, hreact]⟩
  exact hfollows.mono fun o ho s' cs es hr =>
    .flee o s' cs es (Turn.mem_affected.mp ho).2.1 hr

theorem exists_listening_eachStepped (hs : c.Sound) (env : Surroundings) (now : Instant) :
    ∃ l, (∀ s ∈ l, s.phase = .listening) ∧ c.EachStepped now l (c.turn.onListeningOver env) := by
  cases hrun : c.airspace.run with
  | none =>
    rw [Turn.onListeningOver_of_none (t := c.turn) hrun env]
    exact ⟨[], fun s h => absurd h List.not_mem_nil, eachStepped_turn hs now⟩
  | some run =>
    obtain ⟨hfollows, husable⟩ :=
      Turn.eachFollows_onListeningOver (t := c.turn) hrun hs.scene.nodup env now
    obtain ⟨-, hclosing, -⟩ := onListeningOver_spec hs hrun env
    refine ⟨c.turn.waiting run, fun s h => (Turn.mem_waiting.mp h).2.1,
      fun s h => (Turn.mem_waiting.mp h).1, ?_, husable.onlyLooks.keepsBars,
      husable.sendsUsable (eachStepped_turn hs now).sendsUsable, hclosing⟩
    exact hfollows.mono fun s h s' cs es hr => .awaken s s' cs es (Turn.mem_waiting.mp h).2.1 hr

theorem eachStepped_onListeningOver (hs : c.Sound) (env : Surroundings) (now : Instant) :
    ∃ l, c.EachStepped now l (c.turn.onListeningOver env) := by
  obtain ⟨l, -, hstepped⟩ := exists_listening_eachStepped hs env now
  exact ⟨l, hstepped⟩

theorem eachStepped_react (hs : c.Sound) (env : Surroundings) (now : Instant)
    (h : c.session? id = some s) (hreport : s.reports? e = none) (hwait : s.awaits e = false) :
    c.EachStepped now [s] (c.turn.react env now id e) := by
  have hreact :=
    Turn.sessionStep_react (t := c.turn) env now h (proper_of_session? hs h) hreport hwait
  have hid := id_of_session? h
  subst hid
  refine ⟨fun o ho => ?_, .single hreact, hreact.keepsUsable.onlyLooks.keepsBars,
    hreact.keepsUsable.sendsUsable (eachStepped_turn hs now).sendsUsable,
      (closing_react hs h env now e).1⟩
  obtain rfl := List.mem_singleton.mp ho
  exact mem_of_session? h

/-- An operation makes some sessions take a step each; then only closing events are handled. -/
theorem exists_eachStepped (hs : c.Sound) {op : Operation} (htime : op.now? = some now) :
    ∃ env l t n, c.EachStepped now l t ∧
      c.perform op = ((t.drain env now n).toController, (t.drain env now n).journal) := by
  cases op with
  | openSession | closeSession | setDomain => cases htime
  | listeningOver env now' =>
    cases htime
    obtain ⟨l, hover⟩ := eachStepped_onListeningOver hs env now
    exact ⟨env, l, _, (c.turn.onListeningOver env).eventBound, hover, rfl⟩
  | dispatch env now' id e =>
    cases htime
    cases h : c.session? id with
    | none =>
      rw [perform_dispatch_of_none h]
      exact ⟨env, [], c.turn, 0, eachStepped_turn hs now, rfl⟩
    | some s =>
      rw [perform_dispatch h]
      cases hreport : s.reports? e with
      | some chs =>
        obtain ⟨t, n, -, hstepped, hsettle⟩ := exists_drain_of_reports hs env now h hreport
        rw [hsettle]
        exact ⟨env, _, t, n, hstepped, rfl⟩
      | none =>
        obtain ⟨n, hsettle, -⟩ := Turn.settle_enqueue env now e hs.queue h
        rw [hsettle]
        cases hwait : s.awaits e with
        | true =>
          rw [Turn.react_of_awaits env now (t := c.turn) h hwait]
          obtain ⟨l, hover⟩ := eachStepped_onListeningOver hs env now
          exact ⟨env, l, _, n, hover, rfl⟩
        | false => exact ⟨env, [s], _, n, eachStepped_react hs env now h hreport hwait, rfl⟩

end Controller

end Hotspot

import Hotspot.Proofs.AccessPoint.Effect
import Hotspot.Proofs.AccessPoint.Ledger
import Hotspot.Proofs.Spectrum.ListedChannels

/-!
What the steps of an answer write into the journal. A step writes about the sessions that it is for
and raises no alarm, whatever the layer below takes; the run of listening and the channels on the
non-occupancy list stay what they are. Where the run does change, the timer is told so at once.
-/

set_option autoImplicit false
set_option relaxedAutoImplicit false

namespace Hotspot

open NonOccupancy (Table)

def Notice.isAlarm : Notice → Bool
  | .radarDetected _ | .listChanged _ => true
  | _ => false

namespace Entry

def isTimer : Entry → Bool
  | .armed _ | .disarmed => true
  | _ => false

def Concerns (S : SessionId → Prop) : Entry → Prop
  | .command id _ _ | .moved id _ _ => S id
  | .notice id n => S id ∧ n.isAlarm = false
  | .armed _ | .disarmed => False

private theorem Concerns.isTimer {S : SessionId → Prop} {e : Entry} (h : e.Concerns S) :
    e.isTimer = false := by
  cases e with
  | armed | disarmed => cases h
  | _ => rfl

end Entry

namespace Journal

def timer (j : Journal) : Journal :=
  j.filter Entry.isTimer

@[simp] theorem timer_nil : timer [] = [] := rfl

theorem timer_append (j j' : Journal) : (j ++ j').timer = j.timer ++ j'.timer :=
  List.filter_append ..

theorem timer_eq_nil {j : Journal} {S : SessionId → Prop} (h : ∀ e ∈ j, e.Concerns S) :
    j.timer = [] :=
  List.filter_eq_nil_iff.mpr fun e he => by simp [(h e he).isTimer]

end Journal

/-- The non-occupancy list has each channel that the domain shares with radar once, in the order of
the domain. -/
structure Airspace.Charted (a : Airspace) : Prop where
  channels : a.table.channels = a.domain.radarChannels
  nodup : a.domain.radarChannels.Nodup

private theorem Airspace.Charted.withTable {a : Airspace} {table : Table} (h : a.Charted)
    (ht : table.channels = a.table.channels) : ({ a with table } : Airspace).Charted :=
  ⟨ht.trans h.channels, h.nodup⟩

namespace Turn

variable {S : SessionId → Prop} {env : Surroundings} {now : Instant} {t t' t'' : Turn}
  {s : Session} {id : SessionId}

/-- The step writes about sessions of the set and raises no alarm. The run of listening stays, and
so do the channels on the non-occupancy list. -/
structure Writes (S : SessionId → Prop) (t t' : Turn) : Prop where
  journal : ∃ more, t'.journal = t.journal ++ more ∧ ∀ e ∈ more, e.Concerns S
  run : t'.airspace.run = t.airspace.run
  charted : t.airspace.Charted → t'.airspace.Charted

namespace Writes

private theorem of_eq (hj : t'.journal = t.journal) (ha : t'.airspace = t.airspace) :
    Writes S t t' where
  journal := ⟨[], by rw [hj, List.append_nil], fun _ h => absurd h List.not_mem_nil⟩
  run := congrArg Airspace.run ha
  charted h := ha ▸ h

private theorem refl (t : Turn) : Writes S t t := of_eq rfl rfl

theorem trans (h : Writes S t t') (h' : Writes S t' t'') : Writes S t t'' where
  journal := by
    obtain ⟨more, hj, hmore⟩ := h.journal
    obtain ⟨more', hj', hmore'⟩ := h'.journal
    refine ⟨more ++ more', by rw [hj', hj, List.append_assoc], fun e he => ?_⟩
    exact (List.mem_append.mp he).elim (hmore e) (hmore' e)
  run := h'.run.trans h.run
  charted ht := h'.charted (h.charted ht)

end Writes

theorem writes_record (t : Turn) {e : Entry} (he : e.Concerns S) : Writes S t (t.record e) where
  journal := ⟨[e], rfl, fun _ hx => List.mem_singleton.mp hx ▸ he⟩
  run := rfl
  charted h := h

theorem writes_notify (t : Turn) (hS : S id) {n : Notice} (hn : n.isAlarm = false) :
    Writes S t (t.notify id n) :=
  writes_record t ⟨hS, hn⟩

private theorem writes_command (env : Surroundings) (t : Turn) (hS : S id) (c : Command) :
    Writes S t (t.command env id c).2 :=
  writes_record t hS

private theorem writes_modify (t : Turn) (id : SessionId) (f : Session → Session) :
    Writes S t (t.modify id f) :=
  .of_eq rfl rfl

private theorem writes_enqueue (t : Turn) (id : SessionId) (e : Event) :
    Writes S t (t.enqueue id e) :=
  .of_eq rfl rfl

theorem writes_enter (t : Turn) (hS : S id) (p : Phase) : Writes S t (t.enter id p) := by
  unfold enter
  split
  · exact .refl t
  · rename_i before _
    split
    · exact .refl t
    · exact (writes_modify t id _).trans (writes_record _ hS)

theorem writes_commandElse (env : Surroundings) (t : Turn) (hS : S id) (c : Command) (e : Event) :
    Writes S t (t.commandElse env id c e) := by
  have htold := writes_command env t hS c
  unfold commandElse
  dsimp only
  split
  · exact htold
  · exact htold.trans (writes_enqueue _ id e)

private theorem writes_withTable (t : Turn) {table : Table}
    (h : Table.Viewed now t.airspace.table table) : Writes S t (t.withTable table) where
  journal := (Writes.refl (S := S) t).journal
  run := rfl
  charted ht := ht.withTable h.channels

private theorem writes_closeControl (env : Surroundings) (t : Turn) (hS : S s.id) :
    Writes S t (t.closeControl env s) := by
  unfold closeControl
  split
  · exact (writes_modify t s.id _).trans (writes_command env _ hS _)
  · exact .refl t

private theorem writes_releaseCleared (t : Turn) (s : Session) :
    Writes S t (t.releaseCleared s) where
  journal := (Writes.refl (S := S) t).journal
  run := rfl
  charted h := ⟨h.channels, h.nodup⟩

private theorem writes_rest (env : Surroundings) (t : Turn) (hS : S s.id) :
    Writes S t (t.rest env s) :=
  (((writes_closeControl env t hS).trans (writes_releaseCleared _ s)).trans
    (writes_modify _ s.id Session.clear)).trans (writes_enter _ hS .disconnected)

theorem writes_failStart (env : Surroundings) (t : Turn) (hS : S s.id) :
    Writes S t (t.failStart env s) :=
  (writes_notify t hS rfl).trans (writes_rest env _ hS)

theorem writes_finishStop (env : Surroundings) (t : Turn) (hS : S s.id) :
    Writes S t (t.finishStop env s) :=
  (writes_rest env t hS).trans (writes_notify _ hS rfl)

theorem writes_beginStop (env : Surroundings) (t : Turn) (hS : S id) :
    Writes S t (t.beginStop env id) :=
  (writes_enter t hS .disconnecting).trans (writes_commandElse env _ hS _ _)

private theorem writes_usable (t : Turn) (tu : Tuning) (now : Instant) :
    Writes S t (t.usable tu now).2 := by
  obtain ⟨table, hviewed, heq, -⟩ := usable_cases t tu now
  rw [heq]
  exact writes_withTable t hviewed

private theorem writes_select (env : Surroundings) (t : Turn) (hS : S s.id) (now : Instant) :
    Writes S t (t.select env s now).2 := by
  refine (writes_modify t s.id fun s => { s with ceiling := some s.widest }).trans ?_
  rw [select]
  generalize (t.modify s.id fun s => { s with ceiling := some s.widest }) = m
  have hviewed := Selection.viewed_select? m.airspace.domain m.settings.policy s.settings.range now
    m.airspace.table s.widest (env.octet m.drawn) (tick now)
  dsimp only
  generalize Selection.select? m.airspace.domain m.settings.policy s.settings.range s.widest
    (env.octet m.drawn) (tick now) now m.airspace.table = found at *
  obtain ⟨choice, table⟩ := found
  have hlooked := writes_withTable (S := S) m hviewed
  cases choice with
  | none => exact hlooked
  | some chosen =>
    have hdrawn : Writes S m { m.withTable table with drawn := (m.withTable table).drawn + 1 } :=
      hlooked.trans (.of_eq rfl rfl)
    exact hdrawn.trans (writes_notify _ hS rfl)

private theorem writes_choose (env : Surroundings) (t : Turn) (hS : S s.id) (now : Instant) :
    Writes S t (t.choose env s now).2 := by
  unfold choose
  split
  · exact writes_select env t hS now
  · rename_i c _
    have hlooked := writes_usable (S := S) t (Tuning.resolve c s.widest) now
    dsimp only
    split
    · exact hlooked
    · exact hlooked.trans (writes_select env _ hS now)

private theorem writes_findPlace (env : Surroundings) (now : Instant) (t : Turn)
    (shared : Option Tuning) (hS : S s.id) : Writes S t (findPlace env now t shared s).2 := by
  unfold findPlace
  split
  · exact .refl t
  · exact writes_select env t hS now

theorem writes_beginStart (env : Surroundings) (t : Turn) (hS : S s.id) (tu : Tuning) :
    Writes S t (t.beginStart env s tu) := by
  rw [beginStart_eq]
  exact ((writes_modify t s.id _).trans (writes_enter _ hS .starting)).trans
    (writes_commandElse env _ hS _ _)

theorem writes_awaitListening (t : Turn) (hS : S id) (tu : Tuning) (d : Duration) :
    Writes S t (t.awaitListening id tu d) := by
  have henter := writes_enter t hS .listening
  unfold awaitListening
  dsimp only
  split
  · exact (henter.trans (writes_modify _ id _)).trans (writes_notify _ hS rfl)
  · exact henter

theorem writes_markStarted (t : Turn) (hS : S s.id) : Writes S t (t.markStarted s) :=
  (writes_enter t hS .started).trans (writes_notify _ hS rfl)

theorem writes_openControl (env : Surroundings) (t : Turn) (hS : S s.id) :
    Writes S t (t.openControl env s).2 := by
  unfold openControl
  split
  · exact .refl t
  · have htold := writes_command env t hS .openControl
    dsimp only
    split
    · exact htold.trans (writes_modify _ s.id _)
    · exact htold

theorem writes_ensureTable (env : Surroundings) (t : Turn) (hS : S id) (now : Instant) :
    Writes S t (t.ensureTable env id now).2 := by
  unfold ensureTable
  split
  · exact .refl t
  · split
    · exact .refl t
    · rename_i table htable
      have hlisted := Table.channels_ofDomain htable
      refine (writes_notify t hS (n := .listWanted) rfl).trans
        ⟨(Writes.refl (S := S) _).journal, rfl, fun h => ⟨?_, h.nodup⟩⟩
      exact (Table.channels_seed now table env.kept).trans hlisted

theorem writes_onScanComplete (env : Surroundings) (t : Turn) (hS : S s.id) (success : Bool)
    (now : Instant) : Writes S t (t.onScanComplete env s success now) := by
  cases success with
  | false => exact writes_enqueue t s.id .selectionFailed
  | true =>
    have hwidth := writes_modify (S := S) t s.id fun s => { s with ceiling := some s.widest }
    rw [onScanComplete_eq]
    refine (hwidth.trans (writes_choose env _ hS now)).trans ?_
    unfold settleOn
    split
    · exact writes_beginStart env _ hS _
    · exact (writes_notify _ hS rfl).trans (writes_enqueue _ s.id .selectionFailed)

theorem writes_onSwitchAnnounced (t : Turn) (hS : S s.id) : Writes S t (t.onSwitchAnnounced s) := by
  unfold onSwitchAnnounced
  split
  · exact .refl t
  · exact (writes_enter t hS .disconnecting).trans (writes_enqueue _ s.id _)

theorem writes_onChangeRequest (env : Surroundings) (t : Turn) (hS : S id) (target : Tuning) :
    Writes S t (t.onChangeRequest env id target) := by
  have htold := writes_command env t hS (.changeChannel target)
  unfold onChangeRequest
  dsimp only
  split
  · exact htold
  · exact (htold.trans (writes_modify _ id _)).trans (writes_beginStop env _ hS)

private theorem writes_leaveFor (t : Turn) (hS : S id) (target : Tuning) :
    Writes S t (t.leaveFor id target) :=
  (writes_enter t hS .disconnecting).trans (writes_enqueue _ id _)

private theorem writes_moveTo (env : Surroundings) (t : Turn) (hS : S s.id) (target : Tuning) :
    Writes S t (moveTo env t s target) := by
  refine (writes_modify t s.id fun s => { s with target := some target }).trans ?_
  unfold moveTo
  dsimp only
  split
  · refine (writes_command env _ hS (.announceSwitch target)).trans ?_
    split
    · exact writes_notify _ hS rfl
    · exact writes_leaveFor _ hS target
  · exact writes_leaveFor _ hS target

private theorem writes_evade (env : Surroundings) (now : Instant) (progress : Turn × Option Tuning)
    (hS : S s.id) : Writes S progress.1 (evade env now progress s).1 := by
  obtain ⟨t, shared⟩ := progress
  refine (writes_findPlace env now t shared hS).trans ?_
  rw [evade_eq]
  split
  · exact (writes_notify _ hS rfl).trans (writes_beginStop env _ hS)
  · exact writes_moveTo env _ hS _

private theorem writes_wake (env : Surroundings) (t : Turn) (hS : S s.id) :
    Writes S t (wake env t s) := by
  unfold wake
  split
  · rename_i tu _
    have hsend (t : Turn) : Writes S t (sendOrStop env t s) := by
      refine (writes_command env t hS .startBeacon).trans ?_
      unfold sendOrStop
      dsimp only
      split
      · exact writes_markStarted _ hS
      · exact writes_beginStop env _ hS
    rw [endListening_eq]
    refine Writes.trans ?_ (hsend _)
    split
    · exact .refl t
    · exact (writes_modify t s.id _).trans (writes_notify _ hS rfl)
  · exact .refl t

private theorem writes_foldl {β : Type} (proj : β → Turn) (step : β → Session → β)
    {l : List Session} (hstep : ∀ b, ∀ s ∈ l, Writes S (proj b) (proj (step b s))) (b : β) :
    Writes S (proj b) (proj (l.foldl step b)) := by
  induction l generalizing b with
  | nil => exact .refl _
  | cons s rest ih =>
    have hrest := ih (fun b o ho => hstep b o (List.mem_cons_of_mem s ho)) (step b s)
    exact (hstep b s List.mem_cons_self).trans hrest

private theorem writes_handle_closing (env : Surroundings) (now : Instant) (t : Turn) {e : Event}
    (he : e.isClosing = true) (hS : S id) : Writes S t (t.handle env now id e) := by
  cases hsess : t.session? id with
  | none =>
    rw [handle_closing_of_none hsess]
    exact .refl t
  | some s =>
    have hid := Controller.id_of_session? hsess
    have hS' : S s.id := hid ▸ hS
    rcases handle_closing_cases env now hsess he with
      heq | ⟨-, heq⟩ | ⟨-, heq | ⟨target, -, heq⟩⟩ <;> rw [heq]
    · exact .refl t
    · exact writes_failStart env t hS'
    · exact writes_finishStop env t hS'
    · exact writes_onChangeRequest env t hS target

theorem writes_drain (env : Surroundings) (now : Instant) (n : Nat)
    (hq : ∀ p ∈ t.queue, p.2.isClosing = true ∧ S p.1) : Writes S t (t.drain env now n) := by
  -- By induction on the steps that are left; what an event adds is about the same session.
  induction n generalizing t with
  | zero => exact .refl t
  | succ n ih =>
    rw [drain]
    cases hqueue : t.queue with
    | nil => exact .refl t
    | cons p rest =>
      obtain ⟨id, e⟩ := p
      rw [hqueue] at hq
      obtain ⟨he, hS⟩ := hq (id, e) List.mem_cons_self
      have hrest : ∀ p ∈ rest, p.2.isClosing = true ∧ S p.1 :=
        fun p hp => hq p (List.mem_cons_of_mem (id, e) hp)
      let t₁ : Turn := { t with queue := rest }
      have htaken : Writes S t t₁ := .of_eq rfl rfl
      refine (htaken.trans (writes_handle_closing env now t₁ he hS)).trans (ih ?_)
      rcases leaves_handle_closing env now t₁ id he with hl | ⟨e', he', hl⟩ <;> rw [hl]
      · exact hrest
      · intro p hp
        rcases List.mem_append.mp hp with hp | hp
        · exact hrest p hp
        · obtain rfl := List.mem_singleton.mp hp
          exact ⟨he', hS⟩

/-- What becomes of the run of listening at an instant, and what is asked of the timer meanwhile. -/
inductive RunStep (now : Instant) :
    Option ListeningRun → Option ListeningRun → Journal → Prop
  | stay (run : Option ListeningRun) : RunStep now run run []
  | begun (run : ListeningRun) (startedAt : run.startedAt = now) :
      RunStep now none (some run) [.armed run.duration]
  | discarded (run : ListeningRun) : RunStep now (some run) none [.disarmed]

/-- The answer writes about sessions of the set and raises no alarm; the timer hears of what becomes
of the run of listening, and of nothing else. -/
structure WritesTimed (S : SessionId → Prop) (now : Instant) (t t' : Turn) : Prop where
  journal : ∃ more, t'.journal = t.journal ++ more ∧
    (∀ e ∈ more, e.isTimer = true ∨ e.Concerns S) ∧
    RunStep now t.airspace.run t'.airspace.run (Journal.timer more)
  charted : t.airspace.Charted → t'.airspace.Charted

private theorem Writes.writesTimed (h : Writes S t t') : WritesTimed S now t t' where
  journal := by
    obtain ⟨more, hj, hmore⟩ := h.journal
    refine ⟨more, hj, fun e he => .inr (hmore e he), ?_⟩
    rw [h.run, Journal.timer_eq_nil hmore]
    exact .stay _
  charted := h.charted

private theorem WritesTimed.refl (t : Turn) : WritesTimed S now t t :=
  (Writes.refl t).writesTimed

private theorem WritesTimed.after (h : WritesTimed S now t' t'') (hw : Writes S t t') :
    WritesTimed S now t t'' where
  journal := by
    obtain ⟨more, hj, hmore⟩ := hw.journal
    obtain ⟨more', hj', hmore', hstep⟩ := h.journal
    refine ⟨more ++ more', by rw [hj', hj, List.append_assoc], fun e he => ?_, ?_⟩
    · exact (List.mem_append.mp he).elim (fun h => .inr (hmore e h)) (hmore' e)
    · rwa [Journal.timer_append, Journal.timer_eq_nil hmore, List.nil_append, ← hw.run]
  charted ht := h.charted (hw.charted ht)

private theorem WritesTimed.andThen (h : WritesTimed S now t t') (hw : Writes S t' t'') :
    WritesTimed S now t t'' where
  journal := by
    obtain ⟨more, hj, hmore, hstep⟩ := h.journal
    obtain ⟨more', hj', hmore'⟩ := hw.journal
    refine ⟨more ++ more', by rw [hj', hj, List.append_assoc], fun e he => ?_, ?_⟩
    · exact (List.mem_append.mp he).elim (hmore e) (fun h => .inr (hmore' e h))
    · rwa [Journal.timer_append, Journal.timer_eq_nil hmore', List.append_nil, hw.run]
  charted ht := hw.charted (h.charted ht)

private theorem writesTimed_begin (t : Turn) (hrun : t.airspace.run = none) (run : ListeningRun)
    (hat : run.startedAt = now) :
    WritesTimed S now t ((t.arm run.duration).share fun a => { a with run := some run }) where
  journal := by
    refine ⟨[.armed run.duration], rfl, fun e he => .inl ?_, ?_⟩
    · rw [List.mem_singleton.mp he]
      rfl
    · rw [hrun]
      exact .begun run hat
  charted h := ⟨h.channels, h.nodup⟩

private theorem writesTimed_discard (t : Turn) (hrun : t.airspace.run.isSome = true) :
    WritesTimed S now t (t.share fun a => { a with run := none }).disarm where
  journal := by
    obtain ⟨run, hrun⟩ := Option.isSome_iff_exists.mp hrun
    refine ⟨[.disarmed], rfl, fun e he => .inl ?_, ?_⟩
    · rw [List.mem_singleton.mp he]
      rfl
    · rw [hrun]
      exact .discarded run
  charted h := ⟨h.channels, h.nodup⟩

private theorem writesTimed_beginListening (env : Surroundings) (t : Turn) (hS : S s.id)
    (tu : Tuning) (now : Instant) : WritesTimed S now t (t.beginListening env s tu now) := by
  unfold beginListening
  split
  · split
    · exact (writes_awaitListening t hS tu _).writesTimed
    · exact ((writes_notify t hS rfl).trans (writes_beginStop env _ hS)).writesTimed
  · rename_i hrun
    let run : ListeningRun :=
      ⟨tu.channel, tu.channels, t.airspace.table.listening tu.channels, now⟩
    exact (writesTimed_begin t hrun run rfl).andThen (writes_awaitListening _ hS tu _)

private theorem writesTimed_prepared (env : Surroundings) (t : Turn) (hS : S s.id) (now : Instant)
    {next : Turn → Session → Turn}
    (hnext : ∀ t₁ s₁, s₁.id = s.id → WritesTimed S now t₁ (next t₁ s₁)) :
    WritesTimed S now t (t.prepared env s now next) := by
  have hopen := writes_openControl env t hS
  unfold prepared
  generalize t.openControl env s = opened at *
  obtain ⟨opened, t₁⟩ := opened
  dsimp only at *
  cases opened with
  | false =>
    exact
      (hopen.trans (writes_failStart env t₁ (s := { s with controlOpen := false }) hS)).writesTimed
  | true =>
    have hbuild := writes_ensureTable env t₁ hS now
    generalize t₁.ensureTable env s.id now = built at *
    obtain ⟨built, t₂⟩ := built
    dsimp only at *
    have hready := hopen.trans hbuild
    cases built with
    | false =>
      exact
        (hready.trans
          (writes_failStart env t₂ (s := { s with controlOpen := true }) hS)).writesTimed
    | true => exact (hnext t₂ { s with controlOpen := true } rfl).after hready

private theorem writesTimed_onStartRequest (env : Surroundings) (t : Turn) (hS : S s.id)
    (now : Instant) : WritesTimed S now t (t.onStartRequest env s now) := by
  rw [onStartRequest_eq]
  refine writesTimed_prepared env t hS now fun t₁ s₁ hid => ?_
  have hS₁ : S s₁.id := hid ▸ hS
  exact ((writes_enter t₁ hS₁ .selecting).trans (writes_commandElse env _ hS₁ _ _)).writesTimed

private theorem writesTimed_startGiven (env : Surroundings) (t : Turn) (hS : S s.id)
    (target : Tuning) (now : Instant) : WritesTimed S now t (startGiven env target now t s) := by
  unfold startGiven
  split
  · have htold := writes_command env t hS (.startNetwork (t.startParameters s target))
    dsimp only
    split
    · exact (writesTimed_beginListening env _ hS target now).after htold
    · exact (htold.trans (writes_failStart env _ hS)).writesTimed
  · exact (writes_beginStart env t hS target).writesTimed

private theorem writesTimed_onTunedStartRequest (env : Surroundings) (t : Turn) (hS : S s.id)
    (target : Tuning)
    (now : Instant) : WritesTimed S now t (t.onTunedStartRequest env s target now) := by
  rw [onTunedStartRequest_eq]
  refine writesTimed_prepared env t hS now fun t₁ s₁ hid => ?_
  have hS₁ : S s₁.id := hid ▸ hS
  refine WritesTimed.after ?_ (writes_usable t₁ target now)
  unfold tuneAndStart
  dsimp only
  split
  · let tuned (s : Session) : Session := { s with ceiling := some s.widest, tuning := some target }
    exact (writesTimed_startGiven env _ (s := tuned s₁) hS₁ target now).after
      (writes_modify _ s₁.id tuned)
  · exact ((writes_notify _ hS₁ rfl).trans (writes_failStart env _ hS₁)).writesTimed

private theorem writesTimed_onStartSuccess (env : Surroundings) (t : Turn) (hS : S s.id)
    (now : Instant) : WritesTimed S now t (t.onStartSuccess env s now) := by
  rcases onStartSuccess_cases env t s now with heq | ⟨tu, -, ⟨-, heq⟩ | ⟨-, heq⟩⟩ <;> rw [heq]
  · exact (writes_failStart env t hS).writesTimed
  · exact writesTimed_beginListening env t hS tu now
  · exact (writes_markStarted t hS).writesTimed

private theorem writesTimed_onListeningStop (env : Surroundings) (t : Turn) (hS : S id)
    (now : Instant) : WritesTimed S now t (t.onListeningStop env id) := by
  unfold onListeningStop
  dsimp only
  split
  · rename_i hend
    exact (writesTimed_discard t (Bool.and_eq_true_iff.mp hend).2).andThen
      (writes_beginStop env _ hS)
  · exact (writes_beginStop env t hS).writesTimed

private theorem writesTimed_onChannelChanged (env : Surroundings) (t : Turn) (hS : S s.id)
    (tuning : Tuning)
    (now : Instant) : WritesTimed S now t (t.onChannelChanged env s tuning now) := by
  cases htg : s.target with
  | none =>
    rw [onChannelChanged, htg]
    exact (writes_modify t s.id _).writesTimed
  | some target =>
    rw [onChannelChanged_of_target htg, goOn]
    have htold := (writes_modify t s.id (arrive tuning)).trans
      (writes_notify _ hS (n := .channelChanged tuning) rfl)
    split
    · exact (writesTimed_beginListening env _ (s := arrive tuning s) hS tuning now).after htold
    · exact (htold.trans (writes_enter _ hS .started)).writesTimed

private theorem writesTimed_abortListening (t : Turn) (channels : List Channel) (now : Instant) :
    WritesTimed S now t (t.abortListening channels) := by
  unfold abortListening
  split
  · rename_i hhit
    refine writesTimed_discard t ?_
    cases hrun : t.airspace.run with
    | none => simp [hrun] at hhit
    | some run => rfl
  · exact .refl t

private theorem writesTimed_handle (env : Surroundings) (now : Instant)
    (hsess : t.session? id = some s)
    (hS : S id) {e : Event} (hreport : s.reports? e = none) (hover : s.awaits e = false) :
    WritesTimed S now t (t.handle env now id e) := by
  have hanswer := answers_handle env now hsess e
  rw [← Controller.id_of_session? hsess] at hS hanswer ⊢
  generalize t.handle env now s.id e = t' at hanswer ⊢
  cases hanswer with
  | start => exact writesTimed_onStartRequest env t hS now
  | tunedStart target => exact writesTimed_onTunedStartRequest env t hS target now
  | scanned success => exact (writes_onScanComplete env t hS success now).writesTimed
  | fail => exact (writes_failStart env t hS).writesTimed
  | started => exact writesTimed_onStartSuccess env t hS now
  | confirmed tuning => exact writesTimed_onChannelChanged env t hS tuning now
  | ended hp => simp [Session.awaits, hp] at hover
  | radar channels hp => simp [Session.reports?, hp] at hreport
  | stopListening => exact writesTimed_onListeningStop env t hS now
  | stop => exact (writes_beginStop env t hS).writesTimed
  | announced => exact (writes_onSwitchAnnounced t hS).writesTimed
  | joined | left => exact ((writes_modify t s.id _).trans (writes_notify _ hS rfl)).writesTimed
  | change target => exact (writes_onChangeRequest env t hS target).writesTimed
  | arrived tuning =>
    have hfirst : Writes S (t.enter s.id .starting)
        ((t.enter s.id .starting).enqueueFirst s.id (.channelChanged tuning)) := .of_eq rfl rfl
    exact ((writes_enter t hS .starting).trans hfirst).writesTimed
  | stopped => exact (writes_finishStop env t hS).writesTimed
  | ignored => exact .refl t

private theorem writesTimed_react (env : Surroundings) (now : Instant)
    (hsess : t.session? id = some s)
    (hS : S id) {e : Event} (hreport : s.reports? e = none) (hover : s.awaits e = false) :
    WritesTimed S now t (t.react env now id e) := by
  by_cases harr : Arrives s e
  · obtain ⟨hp, htg, tuning, rfl⟩ := harr
    have hreact := (react_of_arrives env now hsess ⟨hp, htg, tuning, rfl⟩).2
    have hstarts := session?_enter hsess .starting
    rw [hreact]
    exact (writesTimed_handle env now hstarts hS (by rfl) (by rfl)).after
      (writes_enter t hS .starting)
  · rw [react_of_not_arrives hsess harr]
    exact writesTimed_handle env now hsess hS hreport hover

private theorem writes_onListeningOver {run : ListeningRun} (h : t.airspace.run = some run)
    (env : Surroundings) (hS : ∀ s ∈ t.waiting run, S s.id) :
    Writes S (t.share (credited run)) (t.onListeningOver env) := by
  rw [onListeningOver_of_run h]
  exact writes_foldl (fun t => t) (wake env) (fun b s hs => writes_wake env b (hS s hs)) _

/-- Who hears of radar on the channels: the sessions that it concerns, or else the one that reports
it. -/
def heard (t : Turn) (channels : List Channel) (id : SessionId) : List SessionId :=
  if (t.affected channels).isEmpty then [id] else (t.affected channels).map (·.id)

def warnings (channels : List Channel) (ids : List SessionId) : Journal :=
  ids.map fun id => .notice id (.radarDetected channels)

private theorem journal_warn (t : Turn) (channels : List Channel) (l : List Session) :
    (t.warn channels l).journal = t.journal ++ warnings channels (l.map (·.id)) ∧
      (t.warn channels l).airspace = t.airspace := by
  unfold warn
  induction l generalizing t with
  | nil => exact ⟨(List.append_nil _).symm, rfl⟩
  | cons s rest ih =>
    obtain ⟨hj, ha⟩ := ih (t.notify s.id (.radarDetected channels))
    refine ⟨?_, ha⟩
    rw [List.foldl_cons, hj]
    simp [notify, record, warnings]

private theorem exists_disperse (env : Surroundings) (t : Turn) (channels : List Channel)
    (now : Instant) (id : SessionId) :
    ∃ t₁ : Turn, t₁.journal = t.journal ++ warnings channels (t.heard channels id) ∧
      t₁.airspace = t.airspace ∧
        WritesTimed (fun _ => True) now t₁ (t.disperse env channels now id) := by
  unfold disperse heard
  split
  · exact ⟨t.notify id (.radarDetected channels), rfl, rfl, .refl _⟩
  · let warned := t.warn channels (t.affected channels)
    obtain ⟨hj, ha⟩ := journal_warn t channels (t.affected channels)
    refine ⟨warned, hj, ha, ?_⟩
    have hfled := writes_foldl (S := fun _ => True) Prod.fst (evade env now)
      (fun b _ _ => writes_evade env now b trivial) (l := t.affected channels)
      (warned.abortListening channels, none)
    exact (writesTimed_abortListening warned channels now).andThen hfled

/-- What is written about radar: first the list on which it is, then the warnings, and then all that
follows. -/
private theorem exists_onRadar (env : Surroundings) (t : Turn) (s : Session)
    (channels : List Channel) (now : Instant) {chs : List Channel}
    (hchs : chs = if channels.isEmpty then s.occupied else channels) :
    ∃ t₁ : Turn, t₁.journal = t.journal ++
        .notice s.id (.listChanged ((struck now chs t.airspace).table.records now)) ::
          warnings chs (t.heard chs s.id) ∧
      t₁.airspace = struck now chs t.airspace ∧
      WritesTimed (fun _ => True) now t₁ (t.onRadar env s channels now) := by
  rw [onRadar_eq, ← hchs]
  let listed := (t.share (struck now chs)).notify s.id
    (.listChanged ((struck now chs t.airspace).table.records now))
  obtain ⟨t₁, hj, ha, hwrites⟩ := exists_disperse env listed chs now s.id
  refine ⟨t₁, ?_, ha, hwrites⟩
  have hlisted : listed.journal = t.journal ++
      [.notice s.id (.listChanged ((struck now chs t.airspace).table.records now))] := rfl
  rw [hj, hlisted, List.append_assoc]
  rfl

end Turn

namespace Controller

open Turn (WritesTimed Writes)

variable {c : Controller} {now : Instant} {id : SessionId} {s : Session} {e : Event}

/-- An event that neither reports radar nor ends listening is answered, and what follows is handled,
with lines about the session alone. -/
theorem writesTimed_dispatch (hs : c.Sound) (h : c.session? id = some s)
    (hreport : s.reports? e = none)
    (hover : s.awaits e = false) (env : Surroundings) (now : Instant) :
    WritesTimed (· = id) now c.turn ((c.turn.enqueue id e).settle env now) := by
  obtain ⟨n, hsettle, -⟩ := Turn.settle_enqueue env now e hs.queue h
  have hq : c.turn.queue = [] := hs.queue
  rw [hsettle]
  refine (Turn.writesTimed_react (S := (· = id)) (t := c.turn) env now h rfl hreport hover).andThen
    (Turn.writes_drain env now n ?_)
  rcases Turn.leaves_react env now (t := c.turn) h hreport hover with hl | ⟨e', he', hl⟩ <;>
    rw [hl, hq]
  · exact fun p hp => absurd hp List.not_mem_nil
  · simpa using he'

theorem exists_dispatch_of_reports (hs : c.Sound) (h : c.session? id = some s) {chs : List Channel}
    (hreport : s.reports? e = some chs) (env : Surroundings) (now : Instant) :
    ∃ t₁ : Turn, t₁.journal =
        .notice id (.listChanged ((Turn.struck now chs c.airspace).table.records now)) ::
          Turn.warnings chs (c.turn.heard chs id) ∧
      t₁.airspace = Turn.struck now chs c.airspace ∧
      WritesTimed (fun _ => True) now t₁ ((c.turn.enqueue id e).settle env now) := by
  obtain ⟨n, hsettle, -⟩ := Turn.settle_enqueue env now e hs.queue h
  obtain ⟨channels, hchs, hreact⟩ := Turn.react_of_reports env now (t := c.turn) h hreport
  obtain ⟨t₁, hj, ha, hwrites⟩ := Turn.exists_onRadar env c.turn s channels now hchs
  have hclosing := (closing_react hs h env now e).1
  rw [id_of_session? h] at hj
  rw [hreact] at hclosing
  rw [hsettle, hreact]
  exact ⟨t₁, hj, ha, hwrites.andThen
    (Turn.writes_drain env now n fun p hp => ⟨hclosing p hp, trivial⟩)⟩

theorem writes_drain_onListeningOver (hs : c.Sound) {run : ListeningRun}
    (hrun : c.airspace.run = some run) (env : Surroundings) (now : Instant) (n : Nat) :
    Writes (fun _ => True) (c.turn.share (Turn.credited run))
      ((c.turn.onListeningOver env).drain env now n) := by
  obtain ⟨-, hclosing, -⟩ := onListeningOver_spec hs hrun env
  exact (Turn.writes_onListeningOver (t := c.turn) hrun env fun _ _ => trivial).trans
    (Turn.writes_drain env now n fun p hp => ⟨hclosing p hp, trivial⟩)

theorem writes_drain_of_idle (hs : c.Sound) (hrun : c.airspace.run = none) (env : Surroundings)
    (now : Instant) (n : Nat) :
    Writes (fun _ => True) c.turn ((c.turn.onListeningOver env).drain env now n) := by
  have hq : c.turn.queue = [] := hs.queue
  rw [Turn.onListeningOver_of_none (t := c.turn) hrun env]
  refine Turn.writes_drain env now n fun p hp => ?_
  rw [hq] at hp
  exact absurd hp List.not_mem_nil

end Controller

end Hotspot

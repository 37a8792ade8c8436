import Hotspot.Proofs.AccessPoint.Ledger
import Hotspot.Proofs.AccessPoint.Run
import Mathlib.Data.List.Perm.Subperm

/-!
Which sessions are open. Only opening and closing touch the numbers of the sessions, and nothing
touches the settings of the radio; so the sessions stay in the order of their numbers, no number is
given twice, and there are never more than the settings allow. As fewer are allowed than there are
numbers, a session that may be opened always finds one.
-/

set_option autoImplicit false
set_option relaxedAutoImplicit false

namespace Hotspot

/-- What no event changes: the settings of the radio and the numbers of the sessions. -/
structure Roster where
  settings : Settings
  ids : List SessionId

def Controller.roster (c : Controller) : Roster :=
  ⟨c.settings, c.sessions.map (·.id)⟩

namespace Turn

@[simp] theorem roster_record (t : Turn) (e : Entry) : (t.record e).roster = t.roster := rfl

@[simp] theorem roster_notify (t : Turn) (id : SessionId) (n : Notice) :
    (t.notify id n).roster = t.roster := rfl

@[simp] theorem roster_command (env : Surroundings) (t : Turn) (id : SessionId) (c : Command) :
    (t.command env id c).2.roster = t.roster := rfl

@[simp] theorem roster_share (t : Turn) (f : Airspace → Airspace) :
    (t.share f).roster = t.roster := rfl

@[simp] theorem roster_withTable (t : Turn) (table : NonOccupancy.Table) :
    (t.withTable table).roster = t.roster := rfl

@[simp] theorem roster_enqueue (t : Turn) (id : SessionId) (e : Event) :
    (t.enqueue id e).roster = t.roster := rfl

@[simp] theorem roster_arm (t : Turn) (d : Duration) : (t.arm d).roster = t.roster := rfl

@[simp] theorem roster_disarm (t : Turn) : t.disarm.roster = t.roster := rfl

@[simp] theorem roster_modify (t : Turn) (id : SessionId) {f : Session → Session}
    (hf : ∀ s, (f s).id = s.id) : (t.modify id f).roster = t.roster := by
  rw [Controller.roster, ids_modify t id hf]
  rfl

@[simp] theorem roster_enter (t : Turn) (id : SessionId) (p : Phase) :
    (t.enter id p).roster = t.roster := by
  unfold enter
  split
  · rfl
  · split
    · rfl
    · rw [roster_record, roster_modify]
      exact fun _ => rfl

@[simp] theorem roster_commandElse (env : Surroundings) (t : Turn) (id : SessionId) (c : Command)
    (e : Event) : (t.commandElse env id c e).roster = t.roster := by
  unfold commandElse
  dsimp only
  split <;> rfl

@[simp] theorem roster_closeControl (env : Surroundings) (t : Turn) (s : Session) :
    (t.closeControl env s).roster = t.roster := by
  unfold closeControl
  split
  · simp
  · rfl

@[simp] theorem roster_rest (env : Surroundings) (t : Turn) (s : Session) :
    (t.rest env s).roster = t.roster := by
  rw [rest, roster_enter, roster_modify, releaseCleared, roster_share, roster_closeControl]
  exact fun _ => rfl

@[simp] theorem roster_failStart (env : Surroundings) (t : Turn) (s : Session) :
    (t.failStart env s).roster = t.roster := by
  simp [failStart]

@[simp] theorem roster_finishStop (env : Surroundings) (t : Turn) (s : Session) :
    (t.finishStop env s).roster = t.roster := by
  simp [finishStop]

@[simp] theorem roster_beginStop (env : Surroundings) (t : Turn) (id : SessionId) :
    (t.beginStop env id).roster = t.roster := by
  unfold beginStop
  dsimp only
  split <;> simp

@[simp] theorem roster_usable (t : Turn) (target : Tuning) (now : Instant) :
    (t.usable target now).2.roster = t.roster := by
  obtain ⟨table, -, heq, -⟩ := usable_cases t target now
  rw [heq, roster_withTable]

@[simp] theorem roster_select (env : Surroundings) (t : Turn) (s : Session) (now : Instant) :
    (t.select env s now).2.roster = t.roster := by
  have hwidth : (t.modify s.id fun s => { s with ceiling := some s.widest }).roster = t.roster :=
    roster_modify t s.id fun _ => rfl
  rw [select]
  generalize (t.modify s.id fun s => { s with ceiling := some s.widest }) = m at *
  dsimp only
  split <;> exact hwidth

@[simp] theorem roster_choose (env : Surroundings) (t : Turn) (s : Session) (now : Instant) :
    (t.choose env s now).2.roster = t.roster := by
  unfold choose
  split
  · simp
  · dsimp only
    split <;> simp

@[simp] theorem roster_findPlace (env : Surroundings) (now : Instant) (t : Turn)
    (shared : Option Tuning) (s : Session) :
    (findPlace env now t shared s).2.roster = t.roster := by
  unfold findPlace
  split
  · rfl
  · simp

@[simp] theorem roster_beginStart (env : Surroundings) (t : Turn) (s : Session) (tu : Tuning) :
    (t.beginStart env s tu).roster = t.roster := by
  simp [beginStart_eq]

@[simp] theorem roster_awaitListening (t : Turn) (id : SessionId) (tu : Tuning) (d : Duration) :
    (t.awaitListening id tu d).roster = t.roster := by
  unfold awaitListening
  dsimp only
  split <;> simp

@[simp] theorem roster_beginListening (env : Surroundings) (t : Turn) (s : Session) (tu : Tuning)
    (now : Instant) : (t.beginListening env s tu now).roster = t.roster := by
  unfold beginListening
  split
  · split <;> simp
  · simp

@[simp] theorem roster_markStarted (t : Turn) (s : Session) :
    (t.markStarted s).roster = t.roster := by
  simp [markStarted]

@[simp] theorem roster_openControl (env : Surroundings) (t : Turn) (s : Session) :
    (t.openControl env s).2.roster = t.roster := by
  unfold openControl
  split
  · rfl
  · dsimp only
    split <;> simp

@[simp] theorem roster_ensureTable (env : Surroundings) (t : Turn) (id : SessionId)
    (now : Instant) : (t.ensureTable env id now).2.roster = t.roster := by
  unfold ensureTable
  split
  · rfl
  · split <;> rfl

private theorem roster_prepared (env : Surroundings) (t : Turn) (s : Session) (now : Instant)
    {next : Turn → Session → Turn} (hnext : ∀ t s, (next t s).roster = t.roster) :
    (t.prepared env s now next).roster = t.roster := by
  unfold prepared
  dsimp only
  split
  · split <;> simp [hnext]
  · simp

@[simp] theorem roster_onStartRequest (env : Surroundings) (t : Turn) (s : Session)
    (now : Instant) : (t.onStartRequest env s now).roster = t.roster := by
  rw [onStartRequest_eq, roster_prepared]
  simp

@[simp] theorem roster_startGiven (env : Surroundings) (target : Tuning) (now : Instant) (t : Turn)
    (s : Session) : (startGiven env target now t s).roster = t.roster := by
  unfold startGiven
  split
  · dsimp only
    split <;> simp
  · simp

@[simp] theorem roster_onTunedStartRequest (env : Surroundings) (t : Turn) (s : Session)
    (target : Tuning) (now : Instant) :
    (t.onTunedStartRequest env s target now).roster = t.roster := by
  rw [onTunedStartRequest_eq, roster_prepared]
  intro t s
  unfold tuneAndStart
  dsimp only
  split <;> simp

@[simp] theorem roster_onScanComplete (env : Surroundings) (t : Turn) (s : Session)
    (success : Bool) (now : Instant) : (t.onScanComplete env s success now).roster = t.roster := by
  cases success with
  | false => rfl
  | true =>
    rw [onScanComplete_eq]
    unfold settleOn
    split <;> simp

@[simp] theorem roster_onStartSuccess (env : Surroundings) (t : Turn) (s : Session)
    (now : Instant) : (t.onStartSuccess env s now).roster = t.roster := by
  unfold onStartSuccess
  split
  · simp
  · split <;> simp

@[simp] theorem roster_wake (env : Surroundings) (t : Turn) (s : Session) :
    (wake env t s).roster = t.roster := by
  unfold wake
  split
  · rw [endListening_eq]
    unfold sendOrStop
    dsimp only
    split <;> split <;> simp
  · rfl

@[simp] theorem roster_leaveFor (t : Turn) (id : SessionId) (target : Tuning) :
    (t.leaveFor id target).roster = t.roster := by
  simp [leaveFor]

@[simp] theorem roster_moveTo (env : Surroundings) (t : Turn) (s : Session) (target : Tuning) :
    (moveTo env t s target).roster = t.roster := by
  unfold moveTo
  dsimp only
  split
  · split <;> simp
  · simp

private theorem roster_evade (env : Surroundings) (now : Instant) (progress : Turn × Option Tuning)
    (s : Session) : (evade env now progress s).1.roster = progress.1.roster := by
  rw [evade_eq]
  split <;> simp

private theorem roster_foldl {β : Type} (proj : β → Turn) {step : β → Session → β}
    (hstep : ∀ b s, (proj (step b s)).roster = (proj b).roster) (l : List Session) (b : β) :
    (proj (l.foldl step b)).roster = (proj b).roster := by
  induction l generalizing b with
  | nil => rfl
  | cons s rest ih => exact (ih (step b s)).trans (hstep b s)

@[simp] theorem roster_onListeningOver (env : Surroundings) (t : Turn) :
    (t.onListeningOver env).roster = t.roster := by
  cases hrun : t.airspace.run with
  | none => rw [onListeningOver_of_none hrun]
  | some run =>
    rw [onListeningOver_of_run hrun]
    exact roster_foldl (fun t => t) (roster_wake env) _ _

@[simp] theorem roster_abortListening (t : Turn) (channels : List Channel) :
    (t.abortListening channels).roster = t.roster := by
  unfold abortListening
  split <;> rfl

@[simp] theorem roster_disperse (env : Surroundings) (t : Turn) (channels : List Channel)
    (now : Instant) (id : SessionId) : (t.disperse env channels now id).roster = t.roster := by
  unfold disperse
  split
  · rfl
  · rw [roster_foldl Prod.fst (roster_evade env now), roster_abortListening]
    exact roster_foldl (fun t => t) (fun t s => roster_notify t s.id _) _ t

@[simp] theorem roster_onRadar (env : Surroundings) (t : Turn) (s : Session)
    (channels : List Channel) (now : Instant) :
    (t.onRadar env s channels now).roster = t.roster := by
  simp [onRadar_eq]

@[simp] theorem roster_onListeningStop (env : Surroundings) (t : Turn) (id : SessionId) :
    (t.onListeningStop env id).roster = t.roster := by
  unfold onListeningStop
  dsimp only
  split <;> simp

@[simp] theorem roster_onSwitchAnnounced (t : Turn) (s : Session) :
    (t.onSwitchAnnounced s).roster = t.roster := by
  unfold onSwitchAnnounced
  split <;> simp

@[simp] theorem roster_onChangeRequest (env : Surroundings) (t : Turn) (id : SessionId)
    (target : Tuning) : (t.onChangeRequest env id target).roster = t.roster := by
  unfold onChangeRequest
  dsimp only
  split <;> simp

@[simp] theorem roster_onChannelChanged (env : Surroundings) (t : Turn) (s : Session)
    (tuning : Tuning) (now : Instant) :
    (t.onChannelChanged env s tuning now).roster = t.roster := by
  unfold onChannelChanged
  split
  · simp
  · dsimp only
    split <;> simp

private theorem roster_handle (env : Surroundings) (now : Instant) (t : Turn) (id : SessionId)
    (e : Event) : (t.handle env now id e).roster = t.roster := by
  cases hsess : t.session? id with
  | none => rw [handle, hsess]
  | some s =>
    have hanswer := answers_handle env now hsess e
    generalize t.handle env now id e = t' at hanswer ⊢
    cases hanswer with
    | joined => simp [onStationJoined]
    | left => simp [onStationLeft]
    | arrived => exact roster_enter t _ _
    | ignored => rfl
    | _ => simp

private theorem roster_drain (env : Surroundings) (now : Instant) (n : Nat) (t : Turn) :
    (t.drain env now n).roster = t.roster := by
  induction n generalizing t with
  | zero => rfl
  | succ n ih =>
    rw [drain]
    split
    · rfl
    · rw [ih, roster_handle]
      rfl

end Turn

/-- The settings are as they were, the sessions stand in the order of their numbers, so that no
number is given twice, and there are no more of them than the settings allow. -/
structure Roster.Orderly (settings : Settings) (r : Roster) : Prop where
  unchanged : r.settings = settings
  ascending : r.ids.Pairwise (· < ·)
  bounded : r.ids.length ≤ settings.maxSessions

private theorem Settings.maxSessions_lt_of_validate {settings : Settings}
    (h : settings.validate = .ok ()) : settings.maxSessions < 256 := by
  unfold validate at h
  split at h
  · cases h
  · rename_i hcount
    rw [Bool.or_eq_true, decide_eq_true_eq] at hcount
    omega

namespace Controller

variable {c c' : Controller} {id : SessionId} {s : Session} {request : SessionSettings}
  {op : Operation} {now : Instant} {settings : Settings} {domain : Domain}

private theorem session?_eq_none_iff : c.session? id = none ↔ id ∉ c.roster.ids := by
  simp [session?, roster, List.find?_eq_none]

private theorem nodup_numbers : ((List.range 256).map UInt8.ofNat).Nodup := by
  refine List.Nodup.map_on (fun m hm n hn h => ?_) List.nodup_range
  have hsame := congrArg UInt8.toNat h
  rw [UInt8.toNat_ofNat', UInt8.toNat_ofNat', Nat.mod_eq_of_lt (List.mem_range.mp hm),
    Nat.mod_eq_of_lt (List.mem_range.mp hn)] at hsame
  exact hsame

private theorem freeId?_eq_some_iff : c.freeId? = some id ↔
    c.session? id = none ∧ ∀ k, k < id → c.session? k ≠ none := by
  rw [freeId?, List.find?_map, Option.map_eq_some_iff]
  simp only [List.find?_range_eq_some, Function.comp_apply, List.mem_range,
    Option.isNone_iff_eq_none, Bool.not_eq_true', Option.isNone_eq_false_iff,
    Option.isSome_iff_ne_none]
  constructor
  · rintro ⟨n, ⟨hfree, hn, hleast⟩, rfl⟩
    refine ⟨hfree, fun k hk => ?_⟩
    have hkn : k.toNat < n := by simpa [UInt8.lt_iff_toNat_lt, Nat.mod_eq_of_lt hn] using hk
    simpa using hleast k.toNat hkn
  · rintro ⟨hfree, hleast⟩
    refine ⟨id.toNat, ⟨by simpa using hfree, id.toNat_lt, fun n hn => ?_⟩, UInt8.ofNat_toNat⟩
    have hlt : n < 256 := Nat.lt_trans hn id.toNat_lt
    apply hleast
    simpa [UInt8.lt_iff_toNat_lt, Nat.mod_eq_of_lt hlt] using hn

private theorem exists_freeId? (h : c.sessions.length < 256) : ∃ id, c.freeId? = some id := by
  cases hfree : c.freeId? with
  | some id => exact ⟨id, rfl⟩
  | none =>
    have hall : (List.range 256).map UInt8.ofNat ⊆ c.roster.ids := by
      intro id hid
      have htaken := List.find?_eq_none.mp hfree id hid
      by_contra hnot
      rw [session?_eq_none_iff.mpr hnot] at htaken
      exact htaken rfl
    have hcount := (List.subperm_of_subset nodup_numbers hall).length_le
    rw [List.length_map, List.length_range, roster, List.length_map] at hcount
    omega

private theorem openSession_eq_ok_iff : c.openSession request = .ok (id, c') ↔
    c.sessions.length < c.settings.maxSessions ∧ request.validate c.airspace.domain = .ok () ∧
      c.freeId? = some id ∧ c' = { c with sessions := insert (.fresh id request) c.sessions } := by
  unfold openSession
  by_cases hfull : c.settings.maxSessions ≤ c.sessions.length
  · rw [if_pos hfull]
    exact ⟨nofun, fun h => absurd h.1 (Nat.not_lt.mpr hfull)⟩
  · rw [if_neg hfull]
    cases request.validate c.airspace.domain with
    | error fault => exact ⟨nofun, fun h => nomatch h.2.1⟩
    | ok _ =>
      cases c.freeId? with
      | none => exact ⟨nofun, fun h => nomatch h.2.2.1⟩
      | some new =>
        constructor
        · intro h
          cases h
          exact ⟨Nat.not_le.mp hfull, rfl, rfl, rfl⟩
        · rintro ⟨-, -, hid, rfl⟩
          cases hid
          rfl

private theorem session?_openSession (h : c.openSession request = .ok (id, c')) :
    (c.session? id = none ∧ ∀ k, k < id → c.session? k ≠ none) ∧
      c'.session? id = some (.fresh id request) ∧
      ∀ k, k ≠ id → c'.session? k = c.session? k := by
  obtain ⟨hnew, -⟩ := openSession_eq h
  obtain ⟨-, -, hid, hc'⟩ := openSession_eq_ok_iff.mp h
  have hfind (k : SessionId) : c'.session? k =
      if k = id then some (.fresh id request) else c.session? k := by
    rw [hc']
    exact find?_insert (s := .fresh id request) hnew k
  exact ⟨freeId?_eq_some_iff.mp hid, by rw [hfind, if_pos rfl],
    fun k hk => by rw [hfind, if_neg hk]⟩

private theorem ascending_insert {l : List Session} (h : (l.map (·.id)).Pairwise (· < ·))
    (hs : ∀ o ∈ l, o.id ≠ s.id) : ((insert s l).map (·.id)).Pairwise (· < ·) := by
  -- By induction on the sessions that are there, as the place is looked for.
  induction l with
  | nil => exact List.pairwise_singleton _ _
  | cons o rest ih =>
    rw [List.map_cons, List.pairwise_cons] at h
    obtain ⟨hfirst, hrest⟩ := h
    unfold insert
    split
    · rename_i hlt
      have hall : ∀ k ∈ (o :: rest).map (·.id), s.id < k := by
        intro k hk
        rcases List.mem_cons.mp hk with rfl | hk
        · exact hlt
        · exact UInt8.lt_trans hlt (hfirst k hk)
      exact List.pairwise_cons.mpr ⟨hall, List.pairwise_cons.mpr ⟨hfirst, hrest⟩⟩
    · rename_i hnot
      have hlt : o.id < s.id :=
        UInt8.lt_of_le_of_ne (UInt8.not_lt.mp hnot) (hs o List.mem_cons_self)
      have hall : ∀ k ∈ (insert s rest).map (·.id), o.id < k := by
        intro k hk
        rw [((perm_insert s rest).map (·.id)).mem_iff] at hk
        rcases List.mem_cons.mp hk with rfl | hk
        · exact hlt
        · exact hfirst k hk
      exact List.pairwise_cons.mpr ⟨hall, ih hrest fun x hx => hs x (List.mem_cons_of_mem o hx)⟩

theorem roster_perform (htime : op.now? = some now) : (c.perform op).1.roster = c.roster := by
  cases op with
  | openSession | closeSession | setDomain => cases htime
  | listeningOver env now => exact (Turn.roster_drain ..).trans (Turn.roster_onListeningOver env _)
  | dispatch env now id e =>
    cases hsess : c.session? id with
    | none => rw [perform_dispatch_of_none hsess]
    | some s =>
      rw [perform_dispatch hsess]
      exact (Turn.roster_drain ..).trans (Turn.roster_enqueue _ id e)

private theorem orderly_openSession (hc : c.roster.Orderly settings)
    (h : c.openSession request = .ok (id, c')) : c'.roster.Orderly settings := by
  obtain ⟨hnew, -⟩ := openSession_eq h
  obtain ⟨hroom, -, -, rfl⟩ := openSession_eq_ok_iff.mp h
  refine ⟨hc.unchanged, ascending_insert hc.ascending hnew, ?_⟩
  have hcount := (perm_insert (.fresh id request) c.sessions).length_eq
  have hsame : c.settings = settings := hc.unchanged
  rw [roster, List.length_map, hcount, List.length_cons, ← hsame]
  exact hroom

private theorem orderly_closeSession (hc : c.roster.Orderly settings)
    (h : c.closeSession id = .ok c') : c'.roster.Orderly settings := by
  obtain ⟨-, rfl⟩ := closeSession_eq h
  have hsub : ((c.sessions.filter (·.id != id)).map (·.id)).Sublist (c.sessions.map (·.id)) :=
    List.filter_sublist.map _
  exact ⟨hc.unchanged, hc.ascending.sublist hsub, Nat.le_trans hsub.length_le hc.bounded⟩

theorem orderly_perform (hc : c.roster.Orderly settings) (op : Operation) :
    (c.perform op).1.roster.Orderly settings := by
  cases op with
  | dispatch | listeningOver => rwa [roster_perform rfl]
  | openSession request =>
    cases h : c.openSession request with
    | error fault => simpa only [perform, h] using hc
    | ok result => simpa only [perform, h] using orderly_openSession hc h
  | closeSession id =>
    cases h : c.closeSession id with
    | error fault => simpa only [perform, h] using hc
    | ok c' => simpa only [perform, h] using orderly_closeSession hc h
  | setDomain domain =>
    cases h : c.setDomain domain with
    | error fault => simpa only [perform, h] using hc
    | ok c' =>
      obtain ⟨-, table, -, rfl⟩ := setDomain_eq h
      rw [perform, h]
      exact hc

private theorem validate_of_create (h : create settings domain = .ok c) :
    settings.validate = .ok () := by
  cases hv : settings.validate with
  | ok _ => rfl
  | error fault =>
    rw [create, hv] at h
    cases h

theorem orderly_after (h : create settings domain = .ok c) (ops : List Operation) :
    (c.after ops).roster.Orderly settings := by
  induction ops using List.reverseRecOn with
  | nil =>
    obtain ⟨table, -, rfl⟩ := create_eq h
    exact ⟨rfl, .nil, Nat.zero_le _⟩
  | append_singleton ops op ih =>
    rw [after_concat]
    exact orderly_perform ih op

theorem exists_freeId?_after (h : create settings domain = .ok c) (ops : List Operation) :
    ∃ id, (c.after ops).freeId? = some id := by
  have hbounded := (orderly_after h ops).bounded
  have hlimit := Settings.maxSessions_lt_of_validate (validate_of_create h)
  rw [roster, List.length_map] at hbounded
  exact exists_freeId? (Nat.lt_of_le_of_lt hbounded hlimit)

/-- After any operations there are no more sessions than the settings allow, and each is found under
its own number. A number for a further one is always left, and it is opened exactly if there are
fewer and its settings are accepted for the domain. It gets the smallest number that nobody has, it
is off the air, and the others stay as they are. -/
theorem enrolled_after (h : create settings domain = .ok c) (ops : List Operation) :
    (c.after ops).sessions.length ≤ settings.maxSessions ∧
      ((c.after ops).sessions.map (·.id)).Pairwise (· < ·) ∧
      (∀ s ∈ (c.after ops).sessions, (c.after ops).session? s.id = some s) ∧
      (∃ id, (c.after ops).freeId? = some id) ∧
      ∀ request : SessionSettings,
        ((∃ id c', (c.after ops).openSession request = .ok (id, c')) ↔
          (c.after ops).sessions.length < settings.maxSessions ∧
            request.validate (c.after ops).airspace.domain = .ok ()) ∧
        ∀ id c', (c.after ops).openSession request = .ok (id, c') →
          (c.after ops).session? id = none ∧ (∀ k, k < id → (c.after ops).session? k ≠ none) ∧
          c'.session? id = some (.fresh id request) ∧ c'.phase? id = some .disconnected ∧
          (∀ k, k ≠ id → c'.session? k = (c.after ops).session? k) ∧
          c.after (ops ++ [.openSession request]) = c' := by
  have horderly := orderly_after h ops
  have hs : (c.after ops).Sound := sound_after (sound_create h) ops
  obtain ⟨free, hfree⟩ := exists_freeId?_after h ops
  simp only [after_concat]
  generalize c.after ops = c at horderly hs hfree ⊢
  have hsame : c.settings = settings := horderly.unchanged
  have hbounded : c.sessions.length ≤ settings.maxSessions := by
    simpa [roster] using horderly.bounded
  refine ⟨hbounded, horderly.ascending, fun s => session?_of_mem hs.scene.nodup, ⟨free, hfree⟩,
    fun request => ⟨?_, fun id c' hopen => ?_⟩⟩
  · rw [← hsame]
    constructor
    · rintro ⟨id, c', hopen⟩
      obtain ⟨hroom, hvalid, -⟩ := openSession_eq_ok_iff.mp hopen
      exact ⟨hroom, hvalid⟩
    · rintro ⟨hroom, hvalid⟩
      exact ⟨free, _, openSession_eq_ok_iff.mpr ⟨hroom, hvalid, hfree, rfl⟩⟩
  · obtain ⟨⟨hunused, hleast⟩, hself, hothers⟩ := session?_openSession hopen
    refine ⟨hunused, hleast, hself, ?_, hothers, ?_⟩
    · rw [phase?, hself]
      rfl
    · rw [perform, hopen]

end Controller

namespace TwoChannels

def vacated : List Operation :=
  [.openSession accessPoint, .openSession accessPoint, .openSession accessPoint,
    FourChannels.send 0 0 .startRequest, .closeSession 1]

theorem enrolled_vacated :
    Controller.create {} domain = .ok controller ∧
      (controller.after vacated).phase? 0 = some .selecting ∧
      (controller.after vacated).sessions.map (·.id) = [0, 2] ∧
      ∃ c', (controller.after vacated).openSession accessPoint = .ok (1, c') ∧
        c'.session? 1 = some (.fresh 1 accessPoint) ∧
        c'.session? 0 = (controller.after vacated).session? 0 ∧
        c'.session? 2 = (controller.after vacated).session? 2 := by
  obtain ⟨-, -, -, -, hopens⟩ := Controller.enrolled_after created vacated
  obtain ⟨hiff, hopened⟩ := hopens accessPoint
  have hroom : (controller.after vacated).sessions.length < (4 : Nat) := by decide +kernel
  have hvalid : accessPoint.validate (controller.after vacated).airspace.domain = .ok () := by
    decide +kernel
  have hfree : (controller.after vacated).freeId? = some 1 := by decide +kernel
  obtain ⟨id, c', hopen⟩ := hiff.mpr ⟨hroom, hvalid⟩
  obtain ⟨-, -, hid, -⟩ := Controller.openSession_eq_ok_iff.mp hopen
  obtain rfl : 1 = id := Option.some.inj (hfree.symm.trans hid)
  obtain ⟨-, -, hself, -, hothers, -⟩ := hopened 1 c' hopen
  exact ⟨created, by decide +kernel, by decide +kernel, c', hopen, hself,
    hothers 0 (by decide), hothers 2 (by decide)⟩

end TwoChannels

end Hotspot

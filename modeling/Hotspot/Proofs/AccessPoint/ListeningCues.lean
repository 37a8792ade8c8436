import Hotspot.Proofs.AccessPoint.SessionStep
import Hotspot.Proofs.AccessPoint.OperationProgress

/-!
The cues of one session: what the journal tells about its listening for radar, from the first moment
to the last. A session that does not listen gives no cue but when it begins to, whatever else it
does; one that listens gives none but when it stops to.
-/

set_option autoImplicit false
set_option relaxedAutoImplicit false

namespace Hotspot

/-- What the journal tells about a session's listening. -/
inductive Cue
  /-- The session listens from now on. -/
  | entered (before : Phase)
  /-- The application hears that it listens. -/
  | begun (tuning : Tuning) (duration : Duration)
  /-- The application hears that listening is over. -/
  | ended (tuning : Tuning)
  /-- The layer below is told to send. -/
  | beacon (accepted : Bool)
  /-- The session listens no longer. -/
  | left (after : Phase)
  deriving DecidableEq

def Entry.cue? : Entry → Option (SessionId × Cue)
  | .moved id before .listening => some (id, .entered before)
  | .moved id .listening after => some (id, .left after)
  | .notice id (.listeningStarted tuning duration) => some (id, .begun tuning duration)
  | .notice id (.listeningEnded tuning) => some (id, .ended tuning)
  | .command id .startBeacon accepted => some (id, .beacon accepted)
  | _ => none

/-- The cues of one session in a journal, the earliest first. -/
def Journal.cues (j : Journal) (id : SessionId) : List Cue :=
  j.filterMap fun e => e.cue?.bind fun m => if m.1 = id then some m.2 else none

namespace Journal

theorem cues_append (j j' : Journal) (id : SessionId) :
    (j ++ j').cues id = j.cues id ++ j'.cues id :=
  List.filterMap_append

private theorem cues_concat_of_none (j : Journal) {e : Entry} (he : e.cue? = none)
    (id : SessionId) : cues (j ++ [e]) id = j.cues id := by
  rw [cues_append]
  simp [cues, he]

theorem cues_concat (j : Journal) {e : Entry} {id : SessionId} {k : Cue}
    (he : e.cue? = some (id, k)) (i : SessionId) :
    cues (j ++ [e]) i = j.cues i ++ if i = id then [k] else [] := by
  rw [cues_append]
  by_cases h : i = id
  · simp [cues, he, h]
  · simp [cues, he, h, Ne.symm h]

end Journal

def Cue.farewell (watch : Option (Option Tuning)) (after : Phase) : List Cue :=
  if watch.isSome then [.left after] else []

def Stance.watch (st : Stance) : Option (Option Tuning) :=
  if st.phase = .listening then some st.tuning else none

namespace Stance

variable {st : Stance}

theorem watch_of_listening (h : st.phase = .listening) : st.watch = some st.tuning :=
  if_pos h

theorem watch_eq_none_iff : st.watch = none ↔ st.phase ≠ .listening := by
  unfold watch
  split
  · rename_i h
    simp [h]
  · rename_i h
    simp [h]

end Stance

namespace Controller

variable {c : Controller} {id : SessionId} {s : Session}

def watch (c : Controller) (id : SessionId) : Option (Option Tuning) :=
  (c.standing id).watch

theorem watch_of_session? (h : c.session? id = some s) : c.watch id = s.stance.watch := by
  rw [watch, standing_of_session? h]

theorem exists_session_of_watch {tuning : Option Tuning} (h : c.watch id = some tuning) :
    ∃ s, c.session? id = some s ∧ s.phase = .listening ∧ s.tuning = tuning := by
  have hp : (c.standing id).phase = .listening := by
    by_contra hp
    have hnone := Stance.watch_eq_none_iff.mpr hp
    rw [watch, hnone] at h
    cases h
  have hon : (c.standing id).phase ≠ .disconnected := by simp [hp]
  obtain ⟨s, hsess, hstance⟩ := exists_session_of_standing hon
  rw [watch, Stance.watch_of_listening hp, ← hstance] at h
  exact ⟨s, hsess, (congrArg Stance.phase hstance).trans hp, Option.some.inj h⟩

end Controller

namespace Turn

variable {env : Surroundings} {now : Instant} {t t' t₁ t₂ : Turn} {s : Session}
  {id : SessionId} {w w' : Option (Option Tuning)} {ks ks' : List Cue} {tu : Tuning} {e : Event}

/-- What each session listens on in a turn, and its cues so far. -/
def cueView (t : Turn) (id : SessionId) : Option (Option Tuning) × List Cue :=
  (t.watch id, t.journal.cues id)

theorem watch_of_cueView (h : t'.cueView = t.cueView) : t'.watch = t.watch := by
  funext id
  exact congrArg Prod.fst (congrFun h id)

private theorem cueView_eq (hw : t'.watch = t.watch)
    (hj : ∀ id, t'.journal.cues id = t.journal.cues id) : t'.cueView = t.cueView := by
  funext id
  rw [cueView, cueView, hw, hj]

/-- One session listens on what it does and gives cues; the others are left alone. -/
def GivesCues (id : SessionId) (ks : List Cue) (w : Option (Option Tuning)) (t t' : Turn) : Prop :=
  t'.cueView = Function.update t.cueView id (w, (t.cueView id).2 ++ ks)

namespace GivesCues

theorem trans (h : GivesCues id ks w t t₁) (h' : GivesCues id ks' w' t₁ t₂) :
    GivesCues id (ks ++ ks') w' t t₂ := by
  unfold GivesCues at h h' ⊢
  rw [h', h, Function.update_self, Function.update_idem, List.append_assoc]

theorem from_eq (h : GivesCues id ks w t₁ t₂) (ht : t₁.cueView = t.cueView) :
    GivesCues id ks w t t₂ := by
  unfold GivesCues at h ⊢
  rw [h, ht]

theorem to_eq (h : GivesCues id ks w t t₁) (ht : t₂.cueView = t₁.cueView) :
    GivesCues id ks w t t₂ :=
  ht.trans h

theorem own (h : GivesCues id ks w t t') : t'.cueView id = (w, (t.cueView id).2 ++ ks) := by
  rw [h, Function.update_self]

theorem other (h : GivesCues id ks w t t') {j : SessionId} (hj : j ≠ id) :
    t'.cueView j = t.cueView j := by
  rw [h, Function.update_of_ne hj]

theorem of_eq (hw : t.watch id = w) (h : t'.cueView = t.cueView) : GivesCues id [] w t t' := by
  have hself : t.cueView id = (w, (t.cueView id).2 ++ []) := by
    rw [List.append_nil, ← hw]
    rfl
  unfold GivesCues
  rw [h, ← hself, Function.update_eq_self]

theorem of_each (hw : ∀ j, t'.watch j = if j = id then w else t.watch j)
    (hc : ∀ j, t'.journal.cues j = t.journal.cues j ++ if j = id then ks else []) :
    GivesCues id ks w t t' := by
  funext j
  by_cases h : j = id
  · subst h
    rw [Function.update_self, cueView, hw, hc, if_pos rfl, if_pos rfl]
    rfl
  · rw [Function.update_of_ne h, cueView, hw, hc, if_neg h, if_neg h, List.append_nil]
    rfl

end GivesCues

/-- The session gives no cue if it does not listen, and does not listen afterwards. -/
def EndsListening (id : SessionId) (t t' : Turn) : Prop :=
  t.watch id = none → t'.cueView = t.cueView

namespace EndsListening

theorem of_eq (h : t'.cueView = t.cueView) : EndsListening id t t' :=
  fun _ => h

theorem trans (h : EndsListening id t t₁) (h' : EndsListening id t₁ t₂) :
    EndsListening id t t₂ := by
  intro hoff
  have hsame := h hoff
  have hoff₁ : t₁.watch id = none := by
    rw [watch_of_cueView hsame]
    exact hoff
  exact (h' hoff₁).trans hsame

end EndsListening

theorem cueView_record (t : Turn) {e : Entry} (he : e.cue? = none) :
    (t.record e).cueView = t.cueView :=
  cueView_eq rfl fun id => t.journal.cues_concat_of_none he id

private theorem cueView_command (env : Surroundings) (t : Turn) (id : SessionId) {c : Command}
    (hc : ∀ ok, (Entry.command id c ok).cue? = none) :
    (t.command env id c).2.cueView = t.cueView :=
  cueView_record t (hc _)

private theorem cueView_commandElse (env : Surroundings) (t : Turn) (id : SessionId) {c : Command}
    (hc : ∀ ok, (Entry.command id c ok).cue? = none) (e : Event) :
    (t.commandElse env id c e).cueView = t.cueView := by
  have h := cueView_command env t id hc
  unfold commandElse
  dsimp only
  split
  · exact h
  · exact h

private theorem watch_modify (hsess : t.session? id = some s) {f : Session → Session}
    (hf : ∀ s, (f s).id = s.id) (j : SessionId) :
    (t.modify id f).watch j = if j = id then (f s).stance.watch else t.watch j := by
  rw [Controller.watch, Controller.standing, Controller.stance?, session?_modify t id j hf]
  split
  · rename_i h
    rw [h, hsess]
    rfl
  · rfl

private theorem cueView_modify_of_watch (t : Turn) (id : SessionId) {f : Session → Session}
    (hf : ∀ s, (f s).id = s.id)
    (hw : ∀ s, t.session? id = some s → (f s).stance.watch = s.stance.watch) :
    (t.modify id f).cueView = t.cueView := by
  refine cueView_eq (funext fun j => ?_) fun _ => rfl
  cases hsess : t.session? id with
  | none =>
    have hsame : (t.modify id f).session? j = t.session? j := by
      rw [session?_modify t id j hf]
      split
      · rename_i h
        rw [h, hsess]
        rfl
      · rfl
    rw [Controller.watch, Controller.standing, Controller.stance?, hsame]
    rfl
  | some s =>
    rw [watch_modify hsess hf]
    split
    · rename_i h
      rw [h, hw s hsess, Controller.watch_of_session? hsess]
    · rfl

theorem cueView_modify (t : Turn) (id : SessionId) {f : Session → Session}
    (hf : ∀ s, (f s).id = s.id) (hw : ∀ s, (f s).stance.watch = s.stance.watch) :
    (t.modify id f).cueView = t.cueView :=
  cueView_modify_of_watch t id hf fun s _ => hw s

theorem endsListening_modify (t : Turn) (id : SessionId) {f : Session → Session}
    (hf : ∀ s, (f s).id = s.id) (hp : ∀ s, s.phase ≠ .listening → (f s).phase ≠ .listening) :
    EndsListening id t (t.modify id f) := by
  intro hoff
  refine cueView_modify_of_watch t id hf fun s hsess => ?_
  rw [Controller.watch_of_session? hsess] at hoff
  rw [hoff]
  exact Stance.watch_eq_none_iff.mpr (hp s (Stance.watch_eq_none_iff.mp hoff))

private theorem enter_cases (t : Turn) (id : SessionId) (p : Phase) :
    t.enter id p = t ∧ (t.session? id = none ∨ ∃ s, t.session? id = some s ∧ s.phase = p) ∨
      ∃ s, t.session? id = some s ∧ s.phase ≠ p ∧
        t.enter id p =
          (t.modify id fun s => { s with phase := p }).record (.moved id s.phase p) := by
  unfold enter Controller.phase?
  cases hsess : t.session? id with
  | none => exact .inl ⟨rfl, .inl rfl⟩
  | some s =>
    rw [Option.map_some]
    by_cases hp : s.phase = p
    · exact .inl ⟨if_pos hp, .inr ⟨s, rfl, hp⟩⟩
    · exact .inr ⟨s, rfl, hp, if_neg hp⟩

theorem endsListening_enter (t : Turn) (id : SessionId) (p : Phase) (hp : p ≠ .listening) :
    EndsListening id t (t.enter id p) := by
  intro hoff
  rcases enter_cases t id p with ⟨heq, -⟩ | ⟨s, hsess, -, heq⟩ <;> rw [heq]
  have hs : s.phase ≠ .listening := by
    rw [Controller.watch_of_session? hsess, Stance.watch_eq_none_iff] at hoff
    exact hoff
  have hmoved : (Entry.moved id s.phase p).cue? = none := by
    cases hq : s.phase with
    | listening => exact absurd hq hs
    | _ =>
      cases p with
      | listening => exact absurd rfl hp
      | _ => rfl
  rw [cueView_record _ hmoved]
  exact endsListening_modify t id (f := fun s => { s with phase := p }) (fun _ => rfl)
    (fun _ _ => hp) hoff

private theorem givesCues_enter (hsess : t.session? id = some s) {p : Phase} (hp : s.phase ≠ p)
    {k : Cue} (hk : (Entry.moved id s.phase p).cue? = some (id, k)) :
    GivesCues id [k] ({ s.stance with phase := p } : Stance).watch t (t.enter id p) := by
  rcases enter_cases t id p with ⟨-, hnone | ⟨o, ho, hsame⟩⟩ | ⟨o, ho, -, heq⟩
  · cases hsess.symm.trans hnone
  · obtain rfl := Option.some.inj (hsess.symm.trans ho)
    exact absurd hsame hp
  · obtain rfl := Option.some.inj (hsess.symm.trans ho)
    rw [heq]
    exact .of_each (watch_modify hsess (f := fun s => { s with phase := p }) fun _ => rfl)
      fun j => t.journal.cues_concat hk j

theorem givesCues_depart (t : Turn) (id : SessionId) (p : Phase) (hp : p ≠ .listening) :
    GivesCues id (Cue.farewell (t.watch id) p) none t (t.enter id p) := by
  cases hw : t.watch id with
  | none => exact .of_eq hw (endsListening_enter t id p hp hw)
  | some tuning =>
    obtain ⟨s, hsess, hs, -⟩ := Controller.exists_session_of_watch hw
    have hk : (Entry.moved id s.phase p).cue? = some (id, .left p) := by
      rw [hs]
      cases p with
      | listening => exact absurd rfl hp
      | _ => rfl
    have hoff : ({ s.stance with phase := p } : Stance).watch = none :=
      Stance.watch_eq_none_iff.mpr hp
    have hleft := givesCues_enter hsess (fun h => hp (h.symm.trans hs)) hk
    rwa [hoff] at hleft

theorem givesCues_listen (hsess : t.session? id = some s) (hs : s.phase ≠ .listening) :
    GivesCues id [.entered s.phase] (some s.tuning) t (t.enter id .listening) :=
  givesCues_enter hsess hs rfl

private theorem cueView_closeControl (env : Surroundings) (t : Turn) (s : Session) :
    (t.closeControl env s).cueView = t.cueView := by
  unfold closeControl
  split
  · have hm : (t.modify s.id fun s => { s with controlOpen := false }).cueView = t.cueView :=
      cueView_modify t s.id (fun _ => rfl) fun _ => rfl
    exact (cueView_command env _ s.id (fun _ => rfl)).trans hm
  · rfl

private theorem endsListening_rest (env : Surroundings) (t : Turn) (s : Session) :
    EndsListening s.id t (t.rest env s) := by
  have hclosed : ((t.closeControl env s).releaseCleared s).cueView = t.cueView :=
    cueView_closeControl env t s
  have hcleared : EndsListening s.id t
      (((t.closeControl env s).releaseCleared s).modify s.id Session.clear) :=
    (EndsListening.of_eq hclosed).trans (endsListening_modify _ s.id (fun _ => rfl) fun _ h => h)
  exact hcleared.trans (endsListening_enter _ s.id .disconnected (by decide))

theorem endsListening_failStart (env : Surroundings) (t : Turn) (s : Session) :
    EndsListening s.id t (t.failStart env s) := by
  have htold : (t.notify s.id (.startComplete .failure s.settings.address s.tuning)).cueView =
      t.cueView := cueView_record t rfl
  exact (EndsListening.of_eq htold).trans (endsListening_rest env _ s)

theorem endsListening_finishStop (env : Surroundings) (t : Turn) (s : Session) :
    EndsListening s.id t (t.finishStop env s) :=
  (endsListening_rest env t s).trans (.of_eq (cueView_record _ rfl))

theorem endsListening_beginStop (env : Surroundings) (t : Turn) (id : SessionId) :
    EndsListening id t (t.beginStop env id) := by
  rw [beginStop_eq]
  exact (endsListening_enter t id .disconnecting (by decide)).trans
    (.of_eq (cueView_commandElse env _ id (fun _ => rfl) _))

theorem givesCues_beginStop (env : Surroundings) (t : Turn) (id : SessionId) :
    GivesCues id (Cue.farewell (t.watch id) .disconnecting) none t (t.beginStop env id) := by
  rw [beginStop_eq]
  exact (givesCues_depart t id .disconnecting (by decide)).to_eq
    (cueView_commandElse env _ id (fun _ => rfl) _)

theorem cueView_usable (t : Turn) (target : Tuning) (now : Instant) :
    (t.usable target now).2.cueView = t.cueView := by
  obtain ⟨table, -, heq, -⟩ := usable_spec t target now
  rw [heq]
  rfl

private theorem cueView_select (env : Surroundings) (t : Turn) (s : Session) (now : Instant) :
    (t.select env s now).2.cueView = t.cueView := by
  have hm : (t.modify s.id fun s => { s with ceiling := some s.widest }).cueView = t.cueView :=
    cueView_modify t s.id (fun _ => rfl) fun _ => rfl
  rw [select, ← hm]
  generalize (t.modify s.id fun s => { s with ceiling := some s.widest }) = m
  dsimp only
  generalize Selection.select? m.airspace.domain m.settings.policy s.settings.range s.widest
    (env.octet m.drawn) (tick now) now m.airspace.table = found
  obtain ⟨choice, table⟩ := found
  cases choice with
  | none => rfl
  | some chosen => exact cueView_record _ rfl

private theorem cueView_choose (env : Surroundings) (t : Turn) (s : Session) (now : Instant) :
    (t.choose env s now).2.cueView = t.cueView := by
  unfold choose
  split
  · exact cueView_select env t s now
  · rename_i c _
    have hlooked := cueView_usable t (Tuning.resolve c s.widest) now
    dsimp only
    split
    · exact hlooked
    · exact (cueView_select env _ s now).trans hlooked

theorem cueView_findPlace (env : Surroundings) (now : Instant) (t : Turn) (shared : Option Tuning)
    (s : Session) : (findPlace env now t shared s).2.cueView = t.cueView := by
  unfold findPlace
  split
  · rfl
  · exact cueView_select env t s now

theorem endsListening_beginStart (env : Surroundings) (t : Turn) (s : Session) (tu : Tuning) :
    EndsListening s.id t (t.beginStart env s tu) := by
  have htuned : EndsListening s.id t (t.modify s.id fun s => { s with tuning := some tu }) :=
    endsListening_modify t s.id (fun _ => rfl) fun _ h => h
  rw [beginStart_eq]
  exact (htuned.trans (endsListening_enter _ s.id .starting (by decide))).trans
    (.of_eq (cueView_commandElse env _ s.id (fun _ => rfl) _))

theorem endsListening_markStarted (t : Turn) (s : Session) :
    EndsListening s.id t (t.markStarted s) :=
  (endsListening_enter t s.id .started (by decide)).trans (.of_eq (cueView_record _ rfl))

private theorem cueView_openControl (env : Surroundings) (t : Turn) (s : Session) :
    (t.openControl env s).2.cueView = t.cueView := by
  have hasked : (t.command env s.id .openControl).2.cueView = t.cueView :=
    cueView_command env t s.id (fun _ => rfl)
  unfold openControl
  split
  · rfl
  · dsimp only
    split
    · refine Eq.trans ?_ hasked
      exact cueView_modify _ s.id (fun _ => rfl) fun _ => rfl
    · exact hasked

private theorem cueView_ensureTable (env : Surroundings) (t : Turn) (id : SessionId)
    (now : Instant) : (t.ensureTable env id now).2.cueView = t.cueView := by
  unfold ensureTable
  split
  · rfl
  · split
    · rfl
    · exact cueView_record t rfl

/-- A session is prepared without a cue, and but for the control session it is what it was; then it
goes on, or it fails to start. -/
theorem exists_prepared_of_session? (env : Surroundings) (now : Instant)
    (hs : t.session? s.id = some s) (next : Turn → Session → Turn) :
    ∃ t₁ control, t₁.session? s.id = some { s with controlOpen := control } ∧
      t₁.cueView = t.cueView ∧
      (t.prepared env s now next = t₁.failStart env { s with controlOpen := control } ∨
        t.prepared env s now next = next t₁ { s with controlOpen := control }) := by
  have hopen := cueView_openControl env t s
  have hsess := (posts_openControl env now hs).2.session
  unfold prepared
  generalize t.openControl env s = opened at *
  obtain ⟨opened, t₁⟩ := opened
  dsimp only at *
  cases opened with
  | false => exact ⟨t₁, false, hsess, hopen, .inl rfl⟩
  | true =>
    have hbuilt := (cueView_ensureTable env t₁ s.id now).trans hopen
    have hsess₂ : (t₁.ensureTable env s.id now).2.session? s.id =
        some { s with controlOpen := true } :=
      (congrArg Ledger.session (congrFun (ensureTable_seeds env t₁ s.id now).2.1 s.id)).trans hsess
    generalize t₁.ensureTable env s.id now = built at *
    obtain ⟨built, t₂⟩ := built
    dsimp only at *
    cases built with
    | false => exact ⟨t₂, true, hsess₂, hbuilt, .inl rfl⟩
    | true => exact ⟨t₂, true, hsess₂, hbuilt, .inr rfl⟩

theorem endsListening_onStartRequest (env : Surroundings) (now : Instant)
    (hs : t.session? s.id = some s) : EndsListening s.id t (t.onStartRequest env s now) := by
  rw [onStartRequest_eq]
  obtain ⟨t₁, control, -, hcueView, heq | heq⟩ := exists_prepared_of_session? env now hs _ <;>
    rw [heq]
  · exact (EndsListening.of_eq hcueView).trans
      (endsListening_failStart env t₁ { s with controlOpen := control })
  · have hselects :=
      (EndsListening.of_eq hcueView).trans (endsListening_enter t₁ s.id .selecting (by decide))
    exact hselects.trans (.of_eq (cueView_commandElse env _ s.id (fun _ => rfl) _))

theorem endsListening_onScanComplete (env : Surroundings) (t : Turn) (s : Session) (success : Bool)
    (now : Instant) : EndsListening s.id t (t.onScanComplete env s success now) := by
  cases success with
  | false => exact .of_eq rfl
  | true =>
    have hwidth : (t.modify s.id fun s => { s with ceiling := some s.widest }).cueView =
      t.cueView :=
      cueView_modify t s.id (fun _ => rfl) fun _ => rfl
    rw [onScanComplete_eq]
    generalize (t.modify s.id fun s => { s with ceiling := some s.widest }) = m at *
    have hchosen := (cueView_choose env m s now).trans hwidth
    unfold settleOn
    split
    · exact (EndsListening.of_eq hchosen).trans (endsListening_beginStart env _ s _)
    · have htold : (((m.choose env s now).2.notify s.id .noChannel).enqueue s.id
          .selectionFailed).cueView = (m.choose env s now).2.cueView := cueView_record _ rfl
      exact .of_eq (htold.trans hchosen)

theorem endsListening_onSwitchAnnounced (t : Turn) (s : Session) :
    EndsListening s.id t (t.onSwitchAnnounced s) := by
  unfold onSwitchAnnounced
  split
  · exact .of_eq rfl
  · exact (endsListening_enter t s.id .disconnecting (by decide)).trans (.of_eq rfl)

theorem endsListening_onChangeRequest (env : Surroundings) (t : Turn) (id : SessionId)
    (target : Tuning) : EndsListening id t (t.onChangeRequest env id target) := by
  obtain ⟨ok, heq⟩ := onChangeRequest_cases env t id target
  have htold : (t.record (.command id (.changeChannel target) ok)).cueView = t.cueView :=
    cueView_record t rfl
  rw [heq]
  split
  · exact .of_eq htold
  · have hdropped := (EndsListening.of_eq htold).trans
      (endsListening_modify _ id (f := fun s => { s with target := none }) (fun _ => rfl)
        fun _ h => h)
    exact hdropped.trans (endsListening_beginStop env _ id)

private theorem cueView_handle_closing (env : Surroundings) (now : Instant) (t : Turn)
    (id : SessionId) (he : e.isClosing = true) : (t.handle env now id e).cueView = t.cueView := by
  cases hsess : t.session? id with
  | none => rw [handle_closing_of_none hsess]
  | some s =>
    have hid := Controller.id_of_session? hsess
    have hoff (hp : s.phase ≠ .listening) : t.watch s.id = none := by
      rw [hid, Controller.watch_of_session? hsess]
      exact Stance.watch_eq_none_iff.mpr hp
    rcases handle_closing_cases env now hsess he with
      heq | ⟨hp, heq⟩ | ⟨hp, heq | ⟨target, -, heq⟩⟩ <;> rw [heq]
    · refine endsListening_failStart env t s (hoff ?_)
      rcases hp with hp | hp <;> simp [hp]
    · exact endsListening_finishStop env t s (hoff (by simp [hp]))
    · rw [← hid]
      exact endsListening_onChangeRequest env t s.id target (hoff (by simp [hp]))

theorem cueView_drain (env : Surroundings) (now : Instant) (n : Nat)
    (hclosing : ∀ p ∈ t.queue, p.2.isClosing = true) : (t.drain env now n).cueView = t.cueView := by
  -- By induction on the steps that are left. What an event adds to the queue closes as well.
  induction n generalizing t with
  | zero => rfl
  | succ n ih =>
    rw [drain]
    cases hq : t.queue with
    | nil => rfl
    | cons p rest =>
      obtain ⟨id, e⟩ := p
      have he : e.isClosing = true := hclosing (id, e) (by simp [hq])
      let t₁ : Turn := { t with queue := rest }
      have hfirst : (t₁.handle env now id e).cueView = t.cueView :=
        cueView_handle_closing env now t₁ id he
      obtain ⟨more, hmore, hclose, -⟩ := queue_handle_closing env now t₁ id he
      refine (ih fun p hp => ?_).trans hfirst
      rw [hmore] at hp
      rcases List.mem_append.mp hp with hp | hp
      · exact hclosing p (by simp [hq, show p ∈ rest from hp])
      · exact hclose p hp

end Turn

end Hotspot

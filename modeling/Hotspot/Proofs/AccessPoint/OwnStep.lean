import Hotspot.Proofs.AccessPoint.Settle
import Hotspot.Proofs.AccessPoint.Progress

/-!
How the session progresses that one event is for. Radar and the end of listening aside, the session
either takes a step of its own, or arrives where it was moving, or gives up what it was about;
giving up is also all that the closing events afterwards come to.
-/

set_option autoImplicit false
set_option relaxedAutoImplicit false

namespace Hotspot

def Event.asks : Event → Bool
  | .startRequest | .tunedStartRequest _ => true
  | _ => false

namespace Stance

/-- The session gives up what it was about, or stays as it is. -/
inductive GivesUp : Stance → List Mark → Stance → Prop
  | still (st : Stance) : GivesUp st [] st
  | fail (p : Phase) (tu tg : Option Tuning) (starts : p = .selecting ∨ p = .starting) :
      GivesUp ⟨p, tu, tg⟩ [.replied .failure, .moved p .disconnected] .initial
  | drop (tu tg : Option Tuning) : GivesUp ⟨.disconnecting, tu, tg⟩ [] ⟨.disconnecting, tu, none⟩
  | finish (tu tg : Option Tuning) :
      GivesUp ⟨.disconnecting, tu, tg⟩ [.moved .disconnecting .disconnected] .initial

inductive OwnStep (e : Event) : Stance → List Mark → Stance → Prop
  | failAtOnce (tu tg : Option Tuning) (asked : e.asks = true) :
      OwnStep e ⟨.disconnected, tu, tg⟩ [.replied .failure] .initial
  | select (tu tg : Option Tuning) (asked : e.asks = true) :
      OwnStep e ⟨.disconnected, tu, tg⟩ [.moved .disconnected .selecting] ⟨.selecting, tu, tg⟩
  | launch (p : Phase) (tu tg : Option Tuning) (new : Tuning)
      (before : p = .disconnected ∧ e.asks = true ∨ p = .selecting) :
      OwnStep e ⟨p, tu, tg⟩ [.moved p .starting] ⟨.starting, some new, tg⟩
  | listen (p : Phase) (tu tg : Option Tuning) (new : Tuning)
      (before : p = .disconnected ∧ e.asks = true ∨ p = .starting ∧ tu = some new) :
      OwnStep e ⟨p, tu, tg⟩ [.moved p .listening] ⟨.listening, some new, tg⟩
  /-- Another run of listening is in the way. -/
  | refuse (p : Phase) (tu tg : Option Tuning) (new : Tuning)
      (before : p = .disconnected ∧ e.asks = true ∨ p = .starting ∧ tu = some new) :
      OwnStep e ⟨p, tu, tg⟩ [.replied .failure, .moved p .disconnecting]
        ⟨.disconnecting, some new, tg⟩
  | start (tu : Tuning) (tg : Option Tuning) :
      OwnStep e ⟨.starting, some tu, tg⟩ [.moved .starting .started, .replied .success]
        ⟨.started, some tu, tg⟩
  | confirm (tu : Option Tuning) (new : Tuning) (heard : e.heard? = some new) :
      OwnStep e ⟨.starting, tu, none⟩ [] ⟨.starting, some new, none⟩
  | leave (p : Phase) (tu tg : Option Tuning) (on : p = .listening ∨ p = .started) :
      OwnStep e ⟨p, tu, tg⟩ [.moved p .disconnecting] ⟨.disconnecting, tu, tg⟩

theorem GivesUp.trans {st st' st'' : Stance} {ms ms' : List Mark} (h : GivesUp st ms st')
    (h' : GivesUp st' ms' st'') : GivesUp st (ms ++ ms') st'' := by
  cases h with
  | still => exact h'
  | fail p tu tg starts =>
    cases h' with
    | still => exact .fail p tu tg starts
    | fail _ _ _ starts => rcases starts with h | h <;> cases h
  | drop tu tg =>
    cases h' with
    | still => exact .drop tu tg
    | fail _ _ _ starts => rcases starts with h | h <;> cases h
    | drop => exact .drop tu tg
    | finish => exact .finish tu tg
  | finish tu tg =>
    cases h' with
    | still => exact .finish tu tg
    | fail _ _ _ starts => rcases starts with h | h <;> cases h

end Stance

namespace Turn

open Mark (shift)
open Scene (OnlyStops)
open Stance (GivesUp OwnStep)

variable {env : Surroundings} {now : Instant} {t t' : Turn} {s : Session} {id : SessionId}
  {st : Stance} {e : Event}

/-- How a session goes on that was moving and hears that it has arrived: it sends, listens, or stops
where another run of listening is in the way. -/
inductive Arrival (t : Turn) (new : Tuning) : List Mark → Stance → Prop
  | send (free : t.mustListen new = false) :
      Arrival t new [.moved .disconnecting .starting, .moved .starting .started]
        ⟨.started, some new, none⟩
  | listen (silent : t.mustListen new = true) (admitted : t.airspace.admits new = true) :
      Arrival t new [.moved .disconnecting .starting, .moved .starting .listening]
        ⟨.listening, some new, none⟩
  | refuse (silent : t.mustListen new = true) (refused : t.airspace.admits new = false) :
      Arrival t new
        [.moved .disconnecting .starting, .replied .failure, .moved .starting .disconnecting]
        ⟨.disconnecting, some new, none⟩

private theorem mustListen_congr (hskip : t'.scene.skip = t.scene.skip)
    (hair : t'.airspace = t.airspace) (tu : Tuning) : t'.mustListen tu = t.mustListen tu := by
  have hskip : t'.settings.skipListening = t.settings.skipListening := hskip
  rw [mustListen, mustListen, hskip, hair]

theorem progresses_of_progress_eq (hs : t.scene.stance id = some st)
    (h : t'.progress = t.progress) : Progresses id [] st t t' := by
  have hself : t.progress id = (some st, (t.progress id).2 ++ []) := by
    rw [List.append_nil]
    exact Prod.ext hs rfl
  unfold Progresses
  rw [h, ← hself, Function.update_eq_self]

private theorem progresses_arrive (env : Surroundings) (now : Instant)
    (hs : t.scene.stance s.id = some st)
    (hp : st.phase = .disconnecting) {tg : Tuning} (htg : s.target = some tg) (tuning : Tuning) :
    ∃ ms st', Arrival t tuning ms st' ∧
      Progresses s.id ms st' t ((t.enter s.id .starting).onChannelChanged env s tuning now) := by
  have hstart : Progresses s.id [.moved .disconnecting .starting] { st with phase := .starting } t
      (t.enter s.id .starting) := by
    have h := progresses_enter hs .starting
    rw [hp] at h
    exact h
  have hmoved := hstart.trans (progresses_modify hstart.stance (f := arrive tuning)
    (g := fun st => ⟨st.phase, some tuning, none⟩) (fun _ => rfl) fun _ => rfl)
  have hscene := scene_arrive t s.id tuning
  rw [onChannelChanged_of_target htg]
  generalize hmod : (t.enter s.id .starting).modify s.id (arrive tuning) = t₁ at *
  have harrived :=
    hmoved.to_eq (progress_record t₁ (e := .notice s.id (.channelChanged tuning)) rfl)
  have hair : t₁.airspace = t.airspace := congrArg Scene.airspace hscene
  have hskip : t₁.scene.skip = t.scene.skip := by
    rw [hscene]
    rfl
  have hmust : (t₁.notify s.id (.channelChanged tuning)).mustListen tuning =
      t.mustListen tuning := mustListen_congr hskip hair tuning
  unfold goOn
  rw [hmust]
  cases hfree : t.mustListen tuning with
  | false => exact ⟨_, _, .send hfree, harrived.enter .started⟩
  | true =>
    rw [if_pos rfl]
    cases hrun : t.airspace.admits tuning with
    | true =>
      exact
        ⟨_, _, .listen hfree hrun, harrived.trans (progresses_beginListening (s := arrive tuning s)
        env now harrived.stance (hair ▸ hrun))⟩
    | false =>
      exact ⟨_, _, .refuse hfree hrun, harrived.trans (progresses_beginListening_of_refused
        (s := arrive tuning s) env now harrived.stance (hair ▸ hrun))⟩

theorem progresses_react_of_arrives (env : Surroundings) (now : Instant)
    (hsess : t.session? id = some s)
    (new : Tuning) (hp : s.phase = .disconnecting) (htg : s.target.isSome = true) :
    ∃ ms st', Arrival t new ms st' ∧
      Progresses id ms st' t (t.react env now id (.channelChanged new)) := by
  have hid := Controller.id_of_session? hsess
  subst hid
  obtain ⟨tg, hsome⟩ := Option.isSome_iff_exists.mp htg
  have hreact : t.react env now s.id (.channelChanged new) =
      (t.enter s.id .starting).onChannelChanged env { s with phase := .starting } new now := by
    rw [react, hsess]
    simp [hp, htg]
  rw [hreact]
  exact progresses_arrive (s := { s with phase := .starting }) env now
    (Controller.stance?_of_session? hsess) hp hsome new

private theorem ownStep_onStartRequest (env : Surroundings) (now : Instant) {e : Event}
    {tu tg : Option Tuning}
    (hs : t.scene.stance s.id = some ⟨.disconnected, tu, tg⟩) (he : e.asks = true) :
    ∃ ms st', OwnStep e ⟨.disconnected, tu, tg⟩ ms st' ∧
      Progresses s.id ms st' t (t.onStartRequest env s now) := by
  rw [onStartRequest_eq]
  obtain ⟨t₁, s₁, hprogress, hid, heq | heq⟩ := exists_prepared env t s now _
  all_goals
    rw [heq, ← hid]
    rw [← hid] at hs
    have hs₁ : t₁.scene.stance s₁.id = some ⟨.disconnected, tu, tg⟩ :=
      (congrArg Prod.fst (congrFun hprogress s₁.id)).trans hs
  · exact ⟨_, _, .failAtOnce tu tg he, (progresses_failStart env hs₁).from_eq hprogress⟩
  · refine ⟨_, _, .select tu tg he, ((progresses_enter hs₁ .selecting).to_eq ?_).from_eq hprogress⟩
    exact progress_commandElse env _ s₁.id (fun _ => rfl) _

private theorem ownStep_startGiven (env : Surroundings) (now : Instant) {e : Event}
    {target : Tuning} (tu : Option Tuning) {tg : Option Tuning}
    (hs : t.scene.stance s.id = some ⟨.disconnected, some target, tg⟩) (he : e.asks = true) :
    ∃ ms st', OwnStep e ⟨.disconnected, tu, tg⟩ ms st' ∧
      Progresses s.id ms st' t (startGiven env target now t s) := by
  unfold startGiven
  split
  · obtain ⟨ok, hc⟩ := exists_command_eq env t s.id (.startNetwork (t.startParameters s target))
    rw [hc]
    have hprogress :
      (t.record (.command s.id (.startNetwork (t.startParameters s target)) ok)).progress =
        t.progress := progress_record t rfl
    generalize t.record (.command s.id (.startNetwork (t.startParameters s target)) ok) = t₁ at *
    have hs₁ : t₁.scene.stance s.id = some ⟨.disconnected, some target, tg⟩ :=
      (congrArg Prod.fst (congrFun hprogress s.id)).trans hs
    cases ok with
    | false => exact ⟨_, _, .failAtOnce tu tg he, (progresses_failStart env hs₁).from_eq hprogress⟩
    | true =>
      cases hrun : t₁.airspace.admits target with
      | true => exact ⟨_, _, .listen _ tu tg target (.inl ⟨rfl, he⟩),
          (progresses_beginListening env now hs₁ hrun).from_eq hprogress⟩
      | false => exact ⟨_, _, .refuse _ tu tg target (.inl ⟨rfl, he⟩),
          (progresses_beginListening_of_refused env now hs₁ hrun).from_eq hprogress⟩
  · exact ⟨_, _, .launch _ tu tg target (.inl ⟨rfl, he⟩), progresses_beginStart env hs target⟩

private theorem ownStep_tuneAndStart (env : Surroundings) (now : Instant) {e : Event}
    (target : Tuning)
    {tu tg : Option Tuning} (hs : t.scene.stance s.id = some ⟨.disconnected, tu, tg⟩)
    (he : e.asks = true) :
    ∃ ms st', OwnStep e ⟨.disconnected, tu, tg⟩ ms st' ∧
      Progresses s.id ms st' t (tuneAndStart env target now t s) := by
  have hprogress := progress_usable t target now
  unfold tuneAndStart
  generalize t.usable target now = found at *
  obtain ⟨ok, t₁⟩ := found
  dsimp only at *
  have hs₁ : t₁.scene.stance s.id = some ⟨.disconnected, tu, tg⟩ :=
    (congrArg Prod.fst (congrFun hprogress s.id)).trans hs
  cases ok with
  | false =>
    have hnotice : (t₁.notify s.id .noChannel).progress = t.progress :=
      (progress_record t₁ rfl).trans hprogress
    exact ⟨_, _, .failAtOnce tu tg he,
      (progresses_failStart (t := t₁.notify s.id .noChannel) env hs₁).from_eq hnotice⟩
  | true =>
    have htuned := progresses_modify hs₁
      (f := fun s => { s with ceiling := some s.widest, tuning := some target })
      (g := fun st => { st with tuning := some target }) (fun _ => rfl) fun _ => rfl
    obtain ⟨ms, st', hstep, hprogresses⟩ := ownStep_startGiven
      (s := { s with ceiling := some s.widest, tuning := some target }) env now tu htuned.stance he
    exact ⟨ms, st', hstep, (htuned.trans hprogresses).from_eq hprogress⟩

private theorem ownStep_onTunedStartRequest (env : Surroundings) (now : Instant) {e : Event}
    {target : Tuning}
    {tu tg : Option Tuning} (hs : t.scene.stance s.id = some ⟨.disconnected, tu, tg⟩)
    (he : e.asks = true) :
    ∃ ms st', OwnStep e ⟨.disconnected, tu, tg⟩ ms st' ∧
      Progresses s.id ms st' t (t.onTunedStartRequest env s target now) := by
  rw [onTunedStartRequest_eq]
  obtain ⟨t₁, s₁, hprogress, hid, heq | heq⟩ := exists_prepared env t s now _
  all_goals
    rw [heq, ← hid]
    rw [← hid] at hs
    have hs₁ : t₁.scene.stance s₁.id = some ⟨.disconnected, tu, tg⟩ :=
      (congrArg Prod.fst (congrFun hprogress s₁.id)).trans hs
  · exact ⟨_, _, .failAtOnce tu tg he, (progresses_failStart env hs₁).from_eq hprogress⟩
  · obtain ⟨ms, st', hstep, hprogresses⟩ := ownStep_tuneAndStart env now target hs₁ he
    exact ⟨ms, st', hstep, hprogresses.from_eq hprogress⟩

/-- What the session makes of an event: it takes a step, or gives up what it was about; if it loses
its tuning thereby, channels that it was the last one on are no longer cleared. -/
def Replies (e : Event) (id : SessionId) (st : Stance) (t t' : Turn) : Prop :=
  ∃ ms st', Progresses id ms st' t t' ∧
    (OwnStep e st ms st' ∨ GivesUp st ms st' ∧
      (st'.tuning = st.tuning ∨ OnlyStops t.scene t'.scene))

private theorem replies_of_ownStep (h : ∃ ms st', OwnStep e st ms st' ∧ Progresses id ms st' t t') :
    Replies e id st t t' := by
  obtain ⟨ms, st', hstep, hprogresses⟩ := h
  exact ⟨ms, st', hprogresses, .inl hstep⟩

private theorem replies_still (hs : t.scene.stance id = some st) (h : t'.progress = t.progress) :
    Replies e id st t t' :=
  ⟨[], st, progresses_of_progress_eq hs h, .inr ⟨.still st, .inl rfl⟩⟩

theorem givesUp_onChangeRequest (env : Surroundings) {tu tg : Option Tuning} (target : Tuning)
    (hs : t.scene.stance id = some ⟨.disconnecting, tu, tg⟩) :
    ∃ st', Progresses id [] st' t (t.onChangeRequest env id target) ∧
      GivesUp ⟨.disconnecting, tu, tg⟩ [] st' ∧ st'.tuning = tu := by
  obtain ⟨ok, heq⟩ := onChangeRequest_cases env t id target
  have hprogress : (t.record (.command id (.changeChannel target) ok)).progress = t.progress :=
    progress_record t rfl
  rw [heq]
  split
  · exact ⟨_, progresses_of_progress_eq hs hprogress, .still _, rfl⟩
  · have hdrop := progresses_modify (t := t.record (.command id (.changeChannel target) ok)) hs
      (f := fun s => { s with target := none }) (g := fun st => { st with target := none })
      (fun _ => rfl) fun _ => rfl
    exact
      ⟨_, (hdrop.trans (progresses_beginStop env hdrop.stance)).from_eq hprogress, .drop tu tg, rfl⟩

private theorem replies_onScanComplete (env : Surroundings) (now : Instant) {success : Bool}
    {tu tg : Option Tuning} (hs : t.scene.stance s.id = some ⟨.selecting, tu, tg⟩) :
    Replies e s.id ⟨.selecting, tu, tg⟩ t (t.onScanComplete env s success now) := by
  cases success with
  | false => exact replies_still hs rfl
  | true =>
    have hprogress : (t.modify s.id fun s => { s with ceiling := some s.widest }).progress =
      t.progress :=
      progress_modify t s.id (fun _ => rfl) fun _ => rfl
    rw [onScanComplete_eq]
    generalize (t.modify s.id fun s => { s with ceiling := some s.widest }) = m at *
    have hchoose := (progress_choose env m s now).trans hprogress
    have hs₁ : (m.choose env s now).2.scene.stance s.id = some ⟨.selecting, tu, tg⟩ :=
      (congrArg Prod.fst (congrFun hchoose s.id)).trans hs
    unfold settleOn
    split
    · rename_i new _
      exact ⟨_, _, (progresses_beginStart env hs₁ new).from_eq hchoose,
        .inl (.launch _ tu tg new (.inr rfl))⟩
    · refine replies_still hs (Eq.trans ?_ hchoose)
      exact progress_record _ rfl

private theorem replies_failStart (env : Surroundings) (hn : t.scene.ids.Nodup)
    (hs : t.scene.stance s.id = some s.stance) (hp : s.phase = .selecting ∨ s.phase = .starting) :
    Replies e s.id s.stance t (t.failStart env s) := by
  have hstops : OnlyStops t.scene (t.failStart env s).scene :=
    onlyStops_rest (t := t.notify s.id _) hn hs (by rcases hp with hp | hp <;> simp [hp])
      (by rcases hp with hp | hp <;> simp [hp])
  have hprogresses := progresses_failStart env hs
  have hgivesUp := GivesUp.fail s.phase s.tuning s.target hp
  exact ⟨_, _, hprogresses, .inr ⟨Mark.shift_of_starts hp ▸ hgivesUp, .inr hstops⟩⟩

private theorem replies_onStartSuccess (env : Surroundings) (now : Instant) (hn : t.scene.ids.Nodup)
    (hs : t.scene.stance s.id = some s.stance) (hp : s.phase = .starting) :
    Replies e s.id s.stance t (t.onStartSuccess env s now) := by
  have hstance : s.stance = ⟨.starting, s.tuning, s.target⟩ := by rw [← hp]; rfl
  rcases onStartSuccess_cases env t s now with heq | ⟨tu, htu, ⟨-, heq⟩ | ⟨-, heq⟩⟩ <;> rw [heq]
  · exact replies_failStart env hn hs (.inr hp)
  all_goals
    rw [hstance, htu] at hs ⊢
  · cases hrun : t.airspace.admits tu with
    | true => exact ⟨_, _, progresses_beginListening env now hs hrun,
        .inl (.listen _ _ s.target tu (.inr ⟨rfl, rfl⟩))⟩
    | false => exact ⟨_, _, progresses_beginListening_of_refused env now hs hrun,
        .inl (.refuse _ _ s.target tu (.inr ⟨rfl, rfl⟩))⟩
  · exact ⟨_, _, progresses_markStarted hs, .inl (.start tu s.target)⟩

private theorem ownStep_beginStop (env : Surroundings) (hs : t.scene.stance id = some st)
    (hp : st.phase = .listening ∨ st.phase = .started) :
    ∃ ms st', OwnStep e st ms st' ∧ Progresses id ms st' t (t.beginStop env id) := by
  have hstep := OwnStep.leave (e := e) st.phase st.tuning st.target hp
  exact ⟨_, _, Mark.shift_of_on hp ▸ hstep, progresses_beginStop env hs⟩

private theorem ownStep_onListeningStop (env : Surroundings) (hs : t.scene.stance id = some st)
    (hp : st.phase = .listening) :
    ∃ ms st', OwnStep e st ms st' ∧ Progresses id ms st' t (t.onListeningStop env id) := by
  unfold onListeningStop
  dsimp only
  split
  · have hprogress : (t.share fun a => { a with run := none }).disarm.progress = t.progress :=
      progress_record _ rfl
    obtain ⟨ms, st', hstep, hprogresses⟩ := ownStep_beginStop (e := e) env
      (t := (t.share fun a => { a with run := none }).disarm) hs (.inl hp)
    exact ⟨ms, st', hstep, hprogresses.from_eq hprogress⟩
  · exact ownStep_beginStop env hs (.inl hp)

theorem replies_handle (env : Surroundings) (now : Instant) (hsess : t.session? id = some s)
    (hn : t.scene.ids.Nodup) (hproper : s.stance.Proper t.airspace) (hreport : s.reports? e = none)
    (hover : s.awaits e = false) (hstay : ¬ Arrives s e) :
    Replies e id s.stance t (t.handle env now id e) := by
  have hs : t.scene.stance id = some s.stance := Controller.stance?_of_session? hsess
  have hstance {p : Phase} (hp : s.phase = p) : s.stance = ⟨p, s.tuning, s.target⟩ := hp ▸ rfl
  have hanswer := answers_handle env now hsess e
  rw [← Controller.id_of_session? hsess] at hs hanswer ⊢
  generalize t.handle env now s.id e = t' at hanswer ⊢
  -- One case for each way of answering; arrivals are set apart by the hypothesis.
  cases hanswer with
  | start hp =>
    rw [hstance hp] at hs ⊢
    exact replies_of_ownStep (ownStep_onStartRequest env now hs rfl)
  | tunedStart target hp =>
    rw [hstance hp] at hs ⊢
    exact replies_of_ownStep (ownStep_onTunedStartRequest env now hs rfl)
  | scanned success found hp =>
    rw [hstance hp] at hs ⊢
    exact replies_onScanComplete env now hs
  | fail e hp => exact replies_failStart env hn hs hp
  | started hp => exact replies_onStartSuccess env now hn hs hp
  | confirmed tuning hp =>
    have htarget : s.target = none :=
      hproper.target (by simp [Session.stance, hp]) (by simp [Session.stance, hp])
    rw [hstance hp, htarget] at hs ⊢
    rw [onChannelChanged, htarget]
    refine replies_of_ownStep ⟨_, _, .confirm s.tuning tuning rfl, ?_⟩
    exact progresses_modify hs (f := fun s => { s with tuning := some tuning })
      (g := fun st => { st with tuning := some tuning }) (fun _ => rfl) fun _ => rfl
  | ended hp => simp [Session.awaits, hp] at hover
  | radar channels hp => simp [Session.reports?, hp] at hreport
  | stopListening hp => exact replies_of_ownStep (ownStep_onListeningStop env hs hp)
  | stop hp => exact replies_of_ownStep (ownStep_beginStop env hs (.inr hp))
  | announced hp =>
    rw [hstance hp] at hs ⊢
    unfold onSwitchAnnounced
    split
    · exact replies_still hs rfl
    · exact replies_of_ownStep ⟨_, _, .leave _ s.tuning s.target (.inr rfl),
        progresses_enter hs .disconnecting⟩
  | joined | left =>
    refine replies_still hs ((progress_record _ rfl).trans ?_)
    exact progress_modify t s.id (fun _ => rfl) fun _ => rfl
  | change target hp =>
    rw [hstance hp] at hs ⊢
    obtain ⟨st', hprogresses, hgivesUp, htu⟩ := givesUp_onChangeRequest env target hs
    exact ⟨_, st', hprogresses, .inr ⟨hgivesUp, .inl htu⟩⟩
  | arrived tuning hp htg => exact absurd ⟨hp, htg, tuning, rfl⟩ hstay
  | stopped hp =>
    have hstops : OnlyStops t.scene (t.finishStop env s).scene :=
      onlyStops_rest hn hs (by simp [hp]) (by simp [hp])
    rw [hstance hp] at hs ⊢
    exact ⟨_, _, progresses_finishStop env hs, .inr ⟨.finish s.tuning s.target, .inr hstops⟩⟩
  | ignored => exact replies_still hs rfl

end Turn

end Hotspot

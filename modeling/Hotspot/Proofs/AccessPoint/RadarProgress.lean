import Hotspot.Proofs.AccessPoint.Completion
import Hotspot.Proofs.AccessPoint.OwnStep
import Hotspot.Proofs.AccessPoint.RadarMoves

/-!
How many sessions progress at once, with radar, at the end of listening and with the events that
follow. They are taken one after the other, each once, so that each progresses as it would alone.
-/

set_option autoImplicit false
set_option relaxedAutoImplicit false

namespace Hotspot

namespace Stance

/-- The session flees from radar: it stops, leaves for another tuning, or tells its stations of
one. -/
inductive MovesAway : Stance → List Mark → Stance → Prop
  | stop (p : Phase) (tu tg : Option Tuning) (on : p = .listening ∨ p = .started) :
      MovesAway ⟨p, tu, tg⟩ [.moved p .disconnecting] ⟨.disconnecting, tu, tg⟩
  | depart (p : Phase) (tu tg : Option Tuning) (new : Tuning)
      (on : p = .listening ∨ p = .started) :
      MovesAway ⟨p, tu, tg⟩ [.moved p .disconnecting] ⟨.disconnecting, tu, some new⟩
  | announce (tu tg : Option Tuning) (new : Tuning) :
      MovesAway ⟨.started, tu, tg⟩ [] ⟨.started, tu, some new⟩

/-- The session's wait is over: it is told to send, or stops if the layer below does not take the
command. -/
inductive WaitEnds : Stance → List Mark → Stance → Prop
  | send (tu tg : Option Tuning) :
      WaitEnds ⟨.listening, tu, tg⟩ [.told, .moved .listening .started, .replied .success]
        ⟨.started, tu, tg⟩
  | stop (tu tg : Option Tuning) :
      WaitEnds ⟨.listening, tu, tg⟩ [.moved .listening .disconnecting] ⟨.disconnecting, tu, tg⟩

end Stance

namespace Turn

open Mark (shift)
open Stance (GivesUp MovesAway WaitEnds)

variable {env : Surroundings} {now : Instant} {t t' t'' t₁ : Turn} {s : Session} {id : SessionId}
  {st : Stance} {ms : List Mark} {e : Event}
  {R : Session → List Mark → Stance → Prop} {l : List Session}

/-- Each session of the list progresses, the others are left alone, and only events of those in the
list are left to do. -/
structure EachProgresses (R : Session → List Mark → Stance → Prop) (l : List Session)
    (t t' : Turn) : Prop where
  own (s : Session) : s ∈ l → ∃ ms st, R s ms st ∧ t'.progress s.id =
    (some st, (t.progress s.id).2 ++ ms)
  others (id : SessionId) : (∀ s ∈ l, s.id ≠ id) → t'.progress id = t.progress id
  queue (p : SessionId × Event) : p ∈ t'.queue → p ∈ t.queue ∨ ∃ s ∈ l, p.1 = s.id

private theorem EachProgresses.nil (t : Turn) : EachProgresses R [] t t where
  own _ h := absurd h List.not_mem_nil
  others _ _ := rfl
  queue _ h := .inl h

private theorem EachProgresses.cons (h : ∃ ms st, R s ms st ∧ Progresses s.id ms st t t')
    (hq : Leaves s.id t t')
    (hrest : EachProgresses R l t' t'') (hd : ∀ o ∈ l, s.id ≠ o.id) :
    EachProgresses R (s :: l) t t'' := by
  obtain ⟨ms, st, hr, hprogresses⟩ := h
  refine ⟨fun o ho => ?_, fun id hid => ?_, fun p hp => ?_⟩
  · rcases List.mem_cons.mp ho with rfl | ho
    · refine ⟨ms, st, hr, ?_⟩
      rw [hrest.others o.id fun x hx => (hd x hx).symm]
      exact hprogresses.own
    · obtain ⟨ms', st', hr', hprogress⟩ := hrest.own o ho
      refine ⟨ms', st', hr', ?_⟩
      rw [hprogress, hprogresses.other (hd o ho).symm]
  · rw [hrest.others id fun o ho => hid o (List.mem_cons_of_mem s ho),
      hprogresses.other (hid s List.mem_cons_self).symm]
  · rcases hrest.queue p hp with hp | ⟨o, ho, hid⟩
    · rcases hq with hq | ⟨e, -, hq⟩ <;> rw [hq] at hp
      · exact .inl hp
      · rcases List.mem_append.mp hp with hp | hp
        · exact .inl hp
        · obtain rfl := List.mem_singleton.mp hp
          exact .inr ⟨s, List.mem_cons_self, rfl⟩
    · exact .inr ⟨o, List.mem_cons_of_mem s ho, hid⟩

private theorem EachProgresses.from_eq (h : EachProgresses R l t₁ t')
    (hprogress : t₁.progress = t.progress) (hq : t₁.queue = t.queue) : EachProgresses R l t t' :=
  ⟨hprogress ▸ h.own, hprogress ▸ h.others, hq ▸ h.queue⟩

private theorem eachProgresses_foldl {β : Type} (proj : β → Turn) (step : β → Session → β) (b : β)
    (hstep : ∀ b, ∀ s ∈ l, (proj b).scene.stance s.id = some s.stance →
      (∃ ms st, R s ms st ∧ Progresses s.id ms st (proj b) (proj (step b s))) ∧
        Leaves s.id (proj b) (proj (step b s)))
    (hn : (l.map (·.id)).Nodup) (hs : ∀ s ∈ l, (proj b).scene.stance s.id = some s.stance) :
    EachProgresses R l (proj b) (proj (l.foldl step b)) := by
  refine Session.foldl_each (fun b s => (proj b).scene.stance s.id = some s.stance)
    (fun s b b' => (∃ ms st, R s ms st ∧ Progresses s.id ms st (proj b) (proj b')) ∧
      Leaves s.id (proj b) (proj b'))
    (fun l b b' => EachProgresses R l (proj b) (proj b')) ?_ ?_ ?_ hstep hn b hs
  · exact fun b => .nil (proj b)
  · intro s rest b b' hfirst hne hrest
    exact .cons hfirst.1 hfirst.2 hrest hne
  · rintro s o b ⟨⟨_, _, -, hprogresses⟩, -⟩ hne ho
    exact (congrArg Prod.fst (hprogresses.other hne.symm)).trans ho

private theorem movesAway_leaveFor (on : st.phase = .listening ∨ st.phase = .started)
    {target : Tuning} (hprogresses : Progresses id [] { st with target := some target } t t') :
    ∃ ms st', MovesAway st ms st' ∧ Progresses id ms st' t (t'.leaveFor id target) := by
  have haway := MovesAway.depart st.phase st.tuning st.target target on
  exact ⟨_, _, Mark.shift_of_on on ▸ haway, hprogresses.enter .disconnecting⟩

private theorem movesAway_moveTo (env : Surroundings) (hs : t.scene.stance s.id = some s.stance)
    (on : s.phase = .listening ∨ s.phase = .started) (target : Tuning) :
    ∃ ms st', MovesAway s.stance ms st' ∧ Progresses s.id ms st' t (moveTo env t s target) := by
  have htarget := progresses_modify hs (f := fun s => { s with target := some target })
    (g := fun st => { st with target := some target }) (fun _ => rfl) fun _ => rfl
  unfold moveTo
  dsimp only
  split
  · rename_i hp
    obtain ⟨ok, hc⟩ := exists_command_eq env
      (t.modify s.id fun s => { s with target := some target }) s.id (.announceSwitch target)
    rw [hc]
    have hrecord := htarget.to_eq
      (progress_record _ (e := .command s.id (.announceSwitch target) ok) rfl)
    cases ok with
    | false => exact movesAway_leaveFor on hrecord
    | true =>
      have haway : MovesAway s.stance [] ⟨s.phase, s.tuning, some target⟩ := by
        rw [Session.stance, hp]
        exact .announce s.tuning s.target target
      exact ⟨_, _, haway, hrecord.to_eq (progress_record _ rfl)⟩
  · exact movesAway_leaveFor on htarget

private theorem leaves_moveTo (env : Surroundings) (t : Turn) (s : Session) (target : Tuning) :
    Leaves s.id t (moveTo env t s target) := by
  have hleave (t' : Turn) (hq : t'.queue = t.queue) : Leaves s.id t (t'.leaveFor s.id target) := by
    refine .inr ⟨.changeRequest target, rfl, ?_⟩
    rw [← hq, ← queue_enter t' s.id .disconnecting]
    rfl
  unfold moveTo
  dsimp only
  split
  · split
    · exact .of_queue_eq rfl
    · exact hleave _ rfl
  · exact hleave _ rfl

private theorem movesAway_evade (env : Surroundings) (now : Instant) (shared : Option Tuning)
    (hs : t.scene.stance s.id = some s.stance) (on : s.phase = .listening ∨ s.phase = .started) :
    (∃ ms st', MovesAway s.stance ms st' ∧ Progresses s.id ms st' t (evade env now (t, shared) s).1)
      ∧ Leaves s.id t (evade env now (t, shared) s).1 := by
  have hprogress := progress_findPlace env now t shared s
  have hqueue : (findPlace env now t shared s).2.queue = t.queue := by
    unfold findPlace
    split
    · rfl
    · exact (finds_select env t s now).queue
  rw [evade_eq]
  generalize findPlace env now t shared s = found at *
  have hs₁ : found.2.scene.stance s.id = some s.stance :=
    (congrArg Prod.fst (congrFun hprogress s.id)).trans hs
  split
  · have hnotice : (found.2.notify s.id .noChannel).progress = t.progress :=
      (progress_record found.2 rfl).trans hprogress
    have haway := MovesAway.stop s.phase s.tuning s.target on
    refine ⟨⟨_, _, Mark.shift_of_on on ▸ haway, ?_⟩, ?_⟩
    · exact (progresses_beginStop (t := found.2.notify s.id .noChannel) env hs₁).from_eq hnotice
    · exact (leaves_beginStop env (found.2.notify s.id .noChannel) s.id).after hqueue
  · rename_i target _
    obtain ⟨ms, st', haway, hprogresses⟩ := movesAway_moveTo env hs₁ on target
    have hleave := (leaves_moveTo env found.2 s target).after hqueue
    exact ⟨⟨ms, st', haway, hprogresses.from_eq hprogress⟩, hleave⟩

private theorem progress_warn (t : Turn) (channels : List Channel) (l : List Session) :
    (t.warn channels l).progress = t.progress := by
  unfold warn
  induction l generalizing t with
  | nil => rfl
  | cons s rest ih =>
    exact (ih (t.notify s.id (.radarDetected channels))).trans (progress_record t rfl)

private theorem progress_abortListening (t : Turn) (channels : List Channel) :
    (t.abortListening channels).progress = t.progress := by
  unfold abortListening
  split
  · exact progress_record _ rfl
  · rfl

theorem eachProgresses_onRadar (env : Surroundings) (s : Session) (channels : List Channel)
    (now : Instant) (hn : t.scene.ids.Nodup) :
    EachProgresses (fun s => MovesAway s.stance)
      (t.affected (if channels.isEmpty then s.occupied else channels)) t
      (t.onRadar env s channels now) := by
  rw [onRadar_eq]
  generalize (if channels.isEmpty then s.occupied else channels) = chs
  have hlisted : ((t.share (struck now chs)).notify s.id
      (.listChanged ((t.share (struck now chs)).airspace.table.records now))).progress =
        t.progress :=
    progress_record _ rfl
  have haffected : ((t.share (struck now chs)).notify s.id (.listChanged
      ((t.share (struck now chs)).airspace.table.records now))).affected chs = t.affected chs := rfl
  have hqueue : ((t.share (struck now chs)).notify s.id (.listChanged
      ((t.share (struck now chs)).airspace.table.records now))).queue = t.queue := rfl
  generalize (t.share (struck now chs)).notify s.id (.listChanged
      ((t.share (struck now chs)).airspace.table.records now)) = t₁ at *
  refine EachProgresses.from_eq ?_ hlisted hqueue
  unfold disperse
  rw [haffected]
  split
  · rename_i hempty
    rw [List.isEmpty_iff.mp hempty]
    exact (EachProgresses.nil _).from_eq (progress_record t₁ rfl) rfl
  · -- Everybody has been warned and the run is over before anybody moves.
    have hready : ((t₁.warn chs (t.affected chs)).abortListening chs).progress = t₁.progress :=
      (progress_abortListening _ chs).trans (progress_warn t₁ chs _)
    have hq : ((t₁.warn chs (t.affected chs)).abortListening chs).queue = t₁.queue :=
      (abortListening_spec _ chs).2.1.trans (warn_spec t₁ chs _).2.1
    refine EachProgresses.from_eq ?_ hready hq
    refine eachProgresses_foldl (R := fun s => MovesAway s.stance) Prod.fst (evade env now)
      ((t₁.warn chs (t.affected chs)).abortListening chs, none) (fun b s hs hst => ?_)
      (List.Nodup.sublist (List.filter_sublist.map _) hn) fun s hs => ?_
    · exact movesAway_evade env now b.2 hst (mem_affected.mp hs).2.1
    · have hprogress := congrFun (hready.trans hlisted) s.id
      exact (congrArg Prod.fst hprogress).trans (affected_of_mem hn hs).1

private theorem waitEnds_sendOrStop (env : Surroundings) (hs : t.scene.stance s.id = some s.stance)
    (hp : s.phase = .listening) :
    ∃ ms st', WaitEnds s.stance ms st' ∧ Progresses s.id ms st' t (sendOrStop env t s) := by
  have hstance : s.stance = ⟨.listening, s.tuning, s.target⟩ := by rw [← hp]; rfl
  rw [hstance] at hs ⊢
  obtain ⟨ok, hc⟩ := exists_command_eq env t s.id .startBeacon
  rw [sendOrStop, hc]
  cases ok with
  | false =>
    have hprogress : (t.record (.command s.id .startBeacon false)).progress = t.progress :=
      progress_record t rfl
    exact ⟨_, _, .stop s.tuning s.target,
      (progresses_beginStop (t := t.record (.command s.id .startBeacon false)) env hs).from_eq
        hprogress⟩
  | true =>
    have hbid : Progresses s.id [.told] ⟨.listening, s.tuning, s.target⟩ t
        (t.record (.command s.id .startBeacon true)) := progresses_record hs rfl
    exact ⟨_, _, .send s.tuning s.target, hbid.trans (progresses_markStarted hbid.stance)⟩

private theorem waitEnds_wake (env : Surroundings) (hs : t.scene.stance s.id = some s.stance)
    (hp : s.phase = .listening) (htu : s.tuning.isSome = true) :
    (∃ ms st', WaitEnds s.stance ms st' ∧ Progresses s.id ms st' t (wake env t s)) ∧
      Leaves s.id t (wake env t s) := by
  obtain ⟨tu, htu⟩ := Option.isSome_iff_exists.mp htu
  have hleave (t : Turn) : Leaves s.id t (sendOrStop env t s) := by
    obtain ⟨_, -, hq, -⟩ := scene_sendOrStop env t s
    exact hq.imp_right fun hq => ⟨.networkStopped, rfl, hq⟩
  rw [wake, htu]
  dsimp only
  rw [endListening_eq]
  split
  · exact ⟨waitEnds_sendOrStop env hs hp, hleave t⟩
  · have hprogress : ((t.modify s.id fun s => { s with listeningEndAnnounced := true }).notify s.id
        (.listeningEnded tu)).progress = t.progress := by
      refine (progress_record _ rfl).trans ?_
      exact progress_modify t s.id (fun _ => rfl) fun _ => rfl
    have hqueue : ((t.modify s.id fun s => { s with listeningEndAnnounced := true }).notify s.id
        (.listeningEnded tu)).queue = t.queue := rfl
    generalize (t.modify s.id fun s => { s with listeningEndAnnounced := true }).notify s.id
      (.listeningEnded tu) = t₁ at *
    have hs₁ : t₁.scene.stance s.id = some s.stance :=
      (congrArg Prod.fst (congrFun hprogress s.id)).trans hs
    obtain ⟨ms, st', hends, hprogresses⟩ := waitEnds_sendOrStop env hs₁ hp
    exact ⟨⟨ms, st', hends, hprogresses.from_eq hprogress⟩, (hleave t₁).after hqueue⟩

theorem eachProgresses_onListeningOver {run : ListeningRun} (h : t.airspace.run = some run)
    (hn : t.scene.ids.Nodup) (env : Surroundings) :
    EachProgresses (fun s => WaitEnds s.stance) (t.waiting run) t (t.onListeningOver env) := by
  rw [onListeningOver_of_run h]
  refine EachProgresses.from_eq ?_ (progress_share t (credited run)) rfl
  refine eachProgresses_foldl (R := fun s => WaitEnds s.stance) (fun t => t) (wake env)
    (t.share (credited run)) (fun b s hs hst => ?_)
    (List.Nodup.sublist (List.filter_sublist.map _) hn) fun s hs => ?_
  · obtain ⟨-, hp, hover⟩ := mem_waiting.mp hs
    refine waitEnds_wake env hst hp ?_
    cases htu : s.tuning with
    | none => simp [Session.overlaps, htu] at hover
    | some tu => rfl
  · exact Controller.stance?_of_session? (Controller.session?_of_mem hn (mem_waiting.mp hs).1)

/-- Whoever has an event to come may give up what it was about; the others are left alone. -/
def EachGivesUp (t t' : Turn) : Prop :=
  ∀ id, t'.progress id = t.progress id ∨ (∃ p ∈ t.queue, p.1 = id) ∧ ∃ st ms st',
    t.scene.stance id = some st ∧ GivesUp st ms st' ∧ t'.progress id =
      (some st', (t.progress id).2 ++ ms)

private theorem givesUp_handle_closing (env : Surroundings) (now : Instant)
    (hsess : t.session? id = some s) (he : e.isClosing = true) :
    ∃ ms st', GivesUp s.stance ms st' ∧ Progresses id ms st' t (t.handle env now id e) := by
  have hs : t.scene.stance id = some s.stance := Controller.stance?_of_session? hsess
  have hcases := handle_closing_cases env now hsess he
  rw [← Controller.id_of_session? hsess] at hs hcases ⊢
  rcases hcases with heq | ⟨hp, heq⟩ | ⟨hp, heq | ⟨target, -, heq⟩⟩ <;> rw [heq]
  · exact ⟨_, _, .still _, progresses_of_progress_eq hs rfl⟩
  · have hgivesUp := GivesUp.fail s.phase s.tuning s.target hp
    exact ⟨_, _, Mark.shift_of_starts hp ▸ hgivesUp, progresses_failStart env hs⟩
  all_goals
    have hstance : s.stance = ⟨.disconnecting, s.tuning, s.target⟩ := by rw [← hp]; rfl
    rw [hstance] at hs ⊢
  · exact ⟨_, _, .finish s.tuning s.target, progresses_finishStop env hs⟩
  · obtain ⟨st', hprogresses, hgivesUp, -⟩ := givesUp_onChangeRequest env target hs
    exact ⟨_, st', hgivesUp, hprogresses⟩

private theorem EachGivesUp.trans (h : EachGivesUp t t₁)
    (hq : ∀ p ∈ t₁.queue, ∃ q ∈ t.queue, q.1 = p.1)
    (h' : EachGivesUp t₁ t') : EachGivesUp t t' := by
  intro id
  rcases h' id with hsame' | ⟨⟨p, hp, hid⟩, st₁, ms', st', hst₁, hgivesUp', hprogress'⟩
  · rw [hsame']
    exact h id
  · obtain ⟨q, hqmem, hqid⟩ := hq p hp
    refine .inr ⟨⟨q, hqmem, hqid.trans hid⟩, ?_⟩
    rcases h id with hsame | ⟨-, st, ms, st₂, hst, hgivesUp, hprogress⟩
    · refine ⟨st₁, ms', st', (congrArg Prod.fst hsame).symm.trans hst₁, hgivesUp', ?_⟩
      rw [hprogress', hsame]
    · obtain rfl : st₂ = st₁ := by
        have hfst := (congrArg Prod.fst hprogress).symm.trans hst₁
        exact Option.some.inj hfst
      refine ⟨st, ms ++ ms', st', hst, hgivesUp.trans hgivesUp', ?_⟩
      rw [hprogress', hprogress, List.append_assoc]

private theorem eachGivesUp_handle_closing (env : Surroundings) (now : Instant)
    (he : e.isClosing = true) {rest : List (SessionId × Event)} (hq : t.queue = (id, e) :: rest) :
    EachGivesUp t (handle env now { t with queue := rest } id e) := by
  let t₁ : Turn := { t with queue := rest }
  intro j
  cases hsess : t₁.session? id with
  | none =>
    rw [handle_closing_of_none hsess]
    exact .inl rfl
  | some s =>
    obtain ⟨ms, st', hgivesUp, hprogresses⟩ := givesUp_handle_closing env now hsess he
    by_cases hj : j = id
    · subst hj
      exact .inr ⟨⟨(j, e), by simp [hq], rfl⟩, s.stance, ms, st',
        Controller.stance?_of_session? hsess, hgivesUp, hprogresses.own⟩
    · exact .inl (hprogresses.other hj)

theorem eachGivesUp_drain (env : Surroundings) (now : Instant) (n : Nat)
    (hclosing : ∀ p ∈ t.queue, p.2.isClosing = true) : EachGivesUp t (t.drain env now n) := by
  -- By induction on the steps that are left. What an event adds to the queue closes as well.
  induction n generalizing t with
  | zero => exact fun _ => .inl rfl
  | succ n ih =>
    rw [drain]
    cases hq : t.queue with
    | nil => exact fun _ => .inl rfl
    | cons p rest =>
      obtain ⟨id, e⟩ := p
      have he : e.isClosing = true := hclosing (id, e) (by simp [hq])
      let t₁ : Turn := { t with queue := rest }
      have hleaves : Leaves id t₁ (t₁.handle env now id e) :=
        leaves_handle_closing env now t₁ id he
      have hmem (p : SessionId × Event) (hp : p ∈ (t₁.handle env now id e).queue) :
          p ∈ rest ∨ p.1 = id ∧ p.2.isClosing = true := by
        rcases hleaves with h | ⟨e', he', h⟩ <;> rw [h] at hp
        · exact .inl hp
        · refine (List.mem_append.mp hp).imp_right fun hp => ?_
          obtain rfl := List.mem_singleton.mp hp
          exact ⟨rfl, he'⟩
      have hfirst : EachGivesUp t (t₁.handle env now id e) :=
        eachGivesUp_handle_closing env now he hq
      refine hfirst.trans (fun p hp => ?_) (ih fun p hp => ?_)
      · rcases hmem p hp with hp | ⟨hid, -⟩
        · exact ⟨p, by simp [hq, hp], rfl⟩
        · exact ⟨(id, e), by simp [hq], hid.symm⟩
      · rcases hmem p hp with hp | ⟨-, hp⟩
        · exact hclosing p (by simp [hq, hp])
        · exact hp

end Turn

end Hotspot

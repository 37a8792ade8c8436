import Hotspot.Proofs.AccessPoint.Effect
import Hotspot.Proofs.AccessPoint.RadarProgress

/-!
How one session progresses with one operation, said once for all operations: the session is left
alone, or it acts in one of a few ways and then may give up what it was about. The ways exclude each
other, so what an operation must make of a session can be read off as well as what it may.
-/

set_option autoImplicit false
set_option relaxedAutoImplicit false

namespace Hotspot

open Stance (GivesUp OwnStep MovesAway WaitEnds)

/-- With the operation the session hears that it has arrived where it was moving. -/
def Operation.HearsArrival (op : Operation) (id : SessionId) (st : Stance) : Prop :=
  st.phase = .disconnecting ∧ st.target.isSome = true ∧ ∃ new, op.heard? = some (id, new)

namespace Controller

/-- Where the session with a number stands; one that is not open stands where one begins. -/
def standing (c : Controller) (id : SessionId) : Stance :=
  (c.stance? id).getD .initial

def CompletesWait (c : Controller) (op : Operation) (st : Stance) : Prop :=
  ∃ run, c.completes? op = some run ∧ st.Waits run

/-- With the operation the session arrives where it was moving, and is on the air there without
listening. -/
def ArrivesOnAir (c : Controller) (op : Operation) (id : SessionId) (st : Stance) : Prop :=
  op.HearsArrival id st ∧ ∃ new, op.heard? = some (id, new) ∧ c.turn.mustListen new = false

/-- With the operation the session arrives where another run of listening keeps it from sending and
from listening. -/
def ArrivesBlocked (c : Controller) (op : Operation) (id : SessionId) (st : Stance) : Prop :=
  op.HearsArrival id st ∧ ∃ new, op.heard? = some (id, new) ∧ c.turn.mustListen new = true ∧
    c.airspace.admits new = false

/-- The ways in which a session acts on an operation. -/
inductive Acts (c : Controller) (op : Operation) (id : SessionId) :
    Stance → List Mark → Stance → Prop
  | answer (st st' : Stance) (ms : List Mark) (env : Surroundings) (now : Instant) (e : Event)
      (meant : op = .dispatch env now id e) (stays : ¬ op.HearsArrival id st)
        (sleeps : ¬ c.CompletesWait op st) (ownStep : OwnStep e st ms st') : Acts c op id st ms st'
  | givesUp (st st' : Stance) (ms : List Mark) (env : Surroundings) (now : Instant) (e : Event)
      (meant : op = .dispatch env now id e) (stays : ¬ op.HearsArrival id st)
        (sleeps : ¬ c.CompletesWait op st) (givesUp : GivesUp st ms st') : Acts c op id st ms st'
  | arrive (tu : Option Tuning) (tg new : Tuning) (st' : Stance) (ms : List Mark)
      (heard : op.heard? = some (id, new)) (arrival : c.turn.Arrival new ms st') :
      Acts c op id ⟨.disconnecting, tu, some tg⟩ ms st'
  | flee (st st' : Stance) (ms : List Mark) (channels : List Channel)
      (reported : c.reports? op = some channels) (affected : st.Affected channels)
      (movesAway : MovesAway st ms st') : Acts c op id st ms st'
  | wake (st st' : Stance) (ms : List Mark) (completesWait : c.CompletesWait op st)
      (waitEnds : WaitEnds st ms st') : Acts c op id st ms st'

inductive Responds (c : Controller) (op : Operation) (id : SessionId) (st : Stance) :
    List Mark → Stance → Prop
  | aside (stays : ¬ op.HearsArrival id st) (sleeps : ¬ c.CompletesWait op st) :
      Responds c op id st [] st
  | closed (off : st.phase = .disconnected) : Responds c op id st [] .initial
  | act (st₁ st' : Stance) (ms ms' : List Mark) (acts : c.Acts op id st ms st₁)
      (givesUp : GivesUp st₁ ms' st') : Responds c op id st (ms ++ ms') st'

variable {c c' : Controller} {env : Surroundings} {now : Instant} {id : SessionId} {s : Session}
  {e : Event} {op : Operation} {t₁ t' : Turn} {st st₁ st' : Stance} {ms : List Mark}

theorem CompletesWait.phase (h : c.CompletesWait op st) : st.phase = .listening := by
  obtain ⟨run, -, hwait⟩ := h
  exact hwait.1

theorem Responds.arrives (h : c.Responds op id st ms st') (harrival : op.HearsArrival id st) :
    ∃ tu tg new st₁ ms₁ ms₂, st = ⟨.disconnecting, tu, some tg⟩ ∧ op.heard? = some (id, new) ∧
      c.turn.Arrival new ms₁ st₁ ∧ GivesUp st₁ ms₂ st' ∧ ms = ms₁ ++ ms₂ := by
  have hp := harrival.1
  cases h with
  | aside stays => exact absurd harrival stays
  | closed off => exact absurd (hp.symm.trans off) nofun
  | act st₁ _ ms₁ ms₂ acts givesUp =>
    cases acts with
    | answer _ _ _ _ _ _ _ stays | givesUp _ _ _ _ _ _ _ stays => exact absurd harrival stays
    | arrive tu tg new _ _ heard arrival =>
      exact ⟨tu, tg, new, st₁, ms₁, ms₂, rfl, heard, arrival, givesUp, rfl⟩
    | flee _ _ _ _ _ affected =>
      rcases affected.1 with h | h <;> exact absurd (hp.symm.trans h) nofun
    | wake _ _ _ completesWait => exact absurd (hp.symm.trans completesWait.phase) nofun

theorem arrivesOnAir_iff {new : Tuning} (harrival : op.HearsArrival id st)
    (heard : op.heard? = some (id, new)) :
    c.ArrivesOnAir op id st ↔ c.turn.mustListen new = false := by
  simp [ArrivesOnAir, harrival, heard]

theorem arrivesBlocked_iff {new : Tuning} (harrival : op.HearsArrival id st)
    (heard : op.heard? = some (id, new)) :
    c.ArrivesBlocked op id st ↔ c.turn.mustListen new = true ∧ c.airspace.admits new = false := by
  simp [ArrivesBlocked, harrival, heard]

theorem standing_of_session? (h : c.session? id = some s) : c.standing id = s.stance := by
  rw [standing, stance?, h]
  rfl

theorem standing_of_stance (h : c.scene.stance id = some st) : c.standing id = st := by
  have h : c.stance? id = some st := h
  rw [standing, h]
  rfl

theorem phase?_of_stance (h : c.scene.stance id = some st) : c.phase? id = some st.phase := by
  obtain ⟨s, hs, rfl⟩ := session?_of_stance? h
  rw [phase?, hs]
  rfl

theorem exists_session_of_standing (h : (c.standing id).phase ≠ .disconnected) :
    ∃ s, c.session? id = some s ∧ s.stance = c.standing id := by
  cases hsess : c.session? id with
  | none => simp [standing, stance?, hsess, Stance.initial] at h
  | some s => exact ⟨s, rfl, (standing_of_session? hsess).symm⟩

theorem mem_ids_of_stance (h : c.scene.stance id = some st) : id ∈ c.scene.ids := by
  obtain ⟨s, hs, -⟩ := session?_of_stance? h
  exact List.mem_map.mpr ⟨s, mem_of_session? hs, id_of_session? hs⟩

private theorem responds_of_aside (heach : Turn.EachGivesUp t₁ t')
    (hprogress : t₁.progress id = c.turn.progress id)
    (hq : ∀ p ∈ t₁.queue, p.1 ≠ id) (stays : ¬ op.HearsArrival id (c.standing id))
    (sleeps : ¬ c.CompletesWait op (c.standing id)) :
    c.Responds op id (c.standing id) (t'.journal.marks id) (t'.toController.standing id) := by
  rcases heach id with hsame | ⟨⟨p, hp, hid⟩, -⟩
  · have hsame := hsame.trans hprogress
    have hmarks : t'.journal.marks id = [] := congrArg Prod.snd hsame
    have hstance : t'.scene.stance id = c.scene.stance id := congrArg Prod.fst hsame
    have hstanding : t'.toController.standing id = c.standing id :=
      congrArg (fun o : Option Stance => o.getD .initial) hstance
    rw [hmarks, hstanding]
    exact .aside stays sleeps
  · exact absurd hid (hq p hp)

private theorem responds_of_acts (heach : Turn.EachGivesUp t₁ t')
    (hprogress : t₁.progress id = (some st₁, ms)) (hacts : c.Acts op id (c.standing id) ms st₁) :
    c.Responds op id (c.standing id) (t'.journal.marks id) (t'.toController.standing id) := by
  have hread {st' : Stance} {ms' : List Mark} (h : t'.progress id = (some st', ms')) :
      t'.journal.marks id = ms' ∧ t'.toController.standing id = st' :=
    ⟨congrArg Prod.snd h, standing_of_stance (congrArg Prod.fst h)⟩
  rcases heach id with hsame | ⟨-, st, ms', st', hst, hgivesUp, hafter⟩
  · obtain ⟨hmarks, hstanding⟩ := hread (hsame.trans hprogress)
    rw [hmarks, hstanding, ← List.append_nil ms]
    exact .act st₁ _ ms [] hacts (.still st₁)
  · obtain rfl : st = st₁ := by
      have hfst := hst.symm.trans (congrArg Prod.fst hprogress)
      exact Option.some.inj hfst
    rw [hprogress] at hafter
    obtain ⟨hmarks, hstanding⟩ := hread hafter
    rw [hmarks, hstanding]
    exact .act st _ ms ms' hacts hgivesUp

private theorem eachGivesUp_settle (env : Surroundings) (now : Instant) (hs : c.Sound)
    (h : c.session? id = some s) :
    Turn.EachGivesUp (c.turn.react env now id e) ((c.turn.enqueue id e).settle env now) := by
  obtain ⟨n, heq, -⟩ := Turn.settle_enqueue env now e hs.queue h
  rw [heq]
  exact Turn.eachGivesUp_drain env now n (closing_react hs h env now e).1

private theorem responds_of_managed (h : Scene.Managed c.scene c'.scene) (hheard : op.heard? = none)
    (hpending : c.completes? op = none) (id : SessionId) :
    c.Responds op id (c.standing id) [] (c'.standing id) := by
  have haside (h : c'.standing id = c.standing id) :
      c.Responds op id (c.standing id) [] (c'.standing id) := by
    rw [h]
    exact .aside (by simp [Operation.HearsArrival, hheard]) (by simp [CompletesWait, hpending])
  have hbefore : c.standing id = (c.scene.stance id).getD .initial := rfl
  have hnone (hid : id ∉ c.scene.ids) : c.standing id = .initial := by
    cases hst : c.scene.stance id with
    | none => rw [hbefore, hst]; rfl
    | some st => exact absurd (mem_ids_of_stance hst) hid
  have hafter : c'.standing id = (c'.scene.stance id).getD .initial := rfl
  generalize c.scene = σ at h hbefore hnone
  generalize c'.scene = σ' at h hafter
  cases h with
  | same => exact haside (hafter.trans hbefore.symm)
  | opened new ids fresh added =>
    dsimp only at hafter
    by_cases hid : id = new
    · rw [if_pos hid] at hafter
      exact haside (hafter.trans (hnone (hid ▸ fresh)).symm)
    · rw [if_neg hid] at hafter
      exact haside (hafter.trans hbefore.symm)
  | closed gone st found off =>
    dsimp only at hafter
    by_cases hid : id = gone
    · subst hid
      rw [if_pos rfl] at hafter
      rw [found] at hbefore
      rw [hafter, hbefore]
      exact .closed off
    · rw [if_neg hid] at hafter
      exact haside (hafter.trans hbefore.symm)
  | moved domain table off => exact haside (hafter.trans hbefore.symm)

private theorem hearsArrival_dispatch_iff :
    (Operation.dispatch env now id e).HearsArrival id s.stance ↔ Turn.Arrives s e := by
  constructor
  · rintro ⟨hp, htg, new, hheard⟩
    refine ⟨hp, htg, ?_⟩
    cases e with
    | channelChanged tuning => exact ⟨tuning, rfl⟩
    | _ => cases hheard
  · rintro ⟨hp, htg, new, rfl⟩
    exact ⟨hp, htg, new, rfl⟩

private theorem eq_of_hearsArrival_dispatch {j : SessionId}
    (h : (Operation.dispatch env now id e).HearsArrival j st) : j = id := by
  obtain ⟨-, -, new, hheard⟩ := h
  simp only [Operation.heard?, Option.map_eq_some_iff] at hheard
  obtain ⟨_, -, heq⟩ := hheard
  exact (congrArg Prod.fst heq).symm

theorem exists_acts (env : Surroundings) (now : Instant) (hs : c.Sound)
    (h : c.session? id = some s) (hreport : s.reports? e = none) (hover : s.awaits e = false) :
    ∃ ms st', Turn.Progresses id ms st' c.turn (c.turn.react env now id e) ∧
      c.Acts (.dispatch env now id e) id s.stance ms st' := by
  have hsleep : ¬ c.CompletesWait (.dispatch env now id e) s.stance := by
    simp [CompletesWait, completes?, h, hover]
  -- An arrival is handled in two turns of the queue, which count as one here.
  by_cases harrive : Turn.Arrives s e
  · obtain ⟨hp, htg, new, rfl⟩ := harrive
    obtain ⟨ms, st', harrival, hprogresses⟩ :=
      Turn.progresses_react_of_arrives (t := c.turn) env now h new hp htg
    obtain ⟨tg, hsome⟩ := Option.isSome_iff_exists.mp htg
    have hstance : s.stance = ⟨.disconnecting, s.tuning, some tg⟩ := by rw [← hp, ← hsome]; rfl
    exact ⟨ms, st', hprogresses, hstance ▸ .arrive s.tuning tg new st' ms rfl harrival⟩
  · have hstay : ¬ (Operation.dispatch env now id e).HearsArrival id s.stance :=
      mt hearsArrival_dispatch_iff.mp harrive
    obtain ⟨ms, st', hprogresses, hreply⟩ := Turn.replies_handle (t := c.turn) env now h
      hs.scene.nodup (proper_of_session? hs h) hreport hover harrive
    rw [← Turn.react_of_not_arrives h harrive] at hprogresses
    refine ⟨ms, st', hprogresses, ?_⟩
    rcases hreply with hstep | ⟨hgivesUp, -⟩
    · exact .answer _ st' ms env now e rfl hstay hsleep hstep
    · exact .givesUp _ st' ms env now e rfl hstay hsleep hgivesUp

private theorem responds_of_quiet (hs : c.Sound) (h : c.session? id = some s)
    (hreport : s.reports? e = none) (hover : s.awaits e = false) (j : SessionId) :
    c.Responds (.dispatch env now id e) j (c.standing j)
      (((c.turn.enqueue id e).settle env now).journal.marks j)
      (((c.turn.enqueue id e).settle env now).toController.standing j) := by
  have hq : c.turn.queue = [] := hs.queue
  have hmem (p : SessionId × Event) (hp : p ∈ (c.turn.react env now id e).queue) : p.1 = id := by
    rcases Turn.leaves_react env now (t := c.turn) h hreport hover with hl | ⟨e', -, hl⟩ <;>
      rw [hl, hq] at hp
    · exact absurd hp List.not_mem_nil
    · obtain rfl := List.mem_singleton.mp hp
      rfl
  have heach := eachGivesUp_settle (e := e) env now hs h
  obtain ⟨ms, st', hprogresses, hacts⟩ := exists_acts env now hs h hreport hover
  by_cases hj : j = id
  · subst hj
    refine responds_of_acts heach hprogresses.own ?_
    rwa [standing_of_session? h]
  · refine responds_of_aside heach (hprogresses.other hj) (fun p hp hid => ?_) ?_ ?_
    · exact hj (hid.symm.trans (hmem p hp))
    · exact fun harrival => hj (eq_of_hearsArrival_dispatch harrival)
    · simp [CompletesWait, completes?, h, hover]

private theorem responds_of_report (hs : c.Sound) (h : c.session? id = some s) {chs : List Channel}
    (hreport : s.reports? e = some chs) (j : SessionId) :
    c.Responds (.dispatch env now id e) j (c.standing j)
      (((c.turn.enqueue id e).settle env now).journal.marks j)
      (((c.turn.enqueue id e).settle env now).toController.standing j) := by
  have hheard : e.heard? = none := by
    cases e with
    | channelChanged => cases hreport
    | _ => rfl
  have hover : s.awaits e = false := by
    cases e with
    | listeningOver => cases hreport
    | _ => rfl
  obtain ⟨channels, rfl, hreact⟩ := Turn.react_of_reports env now (t := c.turn) h hreport
  have heach :=
    Turn.eachProgresses_onRadar (t := c.turn) env s channels now hs.scene.nodup
  have hq : c.turn.queue = [] := hs.queue
  have heachGivesUp := eachGivesUp_settle env now (e := e) hs h
  rw [hreact] at heachGivesUp
  have hreported : c.reports? (.dispatch env now id e) =
      some (if channels.isEmpty then s.occupied else channels) := by
    simpa [reports?, h] using hreport
  generalize (if channels.isEmpty then s.occupied else channels) = chs at *
  by_cases hj : ∃ x ∈ c.turn.affected chs, x.id = j
  · obtain ⟨x, hx, rfl⟩ := hj
    obtain ⟨hst, haff⟩ := Turn.affected_of_mem hs.scene.nodup hx
    obtain ⟨ms, st', haway, hprogress⟩ := heach.own x hx
    refine responds_of_acts heachGivesUp hprogress ?_
    rw [standing_of_stance hst]
    exact .flee _ st' _ chs hreported haff haway
  · have hnot (x : Session) (hx : x ∈ c.turn.affected chs) : x.id ≠ j := fun hid => hj ⟨x, hx, hid⟩
    refine responds_of_aside heachGivesUp (heach.others j hnot) (fun p hp hid => ?_) ?_ ?_
    · rcases heach.queue p hp with hp | ⟨x, hx, hxid⟩
      · rw [hq] at hp
        exact List.not_mem_nil hp
      · exact hnot x hx (hxid.symm.trans hid)
    · simp [Operation.HearsArrival, Operation.heard?, hheard]
    · simp [CompletesWait, completes?, h, hover]

private theorem responds_of_end (hs : c.Sound) {run : ListeningRun}
    (hrun : c.airspace.run = some run)
    (hended : c.completes? op = some run) (hheard : op.heard? = none)
    (heachGivesUp : Turn.EachGivesUp (c.turn.onListeningOver env) t') (j : SessionId) :
    c.Responds op j (c.standing j) (t'.journal.marks j) (t'.toController.standing j) := by
  have heach := Turn.eachProgresses_onListeningOver (t := c.turn) hrun hs.scene.nodup env
  by_cases hj : ∃ x ∈ c.turn.waiting run, x.id = j
  · obtain ⟨x, hx, rfl⟩ := hj
    obtain ⟨hmem, hwait⟩ := Turn.mem_waiting.mp hx
    have hsess := session?_of_mem hs.scene.nodup hmem
    obtain ⟨ms, st', hends, hprogress⟩ := heach.own x hx
    refine responds_of_acts heachGivesUp hprogress ?_
    rw [standing_of_session? hsess]
    exact .wake _ st' _ ⟨run, hended, Turn.waits_stance.mpr hwait⟩ hends
  · have hnot (x : Session) (hx : x ∈ c.turn.waiting run) : x.id ≠ j := fun hid => hj ⟨x, hx, hid⟩
    refine responds_of_aside heachGivesUp (heach.others j hnot) (fun p hp hid => ?_) ?_ ?_
    · rcases heach.queue p hp with hp | ⟨x, hx, hxid⟩
      · have hq : c.turn.queue = [] := hs.queue
        rw [hq] at hp
        exact List.not_mem_nil hp
      · exact hnot x hx (hxid.symm.trans hid)
    · simp [Operation.HearsArrival, hheard]
    · rintro ⟨run', hended', hwait⟩
      rw [hended, Option.some.injEq] at hended'
      subst hended'
      have hp : (c.standing j).phase ≠ .disconnected := by simp [hwait.1]
      obtain ⟨x, hsess, hstance⟩ := exists_session_of_standing hp
      rw [← hstance] at hwait
      have hx : x ∈ c.turn.waiting run :=
        Turn.mem_waiting.mpr ⟨mem_of_session? hsess, Turn.waits_stance.mp hwait⟩
      exact hnot x hx (id_of_session? hsess)

private theorem responds_of_over (hs : c.Sound) (hended : c.completes? op = c.airspace.run)
    (hheard : op.heard? = none) (heach : Turn.EachGivesUp (c.turn.onListeningOver env) t')
    (j : SessionId) :
    c.Responds op j (c.standing j) (t'.journal.marks j) (t'.toController.standing j) := by
  cases hrun : c.airspace.run with
  | some run => exact responds_of_end hs hrun (hended.trans hrun) hheard heach j
  | none =>
    rw [Turn.onListeningOver_of_none (t := c.turn) hrun env] at heach
    refine responds_of_aside heach rfl (by simp [hs.queue]) ?_ ?_
    · simp [Operation.HearsArrival, hheard]
    · simp [CompletesWait, hended, hrun]

private theorem responds_dispatch (env : Surroundings) (now : Instant) (hs : c.Sound)
    (h : c.session? id = some s) (e : Event) (j : SessionId) :
    c.Responds (.dispatch env now id e) j (c.standing j)
      (((c.turn.enqueue id e).settle env now).journal.marks j)
      (((c.turn.enqueue id e).settle env now).toController.standing j) := by
  cases hreport : s.reports? e with
  | some channels => exact responds_of_report hs h hreport j
  | none =>
    cases hover : s.awaits e with
    | false => exact responds_of_quiet hs h hreport hover j
    | true =>
      have hheard : (Operation.dispatch env now id e).heard? = none := by
        cases e with
        | listeningOver => rfl
        | _ => cases hover
      have heach := eachGivesUp_settle env now (e := e) hs h
      rw [Turn.react_of_awaits env now (t := c.turn) h hover] at heach
      exact responds_of_over hs (by simp [completes?, h, hover]) hheard heach j

/-- What one operation makes of one session. -/
theorem responds_perform (hs : c.Sound) (op : Operation) (j : SessionId) :
    c.Responds op j (c.standing j) ((c.perform op).2.marks j) ((c.perform op).1.standing j) := by
  have hrefused (op : Operation) (hheard : op.heard? = none) (hpending : c.completes? op = none) :
      c.Responds op j (c.standing j) (Journal.marks [] j) (c.standing j) :=
    .aside (by simp [Operation.HearsArrival, hheard]) (by simp [CompletesWait, hpending])
  cases op with
  | openSession settings =>
    cases h : c.openSession settings with
    | error fault => simpa [perform, h] using hrefused _ rfl rfl
    | ok result =>
      obtain ⟨id, c'⟩ := result
      simpa [perform, h] using responds_of_managed (managed_openSession h).1 rfl rfl j
  | closeSession id =>
    cases h : c.closeSession id with
    | error fault => simpa [perform, h] using hrefused _ rfl rfl
    | ok c' => simpa [perform, h] using responds_of_managed (managed_closeSession h).1 rfl rfl j
  | setDomain domain =>
    cases h : c.setDomain domain with
    | error fault => simpa [perform, h] using hrefused _ rfl rfl
    | ok c' => simpa [perform, h] using responds_of_managed (managed_setDomain h).1 rfl rfl j
  | dispatch env now id e =>
    cases h : c.session? id with
    | none =>
      rw [perform_dispatch_of_none h]
      -- The number is not in use, so nobody with it can be on the way anywhere.
      refine .aside (fun harrival => ?_) (by simp [CompletesWait, completes?, h])
      obtain rfl := eq_of_hearsArrival_dispatch harrival
      have hp := harrival.1
      simp [standing, stance?, h, Stance.initial] at hp
    | some s =>
      rw [perform_dispatch h]
      exact responds_dispatch env now hs h e j
  | listeningOver env now =>
    have hperform : c.perform (.listeningOver env now) =
        (((c.turn.onListeningOver env).settle env now).toController,
          ((c.turn.onListeningOver env).settle env now).journal) := rfl
    rw [hperform]
    have hclosing := (closing_onListeningOver hs env).1
    exact responds_of_over hs rfl rfl (Turn.eachGivesUp_drain env now _ hclosing) j

end Controller

end Hotspot

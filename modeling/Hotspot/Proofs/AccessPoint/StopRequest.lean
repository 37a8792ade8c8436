import Hotspot.Proofs.AccessPoint.OperationProgress
import Hotspot.Proofs.AccessPoint.Run

/-!
A stop is meant to last until the session is asked to start again. A session that radar was moving
when the stop came keeps the target of the move, and once the layer below says that the channel has
changed, it is back on the air or listens. Unless the session was moving, or was off the air at
once, every stop lasts.
-/

set_option autoImplicit false
set_option relaxedAutoImplicit false

namespace Hotspot

open Stance (GivesUp OwnStep)

def Phase.isDown : Phase → Bool
  | .disconnected | .disconnecting => true
  | .selecting | .listening | .starting | .started => false

def Operation.asks (op : Operation) (id : SessionId) : Bool :=
  match op with
  | .dispatch _ _ j e => j == id && e.asks
  | _ => false

namespace Controller

variable {c c₀ : Controller} {env : Surroundings} {now : Instant} {id : SessionId} {s : Session}
  {op : Operation} {st st' : Stance} {ms : List Mark} {e : Event}

abbrev stop (env : Surroundings) (now : Instant) (id : SessionId) : Operation :=
  .dispatch env now id .stopRequest

/-- The layer below reports no tuning for a session but the one that the session moves to. -/
def ReportsTarget (c : Controller) (op : Operation) : Prop :=
  ∀ id tu s, op.heard? = some (id, tu) → c.session? id = some s → s.target = some tu

/-- Operations in which the session is not asked to start and only targets of moves are reported. -/
def Continues (c : Controller) (id : SessionId) : List Operation → Prop
  | [] => True
  | op :: more => op.asks id = false ∧ c.ReportsTarget op ∧ (c.perform op).1.Continues id more

/-- The operation leaves the session down, and brings it to no other phase in between. -/
def KeepsDown (c : Controller) (id : SessionId) (op : Operation) : Prop :=
  (∀ p, (c.perform op).1.phase? id = some p → p.isDown = true) ∧
    ∀ before after, Entry.moved id before after ∈ (c.perform op).2 → after.isDown = true

def StaysDown (c : Controller) (id : SessionId) : List Operation → Prop
  | [] => True
  | op :: more => c.KeepsDown id op ∧ (c.perform op).1.StaysDown id more

end Controller

def Stance.AtRest (st : Stance) : Prop :=
  st.phase = .disconnected ∨ st.phase = .disconnecting ∧ st.target = none

def Mark.Descends (ms : List Mark) : Prop :=
  ∀ before after, .moved before after ∈ ms → after.isDown = true

namespace Mark

variable {p q : Phase} {ms ms' : List Mark}

private theorem Descends.nil : Descends [] :=
  fun _ _ h => absurd h List.not_mem_nil

private theorem Descends.replied (h : Descends ms) (outcome : Outcome) :
    Descends (.replied outcome :: ms) := by
  intro before after hm
  rcases List.mem_cons.mp hm with hm | hm
  · cases hm
  · exact h before after hm

private theorem Descends.append (h : Descends ms) (h' : Descends ms') : Descends (ms ++ ms') :=
  fun before after hm => (List.mem_append.mp hm).elim (h before after) (h' before after)

private theorem descends_moved (hq : q.isDown = true) : Descends [.moved p q] := by
  intro before after hm
  cases List.mem_singleton.mp hm
  exact hq

private theorem descends_shift (hq : q.isDown = true) : Descends (shift p q) := by
  unfold shift
  split
  · exact .nil
  · exact descends_moved hq

end Mark

namespace Stance

variable {st st' : Stance} {ms : List Mark} {e : Event}

private theorem AtRest.isDown (h : st.AtRest) : st.phase.isDown = true := by
  rcases h with h | ⟨h, -⟩ <;> rw [h] <;> rfl

private theorem GivesUp.atRest (h : GivesUp st ms st') (hp : st.AtRest) :
    st'.AtRest ∧ Mark.Descends ms := by
  cases h with
  | still => exact ⟨hp, .nil⟩
  | fail => exact ⟨.inl rfl, (Mark.descends_moved rfl).replied .failure⟩
  | drop tu tg => exact ⟨.inr ⟨rfl, rfl⟩, .nil⟩
  | finish => exact ⟨.inl rfl, Mark.descends_moved rfl⟩

private theorem OwnStep.not_atRest (h : OwnStep e st ms st') (he : e.asks = false) :
    ¬ st.AtRest := by
  intro hp
  cases h with
  | failAtOnce _ _ asked | select _ _ asked => rw [he] at asked; cases asked
  | launch p _ _ _ before =>
    rcases before with ⟨-, asked⟩ | rfl
    · rw [he] at asked; cases asked
    · simp [AtRest] at hp
  | listen p _ _ _ before | refuse p _ _ _ before =>
    rcases before with ⟨-, asked⟩ | ⟨rfl, -⟩
    · rw [he] at asked; cases asked
    · simp [AtRest] at hp
  | start | confirm => simp [AtRest] at hp
  | leave p _ _ on => rcases on with rfl | rfl <;> simp [AtRest] at hp

end Stance

namespace Controller

variable {c c₀ : Controller} {env : Surroundings} {now : Instant} {id : SessionId} {s : Session}
  {op : Operation} {st st' : Stance} {ms : List Mark}

private theorem Responds.atRest (h : c.Responds op id st ms st') (hask : op.asks id = false)
    (hp : st.AtRest) : st'.AtRest ∧ Mark.Descends ms := by
  cases h with
  | aside => exact ⟨hp, .nil⟩
  | closed => exact ⟨.inl rfl, .nil⟩
  | act st₁ _ ms ms' acts givesUp =>
    have hfirst : st₁.AtRest ∧ Mark.Descends ms := by
      cases acts with
      | answer _ _ _ env now e meant _ _ ownStep =>
        subst meant
        have he : e.asks = false := by simpa [Operation.asks] using hask
        exact absurd hp (ownStep.not_atRest he)
      | givesUp _ _ _ _ _ _ _ _ _ givesUp => exact givesUp.atRest hp
      | arrive => simp [Stance.AtRest] at hp
      | flee _ _ _ _ _ affected =>
        rcases affected.1 with h | h <;> simp [Stance.AtRest, h] at hp
      | wake _ _ _ completesWait => simp [Stance.AtRest, completesWait.phase] at hp
    obtain ⟨hp₁, hms⟩ := hfirst
    obtain ⟨hp', hms'⟩ := givesUp.atRest hp₁
    exact ⟨hp', hms.append hms'⟩

private theorem keepsDown_of_descends (hdown : ((c.perform op).1.standing id).phase.isDown = true)
    (hms : Mark.Descends ((c.perform op).2.marks id)) : c.KeepsDown id op := by
  refine ⟨fun p hp => ?_, fun before after hm => hms before after (Journal.mem_marks_of_moved hm)⟩
  obtain ⟨x, hx, rfl⟩ := Option.map_eq_some_iff.mp hp
  rw [standing_of_session? hx] at hdown
  exact hdown

private theorem staysDown_of_atRest (hs : c.Sound) (hp : (c.standing id).AtRest)
    {more : List Operation} (h : c.Continues id more) : c.StaysDown id more := by
  induction more generalizing c with
  | nil => trivial
  | cons op more ih =>
    obtain ⟨hask, -, hrest⟩ := h
    obtain ⟨hp', hms⟩ := (responds_perform hs op id).atRest hask hp
    exact ⟨keepsDown_of_descends hp'.isDown hms, ih (sound_perform hs op) hp' hrest⟩

end Controller

namespace Turn

open Mark (shift)

variable {env : Surroundings} {now : Instant} {t t' : Turn} {s : Session} {id : SessionId}

theorem drain_of_empty (env : Surroundings) (now : Instant) (hq : t.queue = []) (n : Nat) :
    t.drain env now n = t := by
  cases n with
  | zero => rfl
  | succ n => rw [drain, hq]

private theorem react_stop_cases (env : Surroundings) (now : Instant) (h : t.session? id = some s)
    (hon : s.phase ≠ .disconnected) :
    (s.phase = .selecting ∨ s.phase = .starting) ∧
        t.react env now id .stopRequest = t.failStart env s ∨
      (∃ t' : Turn, t'.progress = t.progress ∧ t'.queue = t.queue ∧
        t.react env now id .stopRequest = t'.beginStop env id) ∨
      s.phase = .disconnecting ∧ t.react env now id .stopRequest = t := by
  rw [react_of_not_arrives h (by simp [Arrives]), handle, h]
  dsimp only
  cases hp : s.phase with
  | disconnected => exact absurd hp hon
  | selecting => exact .inl ⟨.inl rfl, rfl⟩
  | starting => exact .inl ⟨.inr rfl, rfl⟩
  | started => exact .inr (.inl ⟨t, rfl, rfl, rfl⟩)
  | disconnecting => exact .inr (.inr ⟨rfl, rfl⟩)
  | listening =>
    refine .inr (.inl ?_)
    unfold onListeningStop
    dsimp only
    split
    · exact ⟨(t.share fun a => { a with run := none }).disarm, progress_record _ rfl, rfl, rfl⟩
    · exact ⟨t, rfl, rfl, rfl⟩

private theorem progresses_drain_beginStop (env : Surroundings) (now : Instant) {st : Stance}
    (hs : t.scene.stance id = some st) (hq : t.queue = []) (n : Nat) :
    ∃ ms st', Progresses id ms st' t ((t.beginStop env id).drain env now (n + 1)) ∧
      (st' = .initial ∨ st' = { st with phase := .disconnecting }) ∧ Mark.Descends ms := by
  have hstop := progresses_beginStop env hs
  have hdown : Mark.Descends (shift st.phase .disconnecting) := Mark.descends_shift rfl
  rcases queue_beginStop env t id with hqueue | hqueue
  · rw [drain_of_empty env now (hqueue.trans hq)]
    exact ⟨_, _, hstop, .inr rfl, hdown⟩
  · rw [hq, List.nil_append] at hqueue
    rw [drain, hqueue]
    dsimp only
    obtain ⟨x, hx, hstance⟩ := Controller.session?_of_stance? hstop.stance
    have hp : x.phase = .disconnecting := congrArg Stance.phase hstance
    have hid := Controller.id_of_session? hx
    generalize t.beginStop env id = t₁ at *
    have hhandle : handle env now { t₁ with queue := [] } id .networkStopped =
        finishStop env { t₁ with queue := [] } x := by
      have hx : ({ t₁ with queue := [] } : Turn).session? id = some x := hx
      rw [handle, hx]
      simp [hp]
    subst hid
    have hfinish := progresses_finishStop (t := { t₁ with queue := [] }) env hstop.stance
    rw [hhandle, drain_of_empty env now (queue_finishStop env _ x)]
    exact ⟨_, _, hstop.trans hfinish, .inl rfl, hdown.append (Mark.descends_shift rfl)⟩

private theorem progresses_drain_stop (env : Surroundings) (now : Instant)
    (h : t.session? id = some s) (hon : s.phase ≠ .disconnected) (hq : t.queue = []) (n : Nat) :
    ∃ ms st', Progresses id ms st' t ((t.react env now id .stopRequest).drain env now (n + 1)) ∧
      (st' = .initial ∨ st' = ⟨.disconnecting, s.tuning, s.target⟩) ∧ Mark.Descends ms := by
  have hst : t.scene.stance id = some s.stance := Controller.stance?_of_session? h
  rcases react_stop_cases env now h hon with
    ⟨hp, hreact⟩ | ⟨t', hprogress, hqueue, hreact⟩ | ⟨hp, hreact⟩ <;> rw [hreact]
  · have hid := Controller.id_of_session? h
    subst hid
    rw [drain_of_empty env now ((queue_failStart env t s).trans hq)]
    exact ⟨_, _, progresses_failStart env hst, .inl rfl, (Mark.descends_shift rfl).replied .failure⟩
  · have hst' : t'.scene.stance id = some s.stance :=
      (congrArg Prod.fst (congrFun hprogress id)).trans hst
    obtain ⟨ms, st', hprogresses, hcases, hms⟩ :=
      progresses_drain_beginStop env now hst' (hqueue.trans hq) n
    exact ⟨ms, st', hprogresses.from_eq hprogress, hcases, hms⟩
  · rw [drain_of_empty env now hq]
    refine ⟨[], _, progresses_of_progress_eq hst rfl, .inr ?_, .nil⟩
    rw [Session.stance, hp]

end Turn

namespace Controller

variable {c c₀ : Controller} {env : Surroundings} {now : Instant} {id : SessionId} {s : Session}
  {op : Operation} {st st' : Stance} {ms : List Mark}

private theorem perform_stop (hs : c.Sound) (h : c.session? id = some s)
    (hon : s.phase ≠ .disconnected) (env : Surroundings) (now : Instant) :
    ((c.perform (stop env now id)).1.stance? id = some .initial ∨
        (c.perform (stop env now id)).1.stance? id = some ⟨.disconnecting, s.tuning, s.target⟩) ∧
      Mark.Descends ((c.perform (stop env now id)).2.marks id) := by
  obtain ⟨n, heq, hn⟩ := Turn.settle_enqueue env now .stopRequest hs.queue h
  have hn : n = 2 * c.sessions.length := (hn.resolve_right (by simp [Turn.Arrives])).1
  have hpos : 0 < c.sessions.length := List.length_pos_of_mem (mem_of_session? h)
  -- There is a session, so at least one closing event can still be handled.
  obtain ⟨n, rfl⟩ : ∃ m, n = m + 1 := ⟨n - 1, by omega⟩
  obtain ⟨ms, st', hprogresses, hcases, hms⟩ :=
    Turn.progresses_drain_stop (t := c.turn) env now h hon hs.queue n
  have hown := hprogresses.own
  have hstance : ((c.turn.react env now id .stopRequest).drain env now (n + 1)).stance? id =
      some st' := congrArg Prod.fst hown
  have hmarks : ((c.turn.react env now id .stopRequest).drain env now (n + 1)).journal.marks id =
      ms := congrArg Prod.snd hown
  rw [perform_dispatch h, heq, hstance, hmarks]
  exact ⟨hcases.imp (congrArg some) (congrArg some), hms⟩

theorem run_perform_listeningOver (hs : c.Sound) (env : Surroundings) (now : Instant) :
    (c.perform (.listeningOver env now)).1.airspace.run = none := by
  have hstops := (closes_listeningOver hs env now).onlyStops
  have hrun : (c.turn.onListeningOver env).airspace.run = none := by
    cases hrun : c.airspace.run with
    | none =>
      rw [Turn.onListeningOver_of_none (t := c.turn) hrun env]
      exact hrun
    | some run =>
      have hwakes := Turn.wakes_onListeningOver (t := c.turn) hrun hs.scene.nodup env
      rw [hwakes.airspace]
      rfl
  have hair := congrArg Airspace.run hstops.airspace
  exact hair.trans hrun

private theorem standing_listeningOver (hs : c.Sound) (hp : (c.standing id).phase = .disconnecting)
    (env : Surroundings) (now : Instant) :
    (c.perform (.listeningOver env now)).1.standing id = c.standing id := by
  have hpass := responds_perform hs (.listeningOver env now) id
  generalize c.standing id = st at *
  generalize (c.perform (.listeningOver env now)).1.standing id = st' at *
  generalize (c.perform (.listeningOver env now)).2.marks id = ms at *
  cases hpass with
  | aside => rfl
  | closed off => exact absurd (hp.symm.trans off) nofun
  | act _ _ _ _ acts _ =>
    cases acts with
    | answer _ _ _ _ _ _ meant | givesUp _ _ _ _ _ _ meant => cases meant
    | arrive _ _ _ _ _ heard => cases heard
    | flee _ _ _ _ reported => cases reported
    | wake _ _ _ completesWait => exact absurd (hp.symm.trans completesWait.phase) nofun

private theorem not_keepsDown_of_arrival (hs : c.Sound) (hrun : c.airspace.run = none)
    {tu : Option Tuning}
    {tg : Tuning} (hst : c.standing id = ⟨.disconnecting, tu, some tg⟩) (env : Surroundings)
    (now : Instant) (new : Tuning) :
    ¬ c.KeepsDown id (.dispatch env now id (.channelChanged new)) := by
  intro hkeeps
  have hpass := responds_perform hs (.dispatch env now id (.channelChanged new)) id
  rw [hst] at hpass
  have harrival : (Operation.dispatch env now id (.channelChanged new)).HearsArrival id
      ⟨.disconnecting, tu, some tg⟩ := ⟨rfl, rfl, new, rfl⟩
  obtain ⟨-, -, new', st₁, ms₁, ms₂, -, heard, arrival, givesUp, -⟩ := hpass.arrives harrival
  obtain rfl : new = new' := congrArg Prod.snd (Option.some.inj heard)
  -- No run is in the way, so the session sends or listens where it arrives.
  have hup : ((c.perform (.dispatch env now id (.channelChanged new))).1.standing id).phase.isDown
      = false := by
    generalize (c.perform (.dispatch env now id (.channelChanged new))).1.standing id = st' at *
    cases arrival with
    | send | listen =>
      cases givesUp with
      | still => rfl
      | fail _ _ _ starts => rcases starts with h | h <;> cases h
    | refuse _ refused =>
      have hadmits : c.airspace.admits new = false := refused
      simp [Airspace.admits, hrun] at hadmits
  have hopen : ((c.perform (.dispatch env now id (.channelChanged new))).1.standing id).phase ≠
      .disconnected := by
    intro hp
    rw [hp] at hup
    cases hup
  obtain ⟨x, hx, hstance⟩ := exists_session_of_standing hopen
  have hphase : (c.perform (.dispatch env now id (.channelChanged new))).1.phase? id =
      some x.phase := by rw [phase?, hx]; rfl
  have hdown := hkeeps.1 x.phase hphase
  rw [← hstance] at hup
  cases hdown.symm.trans hup

private theorem exists_not_staysDown (hs : c.Sound) {tu : Option Tuning} {tg : Tuning}
    (hst : c.standing id = ⟨.disconnecting, tu, some tg⟩) (env : Surroundings) (now : Instant) :
    ∃ more, c.Continues id more ∧ ¬ c.StaysDown id more := by
  have hrun := run_perform_listeningOver hs env now
  have hstays : (c.perform (.listeningOver env now)).1.standing id = c.standing id :=
    standing_listeningOver hs (by rw [hst]) env now
  rw [hst] at hstays
  -- The run ends first, so that none is in the way where the session arrives.
  refine ⟨[.listeningOver env now, .dispatch env now id (.channelChanged tg)], ?_, fun h => ?_⟩
  · refine ⟨rfl, fun j new x hheard _ => absurd hheard nofun, ?_, ?_, trivial⟩
    · simp [Operation.asks, Event.asks]
    intro j new x hheard hx
    have heq : (id, tg) = (j, new) := Option.some.inj hheard
    cases heq
    rw [standing_of_session? hx] at hstays
    exact congrArg Stance.target hstays
  · exact not_keepsDown_of_arrival (sound_perform hs _) hrun hstays env now tg h.2.1

/-- In a controller as operations have left it, a stop lasts until the session is asked to start
again, whatever follows, exactly if the session was not moving elsewhere or is off the air with the
stop itself. -/
theorem staysDown_for_good_iff {settings : Settings} {domain : Domain}
    (hc : create settings domain = .ok c₀) (ops : List Operation) (hreached : c = c₀.after ops)
    (h : c.session? id = some s) (hon : s.phase ≠ .disconnected) (env : Surroundings)
    (now : Instant) :
    (∀ more, (c.perform (stop env now id)).1.Continues id more →
        c.StaysDown id (stop env now id :: more)) ↔
      s.target = none ∨ (c.perform (stop env now id)).1.phase? id = some .disconnected := by
  have hs : c.Sound := hreached ▸ sound_after (sound_create hc) ops
  have hs' := sound_perform hs (stop env now id)
  obtain ⟨hst, hms⟩ := perform_stop hs h hon env now
  constructor
  · intro hgood
    by_contra hn
    obtain ⟨htarget, hphase⟩ := not_or.mp hn
    obtain ⟨tg, htg⟩ := Option.ne_none_iff_exists'.mp htarget
    rcases hst with hst | hst
    · exact hphase (phase?_of_stance hst)
    · have hstanding := standing_of_stance hst
      rw [htg] at hstanding
      obtain ⟨more, hmore, hrise⟩ := exists_not_staysDown hs' hstanding env now
      exact hrise (hgood more hmore).2
  · intro hcond more hmore
    -- Once it is at rest, no report concerns it and only being asked to start would end that.
    have hatRest : ((c.perform (stop env now id)).1.standing id).AtRest := by
      rcases hst with hst | hst <;> rw [standing_of_stance hst]
      · exact .inl rfl
      · rcases hcond with htarget | hphase
        · exact .inr ⟨rfl, htarget⟩
        · cases (phase?_of_stance hst).symm.trans hphase
    exact ⟨keepsDown_of_descends hatRest.isDown hms, staysDown_of_atRest hs' hatRest hmore⟩

open FourChannels in
theorem staysDown_for_good_joined : create {} domain = .ok controller ∧
    ∃ s, (controller.after joined).session? 0 = some s ∧ s.phase ≠ .disconnected ∧
      ∀ more, ((controller.after joined).perform (send 1000 0 .stopRequest)).1.Continues 0 more →
        (controller.after joined).StaysDown 0 (send 1000 0 .stopRequest :: more) := by
  have hstance : (controller.after joined).scene.stance 0 =
      some ⟨.listening, some ⟨52, .mhz80, .firstOfFour⟩, none⟩ := by
    decide +kernel
  obtain ⟨s, h, hst⟩ := session?_of_stance? hstance
  have hp : s.phase = .listening := congrArg Stance.phase hst
  have htarget : s.target = none := congrArg Stance.target hst
  have hon : s.phase ≠ .disconnected := by simp [hp]
  exact ⟨created, s, h, hon,
    (staysDown_for_good_iff created joined rfl h hon _ _).mpr (.inl htarget)⟩

open TwoChannels in
open FourChannels (willing send) in
/-- The stop comes while the session moves from channel 52 to channel 36. Nobody asks it to start
again, yet it is on the air once the channel has changed. -/
theorem not_staysDown_for_good_moving : create {} domain = .ok controller ∧
    (controller.after moving).phase? 0 = some .disconnecting ∧
    ((controller.after moving).perform (send 2000 0 .stopRequest)).1.Continues 0
      [send 3000 0 (.channelChanged (single 36))] ∧
    ¬ (controller.after moving).StaysDown 0
      [send 2000 0 .stopRequest, send 3000 0 (.channelChanged (single 36))] := by
  have hstance : ((controller.after moving).perform (send 2000 0 .stopRequest)).1.scene.stance 0 =
      some ⟨.disconnecting, some (single 52), some (single 36)⟩ := by
    decide +kernel
  have hrisen : (((controller.after moving).perform (send 2000 0 .stopRequest)).1.perform
      (send 3000 0 (.channelChanged (single 36)))).1.phase? 0 = some .started := by
    decide +kernel
  refine ⟨created, by decide +kernel, ⟨rfl, ?_, trivial⟩, fun h => ?_⟩
  · intro id tu s hheard hs
    have heq : ((0 : SessionId), single 36) = (id, tu) := Option.some.inj hheard
    cases heq
    obtain ⟨x, hx, hst⟩ := session?_of_stance? hstance
    obtain rfl := Option.some.inj (hs.symm.trans hx)
    exact congrArg Stance.target hst
  · exact absurd (h.2.1.1 .started hrisen) nofun

end Controller

end Hotspot

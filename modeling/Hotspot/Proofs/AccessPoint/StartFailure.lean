import Hotspot.Proofs.AccessPoint.StopRequest
import Hotspot.Proofs.AccessPoint.Lasting
import Hotspot.Proofs.AccessPoint.Activation
import Mathlib.Data.List.Infix

/-!
The layer below takes the command to start a network, and says later how the start went. A session
that waits for the verdict is off the air once it hears that its start has failed, and the
application is told so once. A start on a given tuning waits for no verdict where it has to listen
first: its session listens at once, and a failure that is reported then is lost. No other session
misses the verdict on its start.
-/

set_option autoImplicit false
set_option relaxedAutoImplicit false

namespace Hotspot

open Stance (GivesUp OwnStep)

def Event.isVerdict : Event → Bool
  | .startSuccess | .startFailure _ => true
  | _ => false

def Operation.judges (op : Operation) (id : SessionId) : Bool :=
  match op with
  | .dispatch _ _ j e => j == id && e.isVerdict
  | _ => false

def Entry.outcome? (id : SessionId) : Entry → Option (Outcome × HardwareAddress × Option Tuning)
  | .notice k (.startComplete outcome address tuning) =>
    if k = id then some (outcome, address, tuning) else none
  | _ => none

def Journal.outcomes (j : Journal) (id : SessionId) :
    List (Outcome × HardwareAddress × Option Tuning) :=
  j.filterMap (Entry.outcome? id)

namespace Controller

/-- The layer below takes the command to start a network for the session. -/
def Takes (c : Controller) (op : Operation) (id : SessionId) : Prop :=
  ∃ parameters, .command id (.startNetwork parameters) true ∈ (c.perform op).2

/-- A start was taken for the session, and the layer below has not said since how it went. -/
def Outstanding (c : Controller) (ops : List Operation) (id : SessionId) : Prop :=
  ∃ before op later, ops = before ++ op :: later ∧ (c.after before).Takes op id ∧
    ∀ o ∈ later, o.judges id = false

/-- The operation leaves the session off the air without a control session, and the application is
told once, and nothing else, that its start failed. -/
structure Fails (c : Controller) (s : Session) (op : Operation) : Prop where
  off : ∃ s', (c.perform op).1.session? s.id = some s' ∧ s'.phase = .disconnected ∧
    s'.controlOpen = false
  told : (c.perform op).2.outcomes s.id = [(.failure, s.settings.address, s.tuning)]

/-- A session that was off the air listens when the operation is over. -/
def ListensAtOnce (c : Controller) (op : Operation) (id : SessionId) : Prop :=
  (c.standing id).phase = .disconnected ∧
    ((c.perform op).1.standing id).phase = .listening

end Controller

def TwoChannels.scanned : List Operation :=
  [.openSession accessPoint, FourChannels.send 0 0 .startRequest,
    FourChannels.send 1000 0 (.scanComplete true [])]

namespace Journal

private theorem outcomes_concat (j : Journal) (e : Entry) (id : SessionId) :
    outcomes (j ++ [e]) id = j.outcomes id ++ (e.outcome? id).toList := by
  rw [outcomes, List.filterMap_append]
  cases h : e.outcome? id <;> simp [outcomes, h]

end Journal

namespace Turn

variable {env : Surroundings} {now : Instant} {t : Turn} {s : Session} {id : SessionId} {e : Event}

private theorem outcomes_enter (t : Turn) (id : SessionId) (p : Phase) (k : SessionId) :
    (t.enter id p).journal.outcomes k = t.journal.outcomes k := by
  unfold enter
  split
  · rfl
  · split
    · rfl
    · exact (Journal.outcomes_concat _ _ k).trans (List.append_nil _)

private theorem outcomes_rest (env : Surroundings) (t : Turn) (s : Session) (k : SessionId) :
    (t.rest env s).journal.outcomes k = t.journal.outcomes k := by
  have hclosed : (t.closeControl env s).journal.outcomes k = t.journal.outcomes k := by
    unfold closeControl
    split
    · exact (Journal.outcomes_concat _ _ k).trans (List.append_nil _)
    · rfl
  exact (outcomes_enter _ s.id .disconnected k).trans hclosed

private theorem outcomes_failStart (env : Surroundings) (t : Turn) (s : Session) :
    (t.failStart env s).journal.outcomes s.id =
      t.journal.outcomes s.id ++ [(.failure, s.settings.address, s.tuning)] := by
  rw [failStart, outcomes_rest]
  refine (Journal.outcomes_concat _ _ s.id).trans ?_
  simp [Entry.outcome?]

private theorem handle_of_starting (env : Surroundings) (now : Instant) (h : t.session? id = some s)
    (hp : s.phase = .starting) (htarget : s.target = none) (he : e.isVerdict = false) :
    t.handle env now id e = t ∨ t.handle env now id e = t.failStart env s ∨
      ∃ tuning, t.handle env now id e =
        t.modify s.id fun s => { s with tuning := some tuning } := by
  rw [handle, h]
  dsimp only
  cases e with
  | startSuccess | startFailure => cases he
  | stopRequest => simp [hp]
  | channelChanged tuning =>
    refine .inr (.inr ⟨tuning, ?_⟩)
    simp [hp, onChannelChanged, htarget]
  | _ => simp [hp]

end Turn

namespace Controller

variable {c : Controller} {env : Surroundings} {now : Instant} {id : SessionId} {s : Session}
  {e : Event} {op : Operation}

private theorem perform_of_handle (env : Surroundings) (now : Instant) (hs : c.Sound)
    (h : c.session? id = some s) (hstays : ¬ Turn.Arrives s e)
    (hq : (c.turn.handle env now id e).queue = []) :
    c.perform (.dispatch env now id e) =
      ((c.turn.handle env now id e).toController, (c.turn.handle env now id e).journal) := by
  obtain ⟨n, heq, -⟩ := Turn.settle_enqueue env now e hs.queue h
  rw [perform_dispatch h, heq, Turn.react_of_not_arrives h hstays, Turn.drain_of_empty env now hq]

private theorem fails_of_starting (hs : c.Sound) (h : c.session? id = some s)
    (hp : s.phase = .starting) (env : Surroundings) (now : Instant) (status : UInt16) :
    c.Fails s (.dispatch env now id (.startFailure status)) := by
  have hid := id_of_session? h
  subst hid
  have hhandle : c.turn.handle env now s.id (.startFailure status) = c.turn.failStart env s := by
    rw [Turn.handle, show c.turn.session? s.id = some s from h]
    simp [hp]
  have hperform := perform_of_handle (e := .startFailure status) env now hs h
    (by simp [Turn.Arrives]) (by rw [hhandle]; exact (Turn.queue_failStart env _ s).trans hs.queue)
  obtain ⟨ok, hposts⟩ := Turn.posts_failStart (t := c.turn) env now h
  constructor
  · rw [hperform, hhandle]
    exact ⟨s.rested, hposts.session, rfl, rfl⟩
  · rw [hperform, hhandle]
    exact Turn.outcomes_failStart env c.turn s

private theorem not_fails_of_listening (hs : c.Sound) (h : c.session? id = some s)
    (hp : s.phase = .listening) (env : Surroundings) (now : Instant) (status : UInt16) :
    ¬ c.Fails s (.dispatch env now id (.startFailure status)) := by
  have hid := id_of_session? h
  subst hid
  have hhandle : c.turn.handle env now s.id (.startFailure status) = c.turn := by
    rw [Turn.handle, show c.turn.session? s.id = some s from h]
    simp [hp]
  have hperform := perform_of_handle (e := .startFailure status) env now hs h
    (by simp [Turn.Arrives]) (by rw [hhandle]; exact hs.queue)
  rintro ⟨-, htold⟩
  rw [hperform, hhandle] at htold
  cases htold

end Controller

namespace Session

variable {s s' : Session} {e : Event} {cs : List (Command × Bool)} {es : List Event}
  {parameters : StartParameters} {ok : Bool}

theorem startNetwork_notMem_closing (s : Session) (accepted : Bool) :
    (.startNetwork parameters, ok) ∉ s.closing accepted := by
  unfold closing
  split <;> simp

theorem Concludes.startNetwork_notMem (h : Concludes e s s' cs es) :
    (.startNetwork parameters, ok) ∉ cs := by
  cases h with
  | ignore => exact List.not_mem_nil
  | rest _ _ accepted => exact startNetwork_notMem_closing s accepted
  | move | abandon => simp

private theorem Flees.startNetwork_notMem (h : Flees s s' cs es) :
    (.startNetwork parameters, ok) ∉ cs := by
  cases h with
  | stop | announce => simp
  | leave _ _ _ _ told =>
    intro hmem
    cases told _ hmem

theorem SessionStep.off_of_startNetwork (h : SessionStep s s' cs es)
    (hmem : (.startNetwork parameters, ok) ∈ cs) :
    s.phase = .disconnected ∨ s.phase = .selecting := by
  cases h with
  | conclude _ _ _ _ _ concludes => exact absurd hmem concludes.startNetwork_notMem
  | failAtOnce _ _ _ off => exact .inl off
  | scan _ _ _ _ off => exact .inl off
  | quit _ accepted => exact absurd hmem (startNetwork_notMem_closing s accepted)
  | launch _ _ _ _ _ starts => exact starts
  | listen _ _ _ _ readies | start _ _ _ _ readies =>
    cases readies with
    | tuned _ _ off => exact .inl off
    | started | arrived => exact absurd hmem List.not_mem_nil
  | refuse _ _ _ _ _ readies =>
    cases readies with
    | tuned _ _ off => exact .inl off
    | started | arrived => simp at hmem
  | flee _ _ _ _ _ flees => exact absurd hmem flees.startNetwork_notMem
  | awaken _ _ _ _ _ waitOver => cases waitOver <;> simp at hmem
  | ignore | miss | confirm | stop | depart | associate => simp at hmem

private theorem Concludes.listens (h : Concludes e s s' cs es) (hp : s'.phase = .listening) :
    s.phase = .listening := by
  cases h with
  | ignore | move => exact hp
  | rest | abandon => cases hp

private theorem SessionStep.startNetwork_mem (h : SessionStep s s' cs es)
    (hoff : s.phase = .disconnected)
    (hp : s'.phase = .listening) : ∃ parameters, (.startNetwork parameters, true) ∈ cs := by
  have hstuck (hsame : s.phase = .listening) : ∃ parameters,
      (Command.startNetwork parameters, true) ∈ cs := by cases hoff.symm.trans hsame
  cases h with
  | listen _ _ _ _ readies =>
    cases readies with
    | tuned cs parameters => exact ⟨parameters, by simp⟩
    | started on | arrived on => cases hoff.symm.trans on
  | ignore | miss | confirm | associate => exact hstuck hp
  | conclude _ _ _ _ _ concludes => exact hstuck (concludes.listens hp)
  | flee _ _ _ _ on => rcases on with on | on <;> cases hoff.symm.trans on
  | awaken _ _ _ _ on => exact hstuck on
  | failAtOnce | quit | scan | launch | refuse | start | stop | depart => cases hp

end Session

namespace Controller

open Session (SessionStep)

variable {c : Controller} {now : Instant} {id : SessionId} {s : Session} {op : Operation}

/-- In an operation a network is started for a session only if it was off the air or selected a
channel, and if it listens from off the air, its start was taken. -/
structure StartRule (before : Option Session) (l : Ledger) : Prop where
  starts : ∀ parameters ok, (.startNetwork parameters, ok) ∈ l.commands →
    ∃ s, before = some s ∧ (s.phase = .disconnected ∨ s.phase = .selecting)
  listens : ∀ s', l.session = some s' → s'.phase = .listening →
    (∃ s, before = some s ∧ s.phase ≠ .disconnected) ∨
      ∃ parameters, (.startNetwork parameters, true) ∈ l.commands

private theorem startRule_sessionStep {s' : Session} {cs : List (Command × Bool)} {es : List Event}
    (h : SessionStep s s' cs es) : StartRule (some s) ⟨some s', cs, es⟩ := by
  constructor
  · exact fun _ _ hmem => ⟨s, rfl, h.off_of_startNetwork hmem⟩
  · rintro _ ⟨⟩ hp
    by_cases hoff : s.phase = .disconnected
    · exact .inr (h.startNetwork_mem hoff hp)
    · exact .inl ⟨s, rfl, hoff⟩

private theorem endures_startRule (before : SessionId → Option Session) :
    Turn.Endures fun id l => StartRule (before id) l := by
  constructor
  · intro id cs e es h
    refine ⟨h.starts, fun s' hs' => ?_⟩
    cases hs'
  · intro id s₁ s₂ cs cs' e es es' h hconcludes
    constructor
    · intro parameters ok hmem
      refine h.starts parameters ok ((List.mem_append.mp hmem).resolve_right ?_)
      exact hconcludes.startNetwork_notMem
    · rintro _ ⟨⟩ hp
      refine (h.listens s₁ rfl (hconcludes.listens hp)).imp_right ?_
      exact fun ⟨parameters, hmem⟩ => ⟨parameters, List.mem_append_left cs' hmem⟩

theorem startRule_perform (hs : c.Sound) (htime : op.now? = some now) (id : SessionId) :
    StartRule (c.session? id) ⟨(c.perform op).1.session? id, (c.perform op).2.commands id, []⟩ := by
  refine endures_perform (endures_startRule c.session?) hs (fun id => ?_) ?_ htime id
  · refine ⟨fun _ _ hmem => absurd hmem List.not_mem_nil, fun s hsess hp => .inl ⟨s, hsess, ?_⟩⟩
    simp [hp]
  · intro s s' cs es hsess hstep
    rw [hsess]
    exact startRule_sessionStep hstep

private theorem Takes.standing (hs : c.Sound) (h : c.Takes op id) :
    (c.standing id).phase = .disconnected ∨ (c.standing id).phase = .selecting := by
  obtain ⟨parameters, hmem⟩ := h
  cases htime : op.now? with
  | none =>
    rw [journal_perform_of_untimed htime] at hmem
    exact absurd hmem List.not_mem_nil
  | some now =>
    obtain ⟨s, hsess, hp⟩ :=
      (startRule_perform hs htime id).starts parameters true (Journal.mem_commands.mpr hmem)
    rwa [standing_of_session? hsess]

private theorem ListensAtOnce.takes (hs : c.Sound) (h : c.ListensAtOnce op id) : c.Takes op id := by
  obtain ⟨hoff, hp⟩ := h
  have hon : ((c.perform op).1.standing id).phase ≠ .disconnected := by simp [hp]
  obtain ⟨s', hsess', hstance'⟩ := exists_session_of_standing hon
  have hp' : s'.phase = .listening := (congrArg Stance.phase hstance').trans hp
  cases htime : op.now? with
  | none =>
    rcases session?_perform_of_untimed htime hsess' with hold | ⟨-, settings, rfl⟩
    · rw [standing_of_session? hold] at hoff
      cases hoff.symm.trans hp'
    · cases hp'
  | some now =>
    rcases (startRule_perform hs htime id).listens s' hsess' hp' with
      ⟨s, hsess, hon⟩ | ⟨parameters, hmem⟩
    · rw [standing_of_session? hsess] at hoff
      exact absurd hoff hon
    · exact ⟨parameters, Journal.mem_commands.mp hmem⟩

end Controller

/-- The session is off the air, or on the way there for good, or has yet to hear how its start
went. -/
def Stance.Undecided (st : Stance) : Prop :=
  st.AtRest ∨ st.phase = .selecting ∨ st.phase = .starting

namespace Stance

variable {st st' : Stance} {ms : List Mark}

private theorem GivesUp.undecided (h : GivesUp st ms st') (hst : st.Undecided) : st'.Undecided := by
  cases h with
  | still => exact hst
  | fail | finish => exact .inl (.inl rfl)
  | drop => exact .inl (.inr ⟨rfl, rfl⟩)

end Stance

namespace Controller

variable {c : Controller} {env : Surroundings} {now : Instant} {id : SessionId} {s : Session}
  {e : Event} {op : Operation}

private theorem undecided_of_starting (hs : c.Sound) (h : c.session? id = some s)
    (hp : s.phase = .starting) (he : e.isVerdict = false) (env : Surroundings) (now : Instant) :
    ((c.perform (.dispatch env now id e)).1.standing id).Undecided := by
  have hid := id_of_session? h
  subst hid
  have htarget : s.target = none :=
    (proper_of_session? hs h).target (by simp [Session.stance, hp]) (by simp [Session.stance, hp])
  have hperform := perform_of_handle (e := e) env now hs h
    (by simp [Turn.Arrives, hp])
  rcases Turn.handle_of_starting (t := c.turn) env now h hp htarget he with
    hhandle | hhandle | ⟨tuning, hhandle⟩ <;> rw [hhandle] at hperform
  · rw [hperform hs.queue, standing_of_session? (c := c) h]
    exact .inr (.inr hp)
  · obtain ⟨ok, hposts⟩ := Turn.posts_failStart (t := c.turn) env now h
    rw [hperform ((Turn.queue_failStart env _ s).trans hs.queue),
      standing_of_session? hposts.session]
    exact .inl (.inl rfl)
  · have hposts := Turn.posts_modify (t := c.turn) now h
      (f := fun s => { s with tuning := some tuning }) fun _ => rfl
    rw [hperform hs.queue, standing_of_session? hposts.session]
    exact .inr (.inr hp)

private theorem Responds.undecided {st st' : Stance} {ms : List Mark}
    (h : c.Responds op id st ms st') (hproper : st.Proper c.airspace) (hst : st.Undecided)
    (hanswer : st.phase = .starting → ∀ env now e, op ≠ .dispatch env now id e)
    (hn : ¬ (st.phase = .disconnected ∧ st'.phase = .listening)) : st'.Undecided := by
  -- An undecided session neither listens nor sends, which rules out fleeing and being woken.
  have hon : ¬ (st.phase = .listening ∨ st.phase = .started) := by
    rcases hst with (hp | ⟨hp, -⟩) | hp | hp <;> simp [hp]
  cases h with
  | aside => exact hst
  | closed => exact .inl (.inl rfl)
  | act st₁ _ _ _ acts givesUp =>
    cases acts with
    | answer _ _ _ env now e meant _ _ ownStep =>
      cases ownStep with
      | failAtOnce => exact givesUp.undecided (.inl (.inl rfl))
      | select => exact givesUp.undecided (.inr (.inl rfl))
      | launch => exact givesUp.undecided (.inr (.inr rfl))
      | listen p _ _ _ before =>
        rcases before with ⟨rfl, -⟩ | ⟨rfl, -⟩
        · cases givesUp with
          | still => exact absurd ⟨rfl, rfl⟩ hn
          | fail _ _ _ starts => rcases starts with hp | hp <;> cases hp
        · exact absurd meant (hanswer rfl env now e)
      | refuse p _ tg _ before =>
        rcases before with ⟨rfl, -⟩ | ⟨rfl, -⟩
        · have htarget : tg = none := hproper.target (by simp) (by simp)
          exact givesUp.undecided (.inl (.inr ⟨rfl, htarget⟩))
        · exact absurd meant (hanswer rfl env now e)
      | start | confirm => exact absurd meant (hanswer rfl env now e)
      | leave _ _ _ on => exact absurd on hon
    | givesUp _ _ _ _ _ _ _ _ _ first => exact givesUp.undecided (first.undecided hst)
    | arrive => simp [Stance.Undecided, Stance.AtRest] at hst
    | flee _ _ _ _ _ affected => exact absurd affected.1 hon
    | wake _ _ _ completesWait => exact absurd (.inl completesWait.phase) hon

theorem undecided_perform (hs : c.Sound) (hst : (c.standing id).Undecided)
    (hverdict : (c.standing id).phase = .starting → op.judges id = false)
    (hn : ¬ c.ListensAtOnce op id) : ((c.perform op).1.standing id).Undecided := by
  by_cases hanswer : (c.standing id).phase = .starting ∧ ∃ env now e, op = .dispatch env now id e
  · obtain ⟨hp, env, now, e, rfl⟩ := hanswer
    have hon : (c.standing id).phase ≠ .disconnected := by simp [hp]
    obtain ⟨s, hsess, hstance⟩ := exists_session_of_standing hon
    have he : e.isVerdict = false := by simpa [Operation.judges] using hverdict hp
    rw [← hstance] at hp
    exact undecided_of_starting hs hsess hp he env now
  · refine (responds_perform hs op id).undecided (proper_standing hs id) hst ?_ hn
    exact fun hp env now e hop => hanswer ⟨hp, env, now, e, hop⟩

private theorem outstanding_concat {ops : List Operation} : c.Outstanding (ops ++ [op]) id ↔
    (c.after ops).Takes op id ∨ c.Outstanding ops id ∧ op.judges id = false := by
  constructor
  · rintro ⟨before, taken, later, heq, htakes, hlater⟩
    rcases List.eq_nil_or_concat later with rfl | ⟨later, last, rfl⟩
    · obtain ⟨rfl, hlast⟩ := List.append_inj' heq rfl
      obtain rfl := List.singleton_inj.mp hlast
      exact .inl htakes
    · have hsplit : ops ++ [op] = (before ++ taken :: later) ++ [last] := by simpa using heq
      obtain ⟨rfl, hlast⟩ := List.append_inj' hsplit rfl
      obtain rfl := List.singleton_inj.mp hlast
      refine .inr ⟨⟨before, taken, later, rfl, htakes, fun o ho => ?_⟩, hlater op (by simp)⟩
      exact hlater o (by simp [ho])
  · rintro (htakes | ⟨⟨before, taken, later, rfl, htakes, hlater⟩, hjudges⟩)
    · exact ⟨ops, op, [], rfl, htakes, fun _ ho => absurd ho List.not_mem_nil⟩
    · refine ⟨before, taken, later ++ [op], by simp, htakes, fun o ho => ?_⟩
      rcases List.mem_append.mp ho with hold | hnew
      · exact hlater o hold
      · obtain rfl := List.mem_singleton.mp hnew
        exact hjudges

/-- While no session has listened at once, every session with an outstanding start is undecided. -/
theorem undecided_after {ops : List Operation} (hs : c.Sound)
    (hn : ∀ done op, done ++ [op] <+: ops → ∀ id, ¬ (c.after done).ListensAtOnce op id) :
    ∀ done, done <+: ops → ∀ id, c.Outstanding done id →
      ((c.after done).standing id).Undecided := by
  intro done
  -- By induction on the run from its end. A start that is outstanding was taken last, or was before
  -- and has not been judged.
  induction done using List.reverseRecOn with
  | nil =>
    rintro - id ⟨before, taken, later, heq, -⟩
    simp at heq
  | append_singleton done op ih =>
    intro hdone id hout
    have hsound := sound_after hs done
    have hquiet := hn done op hdone id
    rw [after_concat]
    rcases outstanding_concat.mp hout with htakes | ⟨hbefore, hjudges⟩
    · rcases htakes.standing hsound with hp | hp
      · exact undecided_perform hsound (.inl (.inl hp)) (by simp [hp]) hquiet
      · exact undecided_perform hsound (.inr (.inl hp)) (by simp [hp]) hquiet
    · have hst := ih ((List.prefix_append done [op]).trans hdone) id hbefore
      exact undecided_perform hsound hst (fun _ => hjudges) hquiet

/-- Throughout a run of a controller, whenever a start is outstanding whose session starts or
listens, a failure of it that is reported is heeded, exactly if no operation of the run lets a
session that was off the air listen at once. -/
theorem failure_heeded_iff {settings : Settings} {domain : Domain}
    (h : create settings domain = .ok c) (ops : List Operation) :
    (∀ done, done <+: ops → ∀ id s, (c.after done).session? id = some s →
        c.Outstanding done id → s.phase = .starting ∨ s.phase = .listening →
          ∀ env now status,
            (c.after done).Fails s (.dispatch env now id (.startFailure status))) ↔
      ∀ done op, done ++ [op] <+: ops → ∀ id, ¬ (c.after done).ListensAtOnce op id := by
  have hs := sound_create h
  constructor
  · intro hfails done op hdone id hlistens
    have htakes := hlistens.takes (sound_after hs done)
    have hon : (((c.after done).perform op).1.standing id).phase ≠ .disconnected := by
      simp [hlistens.2]
    obtain ⟨s, hsess, hstance⟩ := exists_session_of_standing hon
    have hp : s.phase = .listening := (congrArg Stance.phase hstance).trans hlistens.2
    rw [← after_concat] at hsess
    refine not_fails_of_listening (sound_after hs (done ++ [op])) hsess hp
      FourChannels.willing 0 0 ?_
    exact hfails (done ++ [op]) hdone id s hsess (outstanding_concat.mpr (.inl htakes)) (.inr hp)
      FourChannels.willing 0 0
  · intro hquiet done hdone id s hsess hout hp env now status
    have hst := undecided_after hs hquiet done hdone id hout
    rw [standing_of_session? hsess] at hst
    refine fails_of_starting (sound_after hs done) hsess (hp.resolve_right fun hp => ?_) env now
      status
    rcases hst with (hp' | ⟨hp', -⟩) | hp' | hp' <;> cases hp.symm.trans hp'

open TwoChannels in
open FourChannels (willing send) in
theorem failure_heeded_scanned : create {} domain = .ok controller ∧
    (∀ done, done <+: scanned → ∀ id s, (controller.after done).session? id = some s →
      controller.Outstanding done id → s.phase = .starting ∨ s.phase = .listening →
        ∀ env now status,
          (controller.after done).Fails s (.dispatch env now id (.startFailure status))) ∧
    controller.Outstanding scanned 0 ∧
      (controller.after scanned).phase? 0 = some .starting := by
  have hawake : ∀ done ∈ scanned.inits, ∀ s ∈ (controller.after done).sessions,
      s.phase ≠ .listening := by
    decide +kernel
  have htaken : .command 0 (.startNetwork (controller.turn.startParameters
      (.fresh 0 accessPoint) (single 52))) true ∈
        ((controller.after (scanned.take 2)).perform (send 1000 0 (.scanComplete true []))).2 := by
    decide +kernel
  refine ⟨created, (failure_heeded_iff created scanned).mpr fun done op hdone id hlistens => ?_,
    ⟨scanned.take 2, _, [], rfl, ⟨_, htaken⟩, by simp⟩, by decide +kernel⟩
  have hon : (((controller.after done).perform op).1.standing id).phase ≠ .disconnected := by
    simp [hlistens.2]
  obtain ⟨s, hsess, hstance⟩ := exists_session_of_standing hon
  rw [← after_concat] at hsess
  refine hawake (done ++ [op]) ((List.mem_inits _ _).mpr hdone) s (mem_of_session? hsess) ?_
  exact (congrArg Stance.phase hstance).trans hlistens.2

open TwoChannels in
open FourChannels (send) in
/-- A start on channel 52 is taken and its session listens. The failure that is reported a second
later changes nothing, and nobody hears of it. -/
theorem failure_not_heeded_listening : create {} domain = .ok controller ∧
    controller.Outstanding [.openSession accessPoint, send 0 0 (.tunedStartRequest (single 52))] 0 ∧
    ∃ s, (controller.after [.openSession accessPoint,
        send 0 0 (.tunedStartRequest (single 52))]).session? 0 = some s ∧ s.phase = .listening ∧
      ¬ (controller.after [.openSession accessPoint,
        send 0 0 (.tunedStartRequest (single 52))]).Fails s (send 1000 0 (.startFailure 1)) := by
  have hs := sound_after (sound_create created)
    [.openSession accessPoint, send 0 0 (.tunedStartRequest (single 52))]
  have htaken : .command 0 (.startNetwork (controller.turn.startParameters
      (.fresh 0 accessPoint) (single 52))) true ∈ ((controller.after
        [.openSession accessPoint]).perform (send 0 0 (.tunedStartRequest (single 52)))).2 := by
    decide +kernel
  have hstance : (controller.after [.openSession accessPoint,
      send 0 0 (.tunedStartRequest (single 52))]).scene.stance 0 =
        some ⟨.listening, some (single 52), none⟩ := by
    decide +kernel
  obtain ⟨s, hsess, hst⟩ := session?_of_stance? hstance
  have hp : s.phase = .listening := congrArg Stance.phase hst
  exact ⟨created, ⟨[.openSession accessPoint], _, [], rfl, ⟨_, htaken⟩, by simp⟩, s, hsess, hp,
    not_fails_of_listening hs hsess hp _ _ 1⟩

end Controller

end Hotspot

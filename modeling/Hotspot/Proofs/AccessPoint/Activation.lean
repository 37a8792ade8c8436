import Hotspot.Proofs.AccessPoint.OperationProgress
import Hotspot.Proofs.AccessPoint.Run

/-!
What a session goes through from when it leaves its initial phase until it is back there, summed up
from the marks that it leaves in the journal. What the sum says agrees with where the session
stands, after every operation.
-/

set_option autoImplicit false
set_option relaxedAutoImplicit false

namespace Hotspot

open Stance (GivesUp OwnStep MovesAway WaitEnds)

/-- What a session has been through since it last left its initial phase. -/
structure Activation where
  phase : Phase := .disconnected
  listened : Bool := false
  /-- The layer below took the command to send after the session began to listen. -/
  told : Bool := false
  aired : Bool := false
  /-- What the application was told of the start. -/
  replies : List Outcome := []
  deriving DecidableEq

namespace Activation

/-- Nothing of an earlier activation counts for the one that begins in the initial phase. -/
def enter (n : Activation) (before after : Phase) : Activation :=
  let n := if before = .disconnected then {} else n
  { n with
    phase := after
    listened := n.listened || decide (after = .listening)
    aired := n.aired || decide (after = .started) }

def next (n : Activation) : Mark → Activation
  | .moved before after => n.enter before after
  | .told => { n with told := n.told || n.listened }
  | .replied outcome =>
    if n.phase = .disconnected then n else { n with replies := n.replies ++ [outcome] }

def after (n : Activation) (ms : List Mark) : Activation :=
  ms.foldl next n

variable {n : Activation} {ms : List Mark}

@[simp] theorem after_nil (n : Activation) : n.after [] = n := rfl

@[simp] theorem after_cons (n : Activation) (m : Mark) (ms : List Mark) :
    n.after (m :: ms) = (n.next m).after ms := rfl

theorem after_append (n : Activation) (ms ms' : List Mark) :
    n.after (ms ++ ms') = (n.after ms).after ms' :=
  List.foldl_append

def Throughout (P : Activation → Prop) (n : Activation) (ms : List Mark) : Prop :=
  ∀ done, done <+: ms → P (n.after done)

variable {P : Activation → Prop}

@[simp] theorem throughout_nil : Throughout P n [] ↔ P n := by
  simp [Throughout]

@[simp] theorem throughout_cons {m : Mark} :
    Throughout P n (m :: ms) ↔ P n ∧ Throughout P (n.next m) ms := by
  constructor
  · intro h
    exact ⟨h [] List.nil_prefix, fun done hd => h (m :: done) (List.cons_prefix_cons.mpr ⟨rfl, hd⟩)⟩
  · rintro ⟨hn, h⟩ done hd
    rcases List.prefix_cons_iff.mp hd with rfl | ⟨rest, rfl, hrest⟩
    · exact hn
    · exact h rest hrest

theorem throughout_append {ms' : List Mark} :
    Throughout P n (ms ++ ms') ↔ Throughout P n ms ∧ Throughout P (n.after ms) ms' := by
  induction ms generalizing n with
  | nil =>
    rw [List.nil_append, throughout_nil, after_nil]
    exact (and_iff_right_of_imp fun h => h [] List.nil_prefix).symm
  | cons m ms ih => simp only [List.cons_append, throughout_cons, after_cons, ih, and_assoc]

structure Fits (n : Activation) (st : Stance) : Prop where
  phase : n.phase = st.phase
  fresh : st.phase = .selecting ∨ st.phase = .starting →
    n.listened = false ∧ n.aired = false ∧ n.replies = []
  listened : st.phase = .listening → n.listened = true
  aired : st.phase = .started → n.aired = true
  /-- Who was not on the air yet, but can still come there, has not been given a reply. -/
  silent : n.aired = false → st.phase = .listening ∨ st.target.isSome = true → n.replies = []

end Activation

def Journal.activation (j : Journal) (id : SessionId) : Activation :=
  Activation.after {} (j.marks id)

theorem Journal.activation_append (j j' : Journal) (id : SessionId) :
    (j ++ j').activation id = (j.activation id).after (j'.marks id) := by
  rw [activation, marks_append, Activation.after_append]
  rfl

namespace Activation

variable {n : Activation} {st st' : Stance} {ms : List Mark} {e : Event} {p : Phase}
  {tu tu' tg tg' : Option Tuning}

private theorem Fits.disconnected (h : n.phase = .disconnected) : n.Fits .initial where
  phase := h
  fresh h := by simp [Stance.initial] at h
  listened := nofun
  aired := nofun
  silent _ h := by simp [Stance.initial] at h

private theorem Fits.starting (hp : p = .selecting ∨ p = .starting) (h : n.phase = p)
    (hn : n.listened = false ∧ n.aired = false ∧ n.replies = []) : n.Fits ⟨p, tu, tg⟩ where
  phase := h
  fresh _ := hn
  listened h := by rcases hp with rfl | rfl <;> cases h
  aired h := by rcases hp with rfl | rfl <;> cases h
  silent _ _ := hn.2.2

private theorem Fits.listening (h : n.phase = .listening) (hl : n.listened = true)
    (hs : n.aired = false → n.replies = []) : n.Fits ⟨.listening, tu, tg⟩ where
  phase := h
  fresh h := by simp at h
  listened _ := hl
  aired := nofun
  silent ha _ := hs ha

private theorem Fits.started (h : n.phase = .started) (ha : n.aired = true) :
    n.Fits ⟨.started, tu, tg⟩ where
  phase := h
  fresh h := by simp at h
  listened := nofun
  aired _ := ha
  silent h := absurd (ha.symm.trans h) nofun

private theorem Fits.disconnecting (h : n.phase = .disconnecting)
    (hs : n.aired = false → tg.isSome = true → n.replies = []) :
    n.Fits ⟨.disconnecting, tu, tg⟩ where
  phase := h
  fresh h := by simp at h
  listened := nofun
  aired := nofun
  silent ha h := hs ha (by simpa using h)

private theorem Fits.leave (on : p = .listening ∨ p = .started) (hn : n.Fits ⟨p, tu, tg⟩) :
    (n.next (.moved p .disconnecting)).Fits ⟨.disconnecting, tu', tg'⟩ := by
  have hp : p ≠ .disconnected := by rcases on with rfl | rfl <;> nofun
  refine .disconnecting rfl fun hafter _ => ?_
  have ha : n.aired = false := by simpa [next, enter, hp] using hafter
  have hsilent : n.replies = [] := by
    rcases on with rfl | rfl
    · exact hn.silent ha (.inl rfl)
    · exact absurd (ha.symm.trans (hn.aired rfl)) nofun
  simpa [next, enter, hp] using hsilent

private theorem Fits.givesUp (h : GivesUp st ms st') (hn : n.Fits st) : (n.after ms).Fits st' := by
  cases h with
  | still => exact hn
  | fail | finish => exact .disconnected rfl
  | drop => exact .disconnecting hn.phase nofun

private theorem Fits.movesAway (h : MovesAway st ms st') (hn : n.Fits st) :
    (n.after ms).Fits st' := by
  cases h with
  | stop p tu tg on | depart p tu tg new on => exact hn.leave on
  | announce tu tg new => exact .started hn.phase (hn.aired rfl)

private theorem Fits.waitEnds (h : WaitEnds st ms st') (hn : n.Fits st) :
    (n.after ms).Fits st' := by
  cases h with
  | send => exact .started (by simp [next, enter]) (by simp [next, enter])
  | stop => exact hn.leave (.inl rfl)

theorem Fits.arrival {t : Turn} {tg new : Tuning} (h : t.Arrival new ms st')
    (hn : n.Fits ⟨.disconnecting, tu, some tg⟩) : (n.after ms).Fits st' := by
  cases h with
  | send => exact .started rfl (by simp [next, enter])
  | listen =>
    refine .listening rfl (by simp [next, enter]) fun hafter => ?_
    have ha : n.aired = false := by simpa [next, enter] using hafter
    simpa [next, enter] using hn.silent ha (.inr rfl)
  | refuse => exact .disconnecting rfl nofun

private theorem Fits.ownStep (h : OwnStep e st ms st') (hn : n.Fits st)
    (htarget : st.phase ≠ .started → st.phase ≠ .disconnecting → st.target = none) :
    (n.after ms).Fits st' := by
  cases h with
  | failAtOnce => exact .disconnected (by simp [next, hn.phase])
  | select => exact .starting (.inl rfl) rfl (by simp [next, enter])
  | launch p tu tg new before =>
    refine .starting (.inr rfl) rfl ?_
    rcases before with ⟨rfl, -⟩ | rfl
    · simp [next, enter]
    · simpa [next, enter] using hn.fresh (.inl rfl)
  | listen p tu tg new before =>
    refine .listening rfl (by simp [next, enter]) fun _ => ?_
    rcases before with ⟨rfl, -⟩ | ⟨rfl, -⟩
    · simp [next, enter]
    · simpa [next, enter] using (hn.fresh (.inr rfl)).2.2
  | refuse p tu tg new before =>
    have hnone : tg = none := by
      rcases before with ⟨rfl, -⟩ | ⟨rfl, -⟩ <;> exact htarget nofun nofun
    exact .disconnecting rfl (hnone ▸ nofun)
  | start tu tg => exact .started (by simp [next, enter]) (by simp [next, enter])
  | confirm => exact .starting (.inr rfl) hn.phase (hn.fresh (.inr rfl))
  | leave p tu tg on => exact hn.leave on

end Activation

namespace Controller

variable {c : Controller} {op : Operation} {id : SessionId} {n : Activation} {st st' : Stance}
  {ms : List Mark}

theorem Acts.fits (h : c.Acts op id st ms st') (hn : n.Fits st) (hp : st.Proper c.airspace) :
    (n.after ms).Fits st' := by
  cases h with
  | answer _ _ _ _ _ _ _ _ _ ownStep => exact hn.ownStep ownStep hp.target
  | givesUp _ _ _ _ _ _ _ _ _ givesUp => exact hn.givesUp givesUp
  | arrive _ _ _ _ _ _ arrival => exact hn.arrival arrival
  | flee _ _ _ _ _ _ movesAway => exact hn.movesAway movesAway
  | wake _ _ _ _ waitEnds => exact hn.waitEnds waitEnds

private theorem Responds.fits (h : c.Responds op id st ms st') (hn : n.Fits st)
    (hp : st.Proper c.airspace) : (n.after ms).Fits st' := by
  cases h with
  | aside => exact hn
  | closed off => exact .disconnected (hn.phase.trans off)
  | act st₁ _ _ _ acts givesUp =>
    rw [Activation.after_append]
    exact (acts.fits hn hp).givesUp givesUp

theorem proper_standing (hs : c.Sound) (id : SessionId) : (c.standing id).Proper c.airspace := by
  cases h : c.session? id with
  | none =>
    have hst : c.standing id = .initial := by rw [standing, stance?, h]; rfl
    exact hst ▸ .initial _
  | some s => exact standing_of_session? h ▸ proper_of_session? hs h

/-- What the history tells about every session agrees with where it stands. -/
def HistoryAgrees (c : Controller) (j : Journal) : Prop :=
  ∀ id, (j.activation id).Fits (c.standing id)

theorem historyAgrees_perform (hs : c.Sound) {j : Journal} (h : c.HistoryAgrees j)
    (op : Operation) : (c.perform op).1.HistoryAgrees (j ++ (c.perform op).2) := by
  intro id
  rw [Journal.activation_append]
  exact (responds_perform hs op id).fits (h id) (proper_standing hs id)

theorem historyAgrees_create {settings : Settings} {domain : Domain}
    (h : create settings domain = .ok c) : c.HistoryAgrees [] := by
  obtain ⟨table, -, rfl⟩ := create_eq h
  exact fun _ => .disconnected rfl

theorem historyAgrees_history (hs : c.Sound) (h : c.HistoryAgrees []) (ops : List Operation) :
    (c.after ops).HistoryAgrees (c.history ops) := by
  -- The history grows at its end, so the last operation is taken off first.
  induction ops using List.reverseRecOn with
  | nil => exact h
  | append_singleton ops op ih =>
    rw [after_concat, history_concat]
    exact historyAgrees_perform (sound_after hs ops) ih op

end Controller

end Hotspot

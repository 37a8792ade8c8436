import Hotspot.Proofs.AccessPoint.Activation

/-!
Who listens is silent, and the layer below must be told when to send. That is done where listening
ends, but not where a session that radar drove away while it listened arrives on a channel without
radar: such a session counts as on the air although nobody told the layer below to send.
-/

set_option autoImplicit false
set_option relaxedAutoImplicit false

namespace Hotspot

open Stance (GivesUp OwnStep MovesAway WaitEnds)
open Activation (Throughout)

/-- A session that is on the air and has listened in this activation was told to send since. -/
def Activation.ToldToSend (n : Activation) : Prop :=
  n.phase = .started → n.listened = true → n.told = true

def Journal.ToldToSend (j : Journal) : Prop :=
  ∀ id, Throughout Activation.ToldToSend {} (j.marks id)

/-- With the operation a session arrives on the air where it was moving that has listened in this
activation and was not told to send. -/
def Controller.ArrivesUntold (c : Controller) (j : Journal) (op : Operation) : Prop :=
  ∃ id, c.ArrivesOnAir op id (c.standing id) ∧
    (j.activation id).listened = true ∧ (j.activation id).told = false

namespace Activation

variable {n : Activation} {st st' : Stance} {ms : List Mark} {e : Event} {m : Mark}

private theorem ToldToSend.next (h : n.ToldToSend) (hm : ∀ p, m ≠ .moved p .started) :
    (n.next m).ToldToSend := by
  intro hp hl
  cases m with
  | moved before after =>
    obtain rfl : after = .started := hp
    exact absurd rfl (hm before)
  | told =>
    have hl : n.listened = true := hl
    simp [Activation.next, hl]
  | replied outcome =>
    unfold Activation.next at hp hl ⊢
    dsimp only at hp hl ⊢
    split
    · rename_i hoff
      rw [if_pos hoff] at hp
      cases hoff.symm.trans hp
    · rename_i hon
      rw [if_neg hon] at hp hl
      exact h hp hl

private theorem ToldToSend.throughout (h : n.ToldToSend) (hms : ∀ p, .moved p .started ∉ ms) :
    Throughout ToldToSend n ms := by
  induction ms generalizing n with
  | nil => exact throughout_nil.mpr h
  | cons m ms ih =>
    rw [throughout_cons]
    refine ⟨h, ih (h.next fun p hm => hms p ?_) fun p hp => hms p (List.mem_cons_of_mem m hp)⟩
    exact hm ▸ List.mem_cons_self

private theorem ToldToSend.givesUp (h : GivesUp st ms st') (hn : n.ToldToSend) :
    Throughout ToldToSend n ms := by
  refine hn.throughout fun p hp => ?_
  cases h <;> simp at hp

private theorem ToldToSend.movesAway (h : MovesAway st ms st') (hn : n.ToldToSend) :
    Throughout ToldToSend n ms := by
  refine hn.throughout fun p hp => ?_
  cases h <;> simp at hp

private theorem ToldToSend.ownStep (h : OwnStep e st ms st') (hf : n.Fits st) (hn : n.ToldToSend) :
    Throughout ToldToSend n ms := by
  cases h with
  | start tu tg =>
    have hl : n.listened = false := (hf.fresh (.inr rfl)).1
    simp [Activation.next, Activation.enter, ToldToSend, hl]
  | _ =>
    refine hn.throughout fun p hp => ?_
    simp at hp

private theorem ToldToSend.waitEnds (h : WaitEnds st ms st') (hf : n.Fits st) (hn : n.ToldToSend) :
    Throughout ToldToSend n ms := by
  cases h with
  | send tu tg =>
    have hl : n.listened = true := hf.listened rfl
    simp [Activation.next, Activation.enter, ToldToSend, hf.phase, hl]
  | stop => exact hn.throughout fun p hp => by simp at hp

private theorem toldToSend_arrival_iff {t : Turn} {tu : Option Tuning} {tg new : Tuning}
    (h : t.Arrival new ms st') (hf : n.Fits ⟨.disconnecting, tu, some tg⟩) (hn : n.ToldToSend) :
    Throughout ToldToSend n ms ↔
      ¬ (t.mustListen new = false ∧ n.listened = true ∧ n.told = false) := by
  cases h with
  | send free => simp [Activation.next, Activation.enter, ToldToSend, hf.phase, free]
  | listen silent | refuse silent =>
    refine iff_of_true (hn.throughout fun p hp => ?_) (by simp [silent])
    simp at hp

end Activation

private theorem Journal.toldToSend_append {j j' : Journal} : (j ++ j').ToldToSend ↔
    j.ToldToSend ∧ ∀ id, Throughout Activation.ToldToSend (j.activation id) (j'.marks id) := by
  rw [ToldToSend, ToldToSend, ← forall_and]
  refine forall_congr' fun id => ?_
  rw [marks_append, Activation.throughout_append]
  rfl

private theorem Journal.ToldToSend.activation {j : Journal} (h : j.ToldToSend) (id : SessionId) :
    (j.activation id).ToldToSend :=
  h id _ (List.prefix_refl _)

namespace Controller

variable {c : Controller} {op : Operation} {id : SessionId} {n : Activation} {st st' : Stance}
  {ms : List Mark}

private theorem Responds.toldToSend_iff (h : c.Responds op id st ms st') (hf : n.Fits st)
    (hproper : st.Proper c.airspace) (hn : n.ToldToSend) :
    Throughout Activation.ToldToSend n ms ↔
      ¬ (c.ArrivesOnAir op id st ∧ n.listened = true ∧ n.told = false) := by
  -- Who arrives does nothing else, so the condition is decided there; elsewhere nothing is at risk.
  by_cases hhearsArrival : op.HearsArrival id st
  · obtain ⟨tu, tg, new, st₁, ms₁, ms₂, rfl, heard, arrival, hgivesUp, rfl⟩ :=
      h.arrives hhearsArrival
    have harrival := Activation.toldToSend_arrival_iff arrival hf hn
    rw [Activation.throughout_append, arrivesOnAir_iff hhearsArrival heard, ← harrival]
    refine and_iff_left_of_imp fun hfirst => ?_
    exact (hfirst ms₁ (List.prefix_refl _)).givesUp hgivesUp
  · refine iff_of_true ?_ fun hbad => hhearsArrival hbad.1.1
    cases h with
    | aside | closed => exact Activation.throughout_nil.mpr hn
    | act st₁ _ ms₁ ms₂ acts givesUp =>
      have hfirst : Throughout Activation.ToldToSend n ms₁ := by
        cases acts with
        | answer _ _ _ _ _ _ _ _ _ ownStep => exact hn.ownStep ownStep hf
        | givesUp _ _ _ _ _ _ _ _ _ givesUp => exact hn.givesUp givesUp
        | arrive _ _ new _ _ heard => exact absurd ⟨rfl, rfl, new, heard⟩ hhearsArrival
        | flee _ _ _ _ _ _ movesAway => exact hn.movesAway movesAway
        | wake _ _ _ _ waitEnds => exact hn.waitEnds waitEnds hf
      rw [Activation.throughout_append]
      exact ⟨hfirst, (hfirst ms₁ (List.prefix_refl _)).givesUp givesUp⟩

theorem toldToSend_perform_iff (hs : c.Sound) {j : Journal} (hj : c.HistoryAgrees j)
    (ho : j.ToldToSend)
    (op : Operation) : (j ++ (c.perform op).2).ToldToSend ↔ ¬ c.ArrivesUntold j op := by
  rw [Journal.toldToSend_append, and_iff_right ho, ArrivesUntold, not_exists]
  refine forall_congr' fun id => ?_
  exact (responds_perform hs op id).toldToSend_iff (hj id) (proper_standing hs id)
    (ho.activation id)

/-- In a run of a controller nobody who has listened is on the air without being told to send,
exactly if no operation of the run lets such a session arrive on the air where it was moving. -/
theorem toldToSend_history_iff {settings : Settings} {domain : Domain}
    (h : create settings domain = .ok c) (ops : List Operation) :
    (c.history ops).ToldToSend ↔
      ∀ done op, done ++ [op] <+: ops → ¬ (c.after done).ArrivesUntold (c.history done) op := by
  have hs := sound_create h
  have hstart := historyAgrees_create h
  have hiff := recorded_throughout_iff (P := fun c j => c.HistoryAgrees j ∧ j.ToldToSend)
    (H := fun c j op => c.ArrivesUntold j op) hs ⟨hstart, fun id => ?_⟩ (fun c j op hs hp => ?_) ops
  · rw [← hiff]
    constructor
    · rintro ho done ⟨more, rfl⟩
      rw [history_append] at ho
      exact ⟨historyAgrees_history hs hstart done, (Journal.toldToSend_append.mp ho).1⟩
    · exact fun hall => (hall ops (List.prefix_refl ops)).2
  · exact Activation.throughout_nil.mpr nofun
  · rw [toldToSend_perform_iff hs hp.1 hp.2 op]
    exact and_iff_right (historyAgrees_perform hs hp.1 op)

open FourChannels in
theorem toldToSend_history_heardOut : create {} domain = .ok controller ∧
    (controller.history heardOut).ToldToSend ∧
    (controller.after heardOut).phase? 0 = some .started ∧
    ((controller.history heardOut).activation 0).listened = true := by
  refine ⟨created, (toldToSend_history_iff created heardOut).mpr fun done op hdone => ?_,
    by decide +kernel, by decide +kernel⟩
  rintro ⟨id, ⟨-, new, heard, -⟩, -⟩
  have hop : op ∈ heardOut := hdone.subset (by simp)
  rw [(quiet_of_mem_heardOut (controller.after done) hop).2] at heard
  cases heard

open TwoChannels in
open FourChannels (willing send) in
/-- Radar on channel 52 moves a session to channel 36 while it listens. It is on the air there, and
nobody has told the layer below to send. -/
theorem not_toldToSend_history_moving : create {} domain = .ok controller ∧
    (controller.after (moving ++ [send 2000 0 (.channelChanged (single 36))])).phase? 0 =
      some .started ∧
    ¬ (controller.history (moving ++ [send 2000 0 (.channelChanged (single 36))])).ToldToSend := by
  have hactivation : (controller.history
      (moving ++ [send 2000 0 (.channelChanged (single 36))])).activation 0 =
        { phase := .started, listened := true, aired := true } := by
    decide +kernel
  refine ⟨created, by decide +kernel, fun ho => ?_⟩
  have htold := ho.activation 0
  rw [hactivation] at htold
  exact absurd (htold rfl rfl) nofun

end Controller

end Hotspot

import Hotspot.Proofs.AccessPoint.Activation

/-!
The application is told once that a session is on the air. It is told so where a start is over and
where listening is over, and it is told of a failure where listening is impossible. A session that
moves goes through the same places again, or past them: it may come on the air with no reply, and it
may be given another reply when it is on the air already.
-/

set_option autoImplicit false
set_option relaxedAutoImplicit false

namespace Hotspot

open Stance (GivesUp OwnStep MovesAway WaitEnds)

/-- If the session was on the air in this activation, the application has been told so once, and
nothing else. -/
def Activation.Acknowledged (n : Activation) : Prop :=
  n.aired = true → n.replies = [.success]

/-- Every session that was on the air in its last activation is acknowledged. -/
def Journal.Acknowledged (j : Journal) : Prop :=
  ∀ id, (j.activation id).Acknowledged

namespace Controller

/-- With the operation the session's wait is over, and the layer below takes the command to send. -/
def Releases (c : Controller) (op : Operation) (id : SessionId) : Prop :=
  c.CompletesWait op (c.standing id) ∧ .command id .startBeacon true ∈ (c.perform op).2

/-- A session that was not on the air in this activation arrives on the air where it was moving; or
one that was on the air is told to send after listening, or is kept from both where it arrives. -/
def Misreports (c : Controller) (j : Journal) (op : Operation) : Prop :=
  ∃ id, c.ArrivesOnAir op id (c.standing id) ∧ (j.activation id).aired = false ∨
    (c.Releases op id ∨ c.ArrivesBlocked op id (c.standing id)) ∧ (j.activation id).aired = true

end Controller

private theorem Journal.told_mem_marks {j : Journal} {id : SessionId} :
    .told ∈ j.marks id ↔ .command id .startBeacon true ∈ j := by
  rw [mem_marks]
  constructor
  · rintro ⟨e, he, hmark⟩
    unfold Entry.mark? at hmark
    split at hmark <;> cases hmark
    exact he
  · exact fun he => ⟨_, he, rfl⟩

namespace Activation

variable {n : Activation} {st st' : Stance} {ms : List Mark} {e : Event}

private theorem acknowledged_givesUp_iff (h : GivesUp st ms st') (hf : n.Fits st) :
    (n.after ms).Acknowledged ↔ n.Acknowledged := by
  cases h with
  | still | drop => rfl
  | fail p tu tg starts =>
    have ha : n.aired = false := (hf.fresh starts).2.1
    rcases starts with rfl | rfl <;> simp [next, enter, Acknowledged, hf.phase, ha]
  | finish => simp [next, enter, Acknowledged]

private theorem acknowledged_movesAway_iff (h : MovesAway st ms st') :
    (n.after ms).Acknowledged ↔ n.Acknowledged := by
  cases h with
  | stop p tu tg on | depart p tu tg new on =>
    rcases on with rfl | rfl <;> simp [next, enter, Acknowledged]
  | announce => rfl

private theorem Acknowledged.ownStep (h : OwnStep e st ms st') (hf : n.Fits st)
    (hn : n.Acknowledged) : (n.after ms).Acknowledged := by
  cases h with
  | failAtOnce => simpa [next, hf.phase] using hn
  | select => simp [next, enter, Acknowledged]
  | launch p tu tg new before =>
    rcases before with ⟨rfl, -⟩ | rfl
    · simp [next, enter, Acknowledged]
    · simpa [next, enter, Acknowledged] using hn
  | listen p tu tg new before =>
    rcases before with ⟨rfl, -⟩ | ⟨rfl, -⟩
    · simp [next, enter, Acknowledged]
    · simpa [next, enter, Acknowledged] using hn
  | refuse p tu tg new before =>
    rcases before with ⟨rfl, -⟩ | ⟨rfl, -⟩
    · simp [next, enter, Acknowledged]
    · have ha : n.aired = false := (hf.fresh (.inr rfl)).2.1
      simp [next, enter, Acknowledged, hf.phase, ha]
  | start =>
    have hr : n.replies = [] := (hf.fresh (.inr rfl)).2.2
    simp [next, enter, Acknowledged, hr]
  | confirm => exact hn
  | leave p tu tg on => rcases on with rfl | rfl <;> simpa [next, enter, Acknowledged] using hn

private theorem acknowledged_waitEnds_iff (h : WaitEnds st ms st') (hf : n.Fits st)
    (hn : n.Acknowledged) : (n.after ms).Acknowledged ↔ ¬ (.told ∈ ms ∧ n.aired = true) := by
  cases h with
  | send =>
    have hafter : (n.after [.told, .moved .listening .started, .replied .success]).replies =
        n.replies ++ [.success] := by simp [next, enter]
    have haired : (n.after [.told, .moved .listening .started, .replied .success]).aired =
        true := by simp [next, enter]
    rw [Acknowledged, hafter, haired]
    cases ha : n.aired with
    | true => simp [hn ha]
    | false => simp [hf.silent ha (.inl rfl)]
  | stop => simpa [next, enter, Acknowledged] using hn

private theorem acknowledged_arrival_iff {t : Turn} {tu : Option Tuning} {tg new : Tuning}
    (h : t.Arrival new ms st') (hf : n.Fits ⟨.disconnecting, tu, some tg⟩) (hn : n.Acknowledged) :
    (n.after ms).Acknowledged ↔ ¬ (t.mustListen new = false ∧ n.aired = false ∨
      (t.mustListen new = true ∧ t.airspace.admits new = false) ∧ n.aired = true) := by
  cases h with
  | send free =>
    cases ha : n.aired with
    | true => simp [next, enter, Acknowledged, free, hn ha]
    | false => simp [next, enter, Acknowledged, free, hf.silent ha (.inr rfl)]
  | listen silent admitted =>
    refine iff_of_true ?_ (by simp [silent, admitted])
    simpa [next, enter, Acknowledged] using hn
  | refuse silent refused =>
    cases ha : n.aired with
    | true => simp [next, enter, Acknowledged, silent, refused, ha, hn ha]
    | false => simp [next, enter, Acknowledged, silent, ha]

private theorem told_notMem_givesUp (h : GivesUp st ms st') : .told ∉ ms := by
  cases h <;> simp

private theorem told_notMem_movesAway (h : MovesAway st ms st') : .told ∉ ms := by
  cases h <;> simp

end Activation

namespace Controller

variable {c : Controller} {op : Operation} {id : SessionId} {n : Activation} {st st' : Stance}
  {ms : List Mark}

private theorem Responds.acknowledged_iff (h : c.Responds op id st ms st') (hf : n.Fits st)
    (hproper : st.Proper c.airspace) (hn : n.Acknowledged) :
    (n.after ms).Acknowledged ↔ ¬ (c.ArrivesOnAir op id st ∧ n.aired = false ∨
      (c.CompletesWait op st ∧ .told ∈ ms ∨ c.ArrivesBlocked op id st) ∧ n.aired = true) := by
  -- Arriving and being woken exclude each other, and giving up afterwards changes no verdict.
  by_cases harrival : op.HearsArrival id st
  · obtain ⟨tu, tg, new, st₁, ms₁, ms₂, rfl, heard, arrival, hgivesUp, rfl⟩ :=
      h.arrives harrival
    have hsleeps : ¬ (c.CompletesWait op ⟨.disconnecting, tu, some tg⟩ ∧ .told ∈ ms₁ ++ ms₂) :=
      fun hbad => absurd hbad.1.phase nofun
    have hfits := hf.arrival arrival
    rw [Activation.after_append, Activation.acknowledged_givesUp_iff hgivesUp hfits,
      Activation.acknowledged_arrival_iff arrival hf hn, arrivesOnAir_iff harrival heard,
      arrivesBlocked_iff harrival heard, or_iff_right hsleeps]
  · have harrivesOnAir : ¬ c.ArrivesOnAir op id st := fun hbad => harrival hbad.1
    have harrivesBlocked : ¬ c.ArrivesBlocked op id st := fun hbad => harrival hbad.1
    rw [or_iff_right fun hbad => harrivesOnAir hbad.1, or_iff_left harrivesBlocked]
    cases h with
    | aside | closed => exact iff_of_true hn fun hbad => List.not_mem_nil hbad.1.2
    | act st₁ _ ms₁ ms₂ acts givesUp =>
      have hfits : (n.after ms₁).Fits st₁ := acts.fits hf hproper
      have hbid : .told ∈ ms₁ ++ ms₂ ↔ .told ∈ ms₁ := by
        simp [Activation.told_notMem_givesUp givesUp]
      rw [Activation.after_append, Activation.acknowledged_givesUp_iff givesUp hfits, hbid]
      cases acts with
      | answer _ _ _ _ _ _ _ _ sleeps ownStep =>
        exact iff_of_true (hn.ownStep ownStep hf) fun hbad => sleeps hbad.1.1
      | givesUp _ _ _ _ _ _ _ _ sleeps givesUp =>
        exact iff_of_true ((Activation.acknowledged_givesUp_iff givesUp hf).mpr hn) fun hbad =>
          sleeps hbad.1.1
      | arrive _ _ new _ _ heard => exact absurd ⟨rfl, rfl, new, heard⟩ harrival
      | flee _ _ _ _ _ _ movesAway =>
        refine iff_of_true ((Activation.acknowledged_movesAway_iff movesAway).mpr hn) fun hbad => ?_
        exact Activation.told_notMem_movesAway movesAway hbad.1.2
      | wake _ _ _ completesWait waitEnds =>
        rw [Activation.acknowledged_waitEnds_iff waitEnds hf hn, and_iff_right completesWait]

theorem acknowledged_perform_iff (hs : c.Sound) {j : Journal} (hj : c.HistoryAgrees j)
    (ha : j.Acknowledged) (op : Operation) :
    (j ++ (c.perform op).2).Acknowledged ↔ ¬ c.Misreports j op := by
  rw [Journal.Acknowledged, Misreports, not_exists]
  refine forall_congr' fun id => ?_
  rw [Journal.activation_append, Releases, ← Journal.told_mem_marks]
  exact (responds_perform hs op id).acknowledged_iff (hj id) (proper_standing hs id) (ha id)

/-- Throughout a run of a controller every session that was on the air in its last activation is
acknowledged, exactly if no operation of the run misreports. -/
theorem acknowledged_throughout_iff {settings : Settings} {domain : Domain}
    (h : create settings domain = .ok c) (ops : List Operation) :
    (∀ done, done <+: ops → (c.history done).Acknowledged) ↔
      ∀ done op, done ++ [op] <+: ops → ¬ (c.after done).Misreports (c.history done) op := by
  have hs := sound_create h
  have hstart := historyAgrees_create h
  have hiff := recorded_throughout_iff (P := fun c j => c.HistoryAgrees j ∧ j.Acknowledged)
    (H := fun c j op => c.Misreports j op) hs ⟨hstart, fun id => nofun⟩ (fun c j op hs hp => ?_) ops
  · simpa [historyAgrees_history hs hstart] using hiff
  · rw [acknowledged_perform_iff hs hp.1 hp.2 op]
    exact and_iff_right (historyAgrees_perform hs hp.1 op)

open FourChannels in
theorem acknowledged_throughout_heardOut : create {} domain = .ok controller ∧
    (∀ done, done <+: heardOut → (controller.history done).Acknowledged) ∧
    (controller.after heardOut).phase? 0 = some .started := by
  refine ⟨created, (acknowledged_throughout_iff created heardOut).mpr fun done op hdone => ?_,
    by decide +kernel⟩
  have hop : op ∈ heardOut := hdone.subset (by simp)
  have hquiet := (quiet_of_mem_heardOut (controller.after done) hop).2
  rintro ⟨id, ⟨⟨-, new, heard, -⟩, -⟩ | ⟨⟨⟨run, hended, hwait⟩, -⟩ | ⟨-, new, heard, -⟩, haired⟩⟩
  · rw [hquiet] at heard
    cases heard
  · rcases List.prefix_concat_iff.mp hdone with hlast | hbefore
    · obtain ⟨rfl, -⟩ := List.append_inj' hlast rfl
      have hsilent : ∀ s ∈ (controller.after joined).sessions,
          ((controller.history joined).activation s.id).aired = false := by
        decide +kernel
      have hp : ((controller.after joined).standing id).phase ≠ .disconnected := by simp [hwait.1]
      obtain ⟨s, hsess, -⟩ := exists_session_of_standing hp
      have hfirst := hsilent s (mem_of_session? hsess)
      rw [id_of_session? hsess, haired] at hfirst
      cases hfirst
    · have hop : op ∈ joined := hbefore.subset (by simp)
      rw [(quiet_of_mem_joined _ hop).2.1] at hended
      cases hended
  · rw [hquiet] at heard
    cases heard

open TwoChannels in
open FourChannels (willing send) in
/-- Radar on channel 52 moves a session to channel 36 while it listens. It comes on the air there,
and the application is told nothing. -/
theorem not_acknowledged_after_moving : create {} domain = .ok controller ∧
    ¬ (controller.history [.openSession accessPoint, send 0 0 .startRequest,
      send 0 0 (.scanComplete true []), send 0 0 .startSuccess, send 1000 0 (.radarDetected [52]),
      send 2000 0 (.channelChanged (single 36))]).Acknowledged := by
  refine ⟨created, fun ha => ?_⟩
  have hactivation : (controller.history [.openSession accessPoint, send 0 0 .startRequest,
      send 0 0 (.scanComplete true []), send 0 0 .startSuccess, send 1000 0 (.radarDetected [52]),
      send 2000 0 (.channelChanged (single 36))]).activation 0 =
        { phase := .started, listened := true, aired := true } := by
    decide +kernel
  have hreplies := ha 0
  rw [hactivation] at hreplies
  exact absurd (hreplies rfl) nofun

end Controller

end Hotspot

import Hotspot.Proofs.AccessPoint.JournalWrites
import Hotspot.Proofs.AccessPoint.Lasting

/-!
What an event does not touch. Sessions share the queue, the run of listening and the non-occupancy
list, but only radar and the end of listening reach from one session to another: any other event,
with all that follows from it, leaves the other sessions as they are, and nothing is told for them.
-/

set_option autoImplicit false
set_option relaxedAutoImplicit false

namespace Hotspot

namespace Controller

variable {c : Controller} {env : Surroundings} {now : Instant} {s : Session} {id k : SessionId}
  {e : Event}

private theorem endures_apart (c : Controller) (id : SessionId) :
    Turn.Endures fun k l => k ≠ id → l = ⟨c.session? k, [], []⟩ := by
  constructor
  · intro k cs e es h hk
    cases congrArg Ledger.pending (h hk)
  · intro k s s' cs cs' e es es' h _ hk
    cases congrArg Ledger.pending (h hk)

private theorem session?_settle_of_ne (hs : c.Sound) (h : c.session? id = some s)
    (hreport : s.reports? e = none) (hover : s.awaits e = false) (hk : k ≠ id) :
    ((c.turn.enqueue id e).settle env now).session? k = c.session? k := by
  obtain ⟨n, hsettle, -⟩ := Turn.settle_enqueue env now e hs.queue h
  have hstepped := eachStepped_react hs env now h hreport hover
  have hid := id_of_session? h
  have hapart : ∀ j, j ≠ id →
      (c.turn.react env now id e).ledger j = ⟨c.session? j, [], []⟩ := by
    intro j hj
    rw [← ledger_turn hs j]
    apply hstepped.eachFollows.others j
    intro o ho
    rw [List.mem_singleton.mp ho, hid]
    exact Ne.symm hj
  have hdrained := (Turn.drain_endures env now (endures_apart c id) n hstepped.closing hapart).1
  rw [hsettle]
  exact congrArg Ledger.session (hdrained k hk)

/-- An event other than radar and the end of listening, with all that follows from it, leaves every
other session as it is; and the application and the layer below are told nothing but what is for
the session. -/
theorem framed_dispatch {settings : Settings} {domain : Domain}
    (h : create settings domain = .ok c) (ops : List Operation) (env : Surroundings)
    (now : Instant) (id : SessionId) (hradar : ∀ channels, e ≠ .radarDetected channels)
    (hover : e ≠ .listeningOver) :
    (∀ k, k ≠ id → (c.after (ops ++ [.dispatch env now id e])).session? k =
        (c.after ops).session? k) ∧
      (∀ k n, Entry.notice k n ∈ ((c.after ops).perform (.dispatch env now id e)).2 → k = id) ∧
      ∀ k command ok, Entry.command k command ok ∈
        ((c.after ops).perform (.dispatch env now id e)).2 → k = id := by
  have hs : (c.after ops).Sound := sound_after (sound_create h) ops
  rw [after_concat]
  generalize c.after ops = c at hs ⊢
  cases hsess : c.session? id with
  | none =>
    rw [perform_dispatch_of_none hsess]
    exact ⟨fun _ _ => rfl, by simp, by simp⟩
  | some s =>
    have hquiet : s.reports? e = none := by
      cases e with
      | radarDetected channels => exact absurd rfl (hradar channels)
      | _ => rfl
    have hawait : s.awaits e = false := by
      cases e with
      | listeningOver => exact absurd rfl hover
      | _ => rfl
    obtain ⟨more, hjournal, hlines, -⟩ :=
      (writesTimed_dispatch hs hsess hquiet hawait env now).journal
    rw [perform_dispatch hsess]
    -- All that is written is about the session or the timer, also what closing events add.
    have hconcern : ∀ x ∈ ((c.turn.enqueue id e).settle env now).journal,
        x.isTimer = true ∨ x.Concerns (· = id) := by
      rw [hjournal]
      exact hlines
    refine ⟨fun k hk => session?_settle_of_ne hs hsess hquiet hawait hk, ?_, ?_⟩
    · intro k n hmem
      rcases hconcern _ hmem with htimer | hc
      · cases htimer
      · exact hc.1
    · intro k command ok hmem
      rcases hconcern _ hmem with htimer | hc
      · cases htimer
      · exact hc

end Controller

namespace FourChannels

def unwilling : Surroundings := ⟨fun _ _ _ => false, fun _ => 0, []⟩

theorem framed_stop :
    Controller.create {} domain = .ok controller ∧
      (controller.after joined).phase? 0 = some .listening ∧
      (controller.after joined).phase? 1 = some .listening ∧
      (controller.after (joined ++ [.dispatch unwilling 0 1 .stopRequest])).phase? 1 =
        some .disconnected ∧
      (∀ k, k ≠ 1 →
        (controller.after (joined ++ [.dispatch unwilling 0 1 .stopRequest])).session? k =
        (controller.after joined).session? k) ∧
      (∀ k n, Entry.notice k n ∈
        ((controller.after joined).perform (.dispatch unwilling 0 1 .stopRequest)).2 → k = 1) ∧
      ∀ k command ok, Entry.command k command ok ∈
        ((controller.after joined).perform (.dispatch unwilling 0 1 .stopRequest)).2 → k = 1 := by
  refine ⟨created, by decide +kernel, by decide +kernel, by decide +kernel, ?_⟩
  exact Controller.framed_dispatch created joined unwilling 0 1 nofun nofun

end FourChannels

end Hotspot

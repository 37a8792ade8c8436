import Hotspot.Proofs.AccessPoint.Lasting

/-!
No network is told to send where it must not. No bar is lifted while an operation goes on, so what
may be sent on by the list that the operation leaves behind could be sent on all the time.
-/

set_option autoImplicit false
set_option relaxedAutoImplicit false

namespace Hotspot

/-- A network may send on the tuning: its channels are allowed, none is within its non-occupancy
period, and none is too close to a channel that is. -/
structure Airspace.Permits (now : Instant) (a : Airspace) (tu : Tuning) : Prop where
  allowed : ∀ ch ∈ tu.channels, a.domain.contains ch = true
  clear : ∀ ch ∈ tu.channels, ¬ a.table.Barred now ch
  apart : ∀ ch ∈ tu.channels, ∀ k, a.table.Barred now k →
    Isolation.threshold < Isolation.between tu.width k ch

private theorem Airspace.Suits.permits {now : Instant} {a : Airspace} {tu : Tuning}
    (h : a.Suits now tu) : a.Permits now tu := by
  obtain ⟨-, hfit⟩ := h
  constructor
  · exact hfit.allowed
  · intro ch hch
    exact hfit.not_barred hch
  · intro ch hch k hk
    exact hfit.lt_between hch hk

private theorem Airspace.Permits.of_keepsBars {now : Instant} {a a' : Airspace} {tu : Tuning}
    (h : a'.Permits now tu) (hu : Airspace.KeepsBars now a a') (hd : a.seeded = true) :
    a.Permits now tu := by
  constructor
  · rw [← hu.domain]
    exact h.allowed
  · intro ch hch hb
    exact h.clear ch hch (hu.barred hd ch hb)
  · intro ch hch k hk
    exact h.apart ch hch k (hu.barred hd k hk)

namespace Turn

variable {t : Turn}

private theorem keepsUsable_drain (env : Surroundings) (now : Instant) (n : Nat)
    (hclosing : ∀ p ∈ t.queue, p.2.isClosing = true) : KeepsUsable now t (t.drain env now n) := by
  have htrivial : Endures fun _ _ => True := ⟨fun _ => trivial, fun _ _ => trivial⟩
  exact (drain_endures env now htrivial n hclosing fun _ => trivial).2

end Turn

def TwoChannels.report : Operation :=
  FourChannels.send 61000 0 (.radarDetected [])

namespace Controller

variable {c : Controller} {op : Operation} {now : Instant}

theorem suits_of_mem_perform (hs : c.Sound) (htime : op.now? = some now) {e : Entry}
    (he : e ∈ (c.perform op).2) {tu : Tuning} (htu : e.carries? = some tu) :
    (c.perform op).1.airspace.Suits now tu := by
  obtain ⟨env, l, t, n, hstepped, hperform⟩ := exists_eachStepped hs htime
  rw [hperform] at he ⊢
  have hend :=
    (Turn.keepsUsable_drain env now n hstepped.closing).sendsUsable hstepped.sendsUsable
  exact hend e he tu htu

theorem keepsBars_perform (hs : c.Sound) (htime : op.now? = some now) :
    Airspace.KeepsBars now c.airspace (c.perform op).1.airspace := by
  obtain ⟨env, l, t, n, hstepped, hperform⟩ := exists_eachStepped hs htime
  rw [hperform]
  have hlooks := (Turn.keepsUsable_drain env now n hstepped.closing).onlyLooks
  exact hstepped.keepsBars.trans hlooks.keepsBars

/-- Whatever a network is told to send on, at its start or after a switch that it announces, passes
the check that channels can be used at the time. It may be sent on by what is known after the
operation, and by what was known before it once the non-occupancy list was there. -/
theorem permits_of_told {settings : Settings} {domain : Domain}
    (h : create settings domain = .ok c) (ops : List Operation) (op : Operation)
    {id : SessionId} {cmd : Command} {ok : Bool} {tu : Tuning}
    (htold : .command id cmd ok ∈ ((c.after ops).perform op).2)
    (hcarries : cmd.carries? = some tu) :
    ∃ now, op.now? = some now ∧
      (((c.after ops).perform op).1.turn.usable tu now).1 = true ∧
      ((c.after ops).perform op).1.airspace.Permits now tu ∧
      ((c.after ops).airspace.seeded = true → (c.after ops).airspace.Permits now tu) := by
  have hsound := sound_after (sound_create h) ops
  cases htime : op.now? with
  | none =>
    rw [journal_perform_of_untimed htime] at htold
    exact absurd htold List.not_mem_nil
  | some now =>
    have hsuits := suits_of_mem_perform hsound htime htold hcarries
    have hkeeps := keepsBars_perform hsound htime
    refine ⟨now, rfl, Turn.usable_of_fit hsuits.2, hsuits.permits, ?_⟩
    exact hsuits.permits.of_keepsBars hkeeps

open TwoChannels in
theorem permits_of_told_sending : create {} domain = .ok controller ∧
    .command 0 (.announceSwitch (single 36)) true ∈ ((controller.after sending).perform report).2 ∧
    ∃ now, report.now? = some now ∧
      (((controller.after sending).perform report).1.turn.usable (single 36) now).1 = true ∧
      ((controller.after sending).perform report).1.airspace.Permits now (single 36) ∧
      ((controller.after sending).airspace.seeded = true →
        (controller.after sending).airspace.Permits now (single 36)) := by
  have htold : .command 0 (.announceSwitch (single 36)) true ∈
      ((controller.after sending).perform report).2 := by
    decide +kernel
  exact ⟨created, htold, permits_of_told created sending report htold rfl⟩

end Controller

end Hotspot

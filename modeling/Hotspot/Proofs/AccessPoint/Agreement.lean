import Hotspot.Proofs.AccessPoint.RadarOrder
import Hotspot.Proofs.AccessPoint.Occupancy

/-!
The domain, the non-occupancy list and the set of cleared channels are kept apart, and changed
apart. They agree at any time: the list has the channels that the domain shares with radar, and only
such channels are ever cleared.
-/

set_option autoImplicit false
set_option relaxedAutoImplicit false

namespace Hotspot

open NonOccupancy (Table)
open Scene (Path)

/-- What is known of the channels fits the domain, and the domain is sound. -/
structure Airspace.Agrees (a : Airspace) : Prop where
  sound : a.domain.validate = .ok ()
  charted : a.Charted
  cleared : ∀ ch ∈ a.cleared, a.domain.isRadar ch = true

namespace Airspace.Agrees

variable {a : Airspace} {ch : Channel}

private theorem fresh {timing : NonOccupancy.Timing} {domain : Domain} {table : Table}
    (hv : domain.validate = .ok ()) (ht : Table.ofDomain timing domain = .ok table) :
    (Airspace.fresh domain table).Agrees where
  sound := hv
  charted := .fresh hv ht
  cleared _ h := absurd h List.not_mem_nil

private theorem tracks_eq (h : a.Agrees) (ch : Channel) :
    a.table.tracks ch = a.domain.isRadar ch := by
  rw [Bool.eq_iff_iff, ← Table.mem_channels, h.charted.channels]
  exact Domain.mem_radarChannels_iff (Domain.nodup_of_validate h.sound)

end Airspace.Agrees

theorem Turn.ensureTable_fst {t : Turn} (h : t.airspace.domain.validate = .ok ())
    (env : Surroundings) (id : SessionId) (now : Instant) :
    (t.ensureTable env id now).1 = true := by
  obtain ⟨table, htable⟩ := Table.exists_ofDomain t.airspace.table.timing h
  unfold ensureTable
  split
  · rfl
  · rw [htable]

namespace Controller

variable {c : Controller} {op : Operation} {now : Instant} {ch : Channel}

theorem domain_perform (hs : c.Sound) (htime : op.now? = some now) :
    (c.perform op).1.airspace.domain = c.airspace.domain := by
  obtain ⟨env, l, t, n, hstepped, hperform⟩ := exists_eachStepped hs htime
  have hanything : Turn.Endures fun _ _ => True := ⟨fun _ => trivial, fun _ _ => trivial⟩
  have hdrained :=
    (Turn.drain_endures env now hanything n hstepped.closing fun _ => trivial).2
  rw [hperform]
  exact hdrained.onlyLooks.domain.trans hstepped.keepsBars.domain

private theorem Effect.mem_cleared {result : Controller × Journal} (h : c.Effect op result)
    (hch : ch ∈ result.1.airspace.cleared) :
    ch ∈ c.airspace.cleared ∨ c.airspace.domain.isRadar ch = true := by
  cases h with
  | manage c' _ _ how =>
    rcases how.cases with ⟨hair, -⟩ | ⟨⟨domain, table, hair⟩, -⟩
    · have hair : c'.airspace = c.airspace := hair
      rw [hair] at hch
      exact .inl hch
    · have hair : c'.airspace = .fresh domain table := hair
      rw [hair] at hch
      exact absurd hch List.not_mem_nil
  | move now σ c' j _ _ _ reported path =>
    have hkept := path.cleared_subset ch hch
    left
    cases reported with
    | nothing => exact hkept
    | taken => exact hkept
  | strike now channels σ c' j _ _ _ strikes path =>
    have hkept := path.cleared_subset ch hch
    obtain ⟨run, hair, -⟩ := strikes.airspace
    rw [hair] at hkept
    exact .inl (List.mem_filter.mp hkept).1
  | complete now run σ c' j _ _ _ _ completes path =>
    have hkept := path.cleared_subset ch hch
    rw [completes.airspace] at hkept
    exact (Turn.mem_cleared_credited.mp hkept).imp_right And.right

/-- Whatever is done, the domain, the list and the cleared channels go on agreeing. -/
theorem agrees_perform (hs : c.Sound) (h : c.airspace.Agrees) (op : Operation) :
    (c.perform op).1.airspace.Agrees := by
  cases htime : op.now? with
  | none =>
    rcases airspace_perform_of_untimed (c := c) htime with
      hsame | ⟨domain, table, -, ⟨hv, ht⟩, hfresh⟩
    · rw [hsame]
      exact h
    · rw [hfresh]
      exact .fresh hv ht
  | some now =>
    have hdomain := domain_perform hs htime
    refine ⟨hdomain ▸ h.sound, charted_perform hs h.charted op, fun ch hch => ?_⟩
    rw [hdomain]
    rcases (effect_perform hs op).1.mem_cleared hch with hold | hradar
    · exact h.cleared ch hold
    · exact hradar

theorem agrees_after {settings : Settings} {domain : Domain} (h : create settings domain = .ok c)
    (ops : List Operation) : (c.after ops).airspace.Agrees := by
  induction ops using List.reverseRecOn with
  | nil =>
    obtain ⟨table, ⟨hv, ht⟩, rfl⟩ := create_eq h
    exact .fresh hv ht
  | append_singleton ops op ih =>
    rw [after_concat]
    exact agrees_perform (sound_after (sound_create h) ops) ih op

theorem exists_setDomain {domain : Domain} (hv : domain.validate = .ok ())
    (hoff : ∀ s ∈ c.sessions, s.phase = .disconnected) : ∃ c', c.setDomain domain = .ok c' := by
  obtain ⟨table, htable⟩ := Table.exists_ofDomain c.settings.timing hv
  have hbusy : (c.sessions.find? fun s => s.phase != .disconnected) = none := by
    rw [List.find?_eq_none]
    intro s hs
    simp [hoff s hs]
  refine ⟨{ c with airspace := .fresh domain table }, ?_⟩
  unfold setDomain
  rw [hv, hbusy, htable]
  rfl

/-- Whatever was done, the list has every channel that the domain shares with radar once, in the
order of the domain and within the bound; the two ways to ask for such channels have one answer; no
other channel is cleared; and to build the list never fails, be it for the first start or for
another sound domain. -/
theorem agreed_after {settings : Settings} {domain : Domain} (h : create settings domain = .ok c)
    (ops : List Operation) :
    (c.after ops).airspace.table.channels = (c.after ops).airspace.domain.radarChannels ∧
      (c.after ops).airspace.table.channels.Nodup ∧
      (c.after ops).airspace.table.channels.length ≤ Domain.radarLimit ∧
      (∀ ch, (c.after ops).airspace.table.tracks ch = (c.after ops).airspace.domain.isRadar ch) ∧
      (∀ ch ∈ (c.after ops).airspace.cleared, (c.after ops).airspace.domain.isRadar ch = true) ∧
      (∀ (t : Turn) env id now, t.airspace.domain = (c.after ops).airspace.domain →
        (t.ensureTable env id now).1 = true) ∧
      ∀ d : Domain, d.validate = .ok () →
        (∀ s ∈ (c.after ops).sessions, s.phase = .disconnected) →
        ∃ c', (c.after ops).setDomain d = .ok c' := by
  have hagrees := agrees_after h ops
  have hchannels := hagrees.charted.channels
  refine ⟨hchannels, ?_, ?_, hagrees.tracks_eq, hagrees.cleared, ?_, ?_⟩
  · rw [hchannels]
    exact hagrees.charted.nodup
  · rw [hchannels]
    exact Domain.length_radarChannels_le hagrees.sound
  · intro t env id now hdomain
    apply Turn.ensureTable_fst
    rw [hdomain]
    exact hagrees.sound
  · intro d hv hoff
    exact exists_setDomain hv hoff

end Controller

namespace FourChannels

theorem agreed_heardOut :
    Controller.create {} domain = .ok controller ∧
      (controller.after heardOut).airspace.cleared = [52, 56, 60, 64] ∧
      (∀ ch ∈ (controller.after heardOut).airspace.cleared,
        (controller.after heardOut).airspace.domain.isRadar ch = true) ∧
      (controller.after heardOut).airspace.table.channels =
        (controller.after heardOut).airspace.domain.radarChannels ∧
      TwoChannels.domain.validate = .ok () ∧
      ∃ c', (controller.after []).setDomain TwoChannels.domain = .ok c' := by
  obtain ⟨hchannels, -, -, -, hcleared, -, -⟩ := Controller.agreed_after created heardOut
  obtain ⟨-, -, -, -, -, -, hmove⟩ := Controller.agreed_after created []
  have hoff : ∀ s ∈ (controller.after []).sessions, s.phase = .disconnected := by
    intro s hs
    exact absurd hs List.not_mem_nil
  exact ⟨created, by decide +kernel, hcleared, hchannels, rfl, hmove TwoChannels.domain rfl hoff⟩

end FourChannels

end Hotspot

import Hotspot.Proofs.AccessPoint.JournalWrites
import Hotspot.Proofs.AccessPoint.Lasting

/-!
The order in which radar is answered. The list with the channels on it comes first, then everybody
on them is warned, and only then anything is done about it, for whichever session.
-/

set_option autoImplicit false
set_option relaxedAutoImplicit false

namespace Hotspot

open NonOccupancy (Record Table)
open Turn (WritesTimed struck)

def Entry.isAlarm : Entry → Bool
  | .notice _ n => n.isAlarm
  | _ => false

private theorem Entry.Concerns.isAlarm {S : SessionId → Prop} {e : Entry} (h : e.Concerns S) :
    e.isAlarm = false := by
  cases e with
  | notice id n => exact h.2
  | _ => rfl

private theorem Turn.WritesTimed.exists_later {S : SessionId → Prop} {now : Instant} {t t' : Turn}
    (h : WritesTimed S now t t') :
    ∃ later, t'.journal = t.journal ++ later ∧ ∀ e ∈ later, e.isAlarm = false := by
  obtain ⟨later, hj, hlater, -⟩ := h.journal
  refine ⟨later, hj, fun e he => ?_⟩
  rcases hlater e he with htimer | hconcerns
  · cases e with
    | armed | disarmed => rfl
    | _ => cases htimer
  · exact hconcerns.isAlarm

/-- Of the channels that are named, every one that the domain shares with radar is handed out, and
as one that is to be left alone. -/
def Domain.Bars (d : Domain) (channels : List Channel) (records : List Record) : Prop :=
  ∀ ch ∈ channels, d.isRadar ch = true →
    (∃ r ∈ records, r.channel = ch) ∧ ∀ r ∈ records, r.channel = ch → r.status = .unavailable

namespace Airspace.Charted

variable {a : Airspace} {now : Instant} {channels : List Channel}

theorem fresh {timing : NonOccupancy.Timing} {domain : Domain} {table : Table}
    (hv : domain.validate = .ok ()) (ht : Table.ofDomain timing domain = .ok table) :
    (Airspace.fresh domain table).Charted where
  channels := Table.channels_ofDomain ht
  nodup := Domain.nodup_radarChannels (Domain.nodup_of_validate hv)

private theorem struck (h : a.Charted) (now : Instant) (channels : List Channel) :
    (struck now channels a).Charted :=
  ⟨(Table.channels_markEach now a.table channels).trans h.channels, h.nodup⟩

private theorem bars (h : a.Charted) (now : Instant) (channels : List Channel) :
    a.domain.Bars channels ((Turn.struck now channels a).table.records now) := by
  intro ch hch hradar
  have hlisted : ch ∈ (Turn.struck now channels a).table.channels := by
    rw [(h.struck now channels).channels]
    exact Domain.mem_radarChannels_of_isRadar hradar
  have hnodup : a.table.channels.Nodup := h.channels ▸ h.nodup
  refine ⟨Table.exists_mem_records hlisted, fun r hr hrch => ?_⟩
  exact Table.unavailable_of_mem_records_markEach hnodup hr (hrch ▸ hch)

end Airspace.Charted

namespace Controller

variable {c : Controller} {op : Operation} {id : SessionId} {s : Session} {e : Event}
  {channels : List Channel}

private theorem charted_create {settings : Settings} {domain : Domain}
    (h : create settings domain = .ok c) : c.airspace.Charted := by
  obtain ⟨table, ⟨hv, ht⟩, rfl⟩ := create_eq h
  exact .fresh hv ht

private theorem charted_drain_onListeningOver (hs : c.Sound) (h : c.airspace.Charted)
    (env : Surroundings) (now : Instant) (n : Nat) :
    ((c.turn.onListeningOver env).drain env now n).airspace.Charted := by
  cases hrun : c.airspace.run with
  | none => exact (writes_drain_of_idle hs hrun env now n).charted h
  | some run =>
    have hcredited : (Turn.credited run c.airspace).Charted := ⟨h.channels, h.nodup⟩
    exact (writes_drain_onListeningOver hs hrun env now n).charted hcredited

private theorem charted_dispatch (hs : c.Sound) (h : c.airspace.Charted)
    (hsess : c.session? id = some s) (env : Surroundings) (now : Instant) :
    ((c.turn.enqueue id e).settle env now).airspace.Charted := by
  cases hreport : s.reports? e with
  | some chs =>
    obtain ⟨t₁, -, ha, hwrites⟩ := exists_dispatch_of_reports hs hsess hreport env now
    refine hwrites.charted ?_
    rw [ha]
    exact h.struck now chs
  | none =>
    cases hover : s.awaits e with
    | false => exact (writesTimed_dispatch hs hsess hreport hover env now).charted h
    | true =>
      obtain ⟨n, hsettle, -⟩ := Turn.settle_enqueue env now e hs.queue hsess
      have hreact := Turn.react_of_awaits env now (t := c.turn) hsess hover
      rw [hsettle, hreact]
      exact charted_drain_onListeningOver hs h env now n

private theorem charted_of_untimed (h : c.airspace.Charted) (htime : op.now? = none) :
    (c.perform op).1.airspace.Charted := by
  rcases airspace_perform_of_untimed (c := c) htime with
    hsame | ⟨domain, table, -, ⟨hv, ht⟩, hfresh⟩
  · rw [hsame]
    exact h
  · rw [hfresh]
    exact .fresh hv ht

theorem charted_perform (hs : c.Sound) (h : c.airspace.Charted) (op : Operation) :
    (c.perform op).1.airspace.Charted := by
  cases op with
  | openSession | closeSession | setDomain => exact charted_of_untimed h rfl
  | dispatch env now id e =>
    cases hsess : c.session? id with
    | none =>
      rw [perform_dispatch_of_none hsess]
      exact h
    | some s =>
      rw [perform_dispatch hsess]
      exact charted_dispatch hs h hsess env now
  | listeningOver env now => exact charted_drain_onListeningOver hs h env now _

theorem charted_after (hs : c.Sound) (h : c.airspace.Charted) (ops : List Operation) :
    (c.after ops).airspace.Charted := by
  induction ops using List.reverseRecOn with
  | nil => exact h
  | append_singleton ops op ih =>
    rw [after_concat]
    exact charted_perform (sound_after hs ops) ih op

/-- The session hears of radar on the channels: it listens or sends on one of them, or it has
reported the radar and nobody does. -/
def Hears (c : Controller) (reporter : SessionId) (channels : List Channel) (id : SessionId) :
    Prop :=
  (∃ s ∈ c.sessions, s.id = id ∧ Turn.isAffected channels s = true) ∨
    id = reporter ∧ ∀ s ∈ c.sessions, Turn.isAffected channels s = false

private theorem mem_heard {reporter : SessionId} :
    id ∈ c.turn.heard channels reporter ↔ c.Hears reporter channels id := by
  unfold Turn.heard Hears
  split
  · rename_i hnobody
    have hnone : ∀ s ∈ c.sessions, Turn.isAffected channels s = false := by
      intro s hs
      simpa using List.filter_eq_nil_iff.mp (List.isEmpty_iff.mp hnobody) s hs
    constructor
    · intro hid
      exact .inr ⟨List.mem_singleton.mp hid, hnone⟩
    · rintro (⟨s, hs, -, haffected⟩ | ⟨rfl, -⟩)
      · cases (hnone s hs).symm.trans haffected
      · exact List.mem_singleton_self _
  · rename_i hsome
    constructor
    · intro hid
      obtain ⟨s, hs, rfl⟩ := List.mem_map.mp hid
      obtain ⟨hmem, haffected⟩ := List.mem_filter.mp hs
      exact .inl ⟨s, hmem, rfl, haffected⟩
    · rintro (⟨s, hs, rfl, haffected⟩ | ⟨-, hnone⟩)
      · exact List.mem_map_of_mem (List.mem_filter.mpr ⟨hs, haffected⟩)
      · refine absurd (List.isEmpty_iff.mpr (List.filter_eq_nil_iff.mpr fun s hs => ?_)) hsome
        simp [hnone s hs]

private theorem nodup_heard (hs : c.Sound) (channels : List Channel) (reporter : SessionId) :
    (c.turn.heard channels reporter).Nodup := by
  unfold Turn.heard
  split
  · exact List.nodup_singleton reporter
  · exact hs.scene.nodup.sublist (List.filter_sublist.map _)

/-- Radar is written about in order: the list first, then a warning for everybody who is to hear of
it, and behind these all that is done, with no further alarm. -/
inductive Alarms (c : Controller) (id : SessionId) (channels : List Channel) : Journal → Prop
  | inOrder (records : List Record) (ids : List SessionId) (later : Journal)
      (barred : c.airspace.domain.Bars channels records) (once : ids.Nodup)
      (heard : ∀ k, k ∈ ids ↔ c.Hears id channels k) (done : ∀ e ∈ later, e.isAlarm = false) :
      Alarms c id channels
        (.notice id (.listChanged records) :: (Turn.warnings channels ids ++ later))

private theorem alarms_dispatch (hs : c.Sound) (h : c.airspace.Charted)
    (hsess : c.session? id = some s)
    (hreport : s.reports? e = some channels) (env : Surroundings) (now : Instant) :
    c.Alarms id channels (c.perform (.dispatch env now id e)).2 := by
  obtain ⟨t₁, hj, -, hwrites⟩ := exists_dispatch_of_reports hs hsess hreport env now
  obtain ⟨later, hlater, hquiet⟩ := hwrites.exists_later
  rw [perform_dispatch hsess]
  dsimp only
  rw [hlater, hj]
  exact .inOrder _ _ later (h.bars now channels) (nodup_heard hs channels id)
    (fun k => mem_heard) hquiet

/-- Whatever was done before, radar that a session reports while it listens or sends is answered in
order: whoever is told to stop, to move or to announce a switch, and the timer that is stopped, come
behind the list and the warnings, whatever the layer below takes. -/
theorem alarms_of_radar {settings : Settings} {domain : Domain}
    (h : create settings domain = .ok c) (ops : List Operation)
    (hsess : (c.after ops).session? id = some s) (hon : s.phase = .listening ∨ s.phase = .started)
    (env : Surroundings) (now : Instant) (named : List Channel) :
    (c.after ops).Alarms id (if named.isEmpty then s.occupied else named)
      ((c.after ops).perform (.dispatch env now id (.radarDetected named))).2 := by
  have hs := sound_after (sound_create h) ops
  have hcharted := charted_after (sound_create h) (charted_create h) ops
  have hreport : s.reports? (.radarDetected named) =
      some (if named.isEmpty then s.occupied else named) := if_pos hon
  exact alarms_dispatch hs hcharted hsess hreport env now

open FourChannels in
theorem alarms_of_radar_joined : create {} domain = .ok controller ∧
    ∃ s, (controller.after joined).session? 1 = some s ∧
      (s.phase = .listening ∨ s.phase = .started) ∧
      (controller.after joined).Alarms 1 s.occupied
        ((controller.after joined).perform (send 1000 1 (.radarDetected []))).2 := by
  have hstance : (controller.after joined).scene.stance 1 =
      some ⟨.listening, some ⟨52, .mhz20, .alone⟩, none⟩ := by
    decide +kernel
  obtain ⟨s, h, hst⟩ := session?_of_stance? hstance
  have hon : s.phase = .listening ∨ s.phase = .started := .inl (congrArg Stance.phase hst)
  exact ⟨created, s, h, hon, alarms_of_radar created joined h hon _ _ []⟩

end Controller

end Hotspot

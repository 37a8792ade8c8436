import Hotspot.Proofs.Spectrum.NonOccupancy
import Mathlib.Data.List.Nodup

/-!
Which channels stand on the non-occupancy list. Whatever is found out about them, they stay the ones
that the domain shares with radar, in the order of its table.
-/

set_option autoImplicit false
set_option relaxedAutoImplicit false

namespace Hotspot

namespace Domain

variable {d : Domain} {c : Channel}

private theorem nodup_of_entryFault? {seen l : List Channel} (h : entryFault? seen l = none) :
    l.Nodup ∧ ∀ c ∈ l, c ∉ seen := by
  -- By induction on the entries, with those that were seen growing.
  induction l generalizing seen with
  | nil => exact ⟨List.nodup_nil, fun _ h => absurd h List.not_mem_nil⟩
  | cons c rest ih =>
    unfold entryFault? at h
    split at h
    · cases h
    · split at h
      · cases h
      · rename_i hnew
        obtain ⟨hnodup, hfresh⟩ := ih h
        have hc : c ∉ rest := fun hmem => hfresh c hmem List.mem_cons_self
        refine ⟨List.nodup_cons.mpr ⟨hc, hnodup⟩, fun e he => ?_⟩
        rcases List.mem_cons.mp he with rfl | he
        · simpa using hnew
        · exact fun hseen => hfresh e he (List.mem_cons_of_mem c hseen)

private theorem ne_zero_of_entryFault? {seen l : List Channel} (h : entryFault? seen l = none) :
    ∀ c ∈ l, c ≠ 0 := by
  induction l generalizing seen with
  | nil => exact fun _ h => absurd h List.not_mem_nil
  | cons c rest ih =>
    unfold entryFault? at h
    split at h
    · cases h
    · rename_i hzero
      split at h
      · cases h
      · intro e he
        rcases List.mem_cons.mp he with rfl | he
        · simpa using hzero
        · exact ih h e he

private theorem validate_eq_ok_iff : d.validate = .ok () ↔ d.allowances.length ≤ channelLimit ∧
    d.radarChannels.length ≤ radarLimit ∧ entryFault? [] d.channels = none := by
  unfold validate
  split
  · rename_i hlong
    exact ⟨nofun, fun h => absurd h.1 (Nat.not_le.mpr hlong)⟩
  · rename_i hchannels
    split
    · rename_i hlong
      exact ⟨nofun, fun h => absurd h.2.1 (Nat.not_le.mpr hlong)⟩
    · rename_i hradar
      split
      · rename_i hfault
        rw [hfault]
        exact ⟨nofun, fun h => nomatch h.2.2⟩
      · rename_i hnone
        exact ⟨fun _ => ⟨Nat.not_lt.mp hchannels, Nat.not_lt.mp hradar, hnone⟩, fun _ => rfl⟩

theorem nodup_of_validate (h : d.validate = .ok ()) : d.channels.Nodup := by
  obtain ⟨-, -, hfault⟩ := validate_eq_ok_iff.mp h
  exact (nodup_of_entryFault? hfault).1

theorem ne_zero_of_validate (h : d.validate = .ok ()) : ∀ c ∈ d.channels, c ≠ 0 := by
  obtain ⟨-, -, hfault⟩ := validate_eq_ok_iff.mp h
  exact ne_zero_of_entryFault? hfault

theorem length_channels_le (h : d.validate = .ok ()) : d.channels.length ≤ channelLimit := by
  rw [channels, List.length_map]
  exact (validate_eq_ok_iff.mp h).1

theorem nodup_radarChannels (h : d.channels.Nodup) : d.radarChannels.Nodup :=
  h.sublist (List.filter_sublist.map _)

theorem mem_radarChannels_of_isRadar (h : d.isRadar c = true) : c ∈ d.radarChannels := by
  unfold isRadar at h
  cases ha : d.allowance? c with
  | none => simp [ha] at h
  | some a =>
    have hradar : a.radar = true := by simpa [ha] using h
    have hc : a.channel = c := by simpa using List.find?_some ha
    have hmem := List.mem_filter.mpr ⟨List.mem_of_find?_eq_some ha, hradar⟩
    exact hc ▸ List.mem_map_of_mem hmem

private theorem allowance?_of_mem (hn : d.channels.Nodup) {a : Allowance} (ha : a ∈ d.allowances) :
    d.allowance? a.channel = some a := by
  unfold allowance?
  cases hf : d.allowances.find? (·.channel == a.channel) with
  | none => simpa using List.find?_eq_none.mp hf a ha
  | some o =>
    have ho : o.channel = a.channel := by simpa using List.find?_some hf
    rw [List.inj_on_of_nodup_map hn (List.mem_of_find?_eq_some hf) ha ho]

theorem mem_radarChannels_iff (hn : d.channels.Nodup) :
    c ∈ d.radarChannels ↔ d.isRadar c = true := by
  constructor
  · intro hc
    obtain ⟨a, ha, rfl⟩ := List.mem_map.mp hc
    obtain ⟨hmem, hradar⟩ := List.mem_filter.mp ha
    rw [isRadar, allowance?_of_mem hn hmem]
    exact hradar
  · exact mem_radarChannels_of_isRadar

theorem length_radarChannels_le (h : d.validate = .ok ()) :
    d.radarChannels.length ≤ radarLimit :=
  (validate_eq_ok_iff.mp h).2.1

end Domain

namespace NonOccupancy.Table

variable {now : Instant} {t t' : Table}

def channels (t : Table) : List Channel :=
  t.entries.map (·.channel)

theorem channels_update (t : Table) (c : Channel) (f : Status → Status) :
    (t.update c f).channels = t.channels := by
  unfold update channels
  induction t.entries with
  | nil => rfl
  | cons e rest ih =>
    by_cases he : e.channel = c <;> simp_all [adjust]

theorem channels_seed (now : Instant) (t : Table) (records : List Record) :
    (t.seed now records).channels = t.channels := by
  unfold seed
  induction records generalizing t with
  | nil => rfl
  | cons r rest ih => exact (ih _).trans (channels_update t r.channel _)

theorem channels_markEach (now : Instant) (t : Table) (channels : List Channel) :
    (t.markEach now channels).2.channels = t.channels := by
  induction channels generalizing t with
  | nil => rfl
  | cons c rest ih => exact (ih _).trans (channels_update t c _)

theorem channels_ofDomain {timing : Timing} {d : Domain} (h : ofDomain timing d = .ok t) :
    t.channels = d.radarChannels := by
  unfold ofDomain at h
  dsimp only at h
  split at h
  · cases h
  · cases h
    simp [channels, Function.comp_def]

theorem usable_ofDomain {timing : Timing} {d : Domain} {e : Entry} (h : ofDomain timing d = .ok t)
    (he : e ∈ t.entries) : e.status = .usable := by
  unfold ofDomain at h
  dsimp only at h
  split at h
  · cases h
  · cases h
    obtain ⟨c, -, rfl⟩ := List.mem_map.mp he
    rfl

theorem exists_ofDomain (timing : Timing) {d : Domain} (h : d.validate = .ok ()) :
    ∃ t, ofDomain timing d = .ok t := by
  have hle := Domain.length_radarChannels_le h
  unfold ofDomain
  dsimp only
  rw [if_neg (Nat.not_lt.mpr hle)]
  exact ⟨_, rfl⟩

theorem status?_of_mem {e : Entry} (hn : t.channels.Nodup) (he : e ∈ t.entries) :
    t.status? e.channel = some e.status := by
  unfold status?
  cases hf : t.entries.find? (·.channel == e.channel) with
  | none => simpa using List.find?_eq_none.mp hf e he
  | some o =>
    have ho : o.channel = e.channel := by simpa using List.find?_some hf
    rw [List.inj_on_of_nodup_map hn (List.mem_of_find?_eq_some hf) he ho]
    rfl

theorem mem_channels {c : Channel} : c ∈ t.channels ↔ t.tracks c = true := by
  simp [tracks, channels]

private theorem channels_settleAll (now : Instant) (t : Table) :
    (t.settleAll now).channels = t.channels := by
  simp [settleAll, channels]

theorem Viewed.channels (h : Viewed now t t') : t'.channels = t.channels := by
  rw [← channels_settleAll now t', h.settled, channels_settleAll]

theorem channel_record (now : Instant) (e : Entry) : (Entry.record now e).channel = e.channel := by
  unfold Entry.record
  split <;> rfl

private theorem record_of_mem_records {r : Record} (hn : t.channels.Nodup)
    (hr : r ∈ t.records now) :
    ∃ s, t.status? r.channel = some s ∧ r = Entry.record now ⟨r.channel, s⟩ := by
  obtain ⟨e, he, rfl⟩ := List.mem_map.mp hr
  rw [channel_record]
  exact ⟨e.status, status?_of_mem hn he, rfl⟩

theorem exists_mem_records {c : Channel} (hc : c ∈ t.channels) :
    ∃ r ∈ t.records now, r.channel = c := by
  obtain ⟨e, he, rfl⟩ := List.mem_map.mp hc
  exact ⟨Entry.record now e, List.mem_map_of_mem he, channel_record now e⟩

theorem unavailable_of_mem_records_markEach {chs : List Channel} {r : Record}
    (hn : t.channels.Nodup) (hr : r ∈ (t.markEach now chs).2.records now) (hc : r.channel ∈ chs) :
    r.status = .unavailable := by
  obtain ⟨s, hs, heq⟩ := record_of_mem_records ((channels_markEach now t chs).symm ▸ hn) hr
  rw [status?_markEach, if_pos hc, Option.map_eq_some_iff] at hs
  obtain ⟨s₀, -, rfl⟩ := hs
  rw [heq]
  cases s₀ <;> rfl

end NonOccupancy.Table

end Hotspot

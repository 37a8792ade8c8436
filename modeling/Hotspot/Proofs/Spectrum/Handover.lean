import Hotspot.Proofs.Spectrum.Absences

/-!
A list that is handed out and taken over by a new one at the same instant. What is handed out are
ages in whole milliseconds, so that radar seems to be later than it was, by less than a millisecond:
a channel that is to be left alone is never let out early, and kept at most that much longer.
-/

set_option autoImplicit false
set_option relaxedAutoImplicit false

namespace Hotspot

namespace Instant

variable {now since later : Instant} {d : Duration}

def rounded (now since : Instant) : Instant :=
  now - (Duration.millis (Instant.since now since).wholeMillis : Nat)

private theorem rounded_bounds (h : since ≤ now) :
    since ≤ rounded now since ∧ rounded now since < since + (Duration.millis 1 : Nat) := by
  have hclock (n s : Int) (h : s ≤ n) :
      s ≤ n - ((n - s).toNat / 1000000 * 1000000 : Nat) ∧
        n - ((n - s).toNat / 1000000 * 1000000 : Nat) < s + (1 * 1000000 : Nat) := by omega
  exact hclock now since h

private theorem since_anti {since' : Instant} (h : since ≤ since') :
    Instant.since later since' ≤ Instant.since later since := by
  have hclock (l s s' : Int) (h : s ≤ s') : (l - s').toNat ≤ (l - s).toNat := by omega
  exact hclock later since since' h

private theorem since_sub_millis_lt {since' : Instant}
    (h : since' < since + (Duration.millis 1 : Nat)) (hlt : Instant.since later since' < d) :
    Instant.since (later - (Duration.millis 1 : Nat)) since < d := by
  have hclock (l s s' : Int) (p : Nat) (h : s' < s + (1 * 1000000 : Nat))
      (hlt : (l - s').toNat < p) : (l - (1 * 1000000 : Nat) - s).toNat < p := by omega
  exact hclock later since since' d h hlt

end Instant

namespace NonOccupancy

def Status.rounded (now : Instant) : Status → Status
  | .unavailable since => .unavailable (Instant.rounded now since)
  | s => s

namespace Table

variable {timing : Timing} {d : Domain} {now later : Instant} {t t' fresh : Table} {c : Channel}
  {records : List Record}

/-- The list is one of the domain, whatever was found out about its channels. -/
structure Covers (timing : Timing) (d : Domain) (t : Table) : Prop where
  timing : t.timing = timing
  channels : t.channels = d.radarChannels
  weather : t.weather = d.radarChannels.filter d.isWeather

/-- All radar on the list was found by now, and not so long ago that a record cannot say it. -/
def Dated (now : Instant) (t : Table) : Prop :=
  ∀ c since, t.status? c = some (.unavailable since) →
    since ≤ now ∧ Instant.since now since < .millis UInt64.size

namespace Covers

private theorem ofDomain (h : Table.ofDomain timing d = .ok t) : t.Covers timing d := by
  refine ⟨?_, channels_ofDomain h, ?_⟩
  all_goals
    unfold Table.ofDomain at h
    dsimp only at h
    split at h
    · cases h
    · cases h
      rfl

private theorem viewed (h : t.Covers timing d) (hv : Viewed now t t') : t'.Covers timing d where
  timing := hv.looked.timing.trans h.timing
  channels := hv.channels.trans h.channels
  weather := hv.looked.weather.trans h.weather

private theorem markEach (h : t.Covers timing d) (now : Instant) (channels : List Channel) :
    (t.markEach now channels).2.Covers timing d where
  timing := (timing_markEach now t channels).trans h.timing
  channels := (channels_markEach now t channels).trans h.channels
  weather := (weather_markEach now t channels).trans h.weather

private theorem seed (h : t.Covers timing d) (now : Instant) (records : List Record) :
    (t.seed now records).Covers timing d := by
  unfold Table.seed
  induction records generalizing t with
  | nil => exact h
  | cons r rest ih =>
    exact ih ⟨h.timing, (channels_update t r.channel _).trans h.channels, h.weather⟩

private theorem answer (h : t.Covers timing d) (now : Instant) (r : Request) :
    (Table.answer now t r).2.Covers timing d := by
  cases r with
  | radar channels => exact h.markEach now channels
  | available c b => exact h.viewed (viewed_available now t c b)
  | unavailable => exact h.viewed (viewed_unavailable now t)

private theorem after (h : t.Covers timing d) (requests : Requests) :
    (Table.answer.after t requests).Covers timing d := by
  induction requests using List.reverseRecOn with
  | nil => exact h
  | append_singleton requests r ih =>
    rw [Answering.after_concat]
    exact ih.answer r.1 r.2

private theorem nodup (h : t.Covers timing d) (hd : d.validate = .ok ()) : t.channels.Nodup := by
  rw [h.channels]
  exact Domain.nodup_radarChannels (Domain.nodup_of_validate hd)

private theorem absence_eq (h : t.Covers timing d) (h' : t'.Covers timing d) (c : Channel) :
    t'.absence c = t.absence c := by
  unfold Table.absence
  rw [h.timing, h.weather, h'.timing, h'.weather]

end Covers

namespace Dated

private theorem ofDomain (h : Table.ofDomain timing d = .ok t) (now : Instant) : t.Dated now := by
  intro c since hs
  obtain ⟨e, he, hu⟩ := Option.map_eq_some_iff.mp hs
  rw [usable_ofDomain h (List.mem_of_find?_eq_some he)] at hu
  cases hu

private theorem looked (h : t.Dated now) (hl : Looked later t t') : t'.Dated now := by
  intro c since hs
  exact h c since (hl.status?_of_unavailable hs)

private theorem markEach {instant : Instant} (h : t.Dated now)
    (hat : instant ≤ now ∧ Instant.since now instant < .millis UInt64.size)
    (channels : List Channel) : (t.markEach instant channels).2.Dated now := by
  intro c since hs
  rcases (status?_markEach_iff instant t channels).mp hs with hold | ⟨rfl, -⟩
  · exact h c since hold
  · exact hat

private theorem answer {instant : Instant} (h : t.Dated now)
    (hat : instant ≤ now ∧ Instant.since now instant < .millis UInt64.size) (r : Request) :
    (Table.answer instant t r).2.Dated now := by
  cases r with
  | radar channels => exact h.markEach hat channels
  | available c b => exact h.looked (viewed_available instant t c b).looked
  | unavailable => exact h.looked (viewed_unavailable instant t).looked

private theorem after (h : t.Dated now) {requests : Requests}
    (hat : ∀ r ∈ requests, r.1 ≤ now ∧ Instant.since now r.1 < .millis UInt64.size) :
    (Table.answer.after t requests).Dated now := by
  induction requests using List.reverseRecOn with
  | nil => exact h
  | append_singleton requests r ih =>
    rw [Answering.after_concat]
    exact (ih fun r' hr' => hat r' (List.mem_append_left _ hr')).answer (hat r (by simp)) r.2

end Dated

private theorem channels_records (now : Instant) (t : Table) :
    (t.records now).map (·.channel) = t.channels := by
  simp [records, channels, channel_record]

private theorem status?_eq_none (h : c ∉ t.channels) : t.status? c = none := by
  rw [mem_channels, tracks_iff] at h
  exact Option.eq_none_iff_forall_ne_some.mpr fun s hs => h ⟨s, hs⟩

private theorem restore_record {e : Entry}
    (h : ∀ since, e.status = .unavailable since → Instant.since now since < .millis UInt64.size) :
    Record.restore now (Entry.record now e) = e.status.rounded now := by
  obtain ⟨c, s⟩ := e
  cases s with
  | usable | available => rfl
  | unavailable since =>
    have hfits : (Instant.since now since).wholeMillis < UInt64.size :=
      (Nat.div_lt_iff_lt_mul (by decide)).mpr (h since rfl)
    have hread : (UInt64.ofNat (Instant.since now since).wholeMillis).toNat =
        (Instant.since now since).wholeMillis := UInt64.toNat_ofNat_of_lt' hfits
    simp only [Entry.record, Record.restore, Option.getD_some, hread, Status.rounded,
      Instant.rounded]

private theorem status?_seed_of_notMem (h : c ∉ records.map (·.channel)) :
    (t.seed now records).status? c = t.status? c := by
  unfold seed
  induction records generalizing t with
  | nil => rfl
  | cons r rest ih =>
    rw [List.map_cons, List.mem_cons, not_or] at h
    rw [List.foldl_cons, ih h.2, status?_update_ne t _ h.1]

private theorem status?_seed_of_mem {r : Record} (hn : (records.map (·.channel)).Nodup)
    (hr : r ∈ records) : (t.seed now records).status? r.channel =
      (t.status? r.channel).map fun _ => Record.restore now r := by
  -- By induction on the records; no later one is about the same channel.
  induction records generalizing t with
  | nil => exact absurd hr List.not_mem_nil
  | cons first rest ih =>
    rw [List.map_cons, List.nodup_cons] at hn
    have hseed : t.seed now (first :: rest) =
        (t.update first.channel fun _ => Record.restore now first).seed now rest := rfl
    rw [hseed]
    rcases List.mem_cons.mp hr with rfl | hr
    · rw [status?_seed_of_notMem hn.1, status?_update_self]
    · have hne : r.channel ≠ first.channel := by
        intro heq
        exact hn.1 (heq ▸ List.mem_map_of_mem hr)
      rw [ih hn.2 hr, status?_update_ne t _ hne]

/-- The list takes over what another one hands out at the same instant. -/
def takeOver (now : Instant) (fresh t : Table) : Table :=
  fresh.seed now (t.records now)

section TakeOver

variable (hd : d.validate = .ok ()) (hfresh : fresh.Covers timing d) (ht : t.Covers timing d)
  (hdated : t.Dated now)

include hfresh ht

private theorem applicable_records : fresh.applicable (t.records now) = (t.records now).length := by
  refine List.countP_eq_length.mpr fun r hr => ?_
  rw [← mem_channels, hfresh.channels, ← ht.channels, ← channels_records now t]
  exact List.mem_map_of_mem hr

private theorem absence_takeOver (c : Channel) : (fresh.takeOver now t).absence c = t.absence c :=
  ht.absence_eq (hfresh.seed now (t.records now)) c

include hd hdated

private theorem status?_takeOver (c : Channel) :
    (fresh.takeOver now t).status? c = (t.status? c).map (Status.rounded now) := by
  have hchannels : fresh.channels = t.channels := hfresh.channels.trans ht.channels.symm
  have hn := ht.nodup hd
  by_cases hc : c ∈ t.channels
  · obtain ⟨s, hs⟩ := tracks_iff.mp (mem_channels.mp (hchannels ▸ hc))
    obtain ⟨e, he, rfl⟩ := List.mem_map.mp hc
    have hknown : t.status? e.channel = some e.status := status?_of_mem hn he
    have hrecord : Entry.record now e ∈ t.records now := List.mem_map_of_mem he
    have hseed : (fresh.takeOver now t).status? (Entry.record now e).channel =
        (fresh.status? (Entry.record now e).channel).map fun _ =>
          Record.restore now (Entry.record now e) :=
      status?_seed_of_mem (channels_records now t ▸ hn) hrecord
    rw [channel_record, hs, Option.map_some, restore_record] at hseed
    · rw [hknown]
      exact hseed
    · intro since hu
      exact (hdated e.channel since (hu ▸ hknown)).2
  · have hrecords : c ∉ (t.records now).map (·.channel) := channels_records now t ▸ hc
    rw [takeOver, status?_seed_of_notMem hrecords, status?_eq_none hc,
      status?_eq_none (hchannels ▸ hc)]
    rfl

private theorem Barred.takeOver (h : t.Barred later c) : (fresh.takeOver now t).Barred later c := by
  obtain ⟨since, hs, hlt⟩ := h
  obtain ⟨hle, -⟩ := Instant.rounded_bounds (hdated c since hs).1
  refine ⟨Instant.rounded now since, ?_, ?_⟩
  · rw [status?_takeOver hd hfresh ht hdated, hs]
    rfl
  · rw [absence_takeOver hfresh ht]
    exact Nat.lt_of_le_of_lt (Instant.since_anti hle) hlt

private theorem Barred.of_takeOver (h : (fresh.takeOver now t).Barred later c) :
    t.Barred (later - (Duration.millis 1 : Nat)) c := by
  obtain ⟨since', hs', hlt⟩ := h
  rw [status?_takeOver hd hfresh ht hdated, Option.map_eq_some_iff] at hs'
  rw [absence_takeOver hfresh ht] at hlt
  obtain ⟨s, hs, hrounded⟩ := hs'
  cases s with
  | usable | available => cases hrounded
  | unavailable since =>
    cases hrounded
    obtain ⟨-, hnear⟩ := Instant.rounded_bounds (hdated c since hs).1
    exact ⟨since, hs, Instant.since_sub_millis_lt hnear hlt⟩

end TakeOver

/-- A list of a sound domain, on which all radar was found by now and not too long ago for a record,
is handed out, and a new list of the same domain and timing takes it over. Every record is applied.
Whenever either is asked, the new list leaves alone all that the old one does, and nothing that the
old one did not leave alone a millisecond before, be it asked for all channels or for those of a
bonding; and what was free is known as it was. -/
theorem taken_over_within_millisecond (hd : d.validate = .ok ())
    (hfresh : Table.ofDomain timing d = .ok fresh) (ht : t.Covers timing d) (hdated : t.Dated now) :
    fresh.applicable (t.records now) = (t.records now).length ∧
      (∀ later, (t.unavailable later).1 ⊆ ((fresh.takeOver now t).unavailable later).1 ∧
        ((fresh.takeOver now t).unavailable later).1 ⊆
          (t.unavailable (later - (Duration.millis 1 : Nat))).1) ∧
      (∀ later c b,
        (((fresh.takeOver now t).available later c b).1 = true →
          (t.available later c b).1 = true) ∧
        ((t.available (later - (Duration.millis 1 : Nat)) c b).1 = true →
          ((fresh.takeOver now t).available later c b).1 = true)) ∧
      ∀ c s, t.status? c = some s → s.isFree = true →
        (fresh.takeOver now t).status? c = some s := by
  have hfresh : fresh.Covers timing d := .ofDomain hfresh
  have hn : (fresh.takeOver now t).channels.Nodup := (hfresh.seed now (t.records now)).nodup hd
  refine ⟨applicable_records hfresh ht, fun later => ⟨?_, ?_⟩, fun later c b => ⟨?_, ?_⟩, ?_⟩
  · intro c hc
    obtain ⟨-, hbarred⟩ := (mem_unavailable_iff (ht.nodup hd)).mp hc
    exact (hbarred.takeOver hd hfresh ht hdated).mem_unavailable
  · intro c hc
    obtain ⟨-, hbarred⟩ := (mem_unavailable_iff hn).mp hc
    exact (hbarred.of_takeOver hd hfresh ht hdated).mem_unavailable
  · intro h
    refine available_iff.mpr fun e he hbarred => ?_
    exact available_iff.mp h e he (hbarred.takeOver hd hfresh ht hdated)
  · intro h
    refine available_iff.mpr fun e he hbarred => ?_
    exact available_iff.mp h e he (hbarred.of_takeOver hd hfresh ht hdated)
  · intro c s hs hfree
    rw [status?_takeOver hd hfresh ht hdated, hs]
    cases s with
    | usable | available => rfl
    | unavailable since => cases hfree

end Table

end NonOccupancy

namespace TwoPeriods

open NonOccupancy

def struck : Table :=
  Table.answer.after table [(0, .radar [52, 120])]

def handedOut : Instant :=
  (Duration.seconds 600 + 700000 : Nat)

def justOver : Instant :=
  halfAnHour + (500000 : Nat)

theorem taken_over_struck : domain.validate = .ok () ∧ Table.ofDomain {} domain = .ok table ∧
    struck.Covers {} domain ∧ struck.Dated handedOut ∧
    table.applicable (struck.records handedOut) = 2 ∧
    (struck.unavailable justOver).1 = [120] ∧
    ((table.takeOver handedOut struck).unavailable justOver).1 = [52, 120] ∧
    120 ∈ ((table.takeOver handedOut struck).unavailable justOver).1 ∧
    52 ∈ (struck.unavailable (justOver - (Duration.millis 1 : Nat))).1 := by
  have hd : domain.validate = .ok () := by decide
  have hfresh : Table.ofDomain {} domain = .ok table := rfl
  have hcovers : struck.Covers {} domain := (Table.Covers.ofDomain hfresh).after _
  have hdated : struck.Dated handedOut := (Table.Dated.ofDomain hfresh handedOut).after (by decide)
  have hold : (struck.unavailable justOver).1 = [120] := by decide +kernel
  have hnew : ((table.takeOver handedOut struck).unavailable justOver).1 = [52, 120] := by
    decide +kernel
  obtain ⟨happlied, hlists, -, -⟩ :=
    Table.taken_over_within_millisecond hd hfresh hcovers hdated
  obtain ⟨hkept, hlate⟩ := hlists justOver
  refine ⟨hd, hfresh, hcovers, hdated, happlied, hold, hnew, hkept ?_, hlate ?_⟩
  · rw [hold]
    exact List.mem_singleton_self 120
  · rw [hnew]
    exact List.mem_cons_self

end TwoPeriods

end Hotspot

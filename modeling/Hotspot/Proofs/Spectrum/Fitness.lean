import Hotspot.Proofs.Spectrum.Selection

/-!
What makes a tuning fit to be used at an instant: every channel is allowed and free, and none
disturbs a channel that is left alone. Looking at the non-occupancy list at that instant changes
nothing about it, and automatic choice finds fit tunings only.
-/

set_option autoImplicit false
set_option relaxedAutoImplicit false

namespace Hotspot

open NonOccupancy (Table)

namespace NonOccupancy.Table

variable {now : Instant} {t : Table} {c : Channel}

theorem not_barred_of_isFree (h : t.isFree c = true) : ¬ t.Barred now c := by
  rintro ⟨since, hs, -⟩
  exact isFree_iff.mp h since hs

theorem Barred.mem_unavailable (h : t.Barred now c) : c ∈ (t.unavailable now).1 := by
  obtain ⟨since, hs, hp⟩ := h
  unfold status? at hs
  obtain ⟨e, he, hstatus⟩ := Option.map_eq_some_iff.mp hs
  have hmem := List.mem_of_find?_eq_some he
  have hc : e.channel = c := by simpa using List.find?_some he
  subst hc
  have hkept : e.status.settle (t.absence e.channel) now = .unavailable since := by
    rw [hstatus]
    simp only [Status.settle, ite_eq_right_iff, reduceCtorEq, imp_false]
    exact Nat.not_le.mpr hp
  have hin : { e with status := .unavailable since } ∈ (t.settleAll now).entries := by
    rw [← hkept]
    exact List.mem_map_of_mem (f := fun e : Entry =>
      { e with status := e.status.settle (t.absence e.channel) now }) hmem
  exact List.mem_map.mpr ⟨_, List.mem_filter.mpr ⟨hin, rfl⟩, rfl⟩

theorem Looked.barred {t' : Table} (h : Looked now t t') (hb : t.Barred now c) :
    t'.Barred now c := by
  obtain ⟨since, hs, hp⟩ := hb
  have hperiod : Instant.since now since < t'.absence c := by
    rw [h.absence]
    exact hp
  rcases h.unavailable_or hs with hs' | hover
  · exact ⟨since, hs', hperiod⟩
  · exact absurd hp (Nat.not_lt.mpr hover)

theorem Barred.markEach (h : t.Barred now c) (channels : List Channel) :
    (t.markEach now channels).2.Barred now c := by
  obtain ⟨since, hs, hp⟩ := h
  refine ⟨since, (status?_markEach_iff now t channels).mpr (.inl hs), ?_⟩
  rw [absence_markEach]
  exact hp

end NonOccupancy.Table

private theorem Isolation.lt_between_of_leaks {w : Width} {kept : List Channel} {c k : Channel}
    (h : leaks w kept c = false) (hk : k ∈ kept) : threshold < between w k c := by
  unfold leaks at h
  rw [List.any_eq_false] at h
  have hk := h k hk
  rw [decide_eq_true_eq] at hk
  exact Nat.not_le.mp hk

private theorem Width.megahertz_le_of_mem_ladder {w ceiling : Width} (h : w ∈ ceiling.ladder) :
    w.megahertz ≤ ceiling.megahertz := by
  revert h
  cases ceiling <;> cases w <;> decide

/-- Every channel of the tuning is allowed and free, and none disturbs a channel that is left alone
at `now`. -/
structure Tuning.Fit (now : Instant) (d : Domain) (table : Table) (tu : Tuning) : Prop where
  allowed : ∀ c ∈ tu.channels, d.contains c = true
  free : tu.FreeIn table
  apart : ∀ c ∈ tu.channels, Isolation.leaks tu.width (table.unavailable now).1 c = false

namespace Tuning.Fit

variable {now : Instant} {d : Domain} {table table' : Table} {tu : Tuning}

theorem viewed (h : tu.Fit now d table) (hv : Table.Viewed now table table') :
    tu.Fit now d table' where
  allowed := h.allowed
  free := h.free.looked hv.looked
  apart := by
    rw [hv.unavailable]
    exact h.apart

theorem not_barred (h : tu.Fit now d table) {c : Channel} (hc : c ∈ tu.channels) :
    ¬ table.Barred now c :=
  Table.not_barred_of_isFree (h.free c hc)

theorem lt_between (h : tu.Fit now d table) {c k : Channel} (hc : c ∈ tu.channels)
    (hk : table.Barred now k) : Isolation.threshold < Isolation.between tu.width k c :=
  Isolation.lt_between_of_leaks (h.apart c hc) hk.mem_unavailable

end Tuning.Fit

namespace Selection

variable (d : Domain) (p : Policy) (r : SearchRange) (now : Instant) (t : Table) (ceiling : Width)
  (octet : UInt8) (tick : UInt64)

theorem fit_select? {tu : Tuning} (h : (select? d p r ceiling octet tick now t).1 = some tu) :
    tu.Fit now d (select? d p r ceiling octet tick now t).2 := by
  have hfree := freeIn_select? d p r now t ceiling octet tick h
  have hv := viewed_select? d p r now t ceiling octet tick
  obtain ⟨-, w, c, -, rfl, hc⟩ := exists_of_select? d p r now t ceiling octet tick h
  obtain ⟨hwidth, hall⟩ := bonds_of_mem_selectable hc
  refine ⟨fun e he => (mem_candidates d p r now t (hall e he).1).1, hfree, fun e he => ?_⟩
  rw [hv.unavailable, hwidth]
  exact (hall e he).2

theorem within_select? {tu : Tuning} (h : (select? d p r ceiling octet tick now t).1 = some tu) :
    tu.width.megahertz ≤ ceiling.megahertz ∧ ∀ e ∈ tu.channels, r.contains e = true := by
  obtain ⟨-, w, c, hw, rfl, hc⟩ := exists_of_select? d p r now t ceiling octet tick h
  obtain ⟨hwidth, hall⟩ := bonds_of_mem_selectable hc
  refine ⟨?_, fun e he => (mem_candidates d p r now t (hall e he).1).2⟩
  rw [hwidth]
  exact Width.megahertz_le_of_mem_ladder hw

end Selection

end Hotspot

import Hotspot.Spectrum.Selection
import Hotspot.Proofs.Spectrum.Grouping
import Hotspot.Proofs.Spectrum.NonOccupancy

/-!
Automatic choice only looks at the non-occupancy list, and no channel of what it chooses need be
left alone.
-/

set_option autoImplicit false
set_option relaxedAutoImplicit false

namespace Hotspot

private theorem Bonding.ne_zero_of_mem_channels {b : Bonding} {c d : Channel}
    (h : d ∈ b.channels c) : d ≠ 0 := by
  simp only [Bonding.channels, List.mem_filterMap, Option.ite_none_right_eq_some,
    Bool.and_eq_true, decide_eq_true_eq, Option.some.injEq] at h
  obtain ⟨i, -, ⟨hlow, hhigh⟩, rfl⟩ := h
  intro hz
  have hn : (c.toNat + 4 * i - 4 * b.below) % 256 = 0 := by
    simpa using congrArg UInt8.toNat hz
  omega

theorem Domain.contains_of_mem {d : Domain} {c : Channel} (h : c ∈ d.channels) :
    d.contains c = true := by
  obtain ⟨a, ha, rfl⟩ := List.mem_map.mp h
  rw [contains, allowance?, List.find?_isSome]
  exact ⟨a, ha, beq_self_eq_true a.channel⟩

theorem Tuning.resolve_of_bonding {c : Channel} {w : Width} {b : Bonding}
    (h : Bonding.of? c w = some b) : Tuning.resolve c w = ⟨c, w, b⟩ := by
  cases w <;> simp [Tuning.resolve, Width.ladder, h]

namespace Selection

open NonOccupancy (Table)

variable (d : Domain) (p : Policy) (r : SearchRange) (now : Instant) (t : Table)

theorem viewed_foldl_available (channels : List Channel) :
    Table.Viewed now t (channels.foldl (fun t c => (t.available now c .alone).2) t) := by
  induction channels generalizing t with
  | nil => exact .refl now t
  | cons c rest ih => exact (Table.viewed_available now t c .alone).trans (ih _)

theorem viewed_candidates : Table.Viewed now t (candidates d p r now t).2 :=
  viewed_foldl_available now t _

theorem mem_candidates {c : Channel} (h : c ∈ (candidates d p r now t).1) :
    d.contains c = true ∧ r.contains c = true := by
  obtain ⟨hc, hrules⟩ := List.mem_filter.mp (List.mem_filter.mp h).1
  simp only [Bool.and_eq_true] at hrules
  exact ⟨Domain.contains_of_mem hc, hrules.1.2⟩

private theorem isFree_of_mem_candidates {c : Channel} (h : c ∈ (candidates d p r now t).1)
    (hc : c ≠ 0) : (candidates d p r now t).2.isFree c = true := by
  have hall := (List.mem_filter.mp h).2
  rw [List.all_eq_true] at hall
  exact hall c (Grouping.mem_channels_alone.mpr ⟨rfl, hc⟩)

private theorem selectable_of_widest? {base kept : List Channel} {ceiling w : Width}
    {group : List Channel} (h : widest? base kept ceiling = some (w, group)) :
    w ∈ ceiling.ladder ∧ selectable base kept w = group := by
  unfold widest? at h
  obtain ⟨x, hx, hfound⟩ := List.exists_of_findSome?_eq_some h
  split at hfound
  · cases hfound
  · cases hfound
    exact ⟨hx, rfl⟩

private theorem mem_of_mem_pool {avoidRadar : Bool} {group : List Channel} {c : Channel}
    (h : c ∈ pool d avoidRadar group) : c ∈ group := by
  unfold pool at h
  dsimp only at h
  split at h
  · exact (List.mem_filter.mp h).1
  · exact h

/-- A channel that can be chosen at a width is tuned to at that width, with base channels that
disturb none of those left alone. -/
theorem bonds_of_mem_selectable {base kept : List Channel} {w : Width} {c : Channel}
    (h : c ∈ selectable base kept w) : (Tuning.resolve c w).width = w ∧
      ∀ e ∈ (Tuning.resolve c w).channels, e ∈ base ∧ Isolation.leaks w kept e = false := by
  obtain ⟨hc, hcomplete⟩ := List.mem_filter.mp h
  obtain ⟨b, hb, hall⟩ := Grouping.exists_bonding_of_complete hc hcomplete
  rw [Tuning.resolve_of_bonding hb]
  refine ⟨rfl, fun e he => ?_⟩
  obtain ⟨hbase, hleaks⟩ := List.mem_filter.mp (hall e he)
  exact ⟨hbase, by simpa using hleaks⟩

variable (ceiling : Width) (octet : UInt8) (tick : UInt64)

theorem viewed_select? : Table.Viewed now t (select? d p r ceiling octet tick now t).2 := by
  have hc := viewed_candidates d p r now t
  rw [select?]
  generalize candidates d p r now t = found at hc ⊢
  obtain ⟨base, looked⟩ := found
  by_cases he : base.isEmpty = true
  · simpa only [he, if_true] using hc
  · simpa only [he, Bool.false_eq_true, if_false] using
      hc.trans (Table.viewed_unavailable now looked)

/-- What is chosen bonds candidates, at a width up to the ceiling, that disturb no channel that is
left alone; all of the list was looked at. -/
theorem exists_of_select? {tu : Tuning}
    (h : (select? d p r ceiling octet tick now t).1 = some tu) :
    (select? d p r ceiling octet tick now t).2 = ((candidates d p r now t).2.unavailable now).2 ∧
      ∃ w c, w ∈ ceiling.ladder ∧ tu = Tuning.resolve c w ∧
        c ∈ selectable (candidates d p r now t).1 (t.unavailable now).1 w := by
  have hv := (viewed_candidates d p r now t).unavailable
  rw [select?] at h ⊢
  generalize candidates d p r now t = found at h hv ⊢
  obtain ⟨base, looked⟩ := found
  by_cases hempty : base.isEmpty = true
  · simp [hempty] at h
  · simp only [hempty, Bool.false_eq_true, if_false, true_and] at h ⊢
    obtain ⟨⟨w, group⟩, hw, hd⟩ := Option.bind_eq_some_iff.mp h
    obtain ⟨c, hc, rfl⟩ := Option.map_eq_some_iff.mp hd
    obtain ⟨hladder, hgroup⟩ := selectable_of_widest? hw
    refine ⟨w, c, hladder, rfl, ?_⟩
    rw [← hv, hgroup]
    exact mem_of_mem_pool d (List.mem_of_getElem? hc)

theorem freeIn_select? {tu : Tuning}
    (h : (select? d p r ceiling octet tick now t).1 = some tu) :
    tu.FreeIn (select? d p r ceiling octet tick now t).2 := by
  obtain ⟨htable, w, c, -, rfl, hc⟩ := exists_of_select? d p r now t ceiling octet tick h
  obtain ⟨-, hall⟩ := bonds_of_mem_selectable hc
  rw [htable]
  intro e he
  have hfree := isFree_of_mem_candidates d p r now t (hall e he).1
    (Bonding.ne_zero_of_mem_channels he)
  exact (Table.viewed_unavailable now _).looked.isFree hfree

end Selection

end Hotspot

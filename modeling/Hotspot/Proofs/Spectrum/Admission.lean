import Hotspot.Proofs.Spectrum.Absences

/-!
Which tunings a choice can fall on. A channel is admitted by the rules on single channels, and a
tuning is offered if its channel bonds at its width with admitted channels only, none of which comes
too close to a channel that is left alone. Choosing goes by lists and sets of places; what it finds
are the tunings that are offered.
-/

set_option autoImplicit false
set_option relaxedAutoImplicit false

namespace Hotspot

open NonOccupancy (Table Status)

namespace NonOccupancy

private theorem Status.isFree_settle_eq_false_iff {absence : Duration} {now : Instant}
    {s : Status} :
    (s.settle absence now).isFree = false ↔
      ∃ since, s = .unavailable since ∧ Instant.since now since < absence := by
  cases s with
  | usable | available => simp [settle, isFree]
  | unavailable since =>
    by_cases hp : absence ≤ Instant.since now since
    · simp [settle, isFree, hp]
    · simp [settle, isFree, hp, Nat.lt_of_not_le hp]

namespace Table

variable {now : Instant} {t : Table} {c : Channel}

/-- Some entry of the channel is within its period. No channel of a sound domain has two entries,
but a list may name one twice. -/
def Withholds (now : Instant) (t : Table) (c : Channel) : Prop :=
  ∃ e ∈ t.entries, e.channel = c ∧
    ∃ since, e.status = .unavailable since ∧ Instant.since now since < t.absence c

theorem mem_unavailable_iff_withholds : c ∈ (t.unavailable now).1 ↔ t.Withholds now c := by
  unfold unavailable settleAll Withholds
  simp only [List.mem_map, List.mem_filter, Bool.not_eq_true']
  constructor
  · rintro ⟨_, ⟨⟨e, he, rfl⟩, hkept⟩, rfl⟩
    exact ⟨e, he, rfl, Status.isFree_settle_eq_false_iff.mp hkept⟩
  · rintro ⟨e, he, rfl, hkept⟩
    exact ⟨_, ⟨⟨e, he, rfl⟩, Status.isFree_settle_eq_false_iff.mpr hkept⟩, rfl⟩

theorem isFree_foldl_available {l : List Channel} (hc : c ∈ l) (hz : c ≠ 0) :
    (l.foldl (fun t c => (t.available now c .alone).2) t).isFree c = true ↔ ¬ t.Barred now c := by
  have hlooked (l : List Channel) (t : Table) := (Selection.viewed_foldl_available now t l).looked
  constructor
  · intro hfree
    rw [← (hlooked l t).barred_iff (Int.le_refl now)]
    exact not_barred_of_isFree hfree
  · intro hopen
    -- What was looked at on the way stays free.
    induction l generalizing t with
    | nil => exact absurd hc List.not_mem_nil
    | cons d rest ih =>
      rw [List.foldl_cons]
      rcases List.mem_cons.mp hc with rfl | hc
      · have hsettled : (t.available now c .alone).2 = t.settle now c := by
          simp [available, settleEach, Grouping.channels_alone, hz]
        rw [hsettled]
        exact (hlooked rest _).isFree (isFree_settle hopen)
      · refine ih hc ?_
        exact (viewed_available now t d .alone).looked.not_barred hopen

end Table

end NonOccupancy

namespace Bonding

variable {c : Channel} {w : Width} {b : Bonding}

theorem forall_of? {P : Channel → Width → Bonding → Prop}
    (h : ∀ w ∈ Width.ladder .mhz80, ∀ n < 256, ∀ b ∈ of? (UInt8.ofNat n) w, P (UInt8.ofNat n) w b)
    (hb : of? c w = some b) : P c w b := by
  have hw : w ∈ Width.ladder .mhz80 := by cases w <;> decide
  have hall := h w hw c.toNat c.toNat_lt
  rw [UInt8.ofNat_toNat] at hall
  exact hall b hb

theorem fills_of_of? (h : of? c w = some b) (hc : c ≠ 0) :
    b.width = w ∧ c ∈ b.channels c ∧ (b.channels c).length = w.parts :=
  forall_of? (P := fun c w b => c ≠ 0 →
    b.width = w ∧ c ∈ b.channels c ∧ (b.channels c).length = w.parts) (by decide +kernel) h hc

end Bonding

namespace Selection

structure Quest where
  domain : Domain
  policy : Policy
  range : SearchRange
  now : Instant
  table : Table

namespace Quest

def choice (q : Quest) (ceiling : Width) (octet : UInt8) (tick : UInt64) : Option Tuning :=
  (select? q.domain q.policy q.range ceiling octet tick q.now q.table).1

/-- Channels without radar are preferred, by the session or by the policy for all of them. -/
def avoidsRadar (q : Quest) : Bool :=
  q.range.avoidRadar || q.policy.avoidRadar

/-- The channel passes every rule on single channels. -/
structure Admits (q : Quest) (c : Channel) : Prop where
  allowed : c ∈ q.domain.channels
  permitted : q.policy.excludes q.domain c = false
  sought : q.range.contains c = true
  unavoided : c ∉ q.policy.avoided
  free : ¬ q.table.Barred q.now c

/-- The tuning uses the width in full, on admitted channels only, none of which disturbs a channel
that is withheld. -/
structure Offers (q : Quest) (tu : Tuning) : Prop where
  admitted : q.Admits tu.channel
  bonds : Bonding.of? tu.channel tu.width = some tu.bonding
  whole : ∀ e ∈ tu.channels, q.Admits e ∧
    ∀ k, q.table.Withholds q.now k → Isolation.threshold < Isolation.between tu.width k e

variable {q : Quest} {c : Channel} {w : Width} {tu : Tuning}

def base (q : Quest) : List Channel :=
  (candidates q.domain q.policy q.range q.now q.table).1

def group (q : Quest) (w : Width) : List Channel :=
  selectable q.base (q.table.unavailable q.now).1 w

private theorem mem_base_iff (hd : q.domain.validate = .ok ()) : c ∈ q.base ↔ q.Admits c := by
  unfold base candidates
  simp only [List.mem_filter, Bool.and_eq_true, Bool.not_eq_true', List.contains_eq_mem,
    decide_eq_false_iff_not]
  constructor
  · rintro ⟨⟨hallowed, ⟨hpermitted, hsought⟩, hunavoided⟩, hfree⟩
    have hz := Domain.ne_zero_of_validate hd c hallowed
    refine ⟨hallowed, hpermitted, hsought, hunavoided, ?_⟩
    rw [Grouping.channels_alone, if_neg hz, List.all_cons, List.all_nil, Bool.and_true] at hfree
    refine (Table.isFree_foldl_available ?_ hz).mp hfree
    simp [hallowed, hpermitted, hsought, hunavoided]
  · intro h
    have hz := Domain.ne_zero_of_validate hd c h.allowed
    refine ⟨⟨h.allowed, ⟨h.permitted, h.sought⟩, h.unavoided⟩, ?_⟩
    rw [Grouping.channels_alone, if_neg hz, List.all_cons, List.all_nil, Bool.and_true]
    refine (Table.isFree_foldl_available ?_ hz).mpr h.free
    simp [h.allowed, h.permitted, h.sought, h.unavoided]

private theorem leaks_eq_false_iff :
    Isolation.leaks w (q.table.unavailable q.now).1 c = false ↔
      ∀ k, q.table.Withholds q.now k → Isolation.threshold < Isolation.between w k c := by
  unfold Isolation.leaks
  simp only [List.any_eq_false, Table.mem_unavailable_iff_withholds, decide_eq_true_eq, Nat.not_le]

theorem mem_group_iff (hd : q.domain.validate = .ok ()) :
    c ∈ q.group w ↔ ∃ b, q.Offers ⟨c, w, b⟩ := by
  unfold group selectable Grouping.keep Isolation.isolated
  rw [List.mem_filter]
  constructor
  · rintro ⟨hc, hcomplete⟩
    obtain ⟨b, hb, hall⟩ := (Grouping.complete_iff hc).mp hcomplete
    refine ⟨b, (mem_base_iff hd).mp (List.mem_filter.mp hc).1, hb, fun e he => ?_⟩
    obtain ⟨hbase, hleaks⟩ := List.mem_filter.mp (hall e he)
    exact ⟨(mem_base_iff hd).mp hbase, leaks_eq_false_iff.mp (by simpa using hleaks)⟩
  · rintro ⟨b, h⟩
    have hkept : ∀ e ∈ b.channels c, e ∈ q.base.filter fun e =>
        !Isolation.leaks w (q.table.unavailable q.now).1 e := by
      intro e he
      obtain ⟨hadmits, hapart⟩ := h.whole e he
      rw [List.mem_filter, leaks_eq_false_iff.mpr hapart]
      exact ⟨(mem_base_iff hd).mpr hadmits, rfl⟩
    have hz := Domain.ne_zero_of_validate hd c h.admitted.allowed
    obtain ⟨-, hself, -⟩ := Bonding.fills_of_of? h.bonds hz
    exact ⟨hkept c hself, Grouping.complete_of_bonding h.bonds hkept⟩

theorem Offers.eq_resolve (h : q.Offers tu) : tu = Tuning.resolve tu.channel tu.width :=
  (Tuning.resolve_of_bonding h.bonds).symm

theorem length_group_le (hd : q.domain.validate = .ok ()) :
    (q.group w).length ≤ Domain.channelLimit := by
  calc (q.group w).length
      ≤ q.base.length := (List.filter_sublist.trans List.filter_sublist).length_le
    _ ≤ q.domain.channels.length := (List.filter_sublist.trans List.filter_sublist).length_le
    _ ≤ Domain.channelLimit := Domain.length_channels_le hd

theorem base_of_viewed {table : Table} (hd : q.domain.validate = .ok ())
    (hv : Table.Viewed q.now q.table table) : { q with table }.base = q.base := by
  unfold base candidates
  refine List.filter_congr fun c hc => ?_
  have hz := Domain.ne_zero_of_validate hd c (List.mem_filter.mp hc).1
  rw [Grouping.channels_alone, if_neg hz, Bool.eq_iff_iff]
  simp only [List.all_cons, List.all_nil, Bool.and_true]
  rw [Table.isFree_foldl_available hc hz, Table.isFree_foldl_available hc hz,
    hv.looked.barred_iff (Int.le_refl q.now)]

end Quest

end Selection

end Hotspot

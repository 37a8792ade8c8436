import Hotspot.Proofs.Spectrum.ChoiceOutcomes

/-!
Two non-occupancy lists of one domain, where the second leaves alone whatever the first does. Beside
the second nothing is offered that is not offered beside the first: at no width is there more to
choose from, there is no choice where there was none, and what is chosen is not wider.
-/

set_option autoImplicit false
set_option relaxedAutoImplicit false

namespace Hotspot

open NonOccupancy (Table)

namespace NonOccupancy.Table

variable {now : Instant} {t t' : Table} {c : Channel}

private theorem Barred.of_subset (hn : t'.channels.Nodup)
    (hmore : (t.unavailable now).1 ⊆ (t'.unavailable now).1) (h : t.Barred now c) :
    t'.Barred now c :=
  ((mem_unavailable_iff hn).mp (hmore h.mem_unavailable)).2

private theorem Withholds.of_subset (hmore : (t.unavailable now).1 ⊆ (t'.unavailable now).1)
    (h : t.Withholds now c) : t'.Withholds now c := by
  rw [← mem_unavailable_iff_withholds] at h ⊢
  exact hmore h

end NonOccupancy.Table

namespace Selection.Quest

def beside (q : Quest) (table : Table) : Quest :=
  { q with table }

section Stricter

variable {q : Quest} {table : Table} {c : Channel} {w ceiling : Width} {tu tu' : Tuning}
  {octet octet' : UInt8} {tick tick' : UInt64}

variable (hd : q.domain.validate = .ok ()) (hn : table.channels.Nodup)
  (hmore : (q.table.unavailable q.now).1 ⊆ (table.unavailable q.now).1)

include hn hmore

private theorem Admits.of_beside (h : (q.beside table).Admits c) : q.Admits c :=
  { h with free := fun hbarred => h.free (hbarred.of_subset hn hmore) }

private theorem Offers.of_beside (h : (q.beside table).Offers tu) : q.Offers tu where
  admitted := h.admitted.of_beside hn hmore
  bonds := h.bonds
  whole e he := by
    obtain ⟨hadmits, hapart⟩ := h.whole e he
    refine ⟨hadmits.of_beside hn hmore, fun k hk => ?_⟩
    exact hapart k (hk.of_subset hmore)

include hd

private theorem group_beside_subset : (q.beside table).group w ⊆ q.group w := by
  intro c hc
  obtain ⟨b, hoffers⟩ := (mem_group_iff (q := q.beside table) hd).mp hc
  exact (mem_group_iff hd).mpr ⟨b, hoffers.of_beside hn hmore⟩

private theorem choice_beside_eq_none (h : q.choice ceiling octet tick = none) :
    (q.beside table).choice ceiling octet' tick' = none := by
  refine (choice_eq_none_iff (q := q.beside table) hd).mpr fun tu hoffers => ?_
  exact (choice_eq_none_iff hd).mp h tu (hoffers.of_beside hn hmore)

private theorem width_beside_le (h : q.choice ceiling octet tick = some tu)
    (h' : (q.beside table).choice ceiling octet' tick' = some tu') :
    tu'.width.megahertz ≤ tu.width.megahertz := by
  have hpicks : q.Picks ceiling tu := (exists_choice_iff hd).mp ⟨octet, h⟩
  have hpicks' : (q.beside table).Picks ceiling tu' :=
    (exists_choice_iff (q := q.beside table) hd).mp ⟨octet', h'⟩
  exact hpicks.widest tu' (hpicks'.offered.of_beside hn hmore) hpicks'.within

end Stricter

/-- In a sound domain, let a list of its channels leave alone, at the instant of the choice, every
channel that another one leaves alone. Whatever the policy, the range and the ceiling, and whatever
is drawn beside either: at every width the channels that can be chosen are among those that could be
chosen beside the other, there is no choice if there was none, and else the choice is not wider. -/
theorem choice_narrows {q : Quest} {table : Table} (hd : q.domain.validate = .ok ())
    (htable : table.channels = q.domain.radarChannels)
    (hmore : (q.table.unavailable q.now).1 ⊆ (table.unavailable q.now).1) (ceiling : Width) :
    (∀ w, (q.beside table).group w ⊆ q.group w) ∧
      ∀ octet tick octet' tick',
        (q.choice ceiling octet tick = none →
          (q.beside table).choice ceiling octet' tick' = none) ∧
        ∀ tu tu', q.choice ceiling octet tick = some tu →
          (q.beside table).choice ceiling octet' tick' = some tu' →
            tu'.width.megahertz ≤ tu.width.megahertz := by
  have hn : table.channels.Nodup := by
    rw [htable]
    exact Domain.nodup_radarChannels (Domain.nodup_of_validate hd)
  refine ⟨fun w => group_beside_subset hd hn hmore, fun octet tick octet' tick' => ⟨?_, ?_⟩⟩
  · intro hnone
    exact choice_beside_eq_none hd hn hmore hnone
  · intro tu tu' h h'
    exact width_beside_le hd hn hmore h h'

/-- Channels 36 to 48, just after radar on channel 44, and channel 149, which has no radar. -/
def oneBarred : Quest :=
  ⟨⟨"TT", .fcc, [⟨36, true, false, 20⟩, ⟨40, true, false, 20⟩, ⟨44, true, false, 20⟩,
    ⟨48, true, false, 20⟩, ⟨149, false, false, 20⟩]⟩, {}, {}, 1000,
    ⟨{}, [⟨36, .usable⟩, ⟨40, .usable⟩, ⟨44, .unavailable 0⟩, ⟨48, .available⟩], []⟩⟩

def twoBarred : Table :=
  ⟨{}, [⟨36, .unavailable 0⟩, ⟨40, .usable⟩, ⟨44, .unavailable 500⟩, ⟨48, .usable⟩], []⟩

theorem choice_narrows_twoBarred : oneBarred.domain.validate = .ok () ∧
    twoBarred.channels = oneBarred.domain.radarChannels ∧
    (oneBarred.table.unavailable oneBarred.now).1 ⊆ (twoBarred.unavailable oneBarred.now).1 ∧
    oneBarred.choice .mhz80 0 0 = some ⟨36, .mhz40, .firstOfTwo⟩ ∧
    (oneBarred.beside twoBarred).choice .mhz80 0 0 = some ⟨149, .mhz20, .alone⟩ ∧
    ∀ octet tick tu, (oneBarred.beside twoBarred).choice .mhz80 octet tick = some tu →
      tu.width.megahertz ≤ Width.mhz40.megahertz := by
  have hd : oneBarred.domain.validate = .ok () := by decide
  have htable : twoBarred.channels = oneBarred.domain.radarChannels := by decide
  have hmore : (oneBarred.table.unavailable oneBarred.now).1 ⊆
      (twoBarred.unavailable oneBarred.now).1 := by decide
  have hbefore : oneBarred.choice .mhz80 0 0 = some ⟨36, .mhz40, .firstOfTwo⟩ := by
    decide +kernel
  obtain ⟨-, hchoice⟩ := choice_narrows hd htable hmore .mhz80
  refine ⟨hd, htable, hmore, hbefore, by decide +kernel, fun octet tick tu h => ?_⟩
  exact (hchoice 0 0 octet tick).2 _ tu hbefore h

end Selection.Quest

end Hotspot

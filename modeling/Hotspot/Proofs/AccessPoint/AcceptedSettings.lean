import Hotspot.Proofs.AccessPoint.ScannedChannels
import Hotspot.Proofs.Spectrum.ChoiceOutcomes

/-!
A session that looks for a channel by itself. Its settings are checked against the domain when it is
opened, and a channel is chosen later and by other rules. What the check accepts can be served:
while no radar was found and the policy excludes nothing, there always is a choice, and it keeps to
the domain and the range. What the check refuses could not be served.
-/

set_option autoImplicit false
set_option relaxedAutoImplicit false

namespace Hotspot

open NonOccupancy (Table Timing)

private theorem SessionSettings.channelFault?_eq_none_iff {s : SessionSettings} {d : Domain}
    (hauto : s.channel = .auto) :
    s.channelFault? d = none ↔ ∃ c ∈ d.channels, s.range.contains c = true := by
  have hempty : s.range.last < s.range.first → ∀ c, s.range.contains c = false := by
    intro hlt c
    by_contra hc
    simp only [SearchRange.contains, Bool.not_eq_false, Bool.and_eq_true, decide_eq_true_eq] at hc
    exact absurd (UInt8.le_trans hc.1.1 hc.1.2) (UInt8.not_le.mpr hlt)
  unfold channelFault?
  rw [hauto]
  dsimp only
  split
  · rename_i hlt
    simp [hempty hlt]
  · simp

private theorem Policy.excludes_default (d : Domain) (c : Channel) :
    ({} : Policy).excludes d c = false := by
  simp [excludes]

namespace NonOccupancy.Table

variable {timing : Timing} {d : Domain} {t : Table} {now : Instant} {c : Channel}

theorem not_withholds_ofDomain (h : ofDomain timing d = .ok t) : ¬ t.Withholds now c := by
  rintro ⟨e, he, -, since, hu, -⟩
  rw [usable_ofDomain h he] at hu
  cases hu

end NonOccupancy.Table

namespace Selection.Quest

variable {q : Quest} {c : Channel} {ceiling : Width} {octet : UInt8} {tick : UInt64} {tu : Tuning}

private theorem Admits.offers_alone (hclear : ∀ k, ¬ q.table.Withholds q.now k) (h : q.Admits c) :
    q.Offers ⟨c, .mhz20, .alone⟩ where
  admitted := h
  bonds := by simp [Bonding.of?]
  whole e he := by
    obtain ⟨rfl, -⟩ := Grouping.mem_channels_alone.mp he
    exact ⟨h, fun k hk => absurd hk (hclear k)⟩

theorem choice_eq_none_iff_of_clear (hd : q.domain.validate = .ok ())
    (hclear : ∀ k, ¬ q.table.Withholds q.now k) :
    q.choice ceiling octet tick = none ↔ ∀ c, ¬ q.Admits c := by
  rw [choice_eq_none_iff hd]
  constructor
  · intro hnone c hc
    have hnarrow : Width.mhz20.megahertz ≤ ceiling.megahertz := by cases ceiling <;> decide
    exact hnone _ (hc.offers_alone hclear) hnarrow
  · intro hnone tu hoffers
    exact absurd hoffers.admitted (hnone tu.channel)

theorem admits_iff_of_default {timing : Timing} (ht : Table.ofDomain timing q.domain = .ok q.table)
    (hpolicy : q.policy = {}) :
    q.Admits c ↔ c ∈ q.domain.channels ∧ q.range.contains c = true := by
  constructor
  · intro h
    exact ⟨h.allowed, h.sought⟩
  · rintro ⟨hallowed, hsought⟩
    refine ⟨hallowed, ?_, hsought, ?_, fun hbarred => ?_⟩
    · rw [hpolicy]
      exact Policy.excludes_default q.domain c
    · simp [hpolicy]
    · exact Table.not_withholds_ofDomain ht
        (Table.mem_unavailable_iff_withholds.mp hbarred.mem_unavailable)

end Selection.Quest

namespace SessionSettings

open Selection (Quest select?)

variable {s : SessionSettings} {d : Domain} {timing : Timing} {t : Table}

private theorem choice_eq_none_iff_channelFault? (hd : d.validate = .ok ())
    (hauto : s.channel = .auto)
    (ht : Table.ofDomain timing d = .ok t) (ceiling : Width) (octet : UInt8) (tick : UInt64)
    (now : Instant) :
    (Quest.mk d {} s.range now t).choice ceiling octet tick = none ↔ s.channelFault? d ≠ none := by
  have hclear (k : Channel) : ¬ t.Withholds now k := Table.not_withholds_ofDomain ht
  have hadmits (c : Channel) : (Quest.mk d {} s.range now t).Admits c ↔
      c ∈ d.channels ∧ s.range.contains c = true := Quest.admits_iff_of_default ht rfl
  rw [Quest.choice_eq_none_iff_of_clear hd hclear, Ne, channelFault?_eq_none_iff hauto]
  simp [hadmits]

/-- In a sound domain, before any radar was found and under the default policy, a session that looks
for a channel by itself and whose settings are accepted gets one, whatever the ceiling, the draw and
the time; the channel, and all that is bonded with it, is of the domain and the range. One whose
request is refused would never get any. -/
theorem served_of_validate (hd : d.validate = .ok ()) (hauto : s.channel = .auto)
    (ht : Table.ofDomain timing d = .ok t) :
    (s.validate d = .ok () → ∀ ceiling octet tick now,
      ∃ tu, (select? d {} s.range ceiling octet tick now t).1 = some tu ∧
        (tu.channel ∈ d.channels ∧ s.range.contains tu.channel = true) ∧
        ∀ e ∈ tu.channels, e ∈ d.channels ∧ s.range.contains e = true) ∧
      (s.channelFault? d ≠ none → ∀ ceiling octet tick now,
        (select? d {} s.range ceiling octet tick now t).1 = none) := by
  constructor
  · intro hs ceiling octet tick now
    have hsome : (Quest.mk d {} s.range now t).choice ceiling octet tick ≠ none := by
      rw [Ne, choice_eq_none_iff_channelFault? hd hauto ht, not_not]
      exact channelFault?_of_validate hs
    obtain ⟨tu, htu⟩ := Option.ne_none_iff_exists'.mp hsome
    have hoffers := ((Quest.exists_choice_iff hd).mp ⟨octet, htu⟩).offered
    have hadmitted : ∀ e, (Quest.mk d {} s.range now t).Admits e →
        e ∈ d.channels ∧ s.range.contains e = true :=
      fun e => (Quest.admits_iff_of_default ht rfl).mp
    exact ⟨tu, htu, hadmitted _ hoffers.admitted, fun e he => hadmitted e (hoffers.whole e he).1⟩
  · intro hfault ceiling octet tick now
    exact (choice_eq_none_iff_channelFault? hd hauto ht ceiling octet tick now).mpr hfault

end SessionSettings

namespace Scattered

def domain : Domain :=
  ⟨"TT", .etsi, [⟨52, true, true, 20⟩, ⟨165, false, false, 20⟩]⟩

def table : Table :=
  ⟨{}, [⟨52, .usable⟩], []⟩

def settings : SessionSettings :=
  { name := "net", address := ⟨[2, 0, 0, 0, 0, 7], rfl⟩, width := .mhz80,
    range := { first := 100, only := [52, 149, 165] } }

theorem served_scattered : domain.validate = .ok () ∧ settings.channel = .auto ∧
    Table.ofDomain {} domain = .ok table ∧ settings.validate domain = .ok () ∧
    (Selection.select? domain {} settings.range .mhz80 7 18446744073709551615 0 table).1 =
      some ⟨165, .mhz20, .alone⟩ ∧
    ∀ ceiling octet tick now,
      ∃ tu, (Selection.select? domain {} settings.range ceiling octet tick now table).1 = some tu ∧
        tu.channel ∈ domain.channels ∧ settings.range.contains tu.channel = true := by
  have hd : domain.validate = .ok () := by decide
  have ht : Table.ofDomain {} domain = .ok table := rfl
  have hs : settings.validate domain = .ok () := by decide +kernel
  obtain ⟨hserved, -⟩ := SessionSettings.served_of_validate (s := settings) hd rfl ht
  refine ⟨hd, rfl, ht, hs, by decide +kernel, fun ceiling octet tick now => ?_⟩
  obtain ⟨tu, htu, hchannel, -⟩ := hserved hs ceiling octet tick now
  exact ⟨tu, htu, hchannel⟩

end Scattered

end Hotspot

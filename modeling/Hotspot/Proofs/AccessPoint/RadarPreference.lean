import Hotspot.Proofs.AccessPoint.Answer
import Hotspot.Proofs.Spectrum.ChoiceOutcomes
import Hotspot.Spectrum.Country

/-!
Whether the preference for channels without radar spares a session the listening. The choice goes by
the channel itself, the listening by all channels that are bonded with it. The two agree unless some
bonded channels are shared with radar and others are not, which no country's domain allows.
-/

set_option autoImplicit false
set_option relaxedAutoImplicit false

namespace Hotspot

def Tuning.Quiet (tu : Tuning) (d : Domain) : Prop :=
  ∀ c ∈ tu.channels, d.isRadar c = false

private theorem Turn.mustListen_of_quiet {t : Turn} {tu : Tuning} (h : tu.Quiet t.airspace.domain) :
    t.mustListen tu = false := by
  by_contra hlisten
  obtain ⟨c, hc, hradar⟩ := exists_isRadar_of_mustListen (Bool.not_eq_false _ ▸ hlisten)
  rw [h c hc] at hradar
  cases hradar

def Channel.isMiddle (c : Channel) : Bool :=
  52 ≤ c && c ≤ 144

private theorem Bonding.isMiddle_of_mem {c e : Channel} {w : Width} {b : Bonding}
    (h : of? c w = some b) (he : e ∈ b.channels c) : e.isMiddle = c.isMiddle := by
  have hall : (b.channels c).all (·.isMiddle == c.isMiddle) = true :=
    forall_of? (P := fun c _ b => (b.channels c).all (·.isMiddle == c.isMiddle) = true)
      (by decide +kernel) h
  simpa using List.all_eq_true.mp hall e he

namespace Domain

def Uniform (d : Domain) : Prop :=
  ∀ c ∈ d.channels, ∀ w, ∀ b ∈ Bonding.of? c w, (∀ e ∈ b.channels c, e ∈ d.channels) →
    ∀ e ∈ b.channels c, d.isRadar e = d.isRadar c

private theorem uniform_of_middle {d : Domain}
    (h : ∀ a ∈ d.allowances, a.radar = a.channel.isMiddle) : d.Uniform := by
  have hradar : ∀ c ∈ d.channels, d.isRadar c = c.isMiddle := by
    intro c hc
    unfold isRadar allowance?
    cases hfound : d.allowances.find? (·.channel == c) with
    | none =>
      obtain ⟨a, ha, rfl⟩ := List.mem_map.mp hc
      simpa using List.find?_eq_none.mp hfound a ha
    | some a =>
      have hchannel : a.channel = c := by simpa using List.find?_some hfound
      rw [Option.any_some, h a (List.mem_of_find?_eq_some hfound), hchannel]
  intro c hc w b hb hall e he
  rw [hradar e (hall e he), hradar c hc, Bonding.isMiddle_of_mem hb he]

private theorem radar_of_rules? {code : String} {p : Region × List Allowance}
    (h : rules? code = some p) : ∀ a ∈ p.2, a.radar = a.channel.isMiddle := by
  unfold rules? at h
  split_ifs at h
  all_goals
    cases h
    decide +kernel

private theorem uniform_of_forCountry {code : String} {d : Domain} (h : forCountry code = .ok d) :
    d.Uniform := by
  unfold forCountry at h
  split at h
  · rename_i region allowances hrules
    unfold custom at h
    dsimp only at h
    cases hv : validate ⟨code.toUpper, region, allowances⟩ with
    | error e =>
      rw [hv] at h
      cases h
    | ok _ =>
      rw [hv] at h
      cases h
      exact uniform_of_middle (radar_of_rules? hrules)
  · cases h

end Domain

namespace Selection.Quest

variable {q : Quest} {ceiling : Width} {tu : Tuning}

/-- A choice may fall on `tu`, whose own channel is without radar but not all that are bonded with
it, although `quiet`, just as wide, is offered and has no radar at all. -/
structure PrefersMixed (q : Quest) (ceiling : Width) (tu quiet : Tuning) : Prop where
  offered : q.Offers tu
  within : tu.width.megahertz ≤ ceiling.megahertz
  widest : ∀ tu', q.Offers tu' → tu'.width.megahertz ≤ ceiling.megahertz →
    tu'.width.megahertz ≤ tu.width.megahertz
  alone : q.domain.isRadar tu.channel = false
  joined : ¬ tu.Quiet q.domain
  other : q.Offers quiet
  alike : quiet.width = tu.width
  quiet : quiet.Quiet q.domain

private theorem Offers.mem_channels (hd : q.domain.validate = .ok ()) (h : q.Offers tu) :
    tu.channel ∈ tu.channels :=
  (Bonding.fills_of_of? h.bonds
    (Domain.ne_zero_of_validate hd tu.channel h.admitted.allowed)).2.1

private theorem not_prefersMixed_of_uniform (hu : q.domain.Uniform) (quiet : Tuning) :
    ¬ q.PrefersMixed ceiling tu quiet := by
  intro h
  refine h.joined fun e he => ?_
  have hallowed : ∀ e ∈ tu.channels, e ∈ q.domain.channels :=
    fun e he => (h.offered.whole e he).1.allowed
  rw [hu tu.channel h.offered.admitted.allowed tu.width tu.bonding h.offered.bonds hallowed e he,
    h.alone]

/-- In the domain of a country as it is known, nothing blends. -/
theorem not_prefersMixed_of_forCountry {code : String} (h : Domain.forCountry code = .ok q.domain)
    (quiet : Tuning) : ¬ q.PrefersMixed ceiling tu quiet :=
  not_prefersMixed_of_uniform (Domain.uniform_of_forCountry h) quiet

/-- Where channels without radar are preferred, a choice falls on a channel without radar whenever
some tuning of its width is offered that has no radar at all. That the whole tuning is then without
radar, so that nobody has to listen on it, holds for every octet exactly if nothing offered blends
channels with radar and channels without. -/
theorem reluctant_choice_iff (hd : q.domain.validate = .ok ()) (havoids : q.avoidsRadar = true)
    (ceiling : Width) (tick : UInt64) :
    (∀ octet tu, q.choice ceiling octet tick = some tu →
        (∃ quiet, q.Offers quiet ∧ quiet.width = tu.width ∧ quiet.Quiet q.domain) →
          q.domain.isRadar tu.channel = false) ∧
      ((∀ octet tu, q.choice ceiling octet tick = some tu →
          (∃ quiet, q.Offers quiet ∧ quiet.width = tu.width ∧ quiet.Quiet q.domain) →
            tu.Quiet q.domain ∧
              ∀ t : Turn, t.airspace.domain = q.domain → t.mustListen tu = false) ↔
        ∀ tu quiet, ¬ q.PrefersMixed ceiling tu quiet) := by
  -- The preference looks at the channel itself, so this half holds of every choice.
  have hprimary : ∀ octet tu, q.choice ceiling octet tick = some tu →
      (∃ quiet, q.Offers quiet ∧ quiet.width = tu.width ∧ quiet.Quiet q.domain) →
        q.domain.isRadar tu.channel = false := by
    rintro octet tu hchoice ⟨quiet, hoffers, hwidth, hquiet⟩
    have hpicks := (exists_choice_iff hd).mp ⟨octet, hchoice⟩
    exact hpicks.preferred havoids
      ⟨quiet, hoffers, hwidth, hquiet quiet.channel (hoffers.mem_channels hd)⟩
  refine ⟨hprimary, ?_, ?_⟩
  · intro hspared tu quiet h
    have hpicks : q.Picks ceiling tu := ⟨h.offered, h.within, h.widest, fun _ _ => h.alone⟩
    obtain ⟨octet, hchoice⟩ : ∃ octet, q.choice ceiling octet tick = some tu :=
      (exists_choice_iff hd).mpr hpicks
    exact h.joined (hspared octet tu hchoice ⟨quiet, h.other, h.alike, h.quiet⟩).1
  · intro hpure octet tu hchoice hother
    have hpicks := (exists_choice_iff hd).mp ⟨octet, hchoice⟩
    have halone := hprimary octet tu hchoice hother
    obtain ⟨quiet, hoffers, hwidth, hquiet⟩ := hother
    have htu : tu.Quiet q.domain := by
      by_contra hjoined
      exact hpure tu quiet
        ⟨hpicks.offered, hpicks.within, hpicks.widest, halone, hjoined, hoffers, hwidth, hquiet⟩
    exact ⟨htu, fun t ht => Turn.mustListen_of_quiet (ht ▸ htu)⟩

/-- Two pairs of channels, one of them shared with radar; channels without radar are preferred. -/
def separate : Quest :=
  ⟨⟨"TT", .fcc, [⟨36, false, false, 20⟩, ⟨40, false, false, 20⟩, ⟨52, true, false, 20⟩,
    ⟨56, true, false, 20⟩]⟩, { avoidRadar := true }, {}, 0,
    ⟨{}, [⟨52, .usable⟩, ⟨56, .usable⟩], []⟩⟩

theorem reluctant_choice_separate : separate.domain.validate = .ok () ∧
    separate.choice .mhz80 0 0 = some ⟨36, .mhz40, .firstOfTwo⟩ ∧
    ∀ octet tu, separate.choice .mhz80 octet 0 = some tu →
      (∃ quiet, separate.Offers quiet ∧ quiet.width = tu.width ∧ quiet.Quiet separate.domain) →
        tu.Quiet separate.domain ∧
          ∀ t : Turn, t.airspace.domain = separate.domain → t.mustListen tu = false := by
  have hd : separate.domain.validate = .ok () := by decide
  obtain ⟨-, hspared⟩ := reluctant_choice_iff hd rfl .mhz80 0
  refine ⟨hd, by decide +kernel, hspared.mpr fun _ quiet => not_prefersMixed_of_uniform ?_ quiet⟩
  exact Domain.uniform_of_middle (by decide)

/-- Two pairs of channels, one of them half shared with radar; channels without radar are
preferred. -/
def mixed : Quest :=
  ⟨⟨"TT", .fcc, [⟨36, false, false, 20⟩, ⟨40, true, false, 20⟩, ⟨1, false, false, 20⟩,
    ⟨5, false, false, 20⟩]⟩, { avoidRadar := true }, {}, 0, ⟨{}, [⟨40, .usable⟩], []⟩⟩

/-- The choice falls on the pair with radar although the other pair is offered, and a session that
goes there has to listen. -/
theorem listening_mixed : mixed.domain.validate = .ok () ∧ mixed.avoidsRadar = true ∧
    mixed.choice .mhz40 0 0 = some ⟨36, .mhz40, .firstOfTwo⟩ ∧
    mixed.Offers ⟨1, .mhz40, .firstOfTwo⟩ ∧ Tuning.Quiet ⟨1, .mhz40, .firstOfTwo⟩ mixed.domain ∧
    ¬ Tuning.Quiet ⟨36, .mhz40, .firstOfTwo⟩ mixed.domain ∧
    Turn.mustListen ⟨⟨{}, .fresh mixed.domain mixed.table, [], 0, []⟩, []⟩
      ⟨36, .mhz40, .firstOfTwo⟩ = true := by
  have hd : mixed.domain.validate = .ok () := by decide
  have hother : mixed.choice .mhz40 1 0 = some ⟨1, .mhz40, .firstOfTwo⟩ := by decide +kernel
  have hoffers := ((exists_choice_iff hd).mp ⟨1, hother⟩).offered
  refine ⟨hd, rfl, by decide +kernel, hoffers, ?_, ?_, by decide +kernel⟩
  all_goals
    unfold Tuning.Quiet
    decide +kernel

end Selection.Quest

end Hotspot
